import Mathlib.Data.List.Nodup
import Messenger.Proofs.Outbound.Plans

/-!
An outbox keeps to its timetable. Each request that is to recur is attempted at its own times,
whatever becomes of the others.
-/

namespace Messenger

open Journal (firings builds told failed)

namespace Outbox

/-- The tasks of an outbox are those of its timetable. -/
structure OnTime (outbox : Outbox) (table : Timetable) : Prop where
  now : outbox.schedule.now = table.now
  count : outbox.schedule.count = table.plans.length
  requests : outbox.requests.length = table.requests.length
  tasks : outbox.schedule.tasks =
    table.live.map fun plan => plan.task (firings plan.number outbox.journal)
  numbers : table.plans.map Plan.number = List.range table.plans.length
  unknown : ∀ number, table.plans.length ≤ number → firings number outbox.journal = []
  plans : ∀ plan ∈ table.plans,
    plan.InTime table.requests.length table.now (firings plan.number outbox.journal)
  followed : Journal.Followed outbox.journal

namespace OnTime

variable {outbox next : Outbox} {table : Timetable} {task : Task Nat}

theorem start : OnTime {} {} where
  now := rfl
  count := rfl
  requests := rfl
  tasks := rfl
  numbers := rfl
  unknown _ _ := rfl
  plans _ hmem := nomatch hmem
  followed := .of_others (List.forall_mem_nil _)

theorem plan_of_task (h : outbox.OnTime table) (htask : task ∈ outbox.schedule.tasks) :
    ∃ plan ∈ table.plans, plan.ended = none ∧
      task = plan.task (firings plan.number outbox.journal) := by
  rw [h.tasks] at htask
  obtain ⟨plan, hplan, rfl⟩ := List.mem_map.mp htask
  obtain ⟨hmem, hlive⟩ := List.mem_filter.mp hplan
  exact ⟨plan, hmem, Option.isNone_iff_eq_none.mp hlive, rfl⟩

theorem known (h : outbox.OnTime table) :
    ∀ task ∈ outbox.schedule.tasks, task.request < outbox.requests.length := by
  intro task htask
  obtain ⟨plan, hplan, -, rfl⟩ := h.plan_of_task htask
  exact h.requests ▸ (h.plans plan hplan).known

theorem period (h : outbox.OnTime table) :
    ∀ task ∈ outbox.schedule.tasks, Schedule.shortestPeriod ≤ task.period := by
  intro task htask
  obtain ⟨plan, hplan, -, rfl⟩ := h.plan_of_task htask
  exact (h.plans plan hplan).period

theorem ahead (h : outbox.OnTime table) :
    ∀ task ∈ outbox.schedule.tasks, task.finished = false → table.now ≤ task.due := by
  intro task htask hfinished
  obtain ⟨plan, hplan, hlive, rfl⟩ := h.plan_of_task htask
  exact (h.plans plan hplan).ahead hlive hfinished

theorem spares (h : outbox.OnTime table) (hspares : outbox.Spares next) : next.OnTime table where
  now := hspares.schedule ▸ h.now
  count := hspares.schedule ▸ h.count
  requests := hspares.requests.trans h.requests
  tasks := by simpa only [hspares.schedule, hspares.firings] using h.tasks
  numbers := h.numbers
  unknown number hnumber := (hspares.firings number).trans (h.unknown number hnumber)
  plans plan hplan := (hspares.firings plan.number).symm ▸ h.plans plan hplan
  followed := by
    obtain ⟨more, hmore, hothers⟩ := hspares.grows
    rw [hmore]
    exact h.followed.append (.of_others hothers)

theorem plan_unique (h : outbox.OnTime table) {plan other : Plan} (hplan : plan ∈ table.plans)
    (hother : other ∈ table.plans) (hnumber : other.number = plan.number) : other = plan :=
  List.inj_on_of_nodup_map (h.numbers ▸ List.nodup_range) hother hplan hnumber

theorem number_lt (h : outbox.OnTime table) {plan : Plan} (hplan : plan ∈ table.plans) :
    plan.number < table.plans.length := by
  rw [← List.mem_range, ← h.numbers]
  exact List.mem_map_of_mem hplan

/-- A task that is ripe is due at this very moment, as the clock never goes past a due time. -/
theorem ticks (h : outbox.OnTime table) (hripe : outbox.schedule.ripe? = some task)
    (hticks : outbox.Ticks task next) : next.OnTime table := by
  obtain ⟨htask, hfinished, hdue⟩ := Schedule.ripe?_eq_some hripe
  obtain ⟨plan, hplan, hlive, rfl⟩ := h.plan_of_task htask
  have hnow : table.now = plan.due (firings plan.number outbox.journal).length :=
    Nat.le_antisymm (h.ahead _ htask hfinished) (h.now ▸ hdue)
  have hfirings (number : Nat) (hnumber : plan.number ≠ number) :
      firings number next.journal = firings number outbox.journal :=
    (hticks.firings number).trans (by rw [if_neg (by exact hnumber), List.append_nil])
  have hfired := (hticks.firings plan.number).trans (congrArg _ (if_pos rfl))
  refine
    { now := hticks.schedule ▸ h.now
      count := hticks.schedule ▸ h.count
      requests := hticks.requests.trans h.requests
      tasks := ?_
      numbers := h.numbers
      unknown := fun number hnumber => ?_
      plans := fun other hother => ?_
      followed := ?_ }
  · rw [hticks.schedule, Schedule.fired, h.tasks, List.map_map]
    refine List.map_congr_left fun other hother => ?_
    by_cases hnumber : plan.number = other.number
    · cases h.plan_unique hplan (List.mem_filter.mp hother).1 hnumber.symm
      rw [Function.comp_apply, hfired, Plan.task_fired _ _ _ (Nat.le_of_eq (h.now.trans hnow))]
      rfl
    · rw [hfirings _ hnumber]
      exact if_neg (Ne.symm hnumber)
  · rw [hfirings number (Nat.ne_of_lt (Nat.lt_of_lt_of_le (h.number_lt hplan) hnumber))]
    exact h.unknown number hnumber
  · by_cases hnumber : plan.number = other.number
    · cases h.plan_unique hplan hother hnumber.symm
      obtain ⟨hperiod, hknown, -, hpaced, -⟩ := h.plans plan hplan
      rw [hfired]
      refine ⟨hperiod, hknown, fun time htime => ?_, fun _ => ?_, fun _ _ => ?_⟩
      · cases hlive.symm.trans htime
      · exact (hpaced hlive).fire hfinished rfl (h.now.trans hnow) (Nat.le_of_eq h.now)
      · rw [List.length_append, List.length_singleton, Plan.due_succ]
        omega
    · rw [hfirings _ hnumber]
      exact h.plans other hother
  · obtain ⟨posting, more, hjournal, hbuilt, hothers⟩ := hticks.journal
    rw [hjournal]
    exact h.followed.append (.of_firing hbuilt hothers)

theorem period_pos (h : outbox.OnTime table) : ∀ task ∈ outbox.schedule.tasks, 0 < task.period :=
  fun task htask => Nat.lt_of_lt_of_le (by decide) (h.period task htask)

theorem rest_iff (h : outbox.OnTime table) :
    outbox.schedule.ripe? = none ↔ outbox.schedule.firesUntil table.now = 0 := by
  rw [Schedule.ripe?_eq_none_iff, Schedule.firesUntil_eq_zero_iff h.period_pos, h.now]

theorem firesUntil_ticks (h : outbox.OnTime table) (hripe : outbox.schedule.ripe? = some task)
    (hticks : outbox.Ticks task next) {target : Nat} (htarget : table.now ≤ target) :
    next.schedule.firesUntil target < outbox.schedule.firesUntil target := by
  obtain ⟨htask, hfinished, hdue⟩ := Schedule.ripe?_eq_some hripe
  rw [hticks.schedule]
  exact Schedule.firesUntil_fired_lt htask (h.period_pos task htask) hfinished
    (Nat.le_trans (h.now ▸ hdue) htarget) _

/-- With enough steps everything that is due is done, and only then is the outbox at rest. -/
theorem settleWithin (h : outbox.OnTime table) {fuel : Nat}
    (hfuel : outbox.schedule.firesUntil table.now ≤ fuel) :
    let settled := Outbox.settleWithin fuel outbox
    settled.OnTime table ∧ settled.schedule.ripe? = none ∧
      ∀ target, table.now ≤ target →
        settled.schedule.firesUntil target ≤ outbox.schedule.firesUntil target ∧
          (outbox.schedule.ripe? ≠ none →
            settled.schedule.firesUntil target < outbox.schedule.firesUntil target) := by
  induction fuel generalizing outbox with
  | zero =>
      have hrest := h.rest_iff.mpr (Nat.le_zero.mp hfuel)
      exact ⟨h, hrest, fun _ _ => ⟨Nat.le_refl _, fun hripe => absurd hrest hripe⟩⟩
  | succ fuel induction =>
      unfold Outbox.settleWithin
      cases hstep : outbox.step? with
      | none =>
          have hrest := ripe?_of_step?_eq_none hstep
          exact ⟨h, hrest, fun _ _ => ⟨Nat.le_refl _, fun hripe => absurd hrest hripe⟩⟩
      | some next =>
          rcases step?_ticks hstep h.known with ⟨task, hripe, hticks⟩ | ⟨hrest, hspares⟩
          · have hless {target : Nat} (htarget : table.now ≤ target) :=
              h.firesUntil_ticks hripe hticks htarget
            have hnow := hless (Nat.le_refl table.now)
            obtain ⟨hontime, hrest, hprogress⟩ := induction (h.ticks hripe hticks) (by omega)
            refine ⟨hontime, hrest, fun target htarget => ?_⟩
            have hlater := (hprogress target htarget).1
            have hfirst := hless htarget
            exact ⟨Nat.le_trans hlater (Nat.le_of_lt hfirst),
              fun _ => Nat.lt_of_le_of_lt hlater hfirst⟩
          · have hnone := h.rest_iff.mp hrest
            obtain ⟨hontime, hsettled, hprogress⟩ := induction (h.spares hspares)
              (by rw [hspares.schedule, hnone]; exact Nat.zero_le fuel)
            refine ⟨hontime, hsettled, fun target htarget => ⟨?_, fun hripe => absurd hrest hripe⟩⟩
            exact hspares.schedule ▸ (hprogress target htarget).1

theorem settle (h : outbox.OnTime table) :
    outbox.settle.OnTime table ∧ outbox.settle.schedule.ripe? = none ∧
      ∀ target, table.now ≤ target →
        outbox.settle.schedule.firesUntil target ≤ outbox.schedule.firesUntil target ∧
          (outbox.schedule.ripe? ≠ none →
            outbox.settle.schedule.firesUntil target < outbox.schedule.firesUntil target) := by
  have hbound : outbox.schedule.firesUntil table.now ≤ outbox.schedule.tasks.length * 1 :=
    total_le fun task htask => Task.firesUntil_le_one (h.ahead task htask)
  refine h.settleWithin (Nat.le_trans hbound ?_)
  unfold stepBound
  omega

theorem task_of_plan (h : outbox.OnTime table) {plan : Plan} (hplan : plan ∈ table.plans)
    (hlive : plan.ended = none) :
    plan.task (firings plan.number outbox.journal) ∈ outbox.schedule.tasks := by
  rw [h.tasks]
  exact List.mem_map_of_mem (List.mem_filter.mpr ⟨hplan, Option.isNone_iff_eq_none.mpr hlive⟩)

/-- The clock goes on as far as no task has been due before. -/
theorem elapseTo (h : outbox.OnTime table) {time : Nat} (hnow : table.now ≤ time)
    (hahead : ∀ task ∈ outbox.schedule.tasks, task.finished = false → time ≤ task.due) :
    (outbox.elapseTo time).OnTime { table with now := time } where
  now := by
    simp only [Outbox.elapseTo, Schedule.elapseTo, h.now]
    exact Nat.max_eq_right hnow
  count := h.count
  requests := h.requests
  tasks := h.tasks
  numbers := h.numbers
  unknown := h.unknown
  plans plan hplan :=
    { h.plans plan hplan with
      paced := fun hlive => ((h.plans plan hplan).paced hlive).mono hnow
      ahead := fun hlive hopen => hahead _ (h.task_of_plan hplan hlive) hopen }
  followed := h.followed

theorem advanceWithin (h : outbox.OnTime table) (hrest : outbox.schedule.ripe? = none)
    {fuel target : Nat} (htarget : table.now ≤ target)
    (hfuel : outbox.schedule.firesUntil target ≤ fuel) :
    (Outbox.advanceWithin fuel target outbox).OnTime { table with now := target } ∧
      (Outbox.advanceWithin fuel target outbox).schedule.ripe? = none := by
  induction fuel generalizing outbox table with
  | zero =>
      have hlater := (Schedule.firesUntil_eq_zero_iff h.period_pos).mp (Nat.le_zero.mp hfuel)
      have helapsed := h.elapseTo htarget fun task htask hfinished =>
        Nat.le_of_lt (hlater task htask hfinished)
      exact ⟨helapsed.settle.1, helapsed.settle.2.1⟩
  | succ fuel induction =>
      unfold Outbox.advanceWithin
      cases hearliest : Schedule.earliest? target outbox.schedule.dueTimes with
      | none =>
          have hnone := Schedule.earliest?_eq_none hearliest
          have hlater : ∀ task ∈ outbox.schedule.tasks, task.finished = false →
              target < task.due := fun task htask hfinished =>
            hnone _ (Schedule.mem_dueTimes.mpr ⟨task, htask, hfinished, rfl⟩)
          have helapsed := h.elapseTo htarget fun task htask hfinished =>
            Nat.le_of_lt (hlater task htask hfinished)
          refine ⟨helapsed, Schedule.ripe?_eq_none_iff.mpr ?_⟩
          rw [helapsed.now]
          exact hlater
      | some time =>
          obtain ⟨hmem, hwithin, hleast⟩ := Schedule.earliest?_eq_some hearliest
          obtain ⟨task, htask, hfinished, hdue⟩ := Schedule.mem_dueTimes.mp hmem
          have hnow : table.now ≤ time := hdue ▸ h.ahead task htask hfinished
          have helapsed := h.elapseTo hnow fun other hother hopen =>
            hleast _ (Schedule.mem_dueTimes.mpr ⟨other, hother, hopen, rfl⟩)
          have hripe : (outbox.elapseTo time).schedule.ripe? ≠ none := by
            intro hnone
            have hlate := Schedule.ripe?_eq_none_iff.mp hnone task htask hfinished
            rw [helapsed.now, hdue] at hlate
            exact Nat.lt_irrefl _ hlate
          obtain ⟨hontime, hsettled, hprogress⟩ := helapsed.settle
          have hless : (outbox.elapseTo time).settle.schedule.firesUntil target <
              outbox.schedule.firesUntil target := (hprogress target hwithin).2 hripe
          have hrest := induction hontime hsettled hwithin (by omega)
          exact hrest

theorem advance (h : outbox.OnTime table) (span : Nat) :
    (outbox.advance span).OnTime { table with now := table.now + span } ∧
      (outbox.advance span).schedule.ripe? = none := by
  obtain ⟨hontime, hrest, -⟩ := h.settle
  unfold Outbox.advance
  dsimp only
  rw [hontime.now]
  refine hontime.advanceWithin hrest (Nat.le_add_right _ _) (total_le ?_)
  exact fun task htask =>
    Task.firesUntil_add_le (hontime.period task htask) (hontime.ahead task htask) span

theorem addRequest (h : outbox.OnTime table) (request : Request) :
    (outbox.addRequest request).2.OnTime
      { table with requests := table.requests ++ [request] } where
  now := h.now
  count := h.count
  requests := by
    rw [List.length_append, ← h.requests]
    exact List.length_append
  tasks := h.tasks
  numbers := h.numbers
  unknown := h.unknown
  plans plan hplan :=
    { h.plans plan hplan with
      known := by
        rw [List.length_append]
        exact Nat.lt_succ_of_lt (h.plans plan hplan).known }
  followed := h.followed

theorem scheduleRequest (h : outbox.OnTime table) (request : Request) (period : Nat) :
    (outbox.scheduleRequest request period).OnTime (table.act (.schedule request period)) where
  now := h.now
  count := by
    rw [Timetable.act, List.length_append, ← h.count]
    rfl
  requests := (h.addRequest request).requests
  tasks := by
    have hnew := h.unknown table.plans.length (Nat.le_refl _)
    simp only [Outbox.scheduleRequest, Outbox.addRequest, Schedule.add, h.tasks, h.count,
      h.requests, h.now, Timetable.live, Timetable.act, List.filter_append, List.map_append]
    simp [Plan.task, Plan.due, hnew, stopped, Schedule.shortestPeriod]
  numbers := by
    simp only [Timetable.act, List.map_append, h.numbers, List.map_singleton, List.length_append,
      List.length_singleton, List.range_succ]
  unknown number hnumber := by
    simp only [Timetable.act, List.length_append, List.length_singleton] at hnumber
    exact h.unknown number (Nat.le_of_succ_le hnumber)
  plans plan hplan := by
    rcases List.mem_append.mp hplan with hplan | hplan
    · exact (h.addRequest request).plans plan hplan
    · have hnew : firings table.plans.length outbox.journal = [] := h.unknown _ (Nat.le_refl _)
      cases List.mem_singleton.mp hplan
      have hknown : table.requests.length < (table.requests ++ [request]).length := by simp
      refine ⟨Nat.le_max_right _ _, hknown, fun time htime => ?_, fun _ => ?_, fun _ _ => ?_⟩
      · cases htime
      · exact hnew ▸ Plan.Paced.start _ _
      · exact Nat.le_add_right _ _
  followed := h.followed

/-- At rest no time of a plan has been left out. -/
theorem kept (h : outbox.OnTime table) (hrest : outbox.schedule.ripe? = none) {plan : Plan}
    (hplan : plan ∈ table.plans) :
    plan.Kept (plan.ended.getD table.now) (firings plan.number outbox.journal) := by
  cases hended : plan.ended with
  | some time => exact (h.plans plan hplan).ended time hended
  | none =>
      refine ⟨(h.plans plan hplan).paced hended, fun hopen => ?_⟩
      have hdue := Schedule.ripe?_eq_none_iff.mp hrest _ (h.task_of_plan hplan hended) hopen
      exact h.now ▸ hdue

/-- Plans that are cancelled have no task any more. -/
theorem cancel (h : outbox.OnTime table) (hrest : outbox.schedule.ripe? = none)
    (cancelled : Nat → Bool) :
    { outbox with
      schedule := { outbox.schedule with
        tasks := outbox.schedule.tasks.filter fun task => !cancelled task.number } }.OnTime
      (table.cancel cancelled) where
  now := h.now
  count := h.count.trans (List.length_map ..).symm
  requests := h.requests
  tasks := by
    rw [h.tasks, Timetable.live_cancel, List.filter_map]
    rfl
  numbers := by
    rw [Timetable.cancel, List.map_map, List.length_map, ← h.numbers]
    refine List.map_congr_left fun plan _ => ?_
    dsimp only [Function.comp_apply]
    split <;> rfl
  unknown number hnumber := h.unknown number (by simpa [Timetable.cancel] using hnumber)
  plans plan hplan := by
    obtain ⟨before, hbefore, rfl⟩ := List.mem_map.mp hplan
    dsimp only
    split
    · exact (h.plans before hbefore).endAt (h.kept hrest hbefore)
    · exact h.plans before hbefore
  followed := h.followed

theorem ask (h : outbox.OnTime table) (command : Command) :
    (outbox.ask command).OnTime (table.act (.ask command)) ∧
      (outbox.ask command).schedule = outbox.schedule := by
  have hasked : outbox.Spares (outbox.note (.asked command)) := spares_note rfl
  have hnone {asked : Outbox} (h : asked.OnTime table) :
      asked.OnTime { table with requests := table.requests ++ [] } := by
    rwa [List.append_nil]
  cases command with
  | attach => exact ⟨hnone (h.spares (hasked.trans (.of_journal rfl rfl rfl))), rfl⟩
  | detach => exact ⟨hnone (h.spares (hasked.trans (.of_journal rfl rfl rfl))), rfl⟩
  | identify sessionId => exact ⟨hnone (h.spares (hasked.trans (.of_journal rfl rfl rfl))), rfl⟩
  | execute request =>
      have hsent := spares_send ((outbox.note (.asked (.execute request))).addRequest request).2
        outbox.requests.length
      exact ⟨((h.spares hasked).addRequest request).spares hsent, hsent.schedule⟩
  | submit packet =>
      have hsubmitted := hasked.trans (spares_submit _ packet)
      exact ⟨hnone (h.spares hsubmitted), hsubmitted.schedule⟩

/-- Between two actions an outbox is in time and at rest. -/
theorem act (h : outbox.OnTime table) (hrest : outbox.schedule.ripe? = none) (action : Action) :
    (outbox.act action).OnTime (table.act action) ∧
      (outbox.act action).schedule.ripe? = none := by
  cases action with
  | schedule request period =>
      have hscheduled := h.scheduleRequest request period
      refine ⟨hscheduled, Schedule.ripe?_eq_none_iff.mpr fun task htask hopen => ?_⟩
      rcases List.mem_append.mp htask with htask | htask
      · exact Schedule.ripe?_eq_none_iff.mp hrest task htask hopen
      · rw [List.mem_singleton.mp htask]
        exact Nat.lt_add_of_pos_right (Nat.lt_of_lt_of_le (by decide) (Nat.le_max_right _ _))
  | cancel task =>
      refine ⟨h.cancel hrest fun number => number == task, Schedule.ripe?_eq_none_iff.mpr ?_⟩
      exact fun other hother hopen =>
        Schedule.ripe?_eq_none_iff.mp hrest other (List.mem_filter.mp hother).1 hopen
  | cancelAll =>
      have hcancelled := h.cancel hrest fun _ => true
      have hnone : (outbox.schedule.tasks.filter fun _ => !true) = [] :=
        List.filter_eq_nil_iff.mpr fun _ _ => Bool.false_ne_true
      rw [hnone] at hcancelled
      exact ⟨hcancelled, rfl⟩
  | advance span => exact h.advance span
  | settle => exact ⟨h.settle.1, h.settle.2.1⟩
  | ask command =>
      obtain ⟨hontime, hschedule⟩ := h.ask command
      exact ⟨hontime, hschedule ▸ hrest⟩
  | failWrites connection text => exact ⟨h.spares (.of_journal rfl rfl rfl), hrest⟩
  | dropServer connection => exact ⟨h.spares (.of_journal rfl rfl rfl), hrest⟩

theorem after (actions : List Action) :
    (Outbox.after actions).OnTime (Timetable.after actions) ∧
      (Outbox.after actions).schedule.ripe? = none := by
  suffices hfold : ∀ (outbox : Outbox) (table : Timetable), outbox.OnTime table →
      outbox.schedule.ripe? = none →
      (actions.foldl Outbox.act outbox).OnTime (actions.foldl Timetable.act table) ∧
        (actions.foldl Outbox.act outbox).schedule.ripe? = none from hfold _ _ start rfl
  induction actions with
  | nil => exact fun _ _ h hrest => ⟨h, hrest⟩
  | cons action rest induction =>
      exact fun _ _ h hrest => induction _ _ (h.act hrest action).1 (h.act hrest action).2

theorem periods (h : outbox.OnTime table) :
    outbox.schedule.periods =
      (table.live.filter fun plan => !stopped (firings plan.number outbox.journal)).map
        Plan.period := by
  rw [Schedule.periods, h.tasks, List.filter_map, List.map_map]
  rfl

theorem contains_iff (h : outbox.OnTime table) (number : Nat) :
    outbox.schedule.contains number = true ↔ ∃ plan ∈ table.live, plan.number = number := by
  rw [Schedule.contains, h.tasks]
  simp [Plan.task]

end OnTime

theorem Informs.act {outbox : Outbox} {table : Timetable} (h : outbox.Informs table.requests)
    (action : Action) : (outbox.act action).Informs (table.act action).requests := by
  cases action with
  | schedule request period => exact (h.addRequest request).reschedule _
  | cancel task => exact h.reschedule _
  | cancelAll => exact h.reschedule _
  | advance span => exact h.settle.advanceWithin _ _
  | settle => exact h.settle
  | ask command => exact h.ask command
  | failWrites connection text => exact h.relink (h.queued.modify connection fun _ _ => .inl)
  | dropServer connection => exact h.relink (h.queued.modify connection fun _ _ => .inl)

/- A failure does not end the first task but its third attempt does; the second is cancelled. -/
example :
    let request : Request := { name := "", packet := default, script := [.fail "", .packet, .stop] }
    let outbox := after
      [.schedule request 500, .schedule request 1500, .advance 3000, .cancel 1, .advance 4000]
    ((firings 0 outbox.journal).map Firing.time, (firings 1 outbox.journal).map Firing.time) =
      ([1000, 2000, 3000], [1500, 3000]) := by
  decide

end Outbox

end Messenger
