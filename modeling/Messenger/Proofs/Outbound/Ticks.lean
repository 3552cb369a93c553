import Messenger.Proofs.Outbound.Hooks
import Messenger.Proofs.Outbound.Progress

/-!
Tasks that fall due. A tick makes one attempt at the request of a task and puts off the task by its
period; what the request then comes to is seen in the journal. How often tasks can still fall due
until a given time gets less with every tick.
-/

namespace Messenger

open Journal (firings)

namespace Task

variable {ρ : Type} {task : Task ρ} {target : Nat}

/-- A task after an attempt, at the task of this number, which may have found its request to be
over. -/
def fired (now number : Nat) (stop : Bool) (task : Task ρ) : Task ρ :=
  if task.number = number then
    { task with due := task.dueNext now, finished := task.finished || stop }
  else task

/-- How often a task that goes on falls due until a time. -/
def firesUntil (target : Nat) (task : Task ρ) : Nat :=
  if task.finished then 0 else (target + task.period - task.due) / task.period

theorem firesUntil_eq_zero_iff (hperiod : 0 < task.period) :
    task.firesUntil target = 0 ↔ (task.finished = false → target < task.due) := by
  unfold firesUntil
  cases task.finished with
  | true => simp
  | false =>
      simp only [Bool.false_eq_true, if_false, Nat.div_eq_zero_iff, true_implies]
      omega

theorem firesUntil_le_one (hdue : task.finished = false → target ≤ task.due) :
    task.firesUntil target ≤ 1 := by
  unfold firesUntil
  cases hfinished : task.finished with
  | true => simp
  | false =>
      have hlate := hdue hfinished
      simp only [Bool.false_eq_true, if_false]
      have hspan : target + task.period - task.due ≤ 1 * task.period := by omega
      exact Nat.div_le_of_le_mul (by rwa [Nat.mul_comm])

theorem firesUntil_add_le {now : Nat} (hperiod : Schedule.shortestPeriod ≤ task.period)
    (hdue : task.finished = false → now ≤ task.due) (span : Nat) :
    task.firesUntil (now + span) ≤ span / Schedule.shortestPeriod + 1 := by
  have hpos : 0 < Schedule.shortestPeriod := by decide
  unfold firesUntil
  cases hfinished : task.finished with
  | true => simp
  | false =>
      have hlate := hdue hfinished
      simp only [Bool.false_eq_true, if_false]
      calc (now + span + task.period - task.due) / task.period
          ≤ (span + task.period) / task.period := Nat.div_le_div_right (by omega)
        _ = span / task.period + 1 := Nat.add_div_right _ (Nat.lt_of_lt_of_le hpos hperiod)
        _ ≤ span / Schedule.shortestPeriod + 1 :=
            Nat.add_le_add_right (Nat.div_le_div_left hperiod hpos) 1

theorem firesUntil_fired_le (now number : Nat) (stop : Bool) :
    (task.fired now number stop).firesUntil target ≤ task.firesUntil target := by
  have hlater := task.le_dueNext now
  unfold fired
  split
  · unfold firesUntil
    cases task.finished with
    | true => simp
    | false =>
        cases stop with
        | true => simp
        | false => exact Nat.div_le_div_right (by simp only []; omega)
  · exact Nat.le_refl _

theorem firesUntil_fired_lt (hperiod : 0 < task.period) (hfinished : task.finished = false)
    (hdue : task.due ≤ target) (now : Nat) (stop : Bool) :
    (task.fired now task.number stop).firesUntil target < task.firesUntil target := by
  have hlater := task.le_dueNext now
  have hsplit : target + task.period - task.due = target - task.due + task.period := by omega
  simp only [fired, firesUntil, hfinished, if_true, Bool.false_or, Bool.false_eq_true, if_false]
  rw [hsplit, Nat.add_div_right _ hperiod]
  split
  · exact Nat.succ_pos _
  · refine Nat.lt_succ_of_le (Nat.div_le_div_right ?_)
    omega

end Task

namespace Schedule

variable {ρ : Type} {schedule : Schedule ρ} {target : Nat}

theorem ripe?_eq_none_iff :
    schedule.ripe? = none ↔
      ∀ task ∈ schedule.tasks, task.finished = false → schedule.now < task.due := by
  simp [ripe?]

theorem ripe?_eq_some {task : Task ρ} (hripe : schedule.ripe? = some task) :
    task ∈ schedule.tasks ∧ task.finished = false ∧ task.due ≤ schedule.now := by
  have hfound := List.find?_some hripe
  simp only [Bool.and_eq_true, Bool.not_eq_true', decide_eq_true_eq] at hfound
  exact ⟨List.mem_of_find?_eq_some hripe, hfound⟩

/-- All tasks after an attempt at one of them. -/
def fired (schedule : Schedule ρ) (number : Nat) (stop : Bool) : Schedule ρ :=
  { schedule with tasks := schedule.tasks.map (Task.fired schedule.now number stop) }

theorem rearm_eq (schedule : Schedule ρ) (number : Nat) :
    schedule.rearm number = schedule.fired number false := by
  simp [rearm, fired, Task.fired]

theorem finish_rearm (schedule : Schedule ρ) (number : Nat) :
    (schedule.rearm number).finish number = schedule.fired number true := by
  unfold rearm finish fired
  simp only [List.map_map, Schedule.mk.injEq, List.map_inj_left, true_and, and_true]
  intro task _
  by_cases hnumber : task.number = number <;> simp [Task.fired, hnumber]

/-- How often tasks fall due until a time. -/
def firesUntil (schedule : Schedule ρ) (target : Nat) : Nat :=
  total (Task.firesUntil target) schedule.tasks

theorem firesUntil_eq_zero_iff (hperiods : ∀ task ∈ schedule.tasks, 0 < task.period) :
    schedule.firesUntil target = 0 ↔
      ∀ task ∈ schedule.tasks, task.finished = false → target < task.due := by
  rw [firesUntil, total_eq_zero_iff]
  exact forall₂_congr fun task hmem => Task.firesUntil_eq_zero_iff (hperiods task hmem)

theorem firesUntil_fired_lt {task : Task ρ} (hmem : task ∈ schedule.tasks)
    (hperiod : 0 < task.period) (hfinished : task.finished = false) (hdue : task.due ≤ target)
    (stop : Bool) :
    (schedule.fired task.number stop).firesUntil target < schedule.firesUntil target :=
  total_map_lt (fun _ => Task.firesUntil_fired_le schedule.now task.number stop) hmem
    (Task.firesUntil_fired_lt hperiod hfinished hdue schedule.now stop)

theorem earliest?_eq_some {limit time : Nat} {times : List Nat}
    (hearliest : earliest? limit times = some time) :
    time ∈ times ∧ time ≤ limit ∧ ∀ other ∈ times, time ≤ other := by
  obtain ⟨hmem, hleast⟩ := List.min?_eq_some_iff.mp hearliest
  obtain ⟨htime, hlimit⟩ := List.mem_filter.mp hmem
  rw [decide_eq_true_eq] at hlimit
  refine ⟨htime, hlimit, fun other hother => ?_⟩
  by_cases hwithin : other ≤ limit
  · exact hleast other (List.mem_filter.mpr ⟨hother, decide_eq_true hwithin⟩)
  · omega

theorem earliest?_eq_none {limit : Nat} {times : List Nat}
    (hearliest : earliest? limit times = none) : ∀ other ∈ times, limit < other := by
  have hnone := List.filter_eq_nil_iff.mp (List.min?_eq_none_iff.mp hearliest)
  intro other hother
  simpa using hnone other hother

theorem mem_dueTimes {time : Nat} :
    time ∈ schedule.dueTimes ↔
      ∃ task ∈ schedule.tasks, task.finished = false ∧ task.due = time := by
  simp [dueTimes, and_assoc]

end Schedule

/-- After each attempt that a task makes stands what it has built. -/
def Journal.Followed (journal : List Posting) : Prop :=
  ∀ before task firing later, journal = before ++ .fired task firing :: later →
    ∃ posting rest, later = posting :: rest ∧
      posting.buildOf? firing.request = some firing.attempt

namespace Journal.Followed

theorem append {journal more : List Posting} (h : Followed journal) (hmore : Followed more) :
    Followed (journal ++ more) := by
  intro before task firing later hsplit
  rcases List.append_eq_append_iff.mp hsplit with ⟨between, rfl, hrest⟩ | ⟨between, hbefore, hrest⟩
  · exact hmore between task firing later hrest
  · cases between with
    | nil => exact hmore [] task firing later hrest.symm
    | cons first between =>
        obtain ⟨rfl, rfl⟩ := List.cons.inj hrest
        obtain ⟨posting, rest, rfl, hbuilt⟩ := h before task firing between hbefore
        exact ⟨posting, rest ++ more, rfl, hbuilt⟩

theorem of_others {journal : List Posting} (h : ∀ posting ∈ journal, posting.isFiring = false) :
    Followed journal := by
  rintro before task firing later rfl
  cases h (.fired task firing) (by simp)

theorem of_firing {task : Nat} {firing : Firing} {posting : Posting} {more : List Posting}
    (hbuilt : posting.buildOf? firing.request = some firing.attempt)
    (hmore : ∀ later ∈ more, later.isFiring = false) :
    Followed (.fired task firing :: posting :: more) := by
  intro before other made later hsplit
  cases before with
  | nil =>
      cases hsplit
      exact ⟨posting, more, rfl, hbuilt⟩
  | cons first before =>
      obtain ⟨-, hrest⟩ := List.cons.inj hsplit
      have hothers : ∀ later ∈ posting :: more, later.isFiring = false :=
        List.forall_mem_cons.mpr ⟨Posting.isFiring_of_buildOf? hbuilt, hmore⟩
      exact of_others hothers before other made later hrest

end Journal.Followed

namespace Outbox

variable {outbox : Outbox} {given : List Request} {index : Nat} {request : Request}

theorem attempt_journal (outbox : Outbox) (index : Nat) (request : Request) :
    ∃ posting, (outbox.attempt index request).2.journal = outbox.journal ++ [posting] ∧
      posting.buildOf? index = some request.attempt := by
  unfold attempt
  split <;> rename_i hattempt
  · exact ⟨_, rfl, by simp [Posting.buildOf?, hattempt]⟩
  · exact ⟨_, rfl, by simp [Posting.buildOf?, hattempt]⟩
  · unfold accept
    dsimp only
    split <;> rename_i hflag <;> split at hflag <;> cases hflag
    · exact ⟨_, rfl, by simp [Posting.buildOf?, hattempt]⟩
    · exact ⟨_, rfl, by simp [Posting.buildOf?, hattempt]⟩

theorem attempt_ended_iff (outbox : Outbox) (index : Nat) (request : Request) :
    (outbox.attempt index request).1 = .ended ↔ request.attempt = .stop := by
  unfold attempt
  split <;> rename_i hattempt
  · simp [hattempt]
  · simp [hattempt]
  · dsimp only
    split <;> simp [hattempt]

theorem send_of_request (hrequest : outbox.requests[index]? = some request) :
    ((outbox.send index).1 = true ↔ request.attempt = .stop) ∧
      ∃ posting more, (outbox.send index).2.journal = outbox.journal ++ posting :: more ∧
        posting.buildOf? index = some request.attempt ∧ ∀ later ∈ more, later.isFiring = false := by
  obtain ⟨posting, hposting, hbuilt⟩ := outbox.attempt_journal index request
  have hended := outbox.attempt_ended_iff index request
  unfold send sendWithin
  rw [hrequest]
  dsimp only
  cases hattempt : outbox.attempt index request with
  | mk made next =>
      rw [hattempt] at hposting hended
      dsimp only at hposting hended
      cases made with
      | ended =>
          exact ⟨by simpa using hended, posting, [], hposting, hbuilt, List.forall_mem_nil _⟩
      | underway =>
          exact ⟨by simpa using hended, posting, [], hposting, hbuilt, List.forall_mem_nil _⟩
      | failed error =>
          have hfail := spares_fail next index error
          have hlater : next.Spares
              (if (next.fail index error).1 then
                (sendWithin (outbox.retriesOf index) (next.fail index error).2 index).2
              else (next.fail index error).2) := by
            split
            · exact hfail.trans (spares_sendWithin _ _ index)
            · exact hfail
          obtain ⟨more, hmore, hothers⟩ := hlater.grows
          refine ⟨by simpa using hended, posting, more, ?_, hbuilt, hothers⟩
          rw [hmore, hposting, List.append_assoc]
          rfl

theorem attemptOf_of_request (hrequest : outbox.requests[index]? = some request) :
    outbox.attemptOf index = request.attempt := by
  simp [attemptOf, hrequest]

/-- What a tick does to the tasks, and what the journal tells of it. -/
structure Ticks (before : Outbox) (task : Task Nat) (after : Outbox) : Prop where
  schedule : after.schedule =
    before.schedule.fired task.number (before.attemptOf task.request = .stop)
  requests : after.requests.length = before.requests.length
  journal : ∃ posting more, after.journal = before.journal ++
    .fired task.number ⟨task.request, before.schedule.now, before.attemptOf task.request⟩ ::
      posting :: more ∧
    posting.buildOf? task.request = some (before.attemptOf task.request) ∧
    ∀ later ∈ more, later.isFiring = false

theorem Ticks.firings {task : Task Nat} {next : Outbox} (h : outbox.Ticks task next)
    (number : Nat) :
    firings number next.journal = firings number outbox.journal ++
      if task.number = number then
        [⟨task.request, outbox.schedule.now, outbox.attemptOf task.request⟩]
      else [] := by
  obtain ⟨posting, more, hjournal, hbuilt, hothers⟩ := h.journal
  have hnone : (posting :: more).filterMap (Posting.firingOf? number) = [] :=
    Journal.firings_eq_nil
      (List.forall_mem_cons.mpr ⟨Posting.isFiring_of_buildOf? hbuilt, hothers⟩) number
  rw [hjournal, Journal.firings, List.filterMap_append, List.filterMap_cons, hnone]
  by_cases hnumber : task.number = number
  · simp only [Posting.firingOf?, if_pos hnumber]
    rfl
  · simp only [Posting.firingOf?, if_neg hnumber]
    rfl

theorem ticks_of_tick? {next : Outbox} (htick : outbox.tick? = some next)
    (hknown : ∀ task ∈ outbox.schedule.tasks, task.request < outbox.requests.length) :
    ∃ task, outbox.schedule.ripe? = some task ∧ outbox.Ticks task next := by
  obtain ⟨task, hripe, hnext⟩ := Option.map_eq_some_iff.mp htick
  refine ⟨task, hripe, ?_⟩
  have hrequest := List.getElem?_eq_getElem (hknown task (Schedule.ripe?_eq_some hripe).1)
  let firing : Firing := ⟨task.request, outbox.schedule.now, outbox.attemptOf task.request⟩
  let fired := outbox.note (.fired task.number firing)
  let armed := { fired with schedule := fired.schedule.rearm task.number }
  have hrequest' : armed.requests[task.request]? = _ := hrequest
  have hspares := spares_send armed task.request
  obtain ⟨hended, posting, more, hjournal, hbuilt, hothers⟩ := send_of_request hrequest'
  rw [← attemptOf_of_request hrequest] at hended hbuilt
  have hsent : next =
      if (armed.send task.request).1 then
        { (armed.send task.request).2 with
          schedule := (armed.send task.request).2.schedule.finish task.number }
      else (armed.send task.request).2 := hnext.symm
  have harmed : (armed.send task.request).2.schedule = outbox.schedule.rearm task.number :=
    hspares.schedule
  have htold : (armed.send task.request).2.journal =
      outbox.journal ++ .fired task.number firing :: posting :: more :=
    hjournal.trans (List.append_assoc _ _ _)
  cases hflag : (armed.send task.request).1 with
  | true =>
      rw [hflag, if_pos rfl] at hsent
      subst hsent
      refine ⟨?_, hspares.requests, posting, more, htold, hbuilt, hothers⟩
      rw [decide_eq_true (hended.mp hflag), ← Schedule.finish_rearm, ← harmed]
  | false =>
      rw [hflag, if_neg Bool.false_ne_true] at hsent
      subst hsent
      have hstop : outbox.attemptOf task.request ≠ .stop := fun hstop => by
        rw [hended.mpr hstop] at hflag
        cases hflag
      refine ⟨?_, hspares.requests, posting, more, htold, hbuilt, hothers⟩
      rw [decide_eq_false hstop, ← Schedule.rearm_eq, harmed]

theorem ripe?_of_step?_eq_none (hstep : outbox.step? = none) : outbox.schedule.ripe? = none := by
  unfold step? at hstep
  cases htick : outbox.tick? with
  | some next =>
      rw [htick] at hstep
      cases hstep
  | none => exact Option.map_eq_none_iff.mp htick

theorem step?_cases {next : Outbox} (hstep : outbox.step? = some next) :
    outbox.tick? = some next ∨ outbox.schedule.ripe? = none ∧
      ((∃ connection, outbox.writeAt? connection = some next) ∨
        ∃ connection, next = outbox.closeAt connection) := by
  unfold step? at hstep
  cases htick : outbox.tick? with
  | some ticked =>
      rw [htick] at hstep
      exact .inl hstep
  | none =>
      refine .inr ⟨Option.map_eq_none_iff.mp htick, ?_⟩
      rw [htick] at hstep
      dsimp only [Option.orElse] at hstep
      cases hwrite : outbox.write? with
      | some written =>
          rw [hwrite] at hstep
          obtain ⟨connection, -, hafter⟩ := Option.bind_eq_some_iff.mp hwrite
          exact .inl ⟨connection, hafter.trans hstep⟩
      | none =>
          rw [hwrite] at hstep
          obtain ⟨connection, -, hafter⟩ := Option.map_eq_some_iff.mp hstep
          exact .inr ⟨connection, hafter.symm⟩

theorem step?_ticks {next : Outbox} (hstep : outbox.step? = some next)
    (hknown : ∀ task ∈ outbox.schedule.tasks, task.request < outbox.requests.length) :
    (∃ task, outbox.schedule.ripe? = some task ∧ outbox.Ticks task next) ∨
      outbox.schedule.ripe? = none ∧ outbox.Spares next := by
  rcases step?_cases hstep with htick | ⟨hripe, ⟨connection, hwrite⟩ | ⟨connection, rfl⟩⟩
  · exact .inl (ticks_of_tick? htick hknown)
  · exact .inr ⟨hripe, spares_writeAt? hwrite⟩
  · exact .inr ⟨hripe, .of_journal rfl rfl rfl⟩

theorem Informs.step? (h : outbox.Informs given) {next : Outbox}
    (hstep : outbox.step? = some next) : next.Informs given := by
  rcases step?_cases hstep with htick | ⟨-, ⟨connection, hwrite⟩ | ⟨connection, rfl⟩⟩
  · obtain ⟨task, -, rfl⟩ := Option.map_eq_some_iff.mp htick
    let firing : Firing := ⟨task.request, outbox.schedule.now, outbox.attemptOf task.request⟩
    have hfired : (outbox.note (.fired task.number firing)).Informs given :=
      h.remark (fun _ => rfl) (fun _ => rfl) fun _ => rfl
    have hsent := (hfired.reschedule (outbox.schedule.rearm task.number)).send task.request
    dsimp only
    split
    · exact hsent.reschedule _
    · exact hsent
  · exact h.writeAt? hwrite
  · exact h.relink (h.queued.close connection)

theorem Informs.settleWithin (h : outbox.Informs given) (fuel : Nat) :
    (settleWithin fuel outbox).Informs given := by
  induction fuel generalizing outbox with
  | zero => exact h
  | succ fuel induction =>
      unfold Outbox.settleWithin
      split
      · exact h
      · rename_i next hstep
        exact induction (h.step? hstep)

theorem Informs.settle (h : outbox.Informs given) : outbox.settle.Informs given :=
  h.settleWithin _

theorem Informs.advanceWithin (h : outbox.Informs given) (fuel target : Nat) :
    (advanceWithin fuel target outbox).Informs given := by
  induction fuel generalizing outbox with
  | zero => exact (h.reschedule (outbox.schedule.elapseTo target)).settle
  | succ fuel induction =>
      unfold Outbox.advanceWithin
      split
      · rename_i time _
        exact induction (h.reschedule (outbox.schedule.elapseTo time)).settle
      · exact h.reschedule (outbox.schedule.elapseTo target)

theorem Informs.ask (h : outbox.Informs given) (command : Command) :
    (outbox.ask command).Informs (given ++ command.request?.toList) := by
  have hasked : (outbox.note (.asked command)).Informs given :=
    h.remark (fun _ => rfl) (fun _ => rfl) fun _ => rfl
  have hnone {asked : Outbox} (h : asked.Informs given) : asked.Informs (given ++ []) := by
    rwa [List.append_nil]
  cases command with
  | attach => exact hnone (hasked.relink (hasked.queued.attach rfl))
  | detach => exact hnone (hasked.relink hasked.queued)
  | identify sessionId => exact hnone (hasked.relink hasked.queued)
  | execute request => exact (hasked.addRequest request).send _
  | submit packet => exact hnone (hasked.submit packet)

end Outbox

end Messenger
