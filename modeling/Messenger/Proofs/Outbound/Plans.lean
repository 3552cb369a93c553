import Mathlib.Data.List.Induction
import Messenger.Proofs.Outbound.Ticks

/-!
Requests that recur, by the clock. What is asked of an outbox says which requests are to recur,
since when, how often and until when.
-/

namespace Messenger

/-- A request that is to recur. -/
structure Plan where
  number : Nat
  /-- Its place among all requests. -/
  request : Nat
  start : Nat
  period : Nat
  /-- When it was cancelled. -/
  ended : Option Nat := none
deriving DecidableEq, Repr

/-- Whether an attempt has found the request to be over. -/
def stopped (firings : List Firing) : Bool :=
  firings.any fun firing => firing.attempt = .stop

namespace Plan

/-- When the next attempt is due, after so many. -/
def due (plan : Plan) (count : Nat) : Nat :=
  plan.start + (count + 1) * plan.period

def endAt (plan : Plan) (time : Nat) : Plan :=
  { plan with ended := plan.ended.or (some time) }

/-- Attempts are made at the times of a plan, from the first on, as long as none has found the
request to be over. -/
structure Paced (plan : Plan) (time : Nat) (firings : List Firing) : Prop where
  requests : ∀ firing ∈ firings, firing.request = plan.request
  times : firings.map Firing.time = (List.range firings.length).map plan.due
  past : ∀ firing ∈ firings, firing.time ≤ time
  last : stopped firings.dropLast = false

/-- No time of the plan is left out, unless the request is over. -/
structure Kept (plan : Plan) (time : Nat) (firings : List Firing) : Prop extends
    plan.Paced time firings where
  complete : stopped firings = false → time < plan.due firings.length

/-- How far a plan has come: it was kept to its end, or no time has passed without its attempt. -/
structure InTime (plan : Plan) (requests now : Nat) (firings : List Firing) : Prop where
  period : Schedule.shortestPeriod ≤ plan.period
  known : plan.request < requests
  ended : ∀ time, plan.ended = some time → plan.Kept time firings
  paced : plan.ended = none → plan.Paced now firings
  ahead : plan.ended = none → stopped firings = false → now ≤ plan.due firings.length

/-- The task of a plan, after the attempts that have been made. -/
def task (plan : Plan) (firings : List Firing) : Task Nat where
  number := plan.number
  request := plan.request
  period := plan.period
  due := plan.due firings.length
  finished := stopped firings

section Paced

variable {plan : Plan} {time later : Nat} {firings : List Firing}

theorem due_succ (plan : Plan) (count : Nat) :
    plan.due (count + 1) = plan.due count + plan.period := by
  unfold due
  rw [Nat.succ_mul (count + 1), Nat.add_assoc]

theorem stopped_append (firings : List Firing) (firing : Firing) :
    stopped (firings ++ [firing]) = (stopped firings || firing.attempt = .stop) := by
  simp [stopped]

/-- An attempt that is made in time puts the task off to the next time of the plan. -/
theorem task_fired (plan : Plan) (firings : List Firing) (firing : Firing) {now : Nat}
    (hnow : now ≤ plan.due firings.length) :
    plan.task (firings ++ [firing]) =
      (plan.task firings).fired now plan.number (firing.attempt = .stop) := by
  have hnext : (plan.task firings).dueNext now = plan.due (firings.length + 1) :=
    (Task.dueNext_of_le hnow).trans (plan.due_succ firings.length).symm
  simp only [Task.fired, hnext]
  simp [task, stopped_append]

theorem Paced.mono (h : plan.Paced time firings) (hlater : time ≤ later) :
    plan.Paced later firings :=
  { h with past := fun firing hmem => Nat.le_trans (h.past firing hmem) hlater }

theorem Paced.fire (h : plan.Paced time firings) (hopen : stopped firings = false)
    {firing : Firing} (hrequest : firing.request = plan.request)
    (htime : firing.time = plan.due firings.length) (hpast : firing.time ≤ time) :
    plan.Paced time (firings ++ [firing]) where
  requests other hmem := by
    rcases List.mem_append.mp hmem with hmem | hmem
    · exact h.requests other hmem
    · rw [List.mem_singleton.mp hmem, hrequest]
  times := by
    rw [List.map_append, h.times, List.length_append, List.length_singleton, List.range_succ,
      List.map_append, List.map_singleton, List.map_singleton, htime]
  past other hmem := by
    rcases List.mem_append.mp hmem with hmem | hmem
    · exact h.past other hmem
    · rw [List.mem_singleton.mp hmem]
      exact hpast
  last := by rwa [List.dropLast_concat]

theorem Paced.start (plan : Plan) (time : Nat) : plan.Paced time [] :=
  ⟨nofun, rfl, nofun, rfl⟩

theorem InTime.endAt {requests : Nat} (h : plan.InTime requests time firings)
    (hkept : plan.Kept (plan.ended.getD time) firings) :
    (plan.endAt time).InTime requests time firings := by
  have hended : (plan.endAt time).ended = some (plan.ended.getD time) := by
    cases hplan : plan.ended <;> simp [Plan.endAt, hplan]
  refine ⟨h.period, h.known, fun other hother => ?_, fun hlive => ?_, fun hlive => ?_⟩
  · cases hended.symm.trans hother
    exact ⟨⟨hkept.requests, hkept.times, hkept.past, hkept.last⟩, hkept.complete⟩
  · cases hended.symm.trans hlive
  · cases hended.symm.trans hlive

end Paced

end Plan

/-- What may happen to an outbox: requests that recur are scheduled and cancelled, time passes,
other things are asked, and writers get to work or meet with faults. -/
inductive Action where
  | schedule (request : Request) (period : Nat)
  | cancel (task : Nat)
  | cancelAll
  | advance (span : Nat)
  | settle
  | ask (command : Command)
  | failWrites (connection : Nat) (text : Option String)
  | dropServer (connection : Nat)

namespace Action

def isSchedule : Action → Bool
  | schedule .. => true
  | _ => false

/-- A task has been scheduled, and neither it nor all tasks have been cancelled since. -/
def Standing (actions : List Action) (task : Nat) : Prop :=
  ∃ earlier request period since, actions = earlier ++ .schedule request period :: since ∧
    earlier.countP isSchedule = task ∧ .cancel task ∉ since ∧ .cancelAll ∉ since

theorem Standing.lt_count {actions : List Action} {task : Nat} (h : Standing actions task) :
    task < actions.countP isSchedule := by
  obtain ⟨earlier, request, period, since, rfl, rfl, -, -⟩ := h
  rw [List.countP_append, List.countP_cons_of_pos rfl]
  omega

end Action

namespace Outbox

def act (outbox : Outbox) : Action → Outbox
  | .schedule request period => outbox.scheduleRequest request period
  | .cancel task => { outbox with schedule := outbox.schedule.cancel task }
  | .cancelAll => { outbox with schedule := outbox.schedule.cancelAll }
  | .advance span => outbox.advance span
  | .settle => outbox.settle
  | .ask command => outbox.ask command
  | .failWrites connection text =>
      { outbox with link := outbox.link.modify connection fun connection =>
          { connection with writeFault := text } }
  | .dropServer connection =>
      { outbox with link := outbox.link.modify connection fun connection =>
          { connection with serverGone := true } }

/-- What becomes of a new outbox. -/
def after (actions : List Action) : Outbox :=
  actions.foldl act {}

end Outbox

/-- What is planned, by what was asked alone. -/
structure Timetable where
  now : Nat := 0
  /-- All that was given, to be built at once or again and again. -/
  requests : List Request := []
  plans : List Plan := []
deriving DecidableEq, Repr

namespace Timetable

def cancel (table : Timetable) (cancelled : Nat → Bool) : Timetable :=
  { table with
    plans := table.plans.map fun plan =>
      if cancelled plan.number then plan.endAt table.now else plan }

def act (table : Timetable) : Action → Timetable
  | .schedule request period =>
      { table with
        requests := table.requests ++ [request]
        plans := table.plans ++
          [{ number := table.plans.length
             request := table.requests.length
             start := table.now
             period := max period 1000 }] }
  | .cancel task => table.cancel fun number => number == task
  | .cancelAll => table.cancel fun _ => true
  | .advance span => { table with now := table.now + span }
  | .ask command => { table with requests := table.requests ++ command.request?.toList }
  | _ => table

def after (actions : List Action) : Timetable :=
  actions.foldl act {}

def live (table : Timetable) : List Plan :=
  table.plans.filter fun plan => plan.ended.isNone

theorem live_cancel (table : Timetable) (cancelled : Nat → Bool) :
    (table.cancel cancelled).live = table.live.filter fun plan => !cancelled plan.number := by
  let changed (plan : Plan) : Plan :=
    if cancelled plan.number then plan.endAt table.now else plan
  have hlives : table.plans.filter ((fun plan => plan.ended.isNone) ∘ changed) =
      table.plans.filter fun plan => !cancelled plan.number && plan.ended.isNone := by
    refine List.filter_congr fun plan _ => ?_
    cases hcancelled : cancelled plan.number with
    | true => cases hended : plan.ended <;> simp [changed, hcancelled, Plan.endAt, hended]
    | false => simp [changed, hcancelled]
  unfold live cancel
  rw [List.filter_map, List.filter_filter, hlives]
  refine (List.map_congr_left fun plan hplan => ?_).trans (List.map_id _)
  have hkept := (List.mem_filter.mp hplan).2
  rw [Bool.and_eq_true, Bool.not_eq_true'] at hkept
  simp [hkept.1]

end Timetable

end Messenger
