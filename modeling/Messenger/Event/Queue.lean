import Messenger.Event.Basic

/-!
Delivery of reports to listeners. Each start opens a course of its own: a line of reports that are
handed out in the order they came. Killing the queue closes the course to new reports; those that
wait in it are still handed out. A listener that breaks off a call ends this call and nothing else.
-/

namespace Messenger

/-- How the call of a listener ends. -/
inductive CallEnd where
  | returned
  | brokenOff
deriving DecidableEq, Repr, Inhabited

/-- What comes of calling a listener is its own affair. -/
class Listens (ι : Type) where
  call : ι → Report → CallEnd

/-- Listeners of which nothing else is known see every call through. -/
instance (priority := low) (ι : Type) : Listens ι where
  call _ _ := .returned

/-- One call of a listener, made on behalf of a course. -/
structure Delivery (ι : Type) where
  listener : ι
  course : Nat
  report : Report
  ending : CallEnd
deriving DecidableEq, Repr

structure EventQueue (ι : Type) where
  listeners : List ι := []
  /-- The reports that wait in each course, in the order the courses were opened. -/
  courses : List (List Report) := []
  running : Bool := false
  /-- Whether the end of the last course can still be awaited. -/
  joinable : Bool := false
deriving Repr, Inhabited

namespace EventQueue

variable {ι : Type}

def addListener (queue : EventQueue ι) (listener : ι) : EventQueue ι :=
  { queue with listeners := queue.listeners ++ [listener] }

def removeListener [DecidableEq ι] (queue : EventQueue ι) (listener : ι) : EventQueue ι :=
  { queue with listeners := queue.listeners.filter (· != listener) }

def start (queue : EventQueue ι) : EventQueue ι :=
  if queue.running then queue
  else { queue with courses := queue.courses ++ [[]], running := true, joinable := true }

def append (queue : EventQueue ι) (report : Report) : EventQueue ι :=
  if queue.running then
    { queue with courses := queue.courses.modify (queue.courses.length - 1) (· ++ [report]) }
  else queue

def kill (queue : EventQueue ι) : EventQueue ι :=
  { queue with running := false }

variable [Listens ι]

/-- Calls one listener after the other. However a call ends, the next one is made. -/
def handOut (listeners : List ι) (course : Nat) (report : Report) : List (Delivery ι) :=
  match listeners with
  | [] => []
  | listener :: rest =>
      match Listens.call listener report with
      | .returned => ⟨listener, course, report, .returned⟩ :: handOut rest course report
      -- Breaking off is caught at the call, within the loop.
      | .brokenOff => ⟨listener, course, report, .brokenOff⟩ :: handOut rest course report

theorem handOut_eq_map (listeners : List ι) (course : Nat) (report : Report) :
    handOut listeners course report =
      listeners.map fun listener => ⟨listener, course, report, Listens.call listener report⟩ := by
  induction listeners with
  | nil => rfl
  | cons listener rest induction =>
      rw [handOut, List.map_cons, induction]
      split <;> rename_i hcall <;> rw [hcall]

def deliver (queue : EventQueue ι) (course : Nat) : List (Delivery ι) × EventQueue ι :=
  match queue.courses[course]? with
  | some (report :: rest) =>
      (handOut queue.listeners course report,
        { queue with courses := queue.courses.set course rest })
  | _ => ([], queue)

def waiting (queue : EventQueue ι) : List Report :=
  queue.courses.flatten

/-- How many reports a course hands out before the others have their turn. -/
def turn : Nat := 128

def round (queue : EventQueue ι) : List (Delivery ι) × EventQueue ι :=
  (queue.courses.zipIdx.flatMap fun (reports, course) =>
      (reports.take turn).flatMap (handOut queue.listeners course),
   { queue with courses := queue.courses.map (·.drop turn) })

/-- In every round each course has one turn, the oldest first. -/
def rounds : Nat → EventQueue ι → List (Delivery ι) × EventQueue ι
  | 0, queue => ([], queue)
  | count + 1, queue =>
      let (early, next) := queue.round
      let (late, last) := rounds count next
      (early ++ late, last)

/-- The turns a course takes to hand out a line of reports and to see that it has ended. -/
def turnsFor (reports : List Report) : Nat :=
  reports.length / turn + 1

def settle (queue : EventQueue ι) : List (Delivery ι) × EventQueue ι :=
  queue.rounds ((queue.courses.map turnsFor).max?.getD 0)

/-- Kills the queue and hands out reports until the last course has ended, unless its end has been
awaited before. -/
def killAndDrain (queue : EventQueue ι) : List (Delivery ι) × EventQueue ι :=
  let killed := queue.kill
  if killed.joinable then
    { killed with joinable := false : EventQueue ι }.rounds
      (turnsFor (queue.courses.getLast?.getD []))
  else ([], killed)

end EventQueue

end Messenger
