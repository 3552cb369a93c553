/-!
Requests that recur. A task falls due one period after it is added and every period from then on,
until it is cancelled or ends by itself. Where one is late, its times are put off.
-/

namespace Messenger

structure Task (ρ : Type) where
  number : Nat
  request : ρ
  /-- In milliseconds, as all times. -/
  period : Nat
  due : Nat
  finished : Bool := false
deriving DecidableEq, Repr, Inhabited

namespace Task

variable {ρ : Type}

/-- How long after its time a task is still on time. -/
def leeway : Nat := 5

/-- When a task falls due again that has its turn now. A late one goes by the time of its turn. -/
def dueNext (now : Nat) (task : Task ρ) : Nat :=
  (if now ≤ task.due + leeway then task.due else now) + task.period

theorem dueNext_of_le {now : Nat} {task : Task ρ} (hdue : now ≤ task.due) :
    task.dueNext now = task.due + task.period := by
  rw [dueNext, if_pos (Nat.le_add_right_of_le hdue)]

theorem le_dueNext (now : Nat) (task : Task ρ) : task.due + task.period ≤ task.dueNext now := by
  unfold dueNext
  split <;> omega

end Task

structure Schedule (ρ : Type) where
  now : Nat := 0
  tasks : List (Task ρ) := []
  count : Nat := 0
deriving DecidableEq, Repr, Inhabited

namespace Schedule

variable {ρ : Type}

def shortestPeriod : Nat := 1000

def add (schedule : Schedule ρ) (request : ρ) (period : Nat) : Schedule ρ :=
  let period := max period shortestPeriod
  { schedule with
    tasks := schedule.tasks ++
      [{ number := schedule.count, request, period, due := schedule.now + period }]
    count := schedule.count + 1 }

def contains (schedule : Schedule ρ) (number : Nat) : Bool :=
  schedule.tasks.any fun task => task.number == number

def cancel (schedule : Schedule ρ) (number : Nat) : Schedule ρ :=
  { schedule with tasks := schedule.tasks.filter fun task => task.number != number }

def cancelAll (schedule : Schedule ρ) : Schedule ρ :=
  { schedule with tasks := [] }

def periods (schedule : Schedule ρ) : List Nat :=
  (schedule.tasks.filter fun task => !task.finished).map (·.period)

def finish (schedule : Schedule ρ) (number : Nat) : Schedule ρ :=
  { schedule with
    tasks := schedule.tasks.map fun task =>
      if task.number = number then { task with finished := true } else task }

def ripe? (schedule : Schedule ρ) : Option (Task ρ) :=
  schedule.tasks.find? fun task => !task.finished && task.due ≤ schedule.now

def rearm (schedule : Schedule ρ) (number : Nat) : Schedule ρ :=
  { schedule with
    tasks := schedule.tasks.map fun task =>
      if task.number = number then { task with due := task.dueNext schedule.now } else task }

def dueTimes (schedule : Schedule ρ) : List Nat :=
  (schedule.tasks.filter fun task => !task.finished).map (·.due)

def elapseTo (schedule : Schedule ρ) (time : Nat) : Schedule ρ :=
  { schedule with now := max schedule.now time }

def earliest? (limit : Nat) (times : List Nat) : Option Nat :=
  (times.filter (· ≤ limit)).min?

/-- How often tasks can fall due within a span of time, at most. -/
def dueBound (schedule : Schedule ρ) (span : Nat) : Nat :=
  schedule.tasks.length * (span / shortestPeriod + 1)

end Schedule

end Messenger
