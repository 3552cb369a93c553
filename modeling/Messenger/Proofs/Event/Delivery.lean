import Mathlib.Data.List.Induction
import Messenger.Event.Queue

/-!
Which deliveries a queue makes. Every start that takes effect opens a course. Whatever happens to
the queue from then on, the course hands out what was appended up to the next kill, in that order,
and each report goes to the listeners that are registered when it is handed out.
-/

namespace Messenger.EventQueue

variable {ι : Type}

inductive Move (ι : Type) where
  | addListener (listener : ι)
  | removeListener (listener : ι)
  | start
  | append (report : Report)
  | kill
  /-- One report of a course is handed out. -/
  | deliver (course : Nat)
  | settle
  | killAndDrain
deriving DecidableEq

namespace Move

def arrival : Move ι → List Report
  | append report => [report]
  | _ => []

/-- Whether a course takes no more reports from this move on. -/
def ends : Move ι → Bool
  | kill => true
  | killAndDrain => true
  | _ => false

end Move

/-- The reports appended up to the next kill. -/
def appended : List (Move ι) → List Report
  | [] => []
  | move :: rest => move.arrival ++ if move.ends then [] else appended rest

variable [DecidableEq ι] [Listens ι]

def registered (listeners : List ι) (moves : List (Move ι)) : List ι :=
  moves.foldl
    (fun listeners move =>
      match move with
      | .addListener listener => listeners ++ [listener]
      | .removeListener listener => listeners.filter (· != listener)
      | _ => listeners)
    listeners

omit [Listens ι] in
theorem registered_append (listeners : List ι) (front rest : List (Move ι)) :
    registered listeners (front ++ rest) = registered (registered listeners front) rest :=
  List.foldl_append

def step (queue : EventQueue ι) : Move ι → List (Delivery ι) × EventQueue ι
  | .addListener listener => ([], queue.addListener listener)
  | .removeListener listener => ([], queue.removeListener listener)
  | .start => ([], queue.start)
  | .append report => ([], queue.append report)
  | .kill => ([], queue.kill)
  | .deliver course => queue.deliver course
  | .settle => queue.settle
  | .killAndDrain => queue.killAndDrain

/-- The deliveries of each move, and the queue in the end. -/
def run (queue : EventQueue ι) : List (Move ι) → List (List (Delivery ι)) × EventQueue ι
  | [] => ([], queue)
  | move :: rest =>
      let (made, next) := queue.step move
      let (later, last) := next.run rest
      (made :: later, last)

/-- What comes of a new queue. -/
def outcome (history : List (Move ι)) : List (List (Delivery ι)) × EventQueue ι :=
  run {} history

theorem run_append (queue : EventQueue ι) (front rest : List (Move ι)) :
    queue.run (front ++ rest) =
      ((queue.run front).1 ++ ((queue.run front).2.run rest).1,
        ((queue.run front).2.run rest).2) := by
  induction front generalizing queue with
  | nil => rfl
  | cons move front induction => simp only [List.cons_append, run, induction]

theorem length_run (queue : EventQueue ι) (moves : List (Move ι)) :
    (queue.run moves).1.length = moves.length := by
  induction moves generalizing queue with
  | nil => rfl
  | cons move rest induction => simp only [run, List.length_cons, induction]

omit [DecidableEq ι] in
/-- What waits in a course. -/
def line (queue : EventQueue ι) (course : Nat) : List Report :=
  (queue.courses[course]?).getD []

/-- Whether a course takes what is appended. -/
def takes (queue : EventQueue ι) (course : Nat) : Bool :=
  queue.running && queue.courses.length == course + 1

omit [DecidableEq ι] in
/-- How many reports a course hands out, at most, while the end of the last course is awaited. -/
def drainBound (queue : EventQueue ι) : Nat :=
  turnsFor (queue.courses.getLast?.getD []) * turn

/-- What a course hands out in a move. -/
def handed (queue : EventQueue ι) (course : Nat) : Move ι → List Report
  | .deliver other => if other = course then (queue.line course).take 1 else []
  | .settle => queue.line course
  | .killAndDrain => if queue.joinable then (queue.line course).take queue.drainBound else []
  | _ => []

omit [DecidableEq ι] in
theorem filter_handOut (listeners : List ι) (course other : Nat) (report : Report) :
    (handOut listeners other report).filter (·.course == course) =
      if other = course then handOut listeners course report else [] := by
  rw [handOut_eq_map]
  split
  case isTrue heq =>
    subst heq
    rw [handOut_eq_map]
    exact List.filter_eq_self.mpr (by simp)
  case isFalse hne => exact List.filter_eq_nil_iff.mpr (by simp [hne])

omit [DecidableEq ι] in
/-- The calls that are seen through are those of the listeners that do not break off. -/
theorem returned_handOut (listeners : List ι) (course : Nat) (report : Report) :
    (handOut listeners course report).filter (·.ending == .returned) =
      (listeners.filter (Listens.call · report == .returned)).map
        (⟨·, course, report, .returned⟩) := by
  rw [handOut_eq_map, List.filter_map]
  refine List.map_congr_left fun listener hmem => ?_
  have hreturned : Listens.call listener report = .returned := by
    simpa using (List.mem_filter.mp hmem).2
  rw [hreturned]

omit [DecidableEq ι] in
theorem filter_handOut_line (listeners : List ι) (course other : Nat) (reports : List Report) :
    (reports.flatMap (handOut listeners other)).filter (·.course == course) =
      if other = course then reports.flatMap (handOut listeners course) else [] := by
  rw [List.filter_flatMap]
  simp only [filter_handOut]
  split <;> simp

omit [DecidableEq ι] in
/-- Of all that waits, a course hands out its own line. -/
theorem filter_handOut_courses (listeners : List ι) (courses : List (List Report))
    (course offset : Nat) :
    ((courses.zipIdx offset).flatMap fun (reports, other) =>
        reports.flatMap (handOut listeners other)).filter (·.course == course) =
      if offset ≤ course then
        ((courses[course - offset]?).getD []).flatMap (handOut listeners course)
      else [] := by
  induction courses generalizing offset with
  | nil => simp
  | cons reports rest induction =>
      rw [List.zipIdx_cons, List.flatMap_cons, List.filter_append, filter_handOut_line, induction]
      rcases Nat.lt_trichotomy offset course with hlt | heq | hgt
      · have hindex : course - offset = course - (offset + 1) + 1 := by omega
        rw [if_neg (by omega), if_pos (by omega), if_pos (by omega), hindex,
          List.getElem?_cons_succ, List.nil_append]
      · subst heq
        rw [if_pos rfl, if_neg (by omega), if_pos (Nat.le_refl _), Nat.sub_self]
        simp
      · rw [if_neg (by omega), if_neg (by omega), if_neg (by omega), List.nil_append]

omit [DecidableEq ι] in
theorem line_round (queue : EventQueue ι) (course : Nat) :
    queue.round.2.line course = (queue.line course).drop turn := by
  simp only [round, line, List.getElem?_map]
  cases queue.courses[course]? <;> simp

omit [DecidableEq ι] in
theorem round_made (queue : EventQueue ι) (course : Nat) :
    queue.round.1.filter (·.course == course) =
      ((queue.line course).take turn).flatMap (handOut queue.listeners course) := by
  have hcourses := filter_handOut_courses queue.listeners (queue.courses.map (·.take turn)) course 0
  rw [List.zipIdx_map, List.flatMap_map, if_pos (Nat.zero_le _), List.getElem?_map,
    Nat.sub_zero] at hcourses
  simp only [Prod.map] at hcourses
  simp only [round, line]
  refine hcourses.trans ?_
  cases queue.courses[course]? <;> simp

section

omit [DecidableEq ι]

@[simp] theorem listeners_rounds (count : Nat) (queue : EventQueue ι) :
    (queue.rounds count).2.listeners = queue.listeners := by
  induction count generalizing queue with
  | zero => rfl
  | succ count induction => exact induction queue.round.2

@[simp] theorem running_rounds (count : Nat) (queue : EventQueue ι) :
    (queue.rounds count).2.running = queue.running := by
  induction count generalizing queue with
  | zero => rfl
  | succ count induction => exact induction queue.round.2

@[simp] theorem joinable_rounds (count : Nat) (queue : EventQueue ι) :
    (queue.rounds count).2.joinable = queue.joinable := by
  induction count generalizing queue with
  | zero => rfl
  | succ count induction => exact induction queue.round.2

@[simp] theorem length_courses_rounds (count : Nat) (queue : EventQueue ι) :
    (queue.rounds count).2.courses.length = queue.courses.length := by
  induction count generalizing queue with
  | zero => rfl
  | succ count induction => exact (induction queue.round.2).trans (List.length_map _)

end

omit [DecidableEq ι] in
theorem line_rounds (count : Nat) (queue : EventQueue ι) (course : Nat) :
    (queue.rounds count).2.line course = (queue.line course).drop (count * turn) := by
  induction count generalizing queue with
  | zero => simp [rounds]
  | succ count induction =>
      simp only [rounds]
      rw [induction, line_round, List.drop_drop, Nat.succ_mul, Nat.add_comm]

omit [DecidableEq ι] in
theorem rounds_made (count : Nat) (queue : EventQueue ι) (course : Nat) :
    (queue.rounds count).1.filter (·.course == course) =
      ((queue.line course).take (count * turn)).flatMap (handOut queue.listeners course) := by
  induction count generalizing queue with
  | zero => simp [rounds]
  | succ count induction =>
      simp only [rounds, List.filter_append]
      have hlisteners : queue.round.2.listeners = queue.listeners := rfl
      rw [round_made, induction, line_round, hlisteners, ← List.flatMap_append,
        Nat.succ_mul, Nat.add_comm, List.take_add]

theorem length_le_turnsFor (reports : List Report) : reports.length ≤ turnsFor reports * turn := by
  have hdivision := Nat.div_add_mod reports.length turn
  have hrest := Nat.mod_lt reports.length (show 0 < turn by decide)
  rw [turnsFor, Nat.succ_mul, Nat.mul_comm]
  omega

omit [DecidableEq ι] [Listens ι] in
/-- A queue that settles hands out every line to its end. -/
theorem length_le_settle (queue : EventQueue ι) (course : Nat) :
    (queue.line course).length ≤ (queue.courses.map turnsFor).max?.getD 0 * turn := by
  unfold line
  cases hline : queue.courses[course]? with
  | none => exact Nat.zero_le _
  | some reports =>
      refine Nat.le_trans (length_le_turnsFor reports) (Nat.mul_le_mul_right turn ?_)
      exact List.le_max?_getD_of_mem (List.mem_map_of_mem (List.mem_of_getElem? hline))

omit [DecidableEq ι] in
theorem line_settle (queue : EventQueue ι) (course : Nat) : queue.settle.2.line course = [] := by
  rw [settle, line_rounds, List.drop_eq_nil_iff]
  exact queue.length_le_settle course

omit [DecidableEq ι] in
theorem settle_made (queue : EventQueue ι) (course : Nat) :
    queue.settle.1.filter (·.course == course) =
      (queue.line course).flatMap (handOut queue.listeners course) := by
  rw [settle, rounds_made, List.take_of_length_le (queue.length_le_settle course)]

omit [DecidableEq ι] in
theorem killAndDrain_of_joinable {queue : EventQueue ι} (hjoinable : queue.joinable = true) :
    queue.killAndDrain =
      { queue with running := false, joinable := false : EventQueue ι }.rounds
        (turnsFor (queue.courses.getLast?.getD [])) := by
  unfold killAndDrain
  exact if_pos hjoinable

omit [DecidableEq ι] in
theorem killAndDrain_of_not_joinable {queue : EventQueue ι} (hjoinable : queue.joinable = false) :
    queue.killAndDrain = ([], queue.kill) := by
  unfold killAndDrain
  exact if_neg (by simp [kill, hjoinable])

omit [DecidableEq ι] in
theorem line_killAndDrain (queue : EventQueue ι) (course : Nat) :
    queue.killAndDrain.2.line course =
      (queue.line course).drop (if queue.joinable then queue.drainBound else 0) := by
  cases hjoinable : queue.joinable with
  | true =>
      rw [killAndDrain_of_joinable hjoinable, line_rounds]
      rfl
  | false =>
      rw [killAndDrain_of_not_joinable hjoinable]
      rfl

omit [DecidableEq ι] in
/-- The end of the last course is the end of its line. -/
theorem line_last_killAndDrain {queue : EventQueue ι} (hjoinable : queue.joinable = true)
    {course : Nat} (hlast : queue.courses.length = course + 1) :
    queue.killAndDrain.2.line course = [] := by
  have hline : queue.courses.getLast?.getD [] = queue.line course := by
    rw [List.getLast?_eq_getElem?, hlast]
    rfl
  rw [line_killAndDrain, hjoinable, if_pos rfl, List.drop_eq_nil_iff, drainBound, hline]
  exact length_le_turnsFor _

theorem step_made (queue : EventQueue ι) (course : Nat) (move : Move ι) :
    (queue.step move).1.filter (·.course == course) =
      (queue.handed course move).flatMap (handOut queue.listeners course) := by
  cases move with
  | deliver other =>
      simp only [step, deliver, handed, line]
      split
      case h_1 report rest hline =>
        rw [filter_handOut]
        split
        case isTrue heq =>
          subst heq
          simp [hline]
        case isFalse => rfl
      case h_2 hnone =>
        split
        case isTrue heq =>
          subst heq
          cases hline : queue.courses[other]? with
          | none => rfl
          | some reports =>
              cases reports with
              | nil => rfl
              | cons report rest => exact absurd hline (hnone report rest)
        case isFalse => rfl
  | settle => exact queue.settle_made course
  | killAndDrain =>
      simp only [step, handed]
      cases hjoinable : queue.joinable with
      | true =>
          rw [killAndDrain_of_joinable hjoinable, rounds_made, if_pos rfl]
          rfl
      | false => simp [killAndDrain_of_not_joinable hjoinable]
  | addListener => rfl
  | removeListener => rfl
  | start => rfl
  | append => rfl
  | kill => rfl

omit [DecidableEq ι] in
theorem line_deliver {queue : EventQueue ι} {course : Nat}
    (hcourse : course < queue.courses.length) (other : Nat) :
    (if other = course then (queue.line course).take 1 else []) ++
      (queue.deliver other).2.line course = queue.line course := by
  unfold deliver line
  by_cases heq : other = course
  · subst heq
    rw [if_pos rfl, List.getElem?_eq_getElem hcourse]
    cases hline : queue.courses[other] with
    | nil => simp [List.getElem?_eq_getElem hcourse, hline]
    | cons report rest => simp [hcourse]
  · rw [if_neg heq]
    split
    · simp [List.getElem?_set_ne heq]
    · rfl

omit [DecidableEq ι] [Listens ι] in
theorem line_append (queue : EventQueue ι) {course : Nat} (hcourse : course < queue.courses.length)
    (report : Report) :
    (queue.append report).line course =
      queue.line course ++ if queue.takes course then [report] else [] := by
  unfold append takes line
  cases queue.running with
  | false => simp
  | true =>
      have hlast : queue.courses.length - 1 = course ↔ queue.courses.length = course + 1 := by
        omega
      simp only [if_true, Bool.true_and, beq_iff_eq, List.getElem?_modify, hlast,
        List.getElem?_eq_getElem hcourse]
      split <;> simp

omit [DecidableEq ι] [Listens ι] in
theorem line_start (queue : EventQueue ι) {course : Nat}
    (hcourse : course < queue.courses.length) :
    queue.start.line course = queue.line course := by
  unfold start line
  split
  · rfl
  · rw [List.getElem?_append_left hcourse]

theorem step_line {queue : EventQueue ι} {course : Nat} (hcourse : course < queue.courses.length)
    (move : Move ι) :
    queue.handed course move ++ (queue.step move).2.line course =
      queue.line course ++ if queue.takes course then move.arrival else [] := by
  cases move with
  | deliver other => simpa [step, handed, Move.arrival] using line_deliver hcourse other
  | settle => simp [step, handed, line_settle, Move.arrival]
  | killAndDrain =>
      cases hjoinable : queue.joinable <;>
        simp [step, handed, line_killAndDrain, hjoinable, Move.arrival]
  | append report => simpa [step, handed, Move.arrival] using line_append queue hcourse report
  | start => simpa [step, handed, Move.arrival] using line_start queue hcourse
  | addListener => simp [step, handed, addListener, line, Move.arrival]
  | removeListener => simp [step, handed, removeListener, line, Move.arrival]
  | kill => simp [step, handed, kill, line, Move.arrival]

theorem step_takes {queue : EventQueue ι} {course : Nat} (hcourse : course < queue.courses.length)
    (move : Move ι) :
    (queue.step move).2.takes course = (queue.takes course && !move.ends) := by
  cases move with
  | start =>
      cases hrunning : queue.running with
      | true => simp [step, start, takes, hrunning, Move.ends]
      | false =>
          simp [step, start, takes, hrunning, Move.ends]
          omega
  | append report =>
      cases hrunning : queue.running <;> simp [step, append, takes, hrunning, Move.ends]
  | deliver other =>
      simp only [step, deliver, takes, Move.ends]
      split <;> simp
  | killAndDrain =>
      cases hjoinable : queue.joinable with
      | true => simp [step, killAndDrain_of_joinable hjoinable, takes, Move.ends]
      | false => simp [step, killAndDrain_of_not_joinable hjoinable, kill, takes, Move.ends]
  | settle => simp [step, settle, takes, Move.ends]
  | addListener => simp [step, addListener, takes, Move.ends]
  | removeListener => simp [step, removeListener, takes, Move.ends]
  | kill => simp [step, kill, takes, Move.ends]

theorem step_listeners (queue : EventQueue ι) (move : Move ι) :
    (queue.step move).2.listeners = registered queue.listeners [move] := by
  cases move with
  | start => cases hrunning : queue.running <;> simp [step, start, hrunning, registered]
  | append report => cases hrunning : queue.running <;> simp [step, append, hrunning, registered]
  | deliver other =>
      simp only [step, deliver]
      split <;> rfl
  | killAndDrain =>
      cases hjoinable : queue.joinable with
      | true => simp [step, killAndDrain_of_joinable hjoinable, registered]
      | false => simp [step, killAndDrain_of_not_joinable hjoinable, kill, registered]
  | settle => simp [step, settle, registered]
  | addListener => rfl
  | removeListener => rfl
  | kill => rfl

theorem step_courses (queue : EventQueue ι) (move : Move ι) :
    (queue.step move).2.courses.length =
      queue.courses.length + if move = .start ∧ queue.running = false then 1 else 0 := by
  cases move with
  | start => cases hrunning : queue.running <;> simp [step, start, hrunning]
  | append report => cases hrunning : queue.running <;> simp [step, append, hrunning]
  | deliver other =>
      simp only [step, deliver]
      split <;> simp
  | killAndDrain =>
      cases hjoinable : queue.joinable with
      | true => simp [step, killAndDrain_of_joinable hjoinable]
      | false => simp [step, killAndDrain_of_not_joinable hjoinable, kill]
  | settle => simp [step, settle]
  | addListener => simp [step, addListener]
  | removeListener => simp [step, removeListener]
  | kill => simp [step, kill]

/-- What a course hands out in each of the moves. -/
def handedAlong (queue : EventQueue ι) (course : Nat) : List (Move ι) → List (List Report)
  | [] => []
  | move :: rest => queue.handed course move :: (queue.step move).2.handedAlong course rest

theorem length_handedAlong (queue : EventQueue ι) (course : Nat) (moves : List (Move ι)) :
    (queue.handedAlong course moves).length = moves.length := by
  induction moves generalizing queue with
  | nil => rfl
  | cons move rest induction => simp only [handedAlong, List.length_cons, induction]

theorem handedAlong_take (queue : EventQueue ι) (course : Nat) (moves : List (Move ι))
    (count : Nat) :
    (queue.handedAlong course moves).take count = queue.handedAlong course (moves.take count) := by
  induction moves generalizing queue count with
  | nil => simp [handedAlong]
  | cons move rest induction =>
      cases count with
      | zero => rfl
      | succ count => simp only [handedAlong, List.take_succ_cons, induction]

theorem run_made (queue : EventQueue ι) (course : Nat) {moves : List (Move ι)} {index : Nat}
    {made : List (Delivery ι)} (hmade : (queue.run moves).1[index]? = some made) :
    ∃ reports, (queue.handedAlong course moves)[index]? = some reports ∧
      made.filter (·.course == course) =
        reports.flatMap (handOut (registered queue.listeners (moves.take index)) course) := by
  induction moves generalizing queue index with
  | nil => cases hmade
  | cons move rest induction =>
      cases index with
      | zero =>
          cases hmade
          exact ⟨_, rfl, queue.step_made course move⟩
      | succ index =>
          obtain ⟨reports, hreports, hfilter⟩ := induction (queue.step move).2 hmade
          refine ⟨reports, hreports, ?_⟩
          rw [hfilter, step_listeners]
          rfl

theorem run_listeners (queue : EventQueue ι) (moves : List (Move ι)) :
    (queue.run moves).2.listeners = registered queue.listeners moves := by
  induction moves generalizing queue with
  | nil => rfl
  | cons move rest induction =>
      simp only [run, induction, step_listeners]
      rfl

/-- Nothing is lost and nothing comes twice: what has been handed out and what waits make up what
was there before and what has been appended. -/
theorem run_line {queue : EventQueue ι} {course : Nat} (hcourse : course < queue.courses.length)
    (moves : List (Move ι)) :
    (queue.handedAlong course moves).flatten ++ (queue.run moves).2.line course =
      queue.line course ++ if queue.takes course then appended moves else [] := by
  induction moves generalizing queue with
  | nil => simp [handedAlong, run, appended]
  | cons move rest induction =>
      have hnext : course < (queue.step move).2.courses.length := by
        rw [step_courses]
        omega
      simp only [handedAlong, run, List.flatten_cons, List.append_assoc, appended]
      rw [induction hnext, step_takes hcourse, ← List.append_assoc, step_line hcourse]
      cases queue.takes course <;> cases move.ends <;> simp

/-- Once the end of the last course has been awaited, nothing waits in it. -/
def Drained (queue : EventQueue ι) : Prop :=
  queue.joinable = false → queue.running = false ∧
    ∀ course, queue.courses.length = course + 1 → queue.line course = []

theorem step_drained {queue : EventQueue ι} (h : queue.Drained) (move : Move ι) :
    (queue.step move).2.Drained := by
  intro hjoinable
  cases move with
  | start =>
      simp only [step, start] at hjoinable
      cases hrunning : queue.running with
      | true =>
          rw [hrunning, if_pos rfl] at hjoinable
          rw [(h hjoinable).1] at hrunning
          cases hrunning
      | false =>
          rw [hrunning] at hjoinable
          cases hjoinable
  | append report =>
      have hbefore : queue.joinable = false := by
        simp only [step, append] at hjoinable
        split at hjoinable <;> exact hjoinable
      simp only [step, append, (h hbefore).1]
      exact h hbefore
  | deliver other =>
      have hbefore : queue.joinable = false := by
        simp only [step, deliver] at hjoinable
        split at hjoinable <;> exact hjoinable
      have hrunning : (queue.deliver other).2.running = queue.running := by
        unfold deliver
        split <;> rfl
      refine ⟨hrunning.trans (h hbefore).1, fun course hlast => ?_⟩
      rw [step_courses, if_neg (fun hstart => nomatch hstart.1), Nat.add_zero] at hlast
      have hknown : course < queue.courses.length := by omega
      have hline := line_deliver hknown other
      rw [(h hbefore).2 course hlast] at hline
      exact (List.append_eq_nil_iff.mp hline).2
  | settle =>
      rw [step, settle, joinable_rounds] at hjoinable
      refine ⟨?_, fun course _ => queue.line_settle course⟩
      rw [step, settle, running_rounds]
      exact (h hjoinable).1
  | killAndDrain =>
      cases hbefore : queue.joinable with
      | true =>
          refine ⟨by simp [step, killAndDrain_of_joinable hbefore], fun course hlast => ?_⟩
          rw [step_courses, if_neg (fun hstart => nomatch hstart.1), Nat.add_zero] at hlast
          exact line_last_killAndDrain hbefore hlast
      | false =>
          simp only [step, killAndDrain_of_not_joinable hbefore]
          exact ⟨rfl, (h hbefore).2⟩
  | addListener => exact h hjoinable
  | removeListener => exact h hjoinable
  | kill => exact ⟨rfl, (h hjoinable).2⟩

omit [DecidableEq ι] in
/-- Draining the queue, a second time too, leaves nothing in the last course. -/
theorem Drained.line_killAndDrain {queue : EventQueue ι} (h : queue.Drained) {course : Nat}
    (hlast : queue.courses.length = course + 1) :
    queue.killAndDrain.2.line course = [] := by
  cases hjoinable : queue.joinable with
  | true => exact line_last_killAndDrain hjoinable hlast
  | false =>
      rw [killAndDrain_of_not_joinable hjoinable]
      exact (h hjoinable).2 course hlast

theorem run_drained {queue : EventQueue ι} (h : queue.Drained) (moves : List (Move ι)) :
    (queue.run moves).2.Drained := by
  induction moves generalizing queue with
  | nil => exact h
  | cons move rest induction => exact induction (step_drained h move)

omit [DecidableEq ι] [Listens ι] in
theorem handed_of_le {queue : EventQueue ι} {course : Nat} (hcourse : queue.courses.length ≤ course)
    (move : Move ι) :
    queue.handed course move = [] := by
  have hline : queue.line course = [] := by
    rw [line, List.getElem?_eq_none hcourse]
    rfl
  cases move <;> simp [handed, hline]

theorem step_course_lt {queue : EventQueue ι} {move : Move ι} {delivery : Delivery ι}
    (hmade : delivery ∈ (queue.step move).1) : delivery.course < queue.courses.length := by
  refine Nat.lt_of_not_le fun hle => ?_
  have hfilter := queue.step_made delivery.course move
  rw [handed_of_le hle, List.flatMap_nil, List.filter_eq_nil_iff] at hfilter
  exact hfilter delivery hmade (by simp)

theorem run_courses_le (queue : EventQueue ι) (moves : List (Move ι)) :
    queue.courses.length ≤ (queue.run moves).2.courses.length := by
  induction moves generalizing queue with
  | nil => exact Nat.le_refl _
  | cons move rest induction =>
      refine Nat.le_trans ?_ (induction (queue.step move).2)
      rw [step_courses]
      omega

theorem run_courses_of_no_start (queue : EventQueue ι) {moves : List (Move ι)}
    (hsame : .start ∉ moves) :
    (queue.run moves).2.courses.length = queue.courses.length := by
  induction moves generalizing queue with
  | nil => rfl
  | cons move rest induction =>
      have hmove : move ≠ .start := fun hstart => hsame (hstart ▸ List.mem_cons_self ..)
      simp only [run]
      rw [induction _ fun hstart => hsame (List.mem_cons_of_mem move hstart), step_courses,
        if_neg fun hstart => hmove hstart.1, Nat.add_zero]

theorem run_course_lt {queue : EventQueue ι} {moves : List (Move ι)} {made : List (Delivery ι)}
    {delivery : Delivery ι} (hmade : made ∈ (queue.run moves).1) (hdelivery : delivery ∈ made) :
    delivery.course < (queue.run moves).2.courses.length := by
  induction moves generalizing queue with
  | nil => cases hmade
  | cons move rest induction =>
      rcases List.mem_cons.mp hmade with rfl | hrest
      · refine Nat.lt_of_lt_of_le (step_course_lt hdelivery) ?_
        exact run_courses_le queue (move :: rest)
      · exact induction hrest

/-- Every course has been opened by a start that took effect. -/
theorem exists_start {history : List (Move ι)} {course : Nat}
    (hcourse : course < (outcome history).2.courses.length) :
    ∃ earlier later, history = earlier ++ .start :: later ∧
      (outcome earlier).2.running = false ∧ (outcome earlier).2.courses.length = course := by
  induction history using List.reverseRecOn with
  | nil => exact absurd hcourse (Nat.not_lt_zero _)
  | append_singleton history move induction =>
      by_cases hbefore : course < (outcome history).2.courses.length
      · obtain ⟨earlier, later, rfl, hfacts⟩ := induction hbefore
        exact ⟨earlier, later ++ [move], by simp, hfacts⟩
      · simp only [outcome, run_append, run, step_courses] at hcourse hbefore
        split at hcourse
        case isTrue hstart =>
          obtain ⟨rfl, hstopped⟩ := hstart
          exact ⟨history, [], rfl, hstopped, by simp only [outcome]; omega⟩
        case isFalse => omega

/-- A course that has just been opened: nothing waits in it, and it takes what is appended. -/
structure Opened (queue : EventQueue ι) (course : Nat) : Prop where
  known : course < queue.courses.length
  empty : queue.line course = []
  takes : queue.takes course = true
  drained : queue.Drained

theorem opened_start {history : List (Move ι)} (hstopped : (outcome history).2.running = false) :
    Opened (outcome (history ++ [.start])).2 (outcome history).2.courses.length := by
  have hrun : (outcome (history ++ [.start])).2 = (outcome history).2.start := by
    simp only [outcome, run_append, run, step]
  rw [hrun]
  constructor
  · simp [start, hstopped]
  · simp [start, hstopped, line]
  · simp [start, hstopped, takes]
  · intro hjoinable
    simp [start, hstopped] at hjoinable

namespace Opened

variable {queue : EventQueue ι} {course : Nat}

theorem flatten_handedAlong (h : Opened queue course) (moves : List (Move ι)) :
    (queue.handedAlong course moves).flatten ++ (queue.run moves).2.line course =
      appended moves := by
  rw [run_line h.known, h.empty, h.takes, if_pos rfl, List.nil_append]

/-- Until the next start, a course is the last one. -/
theorem length_courses (h : Opened queue course) {moves : List (Move ι)} (hsame : .start ∉ moves) :
    (queue.run moves).2.courses.length = course + 1 := by
  have htakes : queue.running = true ∧ queue.courses.length = course + 1 := by
    simpa [EventQueue.takes] using h.takes
  rw [run_courses_of_no_start queue hsame, htakes.2]

/-- After a move that settles the queue, nothing waits. -/
theorem line_of_settled (h : Opened queue course) {moves : List (Move ι)}
    (hsame : .start ∉ moves)
    (hlast : moves.getLast? = some .settle ∨ moves.getLast? = some .killAndDrain) :
    (queue.run moves).2.line course = [] := by
  have hsplit (move : Move ι) (hmove : moves.getLast? = some move) :
      (queue.run moves).2 = ((queue.run moves.dropLast).2.step move).2 := by
    obtain ⟨front, rfl⟩ := List.getLast?_eq_some_iff.mp hmove
    simp only [run_append, run, List.dropLast_concat]
  rcases hlast with hsettle | hdrain
  · rw [hsplit _ hsettle]
    exact line_settle _ _
  · rw [hsplit _ hdrain]
    have hdrained := run_drained h.drained moves.dropLast
    have hcourses := h.length_courses fun hstart =>
      hsame ((List.dropLast_sublist moves).subset hstart)
    exact hdrained.line_killAndDrain hcourses

theorem prefix_appended (h : Opened queue course) (moves : List (Move ι)) :
    (queue.handedAlong course moves).flatten <+: appended moves :=
  ⟨_, h.flatten_handedAlong moves⟩

theorem eq_appended (h : Opened queue course) {moves : List (Move ι)}
    (hsame : .start ∉ moves)
    (hlast : moves.getLast? = some .settle ∨ moves.getLast? = some .killAndDrain) :
    (queue.handedAlong course moves).flatten = appended moves := by
  rw [← h.flatten_handedAlong moves, h.line_of_settled hsame hlast, List.append_nil]

theorem report_mem (h : Opened queue course) {moves : List (Move ι)} {made : List (Delivery ι)}
    {delivery : Delivery ι} (hmade : made ∈ (queue.run moves).1) (hdelivery : delivery ∈ made)
    (hcourse : delivery.course = course) :
    delivery.report ∈ appended moves := by
  obtain ⟨index, hindex⟩ := List.getElem?_of_mem hmade
  obtain ⟨reports, hreports, hfilter⟩ := queue.run_made course hindex
  have hin : delivery ∈ made.filter (·.course == course) :=
    List.mem_filter.mpr ⟨hdelivery, by simpa using hcourse⟩
  rw [hfilter] at hin
  obtain ⟨report, hreport, hcall⟩ := List.mem_flatMap.mp hin
  rw [handOut_eq_map] at hcall
  obtain ⟨listener, -, rfl⟩ := List.mem_map.mp hcall
  refine (h.prefix_appended moves).subset ?_
  exact List.mem_flatten.mpr ⟨reports, List.mem_of_getElem? hreports, hreport⟩

end Opened

theorem run_course_lt_outcome {history : List (Move ι)} {made : List (Delivery ι)}
    {delivery : Delivery ι} (hmade : made ∈ (outcome (history ++ [.start])).1)
    (hdelivery : delivery ∈ made) :
    delivery.course < (outcome history).2.courses.length := by
  simp only [outcome, run_append, run, step, List.mem_append, List.mem_singleton] at hmade
  rcases hmade with hbefore | rfl
  · exact run_course_lt hbefore hdelivery
  · cases hdelivery

/-- From a start that takes effect on, its course hands out what is appended up to the next kill, in
that order, each report once for each registration that stands at that moment. It is always a first
part of what has been appended, and all of it once the queue has settled. However the calls of the
listeners end, all of them are made, so those that are seen through are lost to nobody but the
listener that breaks off. There are no deliveries but those of such courses. -/
theorem deliveries_of_cycle (earlier moves : List (Move ι))
    (hstopped : (outcome earlier).2.running = false) :
    let course := (outcome earlier).2.courses.length
    let before := outcome (earlier ++ [.start])
    (∀ made ∈ before.1, ∀ delivery ∈ made, delivery.course ≠ course) ∧
    (∃ handed : List (List Report), handed.length = moves.length ∧
      (∀ index made, (before.2.run moves).1[index]? = some made →
        ∃ reports, handed[index]? = some reports ∧
          let listeners := registered [] (earlier ++ .start :: moves.take index)
          made.filter (·.course == course) =
            reports.flatMap (fun report => listeners.map fun listener =>
              ⟨listener, course, report, Listens.call listener report⟩) ∧
          (made.filter (·.course == course)).filter (·.ending == .returned) =
            reports.flatMap fun report =>
              (listeners.filter (Listens.call · report == .returned)).map
                (⟨·, course, report, .returned⟩)) ∧
      ∀ count, (handed.take count).flatten <+: appended (moves.take count) ∧
        (.start ∉ moves.take count →
          (moves.take count).getLast? = some .settle ∨
            (moves.take count).getLast? = some .killAndDrain →
          (handed.take count).flatten = appended (moves.take count))) ∧
    ∀ (history : List (Move ι)) made, made ∈ (outcome history).1 → ∀ delivery ∈ made,
      ∃ earlier later, history = earlier ++ .start :: later ∧
        (outcome earlier).2.running = false ∧
        (outcome earlier).2.courses.length = delivery.course ∧
        delivery.report ∈ appended later := by
  intro course before
  have hopened : Opened before.2 course := opened_start hstopped
  refine ⟨fun made hmade delivery hdelivery =>
    Nat.ne_of_lt (run_course_lt_outcome hmade hdelivery), ?_, ?_⟩
  · refine ⟨before.2.handedAlong course moves, length_handedAlong _ _ _, ?_, ?_⟩
    · intro index made hmade
      obtain ⟨reports, hreports, hfilter⟩ := before.2.run_made course hmade
      have hlisteners : registered before.2.listeners (moves.take index) =
          registered [] (earlier ++ .start :: moves.take index) := by
        rw [show before.2.listeners = _ from run_listeners _ _, ← registered_append,
          List.append_assoc]
        rfl
      rw [hlisteners] at hfilter
      refine ⟨reports, hreports, ?_, ?_⟩
      · rw [hfilter]
        exact congrArg reports.flatMap (funext (handOut_eq_map _ course))
      · simp only [hfilter, List.filter_flatMap, returned_handOut]
    · intro count
      rw [handedAlong_take]
      exact ⟨hopened.prefix_appended _, hopened.eq_appended⟩
  · intro history made hmade delivery hdelivery
    obtain ⟨earlier, later, rfl, hstart, hlength⟩ :=
      exists_start (run_course_lt hmade hdelivery)
    refine ⟨earlier, later, rfl, hstart, hlength, ?_⟩
    have hmoves : earlier ++ Move.start :: later = (earlier ++ [.start]) ++ later := by simp
    rw [hmoves, outcome, run_append] at hmade
    rcases List.mem_append.mp hmade with hbefore | hlater
    · have hlt := run_course_lt_outcome hbefore hdelivery
      omega
    · exact (opened_start hstart).report_mem hlater hdelivery hlength.symm

/-- A second course: what was appended before it, and after its kill, is not in it. The first
listener is registered twice when the one report is handed out, and breaks off both calls; it is no
longer registered for the other. -/
theorem deliveries_of_cycle_second :
    letI : Listens Nat := ⟨fun listener _ => if listener = 7 then .brokenOff else .returned⟩
    let mail (count : UInt32) : Report := ⟨none, .newMail count⟩
    let earlier : List (Move Nat) :=
      [.append (mail 0), .start, .append (mail 1), .addListener 7, .kill, .append (mail 2)]
    let moves : List (Move Nat) :=
      [.append (mail 3), .addListener 7, .deliver 1, .removeListener 7, .append (mail 4),
        .addListener 8, .kill, .append (mail 5), .killAndDrain]
    (outcome earlier).2.running = false ∧
      registered [] (earlier ++ .start :: moves.take 2) = [7, 7] ∧
      registered [] (earlier ++ .start :: moves.take 8) = [8] ∧
      ∃ handed : List (List Report), handed.flatten = [mail 3, mail 4] ∧
        ∀ (index : Nat) (made : List (Delivery Nat)),
          ((outcome (earlier ++ [.start])).2.run moves).1[index]? = some made →
          ∃ reports : List Report, handed[index]? = some reports ∧
            made.filter (·.course == 1) = reports.flatMap fun report =>
              (registered [] (earlier ++ .start :: moves.take index)).map fun listener =>
                ⟨listener, 1, report, Listens.call listener report⟩ := by
  let : Listens Nat := ⟨fun listener _ => if listener = 7 then .brokenOff else .returned⟩
  intro mail earlier moves
  have hstopped : (outcome earlier).2.running = false := rfl
  obtain ⟨-, ⟨handed, hlength, hmade, hhanded⟩, -⟩ := deliveries_of_cycle earlier moves hstopped
  refine ⟨hstopped, rfl, rfl, handed, ?_, fun index made hindex => ?_⟩
  · have hwhole : handed.take 9 = handed := List.take_of_length_le (Nat.le_of_eq hlength)
    have hall := (hhanded 9).2 (by decide) (.inr rfl)
    rw [hwhole] at hall
    exact hall
  · obtain ⟨reports, hreports, hcalls, -⟩ := hmade index made hindex
    exact ⟨reports, hreports, hcalls⟩

end Messenger.EventQueue
