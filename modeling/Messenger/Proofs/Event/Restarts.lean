import Messenger.Proofs.Event.Delivery

/-!
What becomes of the order of the reports where a queue is killed and started again. Two courses hand
out side by side, so a report of the later one can overtake those that still wait in the earlier
one. Where every start finds nothing waiting, the order is that in which the reports came.
-/

namespace Messenger.EventQueue

variable {ι : Type}

/-- Whether the queue runs after a move. -/
def Move.leaves (running : Bool) : Move ι → Bool
  | .start => true
  | .kill => false
  | .killAndDrain => false
  | _ => running

/-- The reports that are appended while the queue runs. -/
def accepted (running : Bool) : List (Move ι) → List Report
  | [] => []
  | move :: rest => (if running then move.arrival else []) ++ accepted (move.leaves running) rest

/-- The course that the queue opened last. -/
def last (queue : EventQueue ι) : Nat :=
  queue.courses.length - 1

/-- Whether a course takes no more reports and has handed out all it took. Draining the queue waits
for this end of the last course. -/
def hasEnded (queue : EventQueue ι) (course : Nat) : Bool :=
  !queue.takes course && (queue.line course).isEmpty

variable [DecidableEq ι] [Listens ι]

/-- What one listener is called with. -/
def seen (listener : ι) (deliveries : List (Delivery ι)) : List Report :=
  (deliveries.filter (·.listener == listener)).map (·.report)

/-- Every start that takes effect finds nothing waiting. -/
def Prompt (queue : EventQueue ι) : List (Move ι) → Prop
  | [] => True
  | move :: rest =>
      (move = .start → queue.running = false → queue.waiting = []) ∧ Prompt (queue.step move).2 rest

def decidablePrompt (queue : EventQueue ι) (moves : List (Move ι)) :
    Decidable (Prompt queue moves) :=
  match moves with
  | [] => inferInstanceAs (Decidable True)
  | move :: rest =>
      have := decidablePrompt (queue.step move).2 rest
      inferInstanceAs (Decidable (_ ∧ _))

instance (queue : EventQueue ι) (moves : List (Move ι)) : Decidable (Prompt queue moves) :=
  decidablePrompt queue moves

theorem prompt_append {queue : EventQueue ι} {front rest : List (Move ι)} :
    Prompt queue (front ++ rest) ↔ Prompt queue front ∧ Prompt (queue.run front).2 rest := by
  induction front generalizing queue with
  | nil => simp [Prompt, run]
  | cons move front induction => simp only [List.cons_append, Prompt, run, induction, and_assoc]

omit [DecidableEq ι] [Listens ι] in
theorem accepted_append (running : Bool) (front rest : List (Move ι)) :
    accepted running (front ++ rest) =
      accepted running front ++ accepted (front.foldl Move.leaves running) rest := by
  induction front generalizing running with
  | nil => rfl
  | cons move front induction =>
      simp only [List.cons_append, accepted, List.foldl_cons, induction, List.append_assoc]

theorem step_running (queue : EventQueue ι) (move : Move ι) :
    (queue.step move).2.running = move.leaves queue.running := by
  cases move with
  | start => cases hrunning : queue.running <;> simp [step, start, hrunning, Move.leaves]
  | append report => cases hrunning : queue.running <;> simp [step, append, hrunning, Move.leaves]
  | deliver other =>
      simp only [step, deliver, Move.leaves]
      split <;> rfl
  | killAndDrain =>
      cases hjoinable : queue.joinable with
      | true => simp [step, killAndDrain_of_joinable hjoinable, Move.leaves]
      | false => simp [step, killAndDrain_of_not_joinable hjoinable, kill, Move.leaves]
  | settle => simp [step, settle, Move.leaves]
  | addListener => rfl
  | removeListener => rfl
  | kill => rfl

theorem run_running (queue : EventQueue ι) (moves : List (Move ι)) :
    (queue.run moves).2.running = moves.foldl Move.leaves queue.running := by
  induction moves generalizing queue with
  | nil => rfl
  | cons move rest induction => simp only [run, List.foldl_cons, induction, step_running]

omit [DecidableEq ι] [Listens ι] in
theorem line_of_waiting {queue : EventQueue ι} (hwaiting : queue.waiting = []) (course : Nat) :
    queue.line course = [] := by
  unfold line
  cases hline : queue.courses[course]? with
  | none => rfl
  | some reports => exact List.flatten_eq_nil_iff.mp hwaiting reports (List.mem_of_getElem? hline)

omit [DecidableEq ι] [Listens ι] in
theorem line_of_length {queue : EventQueue ι} (hnone : queue.courses.length = 0) (course : Nat) :
    queue.line course = [] := by
  rw [line, List.getElem?_eq_none (by omega)]
  rfl

/-- Nothing waits but in the last course. -/
structure Single (queue : EventQueue ι) : Prop where
  older : ∀ course, course + 1 < queue.courses.length → queue.line course = []
  opened : queue.running = true → 0 < queue.courses.length

namespace Single

variable {queue : EventQueue ι}

omit [DecidableEq ι] [Listens ι] in
theorem line_of_ne (h : Single queue) {course : Nat} (hcourse : course ≠ queue.last) :
    queue.line course = [] := by
  by_cases hknown : course < queue.courses.length
  · refine h.older course ?_
    unfold last at hcourse
    omega
  · rw [line, List.getElem?_eq_none (Nat.le_of_not_lt hknown)]
    rfl

omit [DecidableEq ι] [Listens ι] in
theorem waiting_eq (h : Single queue) : queue.waiting = queue.line queue.last := by
  unfold waiting line last
  rcases List.eq_nil_or_concat queue.courses with hnone | ⟨front, reports, hcourses⟩
  · simp [hnone]
  · have hfront : front.flatten = [] := by
      rw [List.flatten_eq_nil_iff]
      intro other hmem
      obtain ⟨course, hlt, rfl⟩ := List.getElem_of_mem hmem
      have hline := h.older course (by simp [hcourses]; omega)
      simpa [line, hcourses, List.getElem?_append_left hlt, hlt] using hline
    simp [hcourses, hfront]

omit [DecidableEq ι] [Listens ι] in
theorem handed_of_ne (h : Single queue) {course : Nat} (hcourse : course ≠ queue.last)
    (move : Move ι) :
    queue.handed course move = [] := by
  cases move <;> simp [handed, h.line_of_ne hcourse]

/-- All deliveries are those of the last course. -/
theorem step_made_eq (h : Single queue) (move : Move ι) :
    (queue.step move).1 =
      (queue.handed queue.last move).flatMap (handOut queue.listeners queue.last) := by
  rw [← queue.step_made queue.last move, eq_comm, List.filter_eq_self]
  intro delivery hmade
  by_contra hother
  have hfilter := queue.step_made delivery.course move
  rw [h.handed_of_ne (by simpa using hother), List.flatMap_nil, List.filter_eq_nil_iff] at hfilter
  exact hfilter delivery hmade (by simp)

/-- A start that takes effect finds nothing waiting; every other move leaves the older courses as
they are, empty. -/
theorem step (h : Single queue) {move : Move ι}
    (hprompt : move = .start → queue.running = false → queue.waiting = []) :
    Single (queue.step move).2 where
  older course hcourse := by
    rw [step_courses] at hcourse
    by_cases hstart : move = .start ∧ queue.running = false
    · rw [if_pos hstart] at hcourse
      obtain ⟨rfl, hstopped⟩ := hstart
      simp only [EventQueue.step]
      rw [line_start queue (by omega)]
      exact line_of_waiting (hprompt rfl hstopped) course
    · rw [if_neg hstart, Nat.add_zero] at hcourse
      have hline := step_line (Nat.lt_of_succ_lt hcourse) move
      have htakes : queue.takes course = false := by
        simp [takes]
        omega
      rw [h.older course hcourse, htakes] at hline
      exact (List.append_eq_nil_iff.mp hline).2
  opened hrunning := by
    rw [step_courses]
    by_cases hstart : move = .start ∧ queue.running = false
    · rw [if_pos hstart]
      exact Nat.succ_pos _
    · rw [step_running] at hrunning
      refine Nat.lt_of_lt_of_le (h.opened ?_) (Nat.le_add_right _ _)
      cases move <;> simp_all [Move.leaves]

/-- What is handed out leaves the line, and what is accepted joins it. -/
theorem waiting_step (h : Single queue) {move : Move ι}
    (hprompt : move = .start → queue.running = false → queue.waiting = []) :
    queue.handed queue.last move ++ (queue.step move).2.waiting =
      queue.waiting ++ if queue.running then move.arrival else [] := by
  have hnext := h.step hprompt
  by_cases hstart : move = .start ∧ queue.running = false
  · obtain ⟨rfl, hstopped⟩ := hstart
    have hwaiting := hprompt rfl hstopped
    have hopened : (queue.step .start).2.waiting = queue.waiting := by
      simp [EventQueue.step, start, hstopped, waiting]
    rw [hopened, hwaiting, hstopped]
    rfl
  · have hlast : (queue.step move).2.last = queue.last := by
      rw [last, step_courses, if_neg hstart]
      rfl
    rw [hnext.waiting_eq, hlast, h.waiting_eq]
    by_cases hknown : queue.last < queue.courses.length
    · rw [step_line hknown]
      have htakes : queue.takes queue.last = queue.running := by
        have hlength : queue.courses.length = queue.last + 1 := by
          unfold last at hknown ⊢
          omega
        simp [takes, hlength]
      rw [htakes]
    · have hnone : queue.courses.length = 0 := by
        unfold last at hknown
        omega
      have hstopped : queue.running = false := by
        cases hrunning : queue.running with
        | false => rfl
        | true => exact absurd (h.opened hrunning) (by omega)
      have hstill : (queue.step move).2.courses.length = 0 := by
        rw [step_courses, if_neg hstart, hnone]
      rw [handed_of_le (by omega), line_of_length hnone, line_of_length hstill, hstopped]
      rfl

end Single

omit [DecidableEq ι] [Listens ι] in
theorem single_new : Single ({} : EventQueue ι) where
  older _ hcourse := nomatch hcourse
  opened hrunning := nomatch hrunning

/-- What the courses hand out, one after the other. -/
theorem run_single {queue : EventQueue ι} (h : Single queue) {moves : List (Move ι)}
    (hprompt : Prompt queue moves) :
    Single (queue.run moves).2 ∧
    ∃ handed : List (List Report), handed.length = moves.length ∧
      (∀ index made, (queue.run moves).1[index]? = some made →
        ∃ (reports : List Report) (course : Nat), handed[index]? = some reports ∧
          (course < (queue.run (moves.take index)).2.courses.length ∨ reports = []) ∧
          made = reports.flatMap (handOut (registered queue.listeners (moves.take index)) course)) ∧
      ∀ count, (handed.take count).flatten ++ (queue.run (moves.take count)).2.waiting =
        queue.waiting ++ accepted queue.running (moves.take count) := by
  induction moves generalizing queue with
  | nil => exact ⟨h, [], rfl, by simp [run], by simp [run, accepted]⟩
  | cons move rest induction =>
      obtain ⟨hsingle, handed, hlength, hmade, hwaiting⟩ := induction (h.step hprompt.1) hprompt.2
      refine ⟨hsingle, queue.handed queue.last move :: handed, by simp [hlength], ?_, ?_⟩
      · intro index made hindex
        cases index with
        | zero =>
            cases hindex
            refine ⟨_, queue.last, rfl, ?_, h.step_made_eq move⟩
            exact (Nat.lt_or_ge queue.last queue.courses.length).imp_right
              fun hnone => handed_of_le hnone move
        | succ index =>
            obtain ⟨reports, course, hreports, hcourse, hcalls⟩ := hmade index made hindex
            refine ⟨reports, course, hreports, hcourse, ?_⟩
            rw [hcalls, step_listeners]
            rfl
      · intro count
        cases count with
        | zero => simp [run, accepted]
        | succ count =>
            simp only [List.take_succ_cons, List.flatten_cons, run, accepted]
            rw [List.append_assoc, hwaiting, ← List.append_assoc, h.waiting_step hprompt.1,
              step_running, List.append_assoc]

/-- Up to the next start that takes effect the last course stays the last one. That start finds
nothing waiting. -/
theorem last_or_empty {queue : EventQueue ι} {moves : List (Move ι)}
    (hprompt : Prompt queue moves) :
    (queue.run moves).2.last = queue.last ∨
      ∃ count, (queue.run (moves.take count)).2.waiting = [] := by
  induction moves generalizing queue with
  | nil => exact .inl rfl
  | cons move rest induction =>
      by_cases hstart : move = .start ∧ queue.running = false
      · exact .inr ⟨0, hprompt.1 hstart.1 hstart.2⟩
      · rcases induction hprompt.2 with hsame | ⟨count, hempty⟩
        · refine .inl (hsame.trans ?_)
          rw [last, step_courses, if_neg hstart]
          rfl
        · exact .inr ⟨count + 1, hempty⟩

omit [Listens ι] in
theorem seen_flatten (listener : ι) (calls : List (List (Delivery ι))) :
    seen listener calls.flatten = (calls.map (seen listener)).flatten := by
  simp only [seen, List.filter_flatten, List.map_flatten, List.map_map]
  rfl

/-- A listener that is registered once sees each report once. -/
theorem seen_handOut {listener : ι} {listeners : List ι} (honce : listeners.count listener = 1)
    (course : Nat) (reports : List Report) :
    seen listener (reports.flatMap (handOut listeners course)) = reports := by
  induction reports with
  | nil => rfl
  | cons report rest induction =>
      have hcalls : seen listener (handOut listeners course report) =
          List.replicate (listeners.count listener) report := by
        rw [List.eq_replicate_iff]
        simp only [seen, handOut_eq_map, List.filter_map, List.length_map,
          List.count_eq_length_filter]
        exact ⟨rfl, by simp⟩
      simp only [List.flatMap_cons, seen, List.filter_append, List.map_append] at induction hcalls ⊢
      rw [induction, hcalls, honce]
      rfl

/-- Where a course has ended that was the last one earlier, there was a time since at which nothing
waited. -/
theorem empty_of_hasEnded {earlier later : List (Move ι)} (hprompt : Prompt {} (earlier ++ later))
    (hended : (outcome (earlier ++ later)).2.hasEnded (outcome earlier).2.last = true) :
    ∃ count, (outcome (earlier ++ later.take count)).2.waiting = [] := by
  simp only [outcome, run_append]
  rcases last_or_empty (prompt_append.mp hprompt).2 with hlast | hempty
  · refine ⟨later.length, ?_⟩
    have hsingle := (run_single single_new hprompt).1
    simp only [hasEnded, Bool.and_eq_true, List.isEmpty_iff, outcome, run_append] at hended
    rw [run_append] at hsingle
    rw [List.take_length, hsingle.waiting_eq, hlast]
    exact hended.2
  · exact hempty

theorem waiting_of_killAndDrain {history : List (Move ι)} (hprompt : Prompt {} history)
    (hlast : history.getLast? = some .killAndDrain) :
    (outcome history).2.waiting = [] := by
  have hsingle := (run_single single_new hprompt).1
  obtain ⟨front, rfl⟩ := List.getLast?_eq_some_iff.mp hlast
  have hdrained : (outcome front).2.Drained :=
    run_drained (fun _ => ⟨rfl, fun _ _ => rfl⟩) front
  have hcourses := step_courses (outcome front).2 .killAndDrain
  rw [if_neg fun hstart => nomatch hstart.1, Nat.add_zero] at hcourses
  rw [run_append] at hsingle
  rw [outcome, run_append, hsingle.waiting_eq]
  by_cases hnone : (outcome front).2.courses.length = 0
  · exact line_of_length (hcourses.trans hnone) _
  · refine hdrained.line_killAndDrain ?_
    simp only [last, run, outcome] at hcourses hnone ⊢
    omega

/-- Where every start that takes effect finds nothing waiting, the listeners see the accepted
reports in the order in which they came, whatever the order in which the courses have their turns.
When the course has ended that was the last one at some time, all that was accepted up to then has
been handed out, so draining the queue waits for all of it. -/
theorem order_across_restarts (history : List (Move ι)) (hprompt : Prompt {} history) :
    ∃ handed : List (List Report), handed.length = history.length ∧
      (∀ (index : Nat) (made : List (Delivery ι)), (outcome history).1[index]? = some made →
        ∃ reports : List Report, handed[index]? = some reports ∧
          made.map (fun delivery => (delivery.listener, delivery.report)) =
            reports.flatMap fun report =>
              (registered [] (history.take index)).map (·, report)) ∧
      handed.flatten ++ (outcome history).2.waiting = accepted false history ∧
      (∀ listener,
        (∀ index < history.length, .start ∈ history.take index →
          (registered [] (history.take index)).count listener = 1) →
        seen listener (outcome history).1.flatten = handed.flatten) ∧
      (∀ earlier later, history = earlier ++ later →
        (outcome history).2.hasEnded (outcome earlier).2.last = true →
        accepted false earlier <+: handed.flatten) ∧
      (history.getLast? = some .killAndDrain → handed.flatten = accepted false history) := by
  obtain ⟨hsingle, handed, hlength, hmade, hwaiting⟩ := run_single single_new hprompt
  have hwhole : handed.flatten ++ (outcome history).2.waiting = accepted false history := by
    have hall := hwaiting history.length
    rw [List.take_of_length_le (Nat.le_of_eq hlength), List.take_length] at hall
    exact hall
  refine ⟨handed, hlength, ?_, hwhole, ?_, ?_, ?_⟩
  · intro index made hindex
    obtain ⟨reports, course, hreports, -, hcalls⟩ := hmade index made hindex
    refine ⟨reports, hreports, ?_⟩
    rw [hcalls, List.map_flatMap]
    simp only [handOut_eq_map, List.map_map]
    rfl
  · intro listener honce
    rw [seen_flatten]
    refine congrArg List.flatten (List.ext_getElem ?_ fun index hcalls hhanded => ?_)
    · rw [List.length_map, hlength]
      exact length_run _ _
    · rw [List.length_map] at hcalls
      have hindex : index < history.length := Nat.lt_of_lt_of_eq hcalls (length_run _ _)
      obtain ⟨reports, course, hreports, hcourse, hmade⟩ :=
        hmade index _ (List.getElem?_eq_getElem hcalls)
      rw [List.getElem?_eq_getElem hhanded, Option.some.injEq] at hreports
      rw [List.getElem_map, hreports, hmade]
      rcases hcourse with hknown | rfl
      · obtain ⟨earlier, later, htake, -⟩ := exists_start hknown
        exact seen_handOut (honce index hindex (by simp [htake])) course reports
      · rfl
  · rintro earlier later rfl hended
    obtain ⟨count, hempty⟩ := empty_of_hasEnded hprompt hended
    have hthen := hwaiting (earlier.length + count)
    rw [List.take_length_add_append] at hthen
    simp only [outcome] at hempty
    rw [hempty, List.append_nil, accepted_append] at hthen
    have hearlier : accepted false earlier <+: (handed.take (earlier.length + count)).flatten := by
      rw [hthen]
      exact List.prefix_append _ _
    refine hearlier.trans ⟨(handed.drop (earlier.length + count)).flatten, ?_⟩
    rw [← List.flatten_append, List.take_append_drop]
  · intro hlast
    rw [← hwhole, waiting_of_killAndDrain hprompt hlast, List.append_nil]

/-- A restart that finds nothing waiting, with the courses having their turns in between: what comes
after the kill is not accepted, and draining the queue waits for the second course too. -/
theorem order_across_restarts_twice :
    let mail (count : UInt32) : Report := ⟨none, .newMail count⟩
    let history : List (Move String) :=
      [.addListener "ear", .append (mail 0), .start, .append (mail 1), .append (mail 2), .deliver 0,
        .kill, .append (mail 3), .deliver 0, .start, .append (mail 4), .deliver 0, .append (mail 5),
        .deliver 1, .killAndDrain]
    Prompt {} history ∧
      seen "ear" (outcome history).1.flatten = [mail 1, mail 2, mail 4, mail 5] := by
  intro mail history
  have hprompt : Prompt {} history := by decide +kernel
  have honce : ∀ index < history.length, .start ∈ history.take index →
      (registered [] (history.take index)).count "ear" = 1 := by decide +kernel
  obtain ⟨handed, -, -, -, hseen, -, hdrained⟩ := order_across_restarts history hprompt
  exact ⟨hprompt, (hseen "ear" honce).trans (hdrained rfl)⟩

/-- Otherwise the order is lost: a queue that is started again while reports wait can hand out a new
one before them. -/
theorem overtakes (queue : EventQueue ι) (hstopped : queue.running = false) (report : Report) :
    let (made, later) := queue.run [.start, .append report, .deliver queue.courses.length]
    made.flatten = handOut queue.listeners queue.courses.length report ∧
      later.waiting = queue.waiting := by
  simp [run, step, start, append, deliver, waiting, hstopped, List.modify_eq_set]

/-- The reports that wait in the first course take two turns, those of the second course one.
Whoever drains the queue waits for the second course only. -/
theorem order_lost_across_restarts :
    let mail (count : Nat) : Report := ⟨none, .newMail (.ofNat count)⟩
    let history : List (Move String) :=
      [.addListener "ear", .start] ++ (List.range 129).map (fun count => .append (mail count)) ++
        [.kill, .start, .append (mail 129)]
    accepted false history = (List.range 130).map mail ∧
      seen "ear" (outcome (history ++ [.settle])).1.flatten =
        (List.range 128).map mail ++ [mail 129, mail 128] ∧
      (outcome (history ++ [.killAndDrain])).2.waiting = [mail 128] := by
  decide +kernel

end Messenger.EventQueue
