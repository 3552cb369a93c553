import Messenger.Proofs.Session.Silence

/-!
A rehearsal of a login attempt: the packets that were heard in the course of it are handed to
another session one after the other, without a connection, a clock or a call.
-/

namespace Messenger

open SessionState (Trail)

/-- Whether the session has been left in the course of an attempt, by itself or by the server. -/
def hasLeft (attempt : List Happening) : Bool :=
  decide (.entered .unstarted ∈ attempt)

/-- The packets that come in on a connection, each with whether the session has been left by
then. -/
def heardFrom (connection : Nat) : Bool → List Happening → List (Bool × Packet)
  | _, [] => []
  | left, .received index packet :: rest =>
      if index = connection then (left, packet) :: heardFrom connection left rest
      else heardFrom connection left rest
  | left, happening :: rest =>
      heardFrom connection (left || happening = .entered .unstarted) rest

def heard (connection : Nat) (attempt : List Happening) : List (Bool × Packet) :=
  heardFrom connection false attempt

/-- Whether a happening neither takes in a packet nor begins a login. -/
def Happening.isInner : Happening → Bool
  | .entered state => state ≠ .connecting
  | .received .. => false
  | _ => true

theorem Happening.isInner_of_isSilent {happening : Happening} (h : happening.isSilent = true) :
    happening.isInner = true := by
  cases happening with
  | reported report => rfl
  | _ => exact h

theorem begin_not_mem_of_inner {noted : List Happening}
    (hinner : ∀ happening ∈ noted, happening.isInner = true) :
    .entered .connecting ∉ noted :=
  fun hmem => nomatch hinner _ hmem

@[simp] theorem hasLeft_append (early late : List Happening) :
    hasLeft (early ++ late) = (hasLeft early || hasLeft late) := by
  simp [hasLeft]

theorem hasLeft_of_still {noted : List Happening}
    (hstill : ∀ happening ∈ noted, happening.state?.isNone = true) :
    hasLeft noted = false := by
  refine decide_eq_false fun hmem => ?_
  cases hstill _ hmem

theorem heardFrom_append (connection : Nat) (left : Bool) (early late : List Happening) :
    heardFrom connection left (early ++ late) =
      heardFrom connection left early ++ heardFrom connection (left || hasLeft early) late := by
  induction early generalizing left with
  | nil => simp [heardFrom, hasLeft]
  | cons happening rest induction =>
      cases happening with
      | received index packet =>
          have hleft : hasLeft (.received index packet :: rest) = hasLeft rest := by simp [hasLeft]
          rw [hleft]
          by_cases hindex : index = connection <;> simp [heardFrom, hindex, induction]
      | _ => simp [heardFrom, induction, hasLeft, Bool.or_assoc, eq_comm]

theorem heardFrom_of_inner (connection : Nat) (left : Bool) {noted : List Happening}
    (hinner : ∀ happening ∈ noted, happening.isInner = true) :
    heardFrom connection left noted = [] := by
  induction noted generalizing left with
  | nil => rfl
  | cons happening rest induction =>
      have hrest := fun other hmem => hinner other (List.mem_cons_of_mem happening hmem)
      cases happening with
      | received index packet => cases hinner _ List.mem_cons_self
      | _ => exact induction _ hrest

theorem heard_append_inner (connection : Nat) (attempt : List Happening) {noted : List Happening}
    (hinner : ∀ happening ∈ noted, happening.isInner = true) :
    heard connection (attempt ++ noted) = heard connection attempt := by
  rw [heard, heardFrom_append, heardFrom_of_inner connection _ hinner, List.append_nil]
  rfl

theorem heard_append_received (connection : Nat) (attempt : List Happening) (packet : Packet)
    {noted : List Happening} (hinner : ∀ happening ∈ noted, happening.isInner = true) :
    heard connection (attempt ++ .received connection packet :: noted) =
      heard connection attempt ++ [(hasLeft attempt, packet)] := by
  rw [heard, heardFrom_append, heardFrom, if_pos rfl, heardFrom_of_inner connection _ hinner,
    Bool.false_or]
  rfl

namespace Session

/-- A session that is logged on may be left before the next packet comes in. -/
def leave (session : Session) (left : Bool) : Session :=
  if left && session.state = .loggedOn then session.enter .unstarted else session

def rehearse (session : Session) (packets : List (Bool × Packet)) : Session :=
  packets.foldl (fun session heard => (session.leave heard.1).receive 0 heard.2) session

/-- The rehearsal of the latest attempt that a journal tells of. -/
def rehearsal (session : Session) (connection : Nat) (journal : List Happening) : Session :=
  (session.rehearse (heard connection (latest journal))).leave (hasLeft (latest journal))

theorem leave_of_ne {session : Session} (hstate : session.state ≠ .loggedOn) (left : Bool) :
    session.leave left = session := by
  simp [leave, hstate]

theorem leave_false (session : Session) : session.leave false = session :=
  rfl

theorem told_leave (session : Session) (left : Bool) :
    told (session.leave left).journal = told session.journal := by
  unfold leave
  split
  · exact told_enter session (by decide)
  · rfl

theorem rehearse_concat (session : Session) (packets : List (Bool × Packet)) (left : Bool)
    (packet : Packet) :
    session.rehearse (packets ++ [(left, packet)]) =
      ((session.rehearse packets).leave left).receive 0 packet := by
  simp [rehearse]

section

variable (session : Session) (connection : Nat)

theorem told_rehearsal (journal : List Happening) :
    told (session.rehearsal connection journal).journal =
      told (session.rehearse (heard connection (latest journal))).journal :=
  told_leave _ _

theorem rehearsal_append_inner (journal : List Happening) {noted : List Happening}
    (hinner : ∀ happening ∈ noted, happening.isInner = true) :
    session.rehearsal connection (journal ++ noted) =
      (session.rehearse (heard connection (latest journal))).leave
        (hasLeft (latest journal) || hasLeft noted) := by
  rw [rehearsal, latest_append (begin_not_mem_of_inner hinner), hasLeft_append,
    heard_append_inner connection _ hinner]

/-- A packet that comes in is the next to be rehearsed. -/
theorem rehearsal_append_received (journal : List Happening) (packet : Packet)
    {noted : List Happening} (hinner : ∀ happening ∈ noted, happening.isInner = true) :
    session.rehearsal connection (journal ++ .received connection packet :: noted) =
      ((session.rehearsal connection journal).receive 0 packet).leave
        (hasLeft (latest (journal ++ .received connection packet :: noted))) := by
  have hsame : .entered .connecting ∉ .received connection packet :: noted := by
    simpa using begin_not_mem_of_inner hinner
  rw [rehearsal, latest_append hsame, heard_append_received connection _ packet hinner,
    rehearse_concat]
  rfl

end

theorem Undisturbed.notes {before after : Session} (h : Undisturbed before after) :
    Notes Happening.isInner before after := by
  obtain ⟨noted, hjournal, hnews⟩ := h.journal
  refine ⟨noted, hjournal, fun happening hmem => ?_⟩
  have hreported := hnews happening hmem
  cases happening with
  | reported report => rfl
  | _ => cases hreported

theorem Reacted.notes {before after : Session} {reaction : Reaction} {packet : Packet}
    {result : Except HandlerError Unit} (h : Reacted before reaction packet (after, result)) :
    Notes Happening.isInner before after := by
  cases h with
  | aside hafter hchallenge => exact hafter.notes
  | answered hreaction hstate hvalue hresponse =>
      exact (notes_enter before rfl).trans (notes_enqueue _ _ fun _ => rfl)
  | @refused error hfault =>
      have hmarked : Notes Happening.isInner before { before with failure := some error } :=
        .of_same rfl
      exact hmarked.trans (notes_enter _ rfl)
  | welcomed hreaction htold hstate =>
      exact htold.notes.trans ((notes_enter _ rfl).trans (notes_report _ _ _ rfl))
  | evicted hreaction hstate hbody =>
      exact ((notes_enter before rfl).trans (notes_report _ _ _ rfl)).trans (.of_same rfl)

theorem Handled.notes {before after : Session} {connection : Nat} {packet : Packet}
    (h : Handled before connection packet after) :
    ∃ noted, after.journal = before.journal ++ .received connection packet :: noted ∧
      ∀ happening ∈ noted, happening.isInner = true := by
  have hended : ∀ session : Session, Notes Happening.isInner session (session.note .handled) :=
    fun session => notes_note session rfl
  cases h with
  | unrouted hroute hstanding hschedule hjournal =>
      obtain ⟨noted, hnoted, hinner⟩ := hended _
      refine ⟨noted, ?_, hinner⟩
      rw [hnoted, hjournal, List.append_assoc]
      rfl
  | reacted hroute hstanding hschedule hjournal hreacted =>
      obtain ⟨noted, hnoted, hinner⟩ := hreacted.notes.trans (hended _)
      refine ⟨noted, ?_, hinner⟩
      rw [hnoted, hjournal, List.append_assoc]
      rfl

/-- The default handlers are in place, and the session lives. -/
structure Fit (session : Session) : Prop where
  wired : Wired session.registry.handlers defaultRegistry.collectors
  held : session.held = true

namespace Fit

variable {session : Session}

theorem alive (h : Fit session) : session.alive = true := by
  simp [Session.alive, h.held]

theorem leave (h : Fit session) (left : Bool) : Fit (session.leave left) := by
  unfold Session.leave
  split
  · exact ⟨h.wired, h.held⟩
  · exact h

theorem receive (h : Fit session) (connection : Nat) (packet : Packet) :
    Fit (session.receive connection packet) := by
  have hhandled := receive_handled session connection packet
  refine ⟨?_, hhandled.calls_eq.2.2.trans h.held⟩
  have hhandlers : (session.receive connection packet).registry.handlers =
      session.registry.handlers := hhandled.wiring.1
  rw [hhandlers]
  exact h.wired

theorem rehearse (h : Fit session) (packets : List (Bool × Packet)) :
    Fit (session.rehearse packets) := by
  unfold Session.rehearse
  induction packets generalizing session with
  | nil => exact h
  | cons heard rest induction => exact induction ((h.leave heard.1).receive 0 heard.2)

theorem rehearsal (h : Fit session) (connection : Nat) (journal : List Happening) :
    Fit (session.rehearsal connection journal) :=
  (h.rehearse _).leave _

end Fit

end Session

end Messenger
