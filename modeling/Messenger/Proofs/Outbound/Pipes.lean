import Messenger.Proofs.Outbound.Journal

/-!
The connections of an outbox and its journal in step: what a connection has taken is what its writer
is done with and, behind it, what waits in line.
-/

namespace Messenger

open Command (Attached sessionIdAfter)
open Journal (commands)

/-- The frames a connection is given to write, each with the session id of its moment. -/
def Journal.frames (index : Nat) (journal : List Posting) : List Text.Bytes :=
  (finished index journal).flatMap fun (outgoing, sessionId) =>
    (Frame.encode { outgoing.packet with sessionId }).toOption.toList

structure Connection.Carries (connection : Connection Nat) (index : Nat)
    (journal : List Posting) : Prop where
  line : Journal.accepted index journal =
    (Journal.finished index journal).map Prod.fst ++ connection.queue
  written : connection.written = Journal.frames index journal
  takes : connection.writeError? = none
  unread : connection.reader = .stopped
  closed : connection.closed = true →
    connection.queue = [] ∧ ¬ Attached (commands journal) index

structure Link.Piped (link : Link Nat) (journal : List Posting) : Prop where
  count : link.connections.length = (commands journal).count .attach
  writer : ∀ index, link.writer = some index ↔ Attached (commands journal) index
  sessionId : link.sessionId = sessionIdAfter (commands journal)
  carries : ∀ index (connection : Connection Nat), link.connections[index]? = some connection →
    connection.Carries index journal
  absent : ∀ index, link.connections.length ≤ index →
    Journal.accepted index journal = [] ∧ Journal.finished index journal = []
  lawful : Lawful journal

theorem Connection.Carries.later {connection : Connection Nat} {index : Nat}
    {journal later : List Posting} (h : connection.Carries index journal)
    (haccepted : Journal.accepted index later = Journal.accepted index journal)
    (hfinished : Journal.finished index later = Journal.finished index journal)
    (hattached : Attached (commands later) index → Attached (commands journal) index) :
    connection.Carries index later where
  line := by rw [haccepted, hfinished, h.line]
  written := by rw [h.written, Journal.frames, Journal.frames, hfinished]
  takes := h.takes
  unread := h.unread
  closed := fun hclosed => ⟨(h.closed hclosed).1, fun hlater =>
    (h.closed hclosed).2 (hattached hlater)⟩

namespace Link.Piped

variable {link : Link Nat} {journal : List Posting}

theorem empty : Piped {} [] where
  count := rfl
  writer := by
    intro index
    constructor
    · intro h
      cases h
    · rintro ⟨earlier, since, hsplit, -⟩
      simp [commands] at hsplit
  sessionId := rfl
  carries := by
    intro index connection h
    simp at h
  absent := fun index _ => ⟨rfl, rfl⟩
  lawful := by
    intro before posting after h
    simp at h

theorem attached_note {posting : Posting}
    (hcommand : ∀ command, posting.command? = some command → command.isSending = true)
    (index : Nat) :
    Attached (commands (journal ++ [posting])) index ↔ Attached (commands journal) index := by
  rw [Journal.commands_append]
  cases h : posting.command? with
  | none => simp
  | some command =>
      have hsending := hcommand command h
      apply Command.attached_append_of_ne <;> rintro rfl <;> cases hsending

theorem carries_note (h : Piped link journal) {posting : Posting}
    (haccepted : ∀ index, posting.acceptedOn? index = none)
    (hfinished : ∀ index, posting.finishedOn? index = none) {index : Nat}
    {connection : Connection Nat} (hconnection : link.connections[index]? = some connection)
    (hattached : Attached (commands (journal ++ [posting])) index →
      Attached (commands journal) index) :
    connection.Carries index (journal ++ [posting]) :=
  (h.carries index connection hconnection).later (by simp [haccepted]) (by simp [hfinished])
    hattached

theorem absent_note (h : Piped link journal) {posting : Posting} {index : Nat}
    (haccepted : posting.acceptedOn? index = none) (hfinished : posting.finishedOn? index = none)
    (hindex : link.connections.length ≤ index) :
    Journal.accepted index (journal ++ [posting]) = [] ∧
      Journal.finished index (journal ++ [posting]) = [] := by
  simpa [haccepted, hfinished] using h.absent index hindex

theorem note (h : Piped link journal) {posting : Posting} (hfits : posting.Fits journal)
    (hcommand : ∀ command, posting.command? = some command → command.isSending = true)
    (haccepted : ∀ index, posting.acceptedOn? index = none)
    (hfinished : ∀ index, posting.finishedOn? index = none) :
    Piped link (journal ++ [posting]) where
  count := by
    rw [h.count, Journal.commands_append]
    cases hposting : posting.command? with
    | none => simp
    | some command =>
        have hsending := hcommand command hposting
        cases command with
        | execute request => simp
        | submit packet => simp
        | _ => cases hsending
  writer := fun index => (h.writer index).trans (attached_note hcommand index).symm
  sessionId := by
    rw [h.sessionId, Journal.commands_append]
    cases hposting : posting.command? with
    | none => simp
    | some command =>
        have hsending := hcommand command hposting
        cases command with
        | execute request => simp [sessionIdAfter, Command.sessionId?]
        | submit packet => simp [sessionIdAfter, Command.sessionId?]
        | _ => cases hsending
  carries := fun index _ hconnection =>
    h.carries_note haccepted hfinished hconnection (attached_note hcommand index).mp
  absent := fun index => h.absent_note (haccepted index) (hfinished index)
  lawful := h.lawful.append hfits

theorem getElem?_modify (link : Link Nat) (index position : Nat)
    (change : Connection Nat → Connection Nat) :
    (link.modify index change).connections[position]? =
      (link.connections[position]?).map fun connection =>
        if position = index then change connection else connection := by
  unfold Link.modify
  rw [List.getElem?_modify]
  cases link.connections[position]? with
  | none => rfl
  | some connection => by_cases h : index = position <;> simp [h, eq_comm]

/-- What is posted of a packet on one connection leaves the others as they are. -/
theorem modify (h : Piped link journal) {posting : Posting} {index : Nat}
    {connection : Connection Nat} (hconnection : link.connections[index]? = some connection)
    (change : Connection Nat → Connection Nat)
    (hcarries : (change connection).Carries index (journal ++ [posting]))
    (hcommand : posting.command? = none) (hfits : posting.Fits journal)
    (haccepted : ∀ position, position ≠ index → posting.acceptedOn? position = none)
    (hfinished : ∀ position, position ≠ index → posting.finishedOn? position = none) :
    Piped (link.modify index change) (journal ++ [posting]) where
  count := by simpa [Link.modify, hcommand] using h.count
  writer := by simpa [Link.modify, hcommand] using h.writer
  sessionId := by simpa [Link.modify, hcommand] using h.sessionId
  carries := by
    intro position later hlater
    rw [getElem?_modify] at hlater
    obtain ⟨before, hbefore, rfl⟩ := Option.map_eq_some_iff.mp hlater
    by_cases hposition : position = index
    · subst hposition
      rw [hconnection] at hbefore
      cases hbefore
      rwa [if_pos rfl]
    · rw [if_neg hposition]
      exact (h.carries position before hbefore).later (by simp [haccepted position hposition])
        (by simp [hfinished position hposition]) (by simp [hcommand])
  absent := by
    intro position hlength
    have hbound : link.connections.length ≤ position := by simpa [Link.modify] using hlength
    have hlt := (List.getElem?_eq_some_iff.mp hconnection).1
    have hne : position ≠ index := by omega
    exact h.absent_note (haccepted position hne) (hfinished position hne) hbound
  lawful := h.lawful.append hfits

theorem exists_connection (h : Piped link journal) {index : Nat}
    (hattached : Attached (commands journal) index) :
    ∃ connection, link.connections[index]? = some connection := by
  have hlt : index < link.connections.length := h.count ▸ hattached.lt_count
  exact ⟨_, List.getElem?_eq_getElem hlt⟩

theorem enqueue (h : Piped link journal) {index : Nat} (hwriter : link.writer = some index)
    {outgoing : Outgoing Nat} (hprompted : Prompted journal outgoing.reply) :
    Piped (link.enqueue index outgoing) (journal ++ [.accepted index outgoing]) := by
  have hattached := (h.writer index).mp hwriter
  obtain ⟨connection, hconnection⟩ := h.exists_connection hattached
  have hcarries := h.carries index connection hconnection
  have hopen : connection.closed = false :=
    Bool.eq_false_iff.mpr fun hclosed => (hcarries.closed hclosed).2 hattached
  refine h.modify hconnection _ ?_ rfl ⟨hprompted, hattached⟩
    (fun position hne => if_neg hne.symm) fun _ _ => rfl
  exact {
    line := by simp [Posting.acceptedOn?, Posting.finishedOn?, hcarries.line]
    written := by simpa [Journal.frames, Posting.finishedOn?] using hcarries.written
    takes := hcarries.takes
    unread := hcarries.unread
    closed := fun hclosed => by simp [hopen] at hclosed }

/-- The writer of a connection is done with the first packet in its line. -/
theorem writeNext (h : Piped link journal) {index : Nat} {written : Link.Written Nat}
    {next : Link Nat} (hnext : link.writeNext? index = some (written, next)) :
    ∃ connection rest, link.connections[index]? = some connection ∧
      connection.queue = written.outgoing :: rest ∧
      written.result = written.outgoing.packet.sendResult ∧
      Piped next (journal ++
        [.finished index written.outgoing next.sessionId written.result]) := by
  obtain ⟨connection, rest, hconnection, hqueue, hresult, rfl⟩ := Link.writeNext?_cases hnext
  have hcarries := h.carries index connection hconnection
  have htakes : { connection with queue := rest }.writeError? = none := hcarries.takes
  rw [Connection.write_of_takes htakes] at hresult
  refine ⟨connection, rest, hconnection, hqueue, hresult.symm, ?_⟩
  rw [Connection.write_of_takes htakes]
  refine h.modify hconnection _ ?_ rfl ⟨h.sessionId, hresult.symm⟩ (fun _ _ => rfl)
    fun position hne => if_neg hne.symm
  exact {
    line := by simp [Posting.acceptedOn?, Posting.finishedOn?, hcarries.line, hqueue]
    written := by
      simp [Journal.frames, Posting.finishedOn?, hcarries.written, Link.modify]
    takes := htakes
    unread := hcarries.unread
    closed := fun hclosed => by
      have hempty := (hcarries.closed hclosed).1
      rw [hqueue] at hempty
      cases hempty }

theorem attach (h : Piped link journal) :
    Piped (link.attach { reader := .stopped }) (journal ++ [.asked .attach]) where
  count := by simp [Link.attach, Posting.command?, h.count]
  writer := by
    intro index
    simp [Link.attach, Posting.command?, Command.attached_attach, h.count, eq_comm]
  sessionId := by
    simpa [Link.attach, Posting.command?, sessionIdAfter, Command.sessionId?] using h.sessionId
  carries := by
    intro index connection hconnection
    by_cases hindex : index < link.connections.length
    · have hbefore : link.connections[index]? = some connection := by
        simpa [Link.attach, List.getElem?_append_left hindex] using hconnection
      refine h.carries_note (fun _ => rfl) (fun _ => rfl) hbefore fun hattached => ?_
      have hcount : index = (commands journal).count .attach := by
        simpa [Posting.command?, Command.attached_attach] using hattached
      rw [h.count] at hindex
      omega
    · obtain ⟨haccepted, hfinished⟩ := h.absent index (Nat.le_of_not_lt hindex)
      have hnew : connection = { reader := .stopped } := by
        rw [Link.attach, List.getElem?_append_right (Nat.le_of_not_lt hindex)] at hconnection
        obtain ⟨_, hvalue⟩ := List.getElem?_eq_some_iff.mp hconnection
        simpa using hvalue.symm
      subst hnew
      exact {
        line := by simp [Posting.acceptedOn?, Posting.finishedOn?, haccepted, hfinished]
        written := by simp [Journal.frames, Posting.finishedOn?, hfinished]
        takes := rfl
        unread := rfl
        closed := fun hclosed => by cases hclosed }
  absent := by
    intro index hindex
    refine h.absent_note rfl rfl ?_
    simp only [Link.attach, List.length_append, List.length_singleton] at hindex
    omega
  lawful := h.lawful.append trivial

theorem detach (h : Piped link journal) :
    Piped link.detach (journal ++ [.asked .detach]) where
  count := by simpa [Link.detach, Posting.command?] using h.count
  writer := by
    intro index
    simp [Link.detach, Posting.command?, Command.attached_detach]
  sessionId := by
    simpa [Link.detach, Posting.command?, sessionIdAfter, Command.sessionId?] using h.sessionId
  carries := by
    intro index connection hconnection
    refine h.carries_note (fun _ => rfl) (fun _ => rfl) hconnection fun hattached => ?_
    simp [Posting.command?, Command.attached_detach] at hattached
  absent := fun _ => h.absent_note rfl rfl
  lawful := h.lawful.append trivial

theorem identify (h : Piped link journal) (sessionId : UInt32) :
    Piped { link with sessionId } (journal ++ [.asked (.identify sessionId)]) where
  count := by simpa [Posting.command?] using h.count
  writer := by
    intro index
    simpa [Posting.command?, Command.attached_append_of_ne] using h.writer index
  sessionId := by simp [Posting.command?, sessionIdAfter, Command.sessionId?]
  carries := by
    intro index connection hconnection
    refine h.carries_note (fun _ => rfl) (fun _ => rfl) hconnection fun hattached => ?_
    simpa [Posting.command?, Command.attached_append_of_ne] using hattached
  absent := fun _ => h.absent_note rfl rfl
  lawful := h.lawful.append trivial

/-- A writer that is done lets go of its connection. -/
theorem close (h : Piped link journal) (index : Nat) : Piped (link.close index) journal := by
  unfold Link.close
  split
  · rename_i hcan
    exact {
      count := by simpa [Link.modify] using h.count
      writer := h.writer
      sessionId := h.sessionId
      carries := by
        intro position connection hconnection
        rw [getElem?_modify] at hconnection
        obtain ⟨before, hbefore, rfl⟩ := Option.map_eq_some_iff.mp hconnection
        have hcarries := h.carries position before hbefore
        by_cases hposition : position = index
        · subst hposition
          simp only [Link.canClose, hbefore, Bool.and_eq_true, bne_iff_ne, ne_eq,
            List.isEmpty_iff] at hcan
          rw [if_pos rfl]
          exact {
            line := hcarries.line
            written := hcarries.written
            takes := hcarries.takes
            unread := hcarries.unread
            closed := fun _ => ⟨hcan.2, fun hattached =>
              hcan.1.2 ((h.writer position).mpr hattached)⟩ }
        · rw [if_neg hposition]
          exact hcarries
      absent := fun position hposition =>
        h.absent position (by simpa [Link.modify] using hposition)
      lawful := h.lawful }
  · exact h

end Link.Piped

end Messenger
