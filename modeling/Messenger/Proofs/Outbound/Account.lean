import Messenger.Proofs.Outbound.Progress
import Messenger.Proofs.Outbound.Turns

/-!
Whatever is asked of an outbox and however its writers take their turns, what is read at the other
end of a connection is what the connection has taken, in the order it was handed in, and each sender
has one outcome.
-/

namespace Messenger

open Command (Attached executed submitted)
open Journal (commands about)

theorem Journal.read_frames (index : Nat) (journal : List Posting) :
    (∀ frame ∈ frames index journal, Frame.IsWhole frame) ∧
      ((frames index journal).map fun frame =>
        (Frame.decodeWhole frame).mapError ReadError.malformed) =
          (received index journal).map .ok := by
  unfold frames received
  induction finished index journal with
  | nil => exact ⟨nofun, rfl⟩
  | cons entry rest induction =>
      obtain ⟨hwhole, hread⟩ := Frame.read_stamped entry.1.packet entry.2
      simp only [List.flatMap_cons, List.map_append, hread, induction.2, List.mem_append, and_true]
      exact fun frame hframe => hframe.elim (hwhole frame) (induction.1 frame)

theorem Connection.Carries.view_eq_ended {connection : Connection Nat} {index : Nat}
    {journal : List Posting} (h : connection.Carries index journal) :
    connection.view = .ended ↔ connection.closed = true := by
  have hserver : connection.serverGone = false := by
    have htakes := h.takes
    unfold writeError? at htakes
    cases hfault : connection.writeFault with
    | some text => simp [hfault] at htakes
    | none => simpa [hfault] using htakes
  unfold view
  cases hclosed : connection.closed <;> simp [hserver, h.unread]

namespace Outbox

variable {outbox : Outbox}

theorem AtRest.step (h : outbox.AtRest none) (move : Move) :
    (outbox.step move).AtRest none ∧
      commands (outbox.step move).journal =
        commands outbox.journal ++ move.command?.toList := by
  cases move with
  | ask command => exact h.ask command
  | write connection =>
      cases hwrite : outbox.writeAt? connection with
      | none => simpa [Outbox.step, hwrite, Move.command?] using h
      | some after => simpa [Outbox.step, hwrite, Move.command?] using h.writeAt? hwrite
  | close connection => exact ⟨h.closeAt connection, (List.append_nil _).symm⟩

theorem atRest_empty : ({} : Outbox).AtRest none where
  sound := {
    piped := .empty
    failures := rfl
    tickets := rfl
    requests := rfl
    known := fun _ hposting => absurd hposting List.not_mem_nil
    answered := fun _ _ hresult => by simp at hresult }
  requests := fun _ _ hrequest => by simp [commands, executed] at hrequest
  tickets := fun _ _ hpacket => by simp [commands, submitted] at hpacket

theorem AtRest.run (h : outbox.AtRest none) (moves : List Move) :
    (outbox.run moves).AtRest none ∧
      commands (outbox.run moves).journal =
        commands outbox.journal ++ moves.filterMap Move.command? := by
  induction moves generalizing outbox with
  | nil => exact ⟨h, (List.append_nil _).symm⟩
  | cons move rest induction =>
      obtain ⟨hstep, hcommands⟩ := h.step move
      obtain ⟨hrest, hmore⟩ := induction hstep
      refine ⟨hrest, ?_⟩
      rw [show outbox.run (move :: rest) = (outbox.step move).run rest from rfl, hmore, hcommands,
        List.filterMap_cons, List.append_assoc]
      cases move.command? <;> rfl

/-- What is true at any time of an outbox that has been given these commands. -/
structure Faithful (outbox : Outbox) (given : List Command) : Prop where
  commands : commands outbox.journal = given
  lawful : Lawful outbox.journal
  connections : outbox.link.connections.length = given.count .attach
  line : ∀ index (connection : Connection Nat), outbox.link.connections[index]? = some connection →
    Journal.accepted index outbox.journal =
      (Journal.finished index outbox.journal).map Prod.fst ++ connection.queue
  read : ∀ index (connection : Connection Nat), outbox.link.connections[index]? = some connection →
    let received := Journal.received index outbox.journal
    (∀ finish more, Frame.reads finish received.length (connection.written.flatten ++ more) =
      received.map .ok) ∧
    Frame.reads .closed (received.length + 1) connection.written.flatten =
      received.map .ok ++ [.error .closed]
  ended : ∀ index (connection : Connection Nat), outbox.link.connections[index]? = some connection →
    connection.view = .ended → connection.queue = [] ∧ ¬ Attached given index
  tickets : ∀ ticket packet, (submitted given)[ticket]? = some packet →
    Passage ticket packet (about (.ticket ticket) outbox.journal) (outbox.results.find? ticket)
  requests : ∀ index request, (executed given)[index]? = some request →
    ∃ stage : Stage, stage.Rests ∧
      Stage.Reached index request (about (.request index) outbox.journal) stage
  failures : outbox.failures = outbox.journal.filterMap (Posting.failure? (executed given))

/-- What is true once the writers have nothing left to do. -/
structure Settled (outbox : Outbox) (given : List Command) : Prop where
  line : ∀ index (connection : Connection Nat), outbox.link.connections[index]? = some connection →
    Journal.accepted index outbox.journal =
      (Journal.finished index outbox.journal).map Prod.fst
  ended : ∀ index (connection : Connection Nat), outbox.link.connections[index]? = some connection →
    (connection.view = .ended ↔ ¬ Attached given index)
  tickets : ∀ ticket packet, (submitted given)[ticket]? = some packet →
    ∃ result, outbox.results.find? ticket = some result
  requests : ∀ index request, (executed given)[index]? = some request →
    Stage.Reached index request (about (.request index) outbox.journal) .ended

theorem AtRest.faithful (h : outbox.AtRest none) :
    outbox.Faithful (Journal.commands outbox.journal) where
  commands := rfl
  lawful := h.sound.piped.lawful
  connections := h.sound.piped.count
  line := fun index connection hconnection =>
    (h.sound.piped.carries index connection hconnection).line
  read := by
    intro index connection hconnection received
    obtain ⟨hwhole, hread⟩ := Journal.read_frames index outbox.journal
    have hlength : (Journal.frames index outbox.journal).length = received.length := by
      simpa using congrArg List.length hread
    have hframed : Frame.Framed (Journal.frames index outbox.journal).flatten
        (Journal.frames index outbox.journal) [] :=
      ⟨(List.append_nil _).symm, hwhole, .inl (by decide)⟩
    rw [(h.sound.piped.carries index connection hconnection).written, ← hlength, ← hread]
    exact ⟨fun finish more => Frame.reads_whole hwhole finish more, hframed.reads_eq .closed⟩
  ended := by
    intro index connection hconnection hended
    have hcarries := h.sound.piped.carries index connection hconnection
    exact hcarries.closed (hcarries.view_eq_ended.mp hended)
  tickets := fun ticket packet hpacket => (h.holds hpacket).passage
  requests := fun index request hrequest =>
    (h.tracks hrequest).imp fun _ hstage =>
      ⟨hstage.1, hstage.2.reached⟩
  failures := h.sound.failures

theorem Quiet.queue_eq_nil (h : outbox.Quiet) {index : Nat} {connection : Connection Nat}
    (hconnection : outbox.link.connections[index]? = some connection) : connection.queue = [] := by
  cases hqueue : connection.queue with
  | nil => rfl
  | cons outgoing rest =>
      refine absurd ?_ (h (.write index))
      simp [Due, Outbox.writeAt?, Link.writeNext?, hconnection, hqueue]

/-- Nothing is accepted without being done with. -/
theorem AtRest.accepted_eq (h : outbox.AtRest none) (hquiet : outbox.Quiet) (index : Nat) :
    Journal.accepted index outbox.journal =
      (Journal.finished index outbox.journal).map Prod.fst := by
  cases hconnection : outbox.link.connections[index]? with
  | none =>
      obtain ⟨haccepted, hfinished⟩ :=
        h.sound.piped.absent index (List.getElem?_eq_none_iff.mp hconnection)
      rw [haccepted, hfinished]
      rfl
  | some connection =>
      rw [(h.sound.piped.carries index connection hconnection).line,
        hquiet.queue_eq_nil hconnection, List.append_nil]

theorem AtRest.accepted_about (h : outbox.AtRest none) (hquiet : outbox.Quiet) (index : Nat)
    (reply : Reply Nat) :
    Journal.accepted index (about reply outbox.journal) =
      (Journal.finished index (about reply outbox.journal)).map Prod.fst := by
  rw [Journal.accepted_about, Journal.finished_about, h.accepted_eq hquiet, List.filter_map]
  rfl

theorem AtRest.settled (h : outbox.AtRest none) (hquiet : outbox.Quiet) :
    outbox.Settled (Journal.commands outbox.journal) where
  line := fun index _ _ => h.accepted_eq hquiet index
  ended := by
    intro index connection hconnection
    have hcarries := h.sound.piped.carries index connection hconnection
    rw [hcarries.view_eq_ended]
    refine ⟨fun hclosed => (hcarries.closed hclosed).2, fun hdetached => ?_⟩
    have hwriter : outbox.link.writer ≠ some index :=
      fun hwriter => hdetached ((h.sound.piped.writer index).mp hwriter)
    cases hclosed : connection.closed with
    | true => rfl
    | false =>
        refine absurd ?_ (hquiet (.close index))
        simp [Due, Link.canClose, hconnection, hclosed, hwriter, hquiet.queue_eq_nil hconnection]
  tickets := by
    intro ticket packet hpacket
    have hpassage := (h.holds hpacket).passage
    have hline := fun index => h.accepted_about hquiet index (.ticket ticket)
    generalize about (.ticket ticket) outbox.journal = postings at hpassage hline
    cases hanswer : outbox.results.find? ticket with
    | some result => exact ⟨result, rfl⟩
    | none =>
        rw [hanswer] at hpassage
        cases hpassage with
        | waiting connection =>
            have hwaits := hline connection
            simp [Journal.accepted, Journal.finished, Posting.acceptedOn?, Posting.finishedOn?,
              List.filterMap_cons] at hwaits
  requests := by
    intro index request hrequest
    obtain ⟨stage, hrests, htracks⟩ := h.tracks hrequest
    cases stage with
    | ended => exact htracks.reached
    | waiting position retries connection =>
        have hline := h.accepted_about hquiet connection (.request index)
        rw [htracks.reached.line connection] at hline
        simp [Stage.inLine] at hline
    | ready => cases hrests
    | failed => cases hrests

/-- A new outbox gives a faithful account of the commands it is given, whoever gives them and
whenever writers get to work. Each connection shows the packets that it takes while it is attached,
in the order in which they are handed in; every request and every ticket has one outcome, whatever
becomes of the others; and what is left to do comes to an end, at which a detached connection has
ended for its reader. -/
theorem run_faithful (moves : List Move) :
    let outbox := run {} moves
    let given := moves.filterMap Move.command?
    outbox.Faithful given ∧
    (outbox.Quiet → outbox.Settled given) ∧
    (∃ bound, ∀ work, outbox.Works work → work.length ≤ bound) ∧
    ∃ work, outbox.Works work ∧ (run {} (moves ++ work)).Quiet := by
  intro outbox given
  obtain ⟨hrest, hcommands⟩ := atRest_empty.run moves
  have hgiven : commands outbox.journal = given := hcommands
  refine ⟨hgiven ▸ hrest.faithful, fun hquiet => hgiven ▸ hrest.settled hquiet,
    ⟨outbox.load, fun work hwork => length_of_works hwork⟩, ?_⟩
  obtain ⟨work, hwork, hquiet⟩ := exists_quiet outbox
  refine ⟨work, hwork, ?_⟩
  rw [run, List.foldl_append]
  exact hquiet

/-- The second connection is attached while the first still has a packet without a frame, and
behind it that of a request whose first attempt failed. -/
example :
    let request : Request := {
      name := "late", packet := { service := .keepAlive }, script := [.fail "busy", .packet]
      retries := 1 }
    let outbox := run {} [.ask .attach, .ask (.submit (.request .message [("", "x")])),
      .ask (.execute request), .ask .attach, .ask (.identify 7),
      .ask (.submit { service := .ping }), .write 0, .write 1, .ask (.identify 8), .write 0,
      .close 0]
    Journal.received 0 outbox.journal = [{ service := .keepAlive, sessionId := 8 }] ∧
      Journal.received 1 outbox.journal = [{ service := .ping, sessionId := 7 }] ∧
      outbox.failures = [⟨"late", .build "busy"⟩] ∧
      outbox.link.connections.map Connection.view = [.ended, .openPipe] := by
  cbv

end Outbox

end Messenger
