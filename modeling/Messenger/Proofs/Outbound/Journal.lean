import Mathlib.Data.List.Basic
import Messenger.Proofs.Outbound.Wire
import Messenger.Outbound.Outbox

/-!
What the journal of an outbox tells: the commands it was given, the packets each connection has
taken and is done with, and all that has happened to one request or one ticket.
-/

namespace Messenger

theorem getElem?_append_toList {α : Type} {list : List α} {last : Option α} {index : Nat}
    {value : α}
    (h : (list ++ last.toList)[index]? = some value) :
    list[index]? = some value ∨ last = some value ∧ index = list.length := by
  by_cases hindex : index < list.length
  · rw [List.getElem?_append_left hindex] at h
    exact .inl h
  · rw [List.getElem?_append_right (Nat.le_of_not_lt hindex)] at h
    obtain ⟨hlast, hvalue⟩ := List.getElem?_eq_some_iff.mp h
    cases last with
    | none => cases hlast
    | some other =>
        simp only [Option.toList_some, List.length_singleton] at hlast
        refine .inr ⟨by simpa using hvalue, by omega⟩

namespace Command

def request? : Command → Option Request
  | .execute request => some request
  | _ => none

def packet? : Command → Option Packet
  | .submit packet => some packet
  | _ => none

def sessionId? : Command → Option UInt32
  | .identify sessionId => some sessionId
  | _ => none

def executed (commands : List Command) : List Request :=
  commands.filterMap request?

def submitted (commands : List Command) : List Packet :=
  commands.filterMap packet?

/-- The session id in force. -/
def sessionIdAfter (commands : List Command) : UInt32 :=
  (commands.filterMap sessionId?).getLast?.getD 0

/-- Connections are numbered as they are attached. One takes packets from then on until it, or
another, is detached or attached. -/
def Attached (commands : List Command) (connection : Nat) : Prop :=
  ∃ earlier since, commands = earlier ++ .attach :: since ∧ earlier.count .attach = connection ∧
    .attach ∉ since ∧ .detach ∉ since

@[simp] theorem executed_append (commands : List Command) (command : Command) :
    executed (commands ++ [command]) = executed commands ++ command.request?.toList := by
  cases h : command.request? <;> simp [executed, h]

@[simp] theorem submitted_append (commands : List Command) (command : Command) :
    submitted (commands ++ [command]) = submitted commands ++ command.packet?.toList := by
  cases h : command.packet? <;> simp [submitted, h]

/-- Where the packets of a command report to. -/
def reply? (earlier : List Command) : Command → Option (Reply Nat)
  | .execute _ => some (.request (executed earlier).length)
  | .submit _ => some (.ticket (submitted earlier).length)
  | _ => none

theorem reply?_of_request? {command : Command} {request : Request} (earlier : List Command)
    (h : command.request? = some request) :
    command.reply? earlier = some (.request (executed earlier).length) := by
  cases command with
  | execute => rfl
  | _ => cases h

theorem reply?_of_packet? {command : Command} {packet : Packet} (earlier : List Command)
    (h : command.packet? = some packet) :
    command.reply? earlier = some (.ticket (submitted earlier).length) := by
  cases command with
  | submit => rfl
  | _ => cases h

/-- Whether a command is for sending, so that it leaves the connections as they are. -/
def isSending : Command → Bool
  | .execute _ => true
  | .submit _ => true
  | _ => false

section Attached

variable {commands : List Command} {connection : Nat}

theorem Attached.lt_count (h : Attached commands connection) :
    connection < commands.count .attach := by
  obtain ⟨earlier, since, rfl, rfl, -, -⟩ := h
  simp only [List.count_append, List.count_cons_self]
  omega

theorem attached_attach :
    Attached (commands ++ [.attach]) connection ↔ connection = commands.count .attach := by
  constructor
  · rintro ⟨earlier, since, hcommands, rfl, hattach, -⟩
    rcases List.eq_nil_or_concat since with rfl | ⟨before, last, rfl⟩
    · rw [(List.append_inj' hcommands rfl).1]
    · rw [List.concat_eq_append, ← List.cons_append, ← List.append_assoc] at hcommands
      have hlast := (List.append_inj' hcommands rfl).2
      rw [List.concat_eq_append, ← hlast] at hattach
      simp at hattach
  · rintro rfl
    exact ⟨commands, [], rfl, rfl, List.not_mem_nil, List.not_mem_nil⟩

theorem attached_detach : ¬ Attached (commands ++ [.detach]) connection := by
  rintro ⟨earlier, since, hcommands, -, -, hdetach⟩
  rcases List.eq_nil_or_concat since with rfl | ⟨before, last, rfl⟩
  · have hlast := (List.append_inj' hcommands rfl).2
    cases hlast
  · rw [List.concat_eq_append, ← List.cons_append, ← List.append_assoc] at hcommands
    have hlast := (List.append_inj' hcommands rfl).2
    rw [List.concat_eq_append, ← hlast] at hdetach
    simp at hdetach

theorem attached_append_of_ne {command : Command} (hattach : command ≠ .attach)
    (hdetach : command ≠ .detach) :
    Attached (commands ++ [command]) connection ↔ Attached commands connection := by
  constructor
  · rintro ⟨earlier, since, hcommands, hcount, hnoattach, hnodetach⟩
    rcases List.eq_nil_or_concat since with rfl | ⟨before, last, rfl⟩
    · have hlast := (List.append_inj' hcommands rfl).2
      exact absurd (List.cons.inj hlast).1 hattach
    · rw [List.concat_eq_append] at hcommands hnoattach hnodetach
      rw [← List.cons_append, ← List.append_assoc] at hcommands
      exact ⟨earlier, before, (List.append_inj' hcommands rfl).1, hcount,
        fun hmem => hnoattach (List.mem_append_left _ hmem),
        fun hmem => hnodetach (List.mem_append_left _ hmem)⟩
  · rintro ⟨earlier, since, rfl, hcount, hnoattach, hnodetach⟩
    exact ⟨earlier, since ++ [command], by simp, hcount, by simp [hnoattach, hattach.symm],
      by simp [hnodetach, hdetach.symm]⟩

end Attached

end Command

open Command (Attached executed submitted sessionIdAfter)

namespace Posting

def command? : Posting → Option Command
  | .asked command => some command
  | _ => none

/-- Whom a posting concerns. -/
def reply? : Posting → Option (Reply Nat)
  | .asked _ => none
  | .fired .. => none
  | .stopped request => some (.request request)
  | .unbuilt request _ => some (.request request)
  | .refused outgoing => some outgoing.reply
  | .accepted _ outgoing => some outgoing.reply
  | .finished _ outgoing _ _ => some outgoing.reply
  | .told request _ => some (.request request)
  | .answered ticket _ => some (.ticket ticket)

def acceptedOn? (index : Nat) : Posting → Option (Outgoing Nat)
  | .accepted connection outgoing => if connection = index then some outgoing else none
  | _ => none

def finishedOn? (index : Nat) : Posting → Option (Outgoing Nat × UInt32)
  | .finished connection outgoing sessionId _ =>
      if connection = index then some (outgoing, sessionId) else none
  | _ => none

theorem reply?_of_acceptedOn? {posting : Posting} {index : Nat} {outgoing : Outgoing Nat}
    (h : posting.acceptedOn? index = some outgoing) : posting.reply? = some outgoing.reply := by
  cases posting with
  | accepted connection taken =>
      obtain ⟨-, rfl⟩ : connection = index ∧ taken = outgoing := by simpa [acceptedOn?] using h
      rfl
  | _ => cases h

theorem reply?_of_finishedOn? {posting : Posting} {index : Nat} {entry : Outgoing Nat × UInt32}
    (h : posting.finishedOn? index = some entry) : posting.reply? = some entry.1.reply := by
  cases posting with
  | finished connection outgoing sessionId result =>
      obtain ⟨-, rfl⟩ : connection = index ∧ (outgoing, sessionId) = entry := by
        simpa [finishedOn?] using h
      rfl
  | _ => cases h

def failure? (requests : List Request) : Posting → Option Failure
  | .told index error =>
      (requests[index]?).bind fun request =>
        if request.reported then some ⟨request.name, error⟩ else none
  | _ => none

end Posting

namespace Journal

def commands (journal : List Posting) : List Command :=
  journal.filterMap Posting.command?

def about (reply : Reply Nat) (journal : List Posting) : List Posting :=
  journal.filter fun posting => posting.reply? = some reply

/-- What a connection has taken, in this order. -/
def accepted (index : Nat) (journal : List Posting) : List (Outgoing Nat) :=
  journal.filterMap (Posting.acceptedOn? index)

/-- What the writer of a connection is done with, each with the session id that it was stamped
with. -/
def finished (index : Nat) (journal : List Posting) : List (Outgoing Nat × UInt32) :=
  journal.filterMap (Posting.finishedOn? index)

/-- What a connection shows at the other end. -/
def received (index : Nat) (journal : List Posting) : List Packet :=
  (finished index journal).flatMap fun (outgoing, sessionId) =>
    (outgoing.packet.sendResult.map fun () => outgoing.packet.received sessionId).toOption.toList

section Append

variable (journal : List Posting) (posting : Posting)

@[simp] theorem commands_append :
    commands (journal ++ [posting]) = commands journal ++ posting.command?.toList := by
  cases h : posting.command? <;> simp [commands, h]

@[simp] theorem about_append (reply : Reply Nat) :
    about reply (journal ++ [posting]) =
      about reply journal ++ if posting.reply? = some reply then [posting] else [] := by
  by_cases h : posting.reply? = some reply <;> simp [about, h]

@[simp] theorem accepted_append (index : Nat) :
    accepted index (journal ++ [posting]) =
      accepted index journal ++ (posting.acceptedOn? index).toList := by
  cases h : posting.acceptedOn? index <;> simp [accepted, h]

@[simp] theorem finished_append (index : Nat) :
    finished index (journal ++ [posting]) =
      finished index journal ++ (posting.finishedOn? index).toList := by
  cases h : posting.finishedOn? index <;> simp [finished, h]

end Append

/-- What is read off the postings about one sender is that sender's part of what is read off all. -/
theorem filterMap_about {α : Type} (select : Posting → Option α) (owner : α → Reply Nat)
    (hselect : ∀ posting value, select posting = some value →
      posting.reply? = some (owner value)) (reply : Reply Nat) (journal : List Posting) :
    (about reply journal).filterMap select =
      (journal.filterMap select).filter fun value => owner value = reply := by
  unfold about
  rw [List.filterMap_filter, List.filter_filterMap]
  congr 1
  funext posting
  cases hvalue : select posting with
  | none => split <;> rfl
  | some value => simp [hselect posting value hvalue, Option.filter]

theorem accepted_about (index : Nat) (reply : Reply Nat) (journal : List Posting) :
    accepted index (about reply journal) =
      (accepted index journal).filter fun outgoing => outgoing.reply = reply :=
  filterMap_about (Posting.acceptedOn? index) Outgoing.reply
    (fun _ _ => Posting.reply?_of_acceptedOn?) reply journal

theorem finished_about (index : Nat) (reply : Reply Nat) (journal : List Posting) :
    finished index (about reply journal) =
      (finished index journal).filter fun entry => entry.1.reply = reply :=
  filterMap_about (Posting.finishedOn? index) (fun entry => entry.1.reply)
    (fun _ _ => Posting.reply?_of_finishedOn?) reply journal

end Journal

open Journal (commands about)

/-- A packet comes right after the command to send it, or after its request was told of a
failure. -/
def Prompted (before : List Posting) (reply : Reply Nat) : Prop :=
  (∃ earlier command, before = earlier ++ [.asked command] ∧
    command.reply? (commands earlier) = some reply) ∨
  ∃ earlier index error, before = earlier ++ [.told index error] ∧ reply = .request index

def Posting.Fits (before : List Posting) : Posting → Prop
  | .stopped request => Prompted before (.request request)
  | .unbuilt request _ => Prompted before (.request request)
  | .refused outgoing =>
      Prompted before outgoing.reply ∧ ∀ connection, ¬ Attached (commands before) connection
  | .accepted connection outgoing =>
      Prompted before outgoing.reply ∧ Attached (commands before) connection
  | .finished _ outgoing sessionId result =>
      sessionId = sessionIdAfter (commands before) ∧ result = outgoing.packet.sendResult
  | _ => True

def Lawful (journal : List Posting) : Prop :=
  ∀ before posting after, journal = before ++ posting :: after → posting.Fits before

theorem Lawful.append {journal : List Posting} {posting : Posting} (h : Lawful journal)
    (hfits : posting.Fits journal) : Lawful (journal ++ [posting]) := by
  intro before other after hsplit
  rcases List.eq_nil_or_concat after with rfl | ⟨rest, last, rfl⟩
  · obtain ⟨rfl, hlast⟩ := List.append_inj' hsplit rfl
    cases hlast
    exact hfits
  · rw [List.concat_eq_append, ← List.cons_append, ← List.append_assoc] at hsplit
    exact h before other rest (List.append_inj' hsplit rfl).1

/-- How far the sending of a request has come: its next attempt is due, the packet waits on a
connection, the request is yet to be told of a failure, or nothing more will happen. -/
inductive Stage where
  | ready (position retries : Nat)
  | waiting (position retries connection : Nat)
  | failed (position retries : Nat) (error : SendError)
  | ended

namespace Stage

inductive Next (index : Nat) (request : Request) : Stage → Posting → Stage → Prop
  | stopped {position retries : Nat} (hattempt : request.attemptAt position = .stop) :
      Next index request (.ready position retries) (.stopped index) .ended
  | unbuilt {position retries : Nat} {error : SendError}
      (hattempt : request.attemptAt position = .failed error) :
      Next index request (.ready position retries) (.unbuilt index error)
        (.failed position retries error)
  | refused {position retries : Nat} (hattempt : request.attemptAt position = .packet) :
      Next index request (.ready position retries) (.refused ⟨request.packet, .request index⟩)
        (.failed position retries .notConnected)
  | accepted {position retries : Nat} (hattempt : request.attemptAt position = .packet)
      (connection : Nat) :
      Next index request (.ready position retries)
        (.accepted connection ⟨request.packet, .request index⟩)
        (.waiting position retries connection)
  | written {position retries connection : Nat} (sessionId : UInt32) :
      Next index request (.waiting position retries connection)
        (.finished connection ⟨request.packet, .request index⟩ sessionId (.ok ())) .ended
  | unwritten {position retries connection : Nat} (sessionId : UInt32) (error : SendError) :
      Next index request (.waiting position retries connection)
        (.finished connection ⟨request.packet, .request index⟩ sessionId (.error error))
        (.failed position retries error)
  | told {position : Nat} {error : SendError} :
      Next index request (.failed position 0 error) (.told index error) .ended
  | again {position retries : Nat} {error : SendError} :
      Next index request (.failed position (retries + 1) error) (.told index error)
        (.ready (position + 1) retries)

/-- From its start a request has come to a stage by these postings. -/
inductive Reached (index : Nat) (request : Request) : List Posting → Stage → Prop
  | start : Reached index request [] (.ready request.position request.retries)
  | next {postings : List Posting} {stage later : Stage} {posting : Posting}
      (hreached : Reached index request postings stage)
      (hnext : Next index request stage posting later) :
      Reached index request (postings ++ [posting]) later

/-- What a request at this stage has in line on a connection. -/
def inLine (index : Nat) (outgoing : Outgoing Nat) : Stage → List (Outgoing Nat)
  | .waiting _ _ connection => if connection = index then [outgoing] else []
  | _ => []

theorem Reached.line {index : Nat} {request : Request} {postings : List Posting} {stage : Stage}
    (h : Reached index request postings stage) (connection : Nat) :
    Journal.accepted connection postings =
      (Journal.finished connection postings).map Prod.fst ++
        stage.inLine connection ⟨request.packet, .request index⟩ := by
  induction h with
  | start => rfl
  | next hreached hnext induction =>
      rw [Journal.accepted_append, Journal.finished_append, induction]
      cases hnext with
      | accepted hattempt taken =>
          by_cases htaken : taken = connection <;>
            simp [inLine, Posting.acceptedOn?, Posting.finishedOn?, htaken]
      | written sessionId =>
          rename_i taken
          by_cases htaken : taken = connection <;>
            simp [inLine, Posting.acceptedOn?, Posting.finishedOn?, htaken]
      | unwritten sessionId error =>
          rename_i taken
          by_cases htaken : taken = connection <;>
            simp [inLine, Posting.acceptedOn?, Posting.finishedOn?, htaken]
      | _ => simp [inLine, Posting.acceptedOn?, Posting.finishedOn?]

end Stage

/-- What can happen to a packet that is submitted, with the answer once there is one. -/
inductive Passage (ticket : Nat) (packet : Packet) :
    List Posting → Option (Except SendError Unit) → Prop
  | refused :
      Passage ticket packet
        [.refused ⟨packet, .ticket ticket⟩, .answered ticket (.error .notConnected)]
        (some (.error .notConnected))
  | waiting (connection : Nat) :
      Passage ticket packet [.accepted connection ⟨packet, .ticket ticket⟩] none
  | answered (connection : Nat) (sessionId : UInt32) (result : Except SendError Unit) :
      Passage ticket packet
        [.accepted connection ⟨packet, .ticket ticket⟩,
          .finished connection ⟨packet, .ticket ticket⟩ sessionId result,
          .answered ticket result]
        (some result)

/-- What has its answer stands in no line any more. -/
theorem Passage.line {ticket : Nat} {packet : Packet} {postings : List Posting}
    {result : Except SendError Unit} (h : Passage ticket packet postings (some result))
    (index : Nat) :
    Journal.accepted index postings = (Journal.finished index postings).map Prod.fst := by
  cases h with
  | refused => rfl
  | answered connection sessionId =>
      by_cases hconnection : connection = index <;>
        simp [Journal.accepted, Journal.finished, Posting.acceptedOn?, Posting.finishedOn?,
          List.filterMap_cons, hconnection]

end Messenger
