import Messenger.Proofs.Outbound.Pipes

/-!
The requests and tickets of an outbox and its journal in step. Whatever is done for one of them
leaves all others as they are.
-/

namespace Messenger

open Command (executed submitted)
open Journal (commands about)

def Reply.Known (commands : List Command) : Reply Nat → Prop
  | .ticket number => number < (submitted commands).length
  | .request index => index < (executed commands).length

theorem Reply.Known.append {commands : List Command} {reply : Reply Nat}
    (h : reply.Known commands) (command : Command) : reply.Known (commands ++ [command]) := by
  cases reply with
  | ticket number => exact Nat.lt_of_lt_of_le h (by simp)
  | request index => exact Nat.lt_of_lt_of_le h (by simp)

namespace Stage

/-- What the record of a request shows at a stage. -/
def Shows (position retries : Nat) : Stage → Prop
  | .ready next left => position = next ∧ retries = left
  | .waiting last left _ => position = last + 1 ∧ retries = left
  | .failed last left _ => position = last + 1 ∧ retries = left
  | .ended => True

/-- Whether the next thing to happen, if any, is up to a writer. -/
def Rests : Stage → Prop
  | .waiting _ _ _ => True
  | .ended => True
  | _ => False

end Stage

namespace Outbox

structure Sound (outbox : Outbox) : Prop where
  piped : outbox.link.Piped outbox.journal
  failures : outbox.failures =
    outbox.journal.filterMap (Posting.failure? (executed (commands outbox.journal)))
  tickets : outbox.tickets = (submitted (commands outbox.journal)).length
  requests : outbox.requests.length = (executed (commands outbox.journal)).length
  known : ∀ posting ∈ outbox.journal, ∀ reply, posting.reply? = some reply →
    reply.Known (commands outbox.journal)
  answered : ∀ ticket result, outbox.results.find? ticket = some result →
    (Reply.ticket ticket).Known (commands outbox.journal)

structure Tracks (outbox : Outbox) (index : Nat) (request : Request) (stage : Stage) : Prop where
  executed : (executed (commands outbox.journal))[index]? = some request
  reached : Stage.Reached index request (about (.request index) outbox.journal) stage
  shown : ∃ position retries,
    outbox.requests[index]? = some { request with position, retries } ∧
      stage.Shows position retries

structure Holds (outbox : Outbox) (ticket : Nat) (packet : Packet) : Prop where
  submitted : (submitted (commands outbox.journal))[ticket]? = some packet
  passage : Passage ticket packet (about (.ticket ticket) outbox.journal)
    (outbox.results.find? ticket)

/-- What happens between two moments concerns one sender only. -/
structure Concerns (reply : Reply Nat) (before after : Outbox) : Prop where
  commands : commands after.journal = commands before.journal
  about : ∀ other, other ≠ reply → about other after.journal = about other before.journal
  requests : ∀ index, .request index ≠ reply → after.requests[index]? = before.requests[index]?
  results : ∀ ticket, .ticket ticket ≠ reply →
    after.results.find? ticket = before.results.find? ticket

section Frames

variable {before middle after : Outbox} {reply : Reply Nat} {index ticket : Nat}
  {request : Request} {packet : Packet} {stage later : Stage} {posting : Posting}

theorem Concerns.trans (hfirst : Concerns reply before middle)
    (hsecond : Concerns reply middle after) : Concerns reply before after where
  commands := hsecond.commands.trans hfirst.commands
  about := fun other hother => (hsecond.about other hother).trans (hfirst.about other hother)
  requests := fun index hindex =>
    (hsecond.requests index hindex).trans (hfirst.requests index hindex)
  results := fun ticket hticket =>
    (hsecond.results ticket hticket).trans (hfirst.results ticket hticket)

theorem Concerns.of_posting (hjournal : after.journal = before.journal ++ [posting])
    (hcommand : posting.command? = none) (hreply : posting.reply? = some reply)
    (hrequests : ∀ index, .request index ≠ reply →
      after.requests[index]? = before.requests[index]?)
    (hresults : ∀ ticket, .ticket ticket ≠ reply →
      after.results.find? ticket = before.results.find? ticket) :
    Concerns reply before after where
  commands := by simp [hjournal, hcommand]
  about := fun other hother => by simp [hjournal, hreply, hother.symm]
  requests := hrequests
  results := hresults

theorem Tracks.of_concerns (h : before.Tracks index request stage)
    (hconcerns : Concerns reply before after) (hreply : .request index ≠ reply) :
    after.Tracks index request stage where
  executed := by rw [hconcerns.commands, h.executed]
  reached := by rw [hconcerns.about _ hreply]; exact h.reached
  shown := by rw [hconcerns.requests index hreply]; exact h.shown

theorem Holds.of_concerns (h : before.Holds ticket packet)
    (hconcerns : Concerns reply before after) (hreply : .ticket ticket ≠ reply) :
    after.Holds ticket packet where
  submitted := by rw [hconcerns.commands, h.submitted]
  passage := by
    rw [hconcerns.about _ hreply, hconcerns.results ticket hreply]
    exact h.passage

theorem Tracks.known (h : before.Tracks index request stage) :
    (Reply.request index).Known (commands before.journal) :=
  (List.getElem?_eq_some_iff.mp h.executed).1

/-- A posting takes one request from its stage to the next. -/
theorem Tracks.of_posting (h : before.Tracks index request stage)
    (hjournal : after.journal = before.journal ++ [posting])
    (hcommand : posting.command? = none) (hreply : posting.reply? = some (.request index))
    (hnext : Stage.Next index request stage posting later) {position retries : Nat}
    (hshown : after.requests[index]? = some { request with position, retries })
    (hlater : later.Shows position retries)
    (hothers : ∀ other, other ≠ index → after.requests[other]? = before.requests[other]?)
    (hresults : after.results = before.results) :
    Concerns (.request index) before after ∧ after.Tracks index request later := by
  refine ⟨.of_posting hjournal hcommand hreply (fun other hother => hothers other ?_)
    (fun ticket _ => by rw [hresults]), ?_⟩
  · rintro rfl
    exact hother rfl
  · exact {
      executed := by simp [hjournal, hcommand, h.executed]
      reached := by
        simp only [hjournal, Journal.about_append, hreply, if_true]
        exact .next h.reached hnext
      shown := ⟨position, retries, hshown, hlater⟩ }

end Frames

theorem Sound.of_posting {before after : Outbox} (h : before.Sound) {posting : Posting}
    {reply : Reply Nat} (hjournal : after.journal = before.journal ++ [posting])
    (hcommand : posting.command? = none) (hreply : posting.reply? = some reply)
    (hknown : reply.Known (commands before.journal))
    (hpiped : after.link.Piped after.journal)
    (hfailures : after.failures = before.failures ++
      (posting.failure? (executed (commands before.journal))).toList)
    (htickets : after.tickets = before.tickets)
    (hrequests : after.requests.length = before.requests.length)
    (hresults : ∀ ticket, .ticket ticket ≠ reply →
      after.results.find? ticket = before.results.find? ticket) :
    after.Sound where
  piped := hpiped
  failures := by
    rw [hfailures, h.failures, hjournal]
    cases hfailure : posting.failure? (executed (commands before.journal)) <;>
      simp [hcommand, hfailure]
  tickets := by simp [htickets, hjournal, hcommand, h.tickets]
  requests := by simp [hrequests, hjournal, hcommand, h.requests]
  known := by
    intro other hother sender hsender
    simp only [hjournal, List.mem_append, List.mem_singleton] at hother
    simp only [hjournal, Journal.commands_append, hcommand, Option.toList_none, List.append_nil]
    rcases hother with hother | rfl
    · exact h.known other hother sender hsender
    · rw [hreply] at hsender
      cases hsender
      exact hknown
  answered := by
    intro ticket result hresult
    simp only [hjournal, Journal.commands_append, hcommand, Option.toList_none, List.append_nil]
    by_cases hticket : .ticket ticket = reply
    · exact hticket ▸ hknown
    · exact h.answered ticket result (hresults ticket hticket ▸ hresult)

section Steps

variable {outbox : Outbox}

theorem Sound.note {posting : Posting} {reply : Reply Nat} (h : outbox.Sound)
    (hreply : posting.reply? = some reply) (hknown : reply.Known (commands outbox.journal))
    (hfits : posting.Fits outbox.journal) (hcommand : posting.command? = none)
    (haccepted : ∀ index, posting.acceptedOn? index = none)
    (hfinished : ∀ index, posting.finishedOn? index = none)
    (hfailure : ∀ requests, posting.failure? requests = none) :
    (outbox.note posting).Sound :=
  h.of_posting rfl hcommand hreply hknown
    (h.piped.note hfits (by simp [hcommand]) haccepted hfinished)
    (by simp [Outbox.note, hfailure]) rfl rfl fun _ _ => rfl

theorem accept_cases (outbox : Outbox) (outgoing : Outgoing Nat) :
    (outbox.link.writer = none ∧
      outbox.accept outgoing = (false, outbox.note (.refused outgoing))) ∨
    ∃ connection, outbox.link.writer = some connection ∧
      outbox.accept outgoing = (true,
        { outbox with link := outbox.link.enqueue connection outgoing }.note
          (.accepted connection outgoing)) := by
  unfold accept
  cases outbox.link.writer with
  | none => exact .inl ⟨rfl, rfl⟩
  | some connection => exact .inr ⟨connection, rfl, rfl⟩

section Accept

variable {outgoing : Outgoing Nat}

theorem Sound.refuse (h : outbox.Sound) (hwriter : outbox.link.writer = none)
    (hknown : outgoing.reply.Known (commands outbox.journal))
    (hprompted : Prompted outbox.journal outgoing.reply) :
    (outbox.note (.refused outgoing)).Sound := by
  have hdetached : ∀ connection, ¬ Command.Attached (commands outbox.journal) connection := by
    intro connection hattached
    rw [(h.piped.writer connection).mpr hattached] at hwriter
    cases hwriter
  exact h.note rfl hknown ⟨hprompted, hdetached⟩ rfl (fun _ => rfl) (fun _ => rfl) fun _ => rfl

theorem Sound.take (h : outbox.Sound) {connection : Nat}
    (hwriter : outbox.link.writer = some connection)
    (hknown : outgoing.reply.Known (commands outbox.journal))
    (hprompted : Prompted outbox.journal outgoing.reply) :
    ({ outbox with link := outbox.link.enqueue connection outgoing }.note
      (.accepted connection outgoing)).Sound :=
  h.of_posting rfl rfl rfl hknown (h.piped.enqueue hwriter hprompted)
    (by simp [Outbox.note, Posting.failure?]) rfl rfl fun _ _ => rfl

end Accept

theorem Sound.answer (h : outbox.Sound) {ticket : Nat}
    (hknown : (Reply.ticket ticket).Known (commands outbox.journal))
    (result : Except SendError Unit) : (outbox.answer ticket result).Sound :=
  h.of_posting rfl rfl rfl hknown (h.piped.note trivial nofun (fun _ => rfl) fun _ => rfl)
    (by simp [Outbox.answer, Outbox.note, Posting.failure?]) rfl rfl fun _ hother =>
      Table.find?_insert_of_ne _ (fun heq => hother (congrArg Reply.ticket heq)) _

theorem concerns_answer (outbox : Outbox) (ticket : Nat) (result : Except SendError Unit) :
    Concerns (.ticket ticket) outbox (outbox.answer ticket result) :=
  .of_posting rfl rfl rfl (fun _ _ => rfl) fun _ hother =>
    Table.find?_insert_of_ne _ (fun heq => hother (congrArg Reply.ticket heq)) _

theorem find?_answer (outbox : Outbox) (ticket : Nat) (result : Except SendError Unit) :
    (outbox.answer ticket result).results.find? ticket = some result :=
  Table.find?_insert_self _ _ _

theorem getElem?_modifyRequest (outbox : Outbox) (index other : Nat) (change : Request → Request) :
    (outbox.modifyRequest index change).requests[other]? =
      (outbox.requests[other]?).map fun request =>
        if other = index then change request else request := by
  unfold modifyRequest
  rw [List.getElem?_modify]
  cases outbox.requests[other]? with
  | none => rfl
  | some request => by_cases h : index = other <;> simp [h, eq_comm]

theorem Sound.modifyRequest (h : outbox.Sound) (index : Nat) (change : Request → Request) :
    (outbox.modifyRequest index change).Sound where
  piped := h.piped
  failures := h.failures
  tickets := h.tickets
  requests := by simpa [Outbox.modifyRequest] using h.requests
  known := h.known
  answered := h.answered

/-- What an attempt at a request leads to. -/
theorem attempt_spec (hsound : outbox.Sound) {index position retries : Nat} {request kept : Request}
    (htracks : outbox.Tracks index request (.ready position retries))
    (hprompted : Prompted outbox.journal (.request index))
    (hkept : outbox.requests[index]? = some kept) {made : Made} {next : Outbox}
    (hattempt : outbox.attempt index kept = (made, next)) :
    next.Sound ∧ Concerns (.request index) outbox next ∧
      match made with
      | .ended => next.Tracks index request .ended
      | .underway => ∃ connection, next.Tracks index request (.waiting position retries connection)
      | .failed error => next.Tracks index request (.failed position retries error) := by
  obtain ⟨shownPosition, shownRetries, hshown, rfl, rfl⟩ := htracks.shown
  rw [hkept] at hshown
  cases hshown
  let built := outbox.modifyRequest index fun request =>
    { request with position := request.position + 1 }
  have hbuilt : built.Sound := hsound.modifyRequest index _
  have hshown : built.requests[index]? = some { request with
      position := shownPosition + 1, retries := shownRetries } := by
    simp [built, getElem?_modifyRequest, hkept]
  have hothers : ∀ other, other ≠ index → built.requests[other]? = outbox.requests[other]? := by
    intro other hother
    simp [built, getElem?_modifyRequest, hother]
  have hadvance : ∀ {next : Outbox} {posting : Posting} {later : Stage},
      next.journal = outbox.journal ++ [posting] → posting.command? = none →
      posting.reply? = some (.request index) → next.requests = built.requests →
      next.results = outbox.results →
      Stage.Next index request (.ready shownPosition shownRetries) posting later →
      later.Shows (shownPosition + 1) shownRetries →
      Concerns (.request index) outbox next ∧ next.Tracks index request later := by
    intro next posting later hjournal hcommand hreply hrequests hresults hnext hlater
    exact htracks.of_posting hjournal hcommand hreply hnext (hrequests ▸ hshown) hlater
      (hrequests ▸ hothers) hresults
  unfold attempt at hattempt
  split at hattempt
  · rename_i hscript
    cases hattempt
    exact ⟨hbuilt.note rfl htracks.known hprompted rfl (fun _ => rfl) (fun _ => rfl) fun _ => rfl,
      hadvance rfl rfl rfl rfl rfl (.stopped hscript) trivial⟩
  · rename_i error hscript
    cases hattempt
    exact ⟨hbuilt.note rfl htracks.known hprompted rfl (fun _ => rfl) (fun _ => rfl) fun _ => rfl,
      hadvance rfl rfl rfl rfl rfl (.unbuilt hscript) ⟨rfl, rfl⟩⟩
  · rename_i hattempt'
    have hscript : request.attemptAt shownPosition = .packet := hattempt'
    rcases built.accept_cases ⟨request.packet, .request index⟩ with
      ⟨hwriter, haccept⟩ | ⟨connection, hwriter, haccept⟩
    · simp only [built] at haccept
      simp only [haccept, Prod.mk.injEq] at hattempt
      obtain ⟨rfl, rfl⟩ := hattempt
      exact ⟨hbuilt.refuse hwriter htracks.known hprompted,
        hadvance rfl rfl rfl rfl rfl (.refused hscript) ⟨rfl, rfl⟩⟩
    · simp only [built] at haccept
      simp only [haccept, Prod.mk.injEq] at hattempt
      obtain ⟨rfl, rfl⟩ := hattempt
      have hnext : Stage.Next index request (.ready shownPosition shownRetries)
          (.accepted connection ⟨request.packet, .request index⟩)
          (.waiting shownPosition shownRetries connection) := .accepted hscript connection
      exact ⟨hbuilt.take hwriter htracks.known hprompted, And.imp_right
        (fun hwaits => ⟨connection, hwaits⟩) (hadvance rfl rfl rfl rfl rfl hnext ⟨rfl, rfl⟩)⟩

/-- A request that is told of a failure is over, or it is due again with one retry less. -/
theorem fail_spec (hsound : outbox.Sound) {index position retries : Nat} {request : Request}
    {error : SendError} (htracks : outbox.Tracks index request (.failed position retries error))
    {again : Bool} {next : Outbox} (hfail : outbox.fail index error = (again, next)) :
    next.Sound ∧ Concerns (.request index) outbox next ∧
      match again with
      | false => next.Tracks index request .ended
      | true => ∃ left, retries = left + 1 ∧ Prompted next.journal (.request index) ∧
          next.Tracks index request (.ready (position + 1) left) := by
  obtain ⟨shownPosition, shownRetries, hshown, rfl, rfl⟩ := htracks.shown
  let told : Outbox := { outbox with
    failures := outbox.failures ++
      ((Posting.told index error).failure? (executed (commands outbox.journal))).toList
    journal := outbox.journal ++ [.told index error] }
  have htold : told.Sound :=
    hsound.of_posting rfl rfl rfl htracks.known
      (hsound.piped.note trivial nofun (fun _ => rfl) fun _ => rfl) rfl rfl rfl fun _ _ => rfl
  have hfail' : outbox.fail index error =
      if shownRetries = 0 then (false, told)
      else (true, told.modifyRequest index fun request =>
        { request with retries := request.retries - 1 }) := by
    unfold fail
    simp only [hshown, note]
    cases hreported : request.reported <;>
      simp [told, Posting.failure?, htracks.executed, hreported]
  rw [hfail'] at hfail
  split at hfail
  · rename_i hzero
    obtain ⟨rfl, rfl⟩ := Prod.mk.inj hfail
    subst hzero
    have hended : Concerns (.request index) outbox told ∧ told.Tracks index request .ended :=
      htracks.of_posting rfl rfl rfl .told hshown trivial (fun _ _ => rfl) rfl
    exact ⟨htold, hended⟩
  · rename_i hpositive
    obtain ⟨rfl, rfl⟩ := Prod.mk.inj hfail
    obtain ⟨left, rfl⟩ := Nat.exists_eq_succ_of_ne_zero hpositive
    have hrequests : (told.modifyRequest index fun request =>
        { request with retries := request.retries - 1 }).requests[index]? =
          some { request with position := position + 1, retries := left } := by
      simp [told, getElem?_modifyRequest, hshown]
    exact ⟨htold.modifyRequest index _, And.imp_right
      (fun hready => ⟨left, rfl, .inr ⟨outbox.journal, index, error, rfl, rfl⟩, hready⟩)
      (htracks.of_posting rfl rfl rfl .again hrequests ⟨rfl, rfl⟩
        (fun other hother => by simp [told, getElem?_modifyRequest, hother]) rfl)⟩

/-- A request that is sent comes to rest: it waits on a connection, or it is over. -/
theorem sendWithin_spec {index fuel position retries : Nat} {request : Request}
    (hsound : outbox.Sound) (htracks : outbox.Tracks index request (.ready position retries))
    (hprompted : Prompted outbox.journal (.request index)) (hfuel : retries < fuel) :
    (sendWithin fuel outbox index).2.Sound ∧
      Concerns (.request index) outbox (sendWithin fuel outbox index).2 ∧
      ∃ stage : Stage, stage.Rests ∧
        (sendWithin fuel outbox index).2.Tracks index request stage := by
  induction fuel generalizing outbox position retries with
  | zero => exact absurd hfuel (Nat.not_lt_zero retries)
  | succ fuel induction =>
      obtain ⟨shownPosition, shownRetries, hshown, -⟩ := htracks.shown
      cases hattempt : outbox.attempt index
        { request with position := shownPosition, retries := shownRetries } with
      | mk made next =>
        obtain ⟨hnext, hconcerns, hmade⟩ := attempt_spec hsound htracks hprompted hshown hattempt
        cases made with
        | ended =>
            simp only [sendWithin, hshown, hattempt]
            exact ⟨hnext, hconcerns, .ended, trivial, hmade⟩
        | underway =>
            simp only [sendWithin, hshown, hattempt]
            obtain ⟨connection, hwaits⟩ := hmade
            exact ⟨hnext, hconcerns, .waiting position retries connection, trivial, hwaits⟩
        | failed error =>
            cases hfail : next.fail index error with
            | mk again failed =>
              obtain ⟨hfailed, htold, hagain⟩ := fail_spec hnext hmade hfail
              simp only [sendWithin, hshown, hattempt, hfail]
              cases again with
              | false => exact ⟨hfailed, hconcerns.trans htold, .ended, trivial, hagain⟩
              | true =>
                  obtain ⟨left, rfl, hdue, hready⟩ := hagain
                  obtain ⟨hlast, hrest, hrests⟩ :=
                    induction hfailed hready hdue (Nat.lt_of_succ_lt_succ hfuel)
                  exact ⟨hlast, (hconcerns.trans htold).trans hrest, hrests⟩

theorem send_spec {index position retries : Nat} {request : Request}
    (hsound : outbox.Sound) (htracks : outbox.Tracks index request (.ready position retries))
    (hprompted : Prompted outbox.journal (.request index)) :
    (outbox.send index).2.Sound ∧ Concerns (.request index) outbox (outbox.send index).2 ∧
      ∃ stage : Stage, stage.Rests ∧ (outbox.send index).2.Tracks index request stage := by
  obtain ⟨shownPosition, shownRetries, hshown, hposition, hretries⟩ := htracks.shown
  refine sendWithin_spec hsound htracks hprompted ?_
  simp [retriesOf, hshown, hretries]

end Steps

end Outbox

end Messenger
