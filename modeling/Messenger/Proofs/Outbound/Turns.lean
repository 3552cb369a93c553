import Messenger.Proofs.Outbound.Senders

/-!
Between one move and the next every sender of an outbox waits for a writer or is done. Commands and
the turns of writers keep it so.
-/

namespace Messenger

open Command (executed submitted)
open Journal (commands about)

namespace Outbox

/-- Every sender waits for a writer or is done, but for one that may be busy. -/
structure AtRest (outbox : Outbox) (busy : Option (Reply Nat)) : Prop where
  sound : outbox.Sound
  requests : ∀ index request, (executed (commands outbox.journal))[index]? = some request →
    busy ≠ some (.request index) → ∃ stage : Stage, stage.Rests ∧ outbox.Tracks index request stage
  tickets : ∀ ticket packet, (submitted (commands outbox.journal))[ticket]? = some packet →
    busy ≠ some (.ticket ticket) → outbox.Holds ticket packet

theorem AtRest.tracks {outbox : Outbox} (h : outbox.AtRest none) {index : Nat} {request : Request}
    (hrequest : (executed (commands outbox.journal))[index]? = some request) :
    ∃ stage : Stage, stage.Rests ∧ outbox.Tracks index request stage :=
  h.requests index request hrequest (Option.some_ne_none _).symm

theorem AtRest.holds {outbox : Outbox} (h : outbox.AtRest none) {ticket : Nat} {packet : Packet}
    (hpacket : (submitted (commands outbox.journal))[ticket]? = some packet) :
    outbox.Holds ticket packet :=
  h.tickets ticket packet hpacket (Option.some_ne_none _).symm

/-- A sender has come to rest. -/
def Rested (outbox : Outbox) : Reply Nat → Prop
  | .request index => ∃ (request : Request) (stage : Stage), stage.Rests ∧
      outbox.Tracks index request stage
  | .ticket ticket => ∃ packet, outbox.Holds ticket packet

theorem AtRest.of_concerns {before after : Outbox} {busy : Option (Reply Nat)} {reply : Reply Nat}
    (h : before.AtRest busy) (hbusy : ∀ other, busy = some other → other = reply)
    (hsound : after.Sound) (hconcerns : Concerns reply before after)
    (hrested : after.Rested reply) :
    after.AtRest none where
  sound := hsound
  requests := by
    intro index request hrequest _
    by_cases hreply : .request index = reply
    · subst hreply
      obtain ⟨known, stage, hrests, htracks⟩ := hrested
      have hsame := htracks.executed
      rw [hrequest] at hsame
      cases hsame
      exact ⟨stage, hrests, htracks⟩
    · rw [hconcerns.commands] at hrequest
      obtain ⟨stage, hrests, htracks⟩ :=
        h.requests index request hrequest fun heq => hreply (hbusy _ heq)
      exact ⟨stage, hrests, htracks.of_concerns hconcerns hreply⟩
  tickets := by
    intro ticket packet hpacket _
    by_cases hreply : .ticket ticket = reply
    · subst hreply
      obtain ⟨known, hholds⟩ := hrested
      have hsame := hholds.submitted
      rw [hpacket] at hsame
      cases hsame
      exact hholds
    · rw [hconcerns.commands] at hpacket
      exact (h.tickets ticket packet hpacket fun heq => hreply (hbusy _ heq)).of_concerns
        hconcerns hreply

section Write

variable {outbox : Outbox} {index : Nat} {connection : Connection Nat}

/-- What stands in a line for a sender is what its history says. -/
theorem Sound.line_about (h : outbox.Sound)
    (hconnection : outbox.link.connections[index]? = some connection) (reply : Reply Nat) :
    Journal.accepted index (about reply outbox.journal) =
      (Journal.finished index (about reply outbox.journal)).map Prod.fst ++
        connection.queue.filter fun outgoing => outgoing.reply = reply := by
  rw [Journal.accepted_about, Journal.finished_about,
    (h.piped.carries index connection hconnection).line, List.filter_append, List.filter_map]
  rfl

theorem Sound.known_of_queue (h : outbox.Sound)
    (hconnection : outbox.link.connections[index]? = some connection) {outgoing : Outgoing Nat}
    (hqueue : outgoing ∈ connection.queue) : outgoing.reply.Known (commands outbox.journal) := by
  have haccepted : outgoing ∈ Journal.accepted index outbox.journal := by
    rw [(h.piped.carries index connection hconnection).line]
    exact List.mem_append_right _ hqueue
  obtain ⟨posting, hposting, hon⟩ := List.mem_filterMap.mp haccepted
  exact h.known posting hposting outgoing.reply (Posting.reply?_of_acceptedOn? hon)

/-- A request whose packet stands in a line waits there. -/
theorem Tracks.waiting_of_queue {number : Nat} {request : Request} {stage : Stage}
    (hsound : outbox.Sound) (h : outbox.Tracks number request stage)
    (hconnection : outbox.link.connections[index]? = some connection) {outgoing : Outgoing Nat}
    (hqueue : outgoing ∈ connection.queue) (hreply : outgoing.reply = .request number) :
    ∃ position retries, stage = .waiting position retries index ∧
      outgoing = ⟨request.packet, .request number⟩ := by
  have hline := hsound.line_about hconnection (.request number)
  rw [h.reached.line index] at hline
  have hin : outgoing ∈ stage.inLine index ⟨request.packet, .request number⟩ := by
    rw [List.append_cancel_left hline]
    exact List.mem_filter.mpr ⟨hqueue, by simpa using hreply⟩
  cases stage with
  | waiting position retries taken =>
      simp only [Stage.inLine, List.mem_ite_nil_right, List.mem_singleton] at hin
      exact ⟨position, retries, by rw [hin.1], hin.2⟩
  | _ => cases hin

/-- So does a packet that was submitted, which has no answer yet. -/
theorem Holds.waiting_of_queue {ticket : Nat} {packet : Packet} (hsound : outbox.Sound)
    (h : outbox.Holds ticket packet)
    (hconnection : outbox.link.connections[index]? = some connection) {outgoing : Outgoing Nat}
    (hqueue : outgoing ∈ connection.queue) (hreply : outgoing.reply = .ticket ticket) :
    about (.ticket ticket) outbox.journal = [.accepted index ⟨packet, .ticket ticket⟩] ∧
      outgoing = ⟨packet, .ticket ticket⟩ := by
  have hline := hsound.line_about hconnection (.ticket ticket)
  have hin : outgoing ∈ connection.queue.filter fun outgoing => outgoing.reply = .ticket ticket :=
    List.mem_filter.mpr ⟨hqueue, by simpa using hreply⟩
  have hpassage := h.passage
  generalize outbox.results.find? ticket = answer at hpassage
  generalize about (.ticket ticket) outbox.journal = postings at hpassage hline
  cases answer with
  | some result =>
      rw [hpassage.line index, List.self_eq_append_right] at hline
      rw [hline] at hin
      cases hin
  | none =>
      cases hpassage with
      | waiting taken =>
          have hsingle : Journal.accepted index
              [Posting.accepted taken ⟨packet, .ticket ticket⟩] =
                if taken = index then [⟨packet, .ticket ticket⟩] else [] := by
            by_cases htaken : taken = index <;>
              simp [Journal.accepted, Posting.acceptedOn?, htaken]
          have hempty : Journal.finished index
              [Posting.accepted taken ⟨packet, .ticket ticket⟩] = [] := rfl
          rw [hempty, List.map_nil, List.nil_append, hsingle] at hline
          rw [← hline] at hin
          simp only [List.mem_ite_nil_right, List.mem_singleton] at hin
          exact ⟨by rw [hin.1], hin.2⟩

variable {written : Link.Written Nat} {next : Link Nat}

theorem Sound.finish (h : outbox.Sound)
    (hnext : outbox.link.writeNext? index = some (written, next)) :
    (outbox.finish index written next).Sound ∧
      written.result = written.outgoing.packet.sendResult ∧
      ∃ connection, outbox.link.connections[index]? = some connection ∧
        written.outgoing ∈ connection.queue := by
  obtain ⟨connection, rest, hconnection, hqueue, hresult, hpiped⟩ := h.piped.writeNext hnext
  have hmem : written.outgoing ∈ connection.queue := by simp [hqueue]
  exact ⟨h.of_posting rfl rfl rfl (h.known_of_queue hconnection hmem) hpiped
    (by simp [Outbox.finish, Outbox.note, Posting.failure?]) rfl rfl fun _ _ => rfl, hresult,
    connection, hconnection, hmem⟩

theorem Holds.resolve (hsound : outbox.Sound) {ticket : Nat} {packet : Packet}
    (h : outbox.Holds ticket packet)
    (hnext : outbox.link.writeNext? index = some (written, next))
    (hreply : written.outgoing.reply = .ticket ticket) :
    let after := (outbox.finish index written next).resolve written
    after.Sound ∧ Concerns (.ticket ticket) outbox after ∧ after.Holds ticket packet := by
  obtain ⟨hfinish, -, connection, hconnection, hmem⟩ := hsound.finish hnext
  obtain ⟨habout, houtgoing⟩ := h.waiting_of_queue hsound hconnection hmem hreply
  intro after
  have hafter : after = (outbox.finish index written next).answer ticket written.result := by
    simp only [after, Outbox.resolve, hreply]
  have hfinished : Concerns (.ticket ticket) outbox (outbox.finish index written next) :=
    .of_posting rfl rfl (congrArg some hreply) (fun _ _ => rfl) fun _ _ => rfl
  have hconcerns : Concerns (.ticket ticket) outbox after :=
    hfinished.trans (hafter ▸ concerns_answer _ ticket written.result)
  refine ⟨?_, hconcerns, ?_, ?_⟩
  · rw [hafter]
    refine hfinish.answer ?_ written.result
    rw [hfinished.commands]
    exact (List.getElem?_eq_some_iff.mp h.submitted).1
  · rw [hconcerns.commands, h.submitted]
  · have hjournal : about (.ticket ticket) after.journal =
          [.accepted index ⟨packet, .ticket ticket⟩,
            .finished index ⟨packet, .ticket ticket⟩ next.sessionId written.result,
            .answered ticket written.result] := by
      rw [hafter]
      simp only [answer, Outbox.finish, Outbox.note, Journal.about_append, habout, houtgoing,
        Posting.reply?, if_true]
      rfl
    rw [hjournal, hafter, find?_answer]
    exact .answered index next.sessionId written.result

theorem Tracks.resolve (hsound : outbox.Sound) {number : Nat} {request : Request} {stage : Stage}
    (h : outbox.Tracks number request stage)
    (hnext : outbox.link.writeNext? index = some (written, next))
    (hreply : written.outgoing.reply = .request number) :
    let after := (outbox.finish index written next).resolve written
    after.Sound ∧ Concerns (.request number) outbox after ∧
      ∃ stage : Stage, stage.Rests ∧ after.Tracks number request stage := by
  obtain ⟨hfinish, -, connection, hconnection, hmem⟩ := hsound.finish hnext
  obtain ⟨position, retries, rfl, houtgoing⟩ := h.waiting_of_queue hsound hconnection hmem hreply
  obtain ⟨shownPosition, shownRetries, hshown, rfl, rfl⟩ := h.shown
  have hadvance : ∀ {later : Stage},
      Stage.Next number request (.waiting position shownRetries index)
        (.finished index ⟨request.packet, .request number⟩ next.sessionId written.result) later →
      later.Shows (position + 1) shownRetries →
      Concerns (.request number) outbox (outbox.finish index written next) ∧
        (outbox.finish index written next).Tracks number request later := by
    intro later hlater hshows
    exact h.of_posting rfl rfl (congrArg some hreply) (houtgoing ▸ hlater) hshown hshows
      (fun _ _ => rfl) rfl
  intro after
  cases hresult : written.result with
  | ok done =>
      have hafter : after = outbox.finish index written next := by
        simp only [after, Outbox.resolve, hreply, hresult]
      rw [hresult] at hadvance
      rw [hafter]
      obtain ⟨hconcerns, hended⟩ := hadvance (.written next.sessionId) trivial
      exact ⟨hfinish, hconcerns, .ended, trivial, hended⟩
  | error error =>
      rw [hresult] at hadvance
      obtain ⟨hconcerns, hfailed⟩ := hadvance (.unwritten next.sessionId error) ⟨rfl, rfl⟩
      cases hfail : (outbox.finish index written next).fail number error with
      | mk again failed =>
        have hafter : after = if again then (failed.send number).2 else failed := by
          simp only [after, Outbox.resolve, hreply, hresult, hfail]
        rw [hafter]
        obtain ⟨htold, hfailing, hagain⟩ := fail_spec hfinish hfailed hfail
        cases again with
        | false => exact ⟨htold, hconcerns.trans hfailing, .ended, trivial, hagain⟩
        | true =>
            obtain ⟨left, -, hdue, hready⟩ := hagain
            obtain ⟨hsent, hsending, hrests⟩ := send_spec htold hready hdue
            exact ⟨hsent, (hconcerns.trans hfailing).trans hsending, hrests⟩

/-- What a writer leaves is at rest, whatever it was done with. -/
theorem AtRest.writeAt? (h : outbox.AtRest none) {after : Outbox}
    (hafter : outbox.writeAt? index = some after) :
    after.AtRest none ∧ commands after.journal = commands outbox.journal := by
  obtain ⟨⟨written, next⟩, hnext, rfl⟩ := Option.map_eq_some_iff.mp hafter
  obtain ⟨-, -, connection, hconnection, hmem⟩ := h.sound.finish hnext
  have hknown := h.sound.known_of_queue hconnection hmem
  cases hreply : written.outgoing.reply with
  | ticket ticket =>
      rw [hreply] at hknown
      have hholds := h.holds (List.getElem?_eq_getElem hknown)
      obtain ⟨hsound, hconcerns, hlast⟩ := hholds.resolve h.sound hnext hreply
      exact ⟨h.of_concerns (fun _ hnone => by cases hnone) hsound hconcerns ⟨_, hlast⟩,
        hconcerns.commands⟩
  | request number =>
      rw [hreply] at hknown
      obtain ⟨stage, -, htracks⟩ := h.tracks (List.getElem?_eq_getElem hknown)
      obtain ⟨hsound, hconcerns, hlast⟩ := htracks.resolve h.sound hnext hreply
      exact ⟨h.of_concerns (fun _ hnone => by cases hnone) hsound hconcerns ⟨_, hlast⟩,
        hconcerns.commands⟩

end Write

section Ask

variable {outbox begun : Outbox} {command : Command}

/-- A new sender has no history. -/
theorem Sound.about_eq_nil (h : outbox.Sound) {reply : Reply Nat}
    (hunknown : ¬ reply.Known (commands outbox.journal)) : about reply outbox.journal = [] := by
  refine List.filter_eq_nil_iff.mpr fun posting hposting hreply => hunknown ?_
  exact h.known posting hposting reply (by simpa using hreply)

theorem Sound.asked (h : outbox.Sound)
    (hjournal : begun.journal = outbox.journal ++ [.asked command])
    (hpiped : begun.link.Piped begun.journal) (hfailures : begun.failures = outbox.failures)
    (htickets : begun.tickets = outbox.tickets + command.packet?.toList.length)
    (hrequests : begun.requests.length =
      outbox.requests.length + command.request?.toList.length)
    (hresults : begun.results = outbox.results) :
    begun.Sound where
  piped := hpiped
  failures := by
    rw [hfailures, h.failures, hjournal, Journal.commands_append, List.filterMap_append]
    have hnone : [Posting.asked command].filterMap
        (Posting.failure? (executed (commands outbox.journal ++ [command]))) = [] := rfl
    simp only [Posting.command?, Option.toList_some, hnone, List.append_nil]
    refine List.filterMap_congr fun posting hposting => ?_
    cases posting with
    | told index error =>
        have hindex : index < (executed (commands outbox.journal)).length :=
          h.known _ hposting (.request index) rfl
        simp [Posting.failure?, List.getElem?_append_left hindex]
    | _ => rfl
  tickets := by simp [htickets, hjournal, Posting.command?, h.tickets]
  requests := by simp [hrequests, hjournal, Posting.command?, h.requests]
  known := by
    intro posting hposting reply hreply
    simp only [hjournal, List.mem_append, List.mem_singleton] at hposting
    simp only [hjournal, Journal.commands_append, Posting.command?, Option.toList_some]
    rcases hposting with hposting | rfl
    · exact Reply.Known.append (h.known posting hposting reply hreply) command
    · cases hreply
  answered := by
    intro ticket result hresult
    simp only [hjournal, Journal.commands_append, Posting.command?, Option.toList_some]
    exact Reply.Known.append (h.answered ticket result (hresults ▸ hresult)) command

theorem AtRest.asked (h : outbox.AtRest none)
    (hjournal : begun.journal = outbox.journal ++ [.asked command]) (hsound : begun.Sound)
    (hrequests : ∀ index, index < outbox.requests.length →
      begun.requests[index]? = outbox.requests[index]?)
    (hresults : begun.results = outbox.results) :
    begun.AtRest (command.reply? (commands outbox.journal)) where
  sound := hsound
  requests := by
    intro index request hrequest hbusy
    have hrequest' := hrequest
    simp only [hjournal, Journal.commands_append, Posting.command?, Option.toList_some,
      Command.executed_append] at hrequest'
    rcases getElem?_append_toList hrequest' with hold | ⟨hnew, rfl⟩
    · obtain ⟨stage, hrests, htracks⟩ := h.tracks hold
      refine ⟨stage, hrests, hrequest, ?_, ?_⟩
      · simpa [hjournal, Posting.reply?] using htracks.reached
      · rw [hrequests index (h.sound.requests ▸ htracks.known)]
        exact htracks.shown
    · exact absurd (Command.reply?_of_request? _ hnew) hbusy
  tickets := by
    intro ticket packet hpacket hbusy
    have hpacket' := hpacket
    simp only [hjournal, Journal.commands_append, Posting.command?, Option.toList_some,
      Command.submitted_append] at hpacket'
    rcases getElem?_append_toList hpacket' with hold | ⟨hnew, rfl⟩
    · obtain ⟨-, hpassage⟩ := h.holds hold
      exact ⟨hpacket, by simpa [hjournal, Posting.reply?, hresults] using hpassage⟩
    · exact absurd (Command.reply?_of_packet? _ hnew) hbusy

theorem AtRest.execute (h : outbox.AtRest none) (request : Request) :
    (outbox.ask (.execute request)).AtRest none ∧
      commands (outbox.ask (.execute request)).journal =
        commands outbox.journal ++ [.execute request] := by
  let begun : Outbox := { outbox with
    requests := outbox.requests ++ [request]
    journal := outbox.journal ++ [.asked (.execute request)] }
  let index := (executed (commands outbox.journal)).length
  have hlength : outbox.requests.length = index := h.sound.requests
  have hsound : begun.Sound := h.sound.asked rfl
    (h.sound.piped.note trivial (by simp [Posting.command?, Command.isSending]) (fun _ => rfl)
      fun _ => rfl) rfl rfl (by simp [begun, Command.request?]) rfl
  have hrest := h.asked rfl hsound
    (fun other hother => List.getElem?_append_left hother) rfl
  have htracks : begun.Tracks index request (.ready request.position request.retries) := {
    executed := by simp [begun, index, Posting.command?, Command.request?]
    reached := by
      have hunknown : ¬ (Reply.request index).Known (commands outbox.journal) := Nat.lt_irrefl _
      simpa [begun, Posting.reply?, h.sound.about_eq_nil hunknown] using Stage.Reached.start
    shown := ⟨request.position, request.retries, by simp [begun, ← hlength], rfl, rfl⟩ }
  have hprompted : Prompted begun.journal (.request index) :=
    .inl ⟨outbox.journal, .execute request, rfl, rfl⟩
  obtain ⟨hlast, hconcerns, hrests⟩ := send_spec hsound htracks hprompted
  have hask : outbox.ask (.execute request) = (begun.send index).2 := by
    rw [← hlength]
    rfl
  rw [hask]
  refine ⟨hrest.of_concerns (fun other hother => (Option.some.inj hother).symm) hlast hconcerns
    ⟨request, hrests⟩, ?_⟩
  rw [hconcerns.commands]
  exact Journal.commands_append _ _

section Submit

variable {ticket : Nat} {packet : Packet}

/-- A new packet that no connection takes is answered at once. -/
theorem AtRest.refuse (h : begun.AtRest (some (.ticket ticket)))
    (hsubmitted : (submitted (commands begun.journal))[ticket]? = some packet)
    (hnew : about (.ticket ticket) begun.journal = [])
    (hprompted : Prompted begun.journal (.ticket ticket)) (hwriter : begun.link.writer = none) :
    let answered := (begun.note (.refused ⟨packet, .ticket ticket⟩)).answer ticket
      (.error .notConnected)
    answered.AtRest none ∧ commands answered.journal = commands begun.journal := by
  intro answered
  let refused := begun.note (.refused ⟨packet, .ticket ticket⟩)
  have hknown : (Reply.ticket ticket).Known (commands begun.journal) :=
    (List.getElem?_eq_some_iff.mp hsubmitted).1
  have hposted : Concerns (.ticket ticket) begun refused :=
    .of_posting rfl rfl rfl (fun _ _ => rfl) fun _ _ => rfl
  have hconcerns : Concerns (.ticket ticket) begun answered :=
    hposted.trans (concerns_answer refused ticket (.error .notConnected))
  have hrefused : refused.Sound := h.sound.refuse hwriter hknown hprompted
  have hsound : answered.Sound := hrefused.answer (hposted.commands ▸ hknown) _
  have hjournal : about (.ticket ticket) answered.journal =
      [.refused ⟨packet, .ticket ticket⟩, .answered ticket (.error .notConnected)] := by
    simp only [answered, answer, Outbox.note, Journal.about_append, hnew, Posting.reply?, if_true]
    rfl
  refine ⟨h.of_concerns (fun other hother => (Option.some.inj hother).symm) hsound hconcerns
    ⟨packet, ?_, ?_⟩, hconcerns.commands⟩
  · rw [hconcerns.commands, hsubmitted]
  · rw [hjournal, find?_answer]
    exact .refused

/-- One that a connection takes waits there. -/
theorem AtRest.take (h : begun.AtRest (some (.ticket ticket)))
    (hsubmitted : (submitted (commands begun.journal))[ticket]? = some packet)
    (hnew : about (.ticket ticket) begun.journal = [])
    (hunanswered : begun.results.find? ticket = none)
    (hprompted : Prompted begun.journal (.ticket ticket)) {connection : Nat}
    (hwriter : begun.link.writer = some connection) :
    let taken := { begun with
      link := begun.link.enqueue connection ⟨packet, .ticket ticket⟩ }.note
        (.accepted connection ⟨packet, .ticket ticket⟩)
    taken.AtRest none ∧ commands taken.journal = commands begun.journal := by
  intro taken
  have hknown : (Reply.ticket ticket).Known (commands begun.journal) :=
    (List.getElem?_eq_some_iff.mp hsubmitted).1
  have hconcerns : Concerns (.ticket ticket) begun taken :=
    .of_posting rfl rfl rfl (fun _ _ => rfl) fun _ _ => rfl
  have hjournal : about (.ticket ticket) taken.journal =
      [.accepted connection ⟨packet, .ticket ticket⟩] := by
    simp only [taken, Outbox.note, Journal.about_append, hnew, Posting.reply?, if_true]
    rfl
  refine ⟨h.of_concerns (fun other hother => (Option.some.inj hother).symm)
    (h.sound.take hwriter hknown hprompted) hconcerns ⟨packet, ?_, ?_⟩, hconcerns.commands⟩
  · rw [hconcerns.commands, hsubmitted]
  · rw [hjournal, show taken.results.find? ticket = none from hunanswered]
    exact .waiting connection

end Submit

theorem AtRest.submit (h : outbox.AtRest none) (packet : Packet) :
    (outbox.ask (.submit packet)).AtRest none ∧
      commands (outbox.ask (.submit packet)).journal =
        commands outbox.journal ++ [.submit packet] := by
  let ticket := outbox.tickets
  let begun : Outbox := { outbox with
    tickets := ticket + 1
    journal := outbox.journal ++ [.asked (.submit packet)] }
  have hticket : ticket = (submitted (commands outbox.journal)).length := h.sound.tickets
  have hreply : Command.reply? (commands outbox.journal) (.submit packet) =
      some (.ticket ticket) := by
    rw [hticket]
    rfl
  have hsound : begun.Sound := h.sound.asked rfl
    (h.sound.piped.note trivial (by simp [Posting.command?, Command.isSending]) (fun _ => rfl)
      fun _ => rfl) rfl rfl rfl rfl
  have hrest := h.asked rfl hsound (fun _ _ => rfl) rfl
  rw [hreply] at hrest
  have hsubmitted : (submitted (commands begun.journal))[ticket]? = some packet := by
    simp [begun, hticket, Posting.command?, Command.packet?]
  have hunknown : ¬ (Reply.ticket ticket).Known (commands outbox.journal) := by
    rw [hticket]
    exact Nat.lt_irrefl _
  have hnew : about (.ticket ticket) begun.journal = [] := by
    simpa [begun, Posting.reply?] using h.sound.about_eq_nil hunknown
  have hunanswered : begun.results.find? ticket = none := by
    refine Option.eq_none_iff_forall_ne_some.mpr fun result hfind => ?_
    exact hunknown (h.sound.answered ticket result hfind)
  have hprompted : Prompted begun.journal (.ticket ticket) :=
    .inl ⟨outbox.journal, .submit packet, rfl, hreply⟩
  have hgiven : commands begun.journal = commands outbox.journal ++ [.submit packet] :=
    Journal.commands_append _ _
  have hask : outbox.ask (.submit packet) =
      if (begun.accept ⟨packet, .ticket ticket⟩).1 then (begun.accept ⟨packet, .ticket ticket⟩).2
      else (begun.accept ⟨packet, .ticket ticket⟩).2.answer ticket (.error .notConnected) := rfl
  rw [hask, ← hgiven]
  rcases begun.accept_cases ⟨packet, .ticket ticket⟩ with
    ⟨hwriter, haccept⟩ | ⟨connection, hwriter, haccept⟩
  · rw [haccept, if_neg Bool.false_ne_true]
    exact hrest.refuse hsubmitted hnew hprompted hwriter
  · rw [haccept, if_pos rfl]
    exact hrest.take hsubmitted hnew hunanswered hprompted hwriter

theorem AtRest.ask (h : outbox.AtRest none) (command : Command) :
    (outbox.ask command).AtRest none ∧
      commands (outbox.ask command).journal = commands outbox.journal ++ [command] := by
  cases command with
  | attach =>
      have hjournal : (outbox.ask .attach).journal = outbox.journal ++ [.asked .attach] := rfl
      have hsound := h.sound.asked hjournal h.sound.piped.attach rfl rfl rfl rfl
      exact ⟨h.asked hjournal hsound (fun _ _ => rfl) rfl, Journal.commands_append _ _⟩
  | detach =>
      have hjournal : (outbox.ask .detach).journal = outbox.journal ++ [.asked .detach] := rfl
      have hsound := h.sound.asked hjournal h.sound.piped.detach rfl rfl rfl rfl
      exact ⟨h.asked hjournal hsound (fun _ _ => rfl) rfl, Journal.commands_append _ _⟩
  | identify sessionId =>
      have hjournal : (outbox.ask (.identify sessionId)).journal =
          outbox.journal ++ [.asked (.identify sessionId)] := rfl
      have hsound := h.sound.asked hjournal (h.sound.piped.identify sessionId) rfl rfl rfl rfl
      exact ⟨h.asked hjournal hsound (fun _ _ => rfl) rfl, Journal.commands_append _ _⟩
  | execute request => exact h.execute request
  | submit packet => exact h.submit packet

theorem AtRest.closeAt (h : outbox.AtRest none) (index : Nat) :
    (outbox.closeAt index).AtRest none := by
  have hsound : (outbox.closeAt index).Sound := {
    piped := h.sound.piped.close index
    failures := h.sound.failures
    tickets := h.sound.tickets
    requests := h.sound.requests
    known := h.sound.known
    answered := h.sound.answered }
  refine ⟨hsound, fun number request hrequest hbusy => ?_, fun ticket packet hpacket hbusy => ?_⟩
  · obtain ⟨stage, hrests, htracks⟩ := h.requests number request hrequest hbusy
    exact ⟨stage, hrests, htracks.executed, htracks.reached, htracks.shown⟩
  · have hholds := h.tickets ticket packet hpacket hbusy
    exact ⟨hholds.submitted, hholds.passage⟩

end Ask

end Outbox

end Messenger
