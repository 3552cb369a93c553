import Messenger.Proofs.Outbound.Journal

/-!
What requests are asked and told. A request is built by its script, and a failure, in building or in
sending, is told once and at once to the request it has happened to, which may then send itself
again. Nothing of this touches a task.
-/

namespace Messenger

namespace Posting

def toldTo? (request : Nat) : Posting → Option SendError
  | .told index error => if index = request then some error else none
  | _ => none

/-- What has gone wrong with a request. -/
def failureOf? (request : Nat) : Posting → Option SendError
  | .unbuilt index error => if index = request then some error else none
  | .refused outgoing => if outgoing.reply = .request request then some .notConnected else none
  | .finished _ outgoing _ (.error error) =>
      if outgoing.reply = .request request then some error else none
  | _ => none

/-- What a request has built. -/
def buildOf? (request : Nat) : Posting → Option Attempt
  | .stopped index => if index = request then some .stop else none
  | .unbuilt index error => if index = request then some (.failed error) else none
  | .refused outgoing | .accepted _ outgoing =>
      if outgoing.reply = .request request then some .packet else none
  | _ => none

def firingOf? (task : Nat) : Posting → Option Firing
  | .fired number firing => if number = task then some firing else none
  | _ => none

def isFiring : Posting → Bool
  | .fired .. => true
  | _ => false

theorem firingOf?_eq_none {posting : Posting} (h : posting.isFiring = false) (task : Nat) :
    posting.firingOf? task = none := by
  cases posting <;> first | rfl | cases h

theorem isFiring_of_buildOf? {posting : Posting} {request : Nat} {attempt : Attempt}
    (h : posting.buildOf? request = some attempt) : posting.isFiring = false := by
  cases posting <;> first | rfl | cases h

end Posting

namespace Journal

def told (request : Nat) (journal : List Posting) : List SendError :=
  journal.filterMap (Posting.toldTo? request)

def failed (request : Nat) (journal : List Posting) : List SendError :=
  journal.filterMap (Posting.failureOf? request)

def builds (request : Nat) (journal : List Posting) : List Attempt :=
  journal.filterMap (Posting.buildOf? request)

def firings (task : Nat) (journal : List Posting) : List Firing :=
  journal.filterMap (Posting.firingOf? task)

section Append

variable (journal : List Posting) (posting : Posting)

@[simp] theorem told_append (request : Nat) :
    told request (journal ++ [posting]) =
      told request journal ++ (posting.toldTo? request).toList := by
  cases h : posting.toldTo? request <;> simp [told, h]

@[simp] theorem failed_append (request : Nat) :
    failed request (journal ++ [posting]) =
      failed request journal ++ (posting.failureOf? request).toList := by
  cases h : posting.failureOf? request <;> simp [failed, h]

@[simp] theorem builds_append (request : Nat) :
    builds request (journal ++ [posting]) =
      builds request journal ++ (posting.buildOf? request).toList := by
  cases h : posting.buildOf? request <;> simp [builds, h]

end Append

theorem firings_eq_nil {journal : List Posting}
    (h : ∀ posting ∈ journal, posting.isFiring = false) (task : Nat) : firings task journal = [] :=
  List.filterMap_eq_nil_iff.mpr fun posting hposting =>
    Posting.firingOf?_eq_none (h posting hposting) task

end Journal

open Journal (told failed builds firings)

/-- The attempts at a request are the next ones by its script. -/
def Request.Builds (request : Request) (attempts : List Attempt) : Prop :=
  attempts =
    (List.range attempts.length).map fun count => request.attemptAt (request.position + count)

/-- What has become of a request after some attempts. -/
structure Request.Tried (first : Request) (attempts : List Attempt) (request : Request) : Prop where
  reached : ∃ retries,
    request = { first with position := first.position + attempts.length, retries }
  script : first.Builds attempts

namespace Request.Tried

variable {first request : Request} {attempts : List Attempt}

theorem start (request : Request) : request.Tried [] request :=
  ⟨⟨request.retries, rfl⟩, rfl⟩

theorem retry (h : first.Tried attempts request) (retries : Nat) :
    first.Tried attempts { request with retries } := by
  obtain ⟨⟨before, rfl⟩, hscript⟩ := h
  exact ⟨⟨retries, rfl⟩, hscript⟩

theorem attempt (h : first.Tried attempts request) :
    first.Tried (attempts ++ [request.attempt])
      { request with position := request.position + 1 } := by
  obtain ⟨⟨retries, rfl⟩, hscript⟩ := h
  refine ⟨⟨retries, by simp [Nat.add_assoc]⟩, ?_⟩
  rw [Builds, List.length_append, List.length_singleton, List.range_succ, List.map_append,
    ← hscript]
  rfl

end Request.Tried

theorem Connection.write_queue {ρ : Type} (connection : Connection ρ) (sessionId : UInt32)
    (packet : Packet) : (connection.write sessionId packet).2.queue = connection.queue := by
  rw [write_eq]

/-- The packets in line are of requests that there are. -/
def Link.Within (link : Link Nat) (count : Nat) : Prop :=
  ∀ connection ∈ link.connections, ∀ outgoing ∈ connection.queue, ∀ index,
    outgoing.reply = .request index → index < count

namespace Link.Within

variable {link : Link Nat} {count : Nat}

theorem mono (h : link.Within count) {more : Nat} (hmore : count ≤ more) : link.Within more :=
  fun connection hconnection outgoing houtgoing index hindex =>
    Nat.lt_of_lt_of_le (h connection hconnection outgoing houtgoing index hindex) hmore

theorem modify (h : link.Within count) (index : Nat) {change : Connection Nat → Connection Nat}
    (hchange : ∀ connection, ∀ outgoing ∈ (change connection).queue,
      outgoing ∈ connection.queue ∨ ∀ index, outgoing.reply = .request index → index < count) :
    (link.modify index change).Within count := by
  intro connection hconnection outgoing houtgoing number hnumber
  obtain ⟨place, hplace⟩ := List.mem_iff_getElem?.mp hconnection
  simp only [Link.modify, List.getElem?_modify, Option.map_eq_map, Option.map_eq_some_iff] at hplace
  obtain ⟨before, hbefore, rfl⟩ := hplace
  have hmem : before ∈ link.connections := List.mem_of_getElem? hbefore
  split at houtgoing
  · rcases hchange before outgoing houtgoing with hqueue | hbound
    · exact h before hmem outgoing hqueue number hnumber
    · exact hbound number hnumber
  · exact h before hmem outgoing houtgoing number hnumber

theorem enqueue (h : link.Within count) (index : Nat) {outgoing : Outgoing Nat}
    (hbound : ∀ index, outgoing.reply = .request index → index < count) :
    (link.enqueue index outgoing).Within count :=
  h.modify index fun connection other hother => by
    rcases List.mem_append.mp hother with hqueue | hlast
    · exact .inl hqueue
    · rw [List.mem_singleton.mp hlast]
      exact .inr hbound

theorem attach (h : link.Within count) {connection : Connection Nat}
    (hempty : connection.queue = []) : (link.attach connection).Within count := by
  intro other hother outgoing houtgoing
  rcases List.mem_append.mp hother with hold | hnew
  · exact h other hold outgoing houtgoing
  · rw [List.mem_singleton.mp hnew, hempty] at houtgoing
    cases houtgoing

theorem close (h : link.Within count) (index : Nat) : (link.close index).Within count := by
  unfold Link.close
  split
  · exact h.modify index fun _ _ => .inl
  · exact h

theorem writeNext? (h : link.Within count) {index : Nat} {written : Link.Written Nat}
    {next : Link Nat} (hnext : link.writeNext? index = some (written, next)) :
    next.Within count ∧ ∀ number, written.outgoing.reply = .request number → number < count := by
  obtain ⟨connection, rest, hconnection, hqueue, -, rfl⟩ := Link.writeNext?_cases hnext
  have hmem : connection ∈ link.connections := List.mem_of_getElem? hconnection
  refine ⟨h.modify index fun _ other hother => .inr ?_, ?_⟩
  · rw [Connection.write_queue] at hother
    exact h connection hmem other (hqueue ▸ List.mem_cons_of_mem _ hother)
  · exact h connection hmem written.outgoing (hqueue ▸ List.mem_cons_self)

end Link.Within

namespace Outbox

/-- All tasks are left alone, and so is the number of the requests. -/
structure Spares (before after : Outbox) : Prop where
  schedule : after.schedule = before.schedule
  requests : after.requests.length = before.requests.length
  grows : ∃ more, after.journal = before.journal ++ more ∧
    ∀ posting ∈ more, posting.isFiring = false

/-- The requests that were given have been built by their scripts, and have been told of what has
gone wrong with them but for what is still owed to them. -/
structure Owes (outbox : Outbox) (given : List Request) (owed : Nat → Option SendError) :
    Prop where
  queued : outbox.link.Within outbox.requests.length
  length : outbox.requests.length = given.length
  tried : ∀ index request, outbox.requests[index]? = some request →
    ∃ first : Request, given[index]? = some first ∧
      first.Tried (builds index outbox.journal) request
  unknown : ∀ index, outbox.requests.length ≤ index → builds index outbox.journal = []
  account : ∀ index, failed index outbox.journal =
    told index outbox.journal ++ (owed index).toList

/-- One request is owed an error, if there is one. -/
abbrev OwesOne (outbox : Outbox) (given : List Request) (index : Nat) (error : Option SendError) :
    Prop :=
  outbox.Owes given fun number => if index = number then error else none

abbrev Informs (outbox : Outbox) (given : List Request) : Prop :=
  outbox.Owes given fun _ => none

namespace Spares

variable {before middle after : Outbox}

theorem of_journal (hjournal : after.journal = before.journal)
    (hschedule : after.schedule = before.schedule)
    (hrequests : after.requests.length = before.requests.length) : before.Spares after :=
  ⟨hschedule, hrequests, [], by rw [hjournal, List.append_nil], List.forall_mem_nil _⟩

theorem refl (outbox : Outbox) : outbox.Spares outbox :=
  .of_journal rfl rfl rfl

theorem trans (hfirst : before.Spares middle) (hsecond : middle.Spares after) :
    before.Spares after := by
  obtain ⟨some, hsome, hfirings⟩ := hfirst.grows
  obtain ⟨more, hmore, hothers⟩ := hsecond.grows
  refine ⟨hsecond.schedule.trans hfirst.schedule, hsecond.requests.trans hfirst.requests,
    some ++ more, by rw [hmore, hsome, List.append_assoc], fun posting hposting => ?_⟩
  exact (List.mem_append.mp hposting).elim (hfirings posting) (hothers posting)

theorem of_posting {posting : Posting} (hposting : posting.isFiring = false)
    (hjournal : after.journal = before.journal ++ [posting])
    (hschedule : after.schedule = before.schedule)
    (hrequests : after.requests.length = before.requests.length) : before.Spares after :=
  ⟨hschedule, hrequests, [posting], hjournal, by simpa using hposting⟩

theorem firings (h : before.Spares after) (task : Nat) :
    firings task after.journal = firings task before.journal := by
  obtain ⟨more, hmore, hothers⟩ := h.grows
  rw [hmore, Journal.firings, List.filterMap_append]
  exact (congrArg _ (Journal.firings_eq_nil hothers task)).trans (List.append_nil _)

end Spares

section Hooks

variable {outbox : Outbox} {index : Nat}

theorem spares_note {posting : Posting} (hposting : posting.isFiring = false) :
    outbox.Spares (outbox.note posting) :=
  .of_posting hposting rfl rfl rfl

theorem spares_modifyRequest (outbox : Outbox) (index : Nat) (change : Request → Request) :
    outbox.Spares (outbox.modifyRequest index change) :=
  .of_journal rfl rfl (List.length_modify ..)

theorem spares_accept (outbox : Outbox) (outgoing : Outgoing Nat) :
    outbox.Spares (outbox.accept outgoing).2 := by
  unfold accept
  split
  · exact spares_note rfl
  · exact .of_posting rfl rfl rfl rfl

/-- A request is told, whether or not it sends itself again. -/
theorem fail_eq {request : Request} (hrequest : outbox.requests[index]? = some request)
    (error : SendError) :
    ∃ failures change, (∀ request : Request, ∃ retries, change request = { request with retries }) ∧
      (outbox.fail index error).2 =
        { outbox with failures, requests := outbox.requests.modify index change }.note
          (.told index error) := by
  let failures (reported : Bool) :=
    if reported then outbox.failures ++ [⟨request.name, error⟩] else outbox.failures
  have hnone : outbox.requests.modify index id = outbox.requests := List.modify_id ..
  unfold fail
  rw [hrequest]
  dsimp only
  split
  · refine ⟨failures request.reported, id, fun request => ⟨request.retries, rfl⟩, ?_⟩
    rw [hnone]
    cases request.reported <;> rfl
  · refine ⟨failures request.reported, _, fun request => ⟨request.retries - 1, rfl⟩, ?_⟩
    cases request.reported <;> rfl

theorem spares_fail (outbox : Outbox) (index : Nat) (error : SendError) :
    outbox.Spares (outbox.fail index error).2 := by
  cases hrequest : outbox.requests[index]? with
  | none =>
      simp only [fail, hrequest]
      exact .refl outbox
  | some request =>
      obtain ⟨failures, change, -, heq⟩ := fail_eq hrequest error
      rw [heq]
      exact .of_posting rfl rfl rfl (List.length_modify ..)

theorem spares_attempt (outbox : Outbox) (index : Nat) (request : Request) :
    outbox.Spares (outbox.attempt index request).2 := by
  have hbuilt := spares_modifyRequest outbox index fun request =>
    { request with position := request.position + 1 }
  unfold attempt
  split
  · exact hbuilt.trans (spares_note rfl)
  · exact hbuilt.trans (spares_note rfl)
  · have haccept := spares_accept (outbox.modifyRequest index fun request =>
      { request with position := request.position + 1 }) ⟨request.packet, .request index⟩
    dsimp only
    split <;> rename_i hflag <;> rw [hflag] at haccept <;> exact hbuilt.trans haccept

theorem spares_sendWithin (fuel : Nat) (outbox : Outbox) (index : Nat) :
    outbox.Spares (sendWithin fuel outbox index).2 := by
  induction fuel generalizing outbox with
  | zero => exact .refl outbox
  | succ fuel induction =>
      unfold sendWithin
      split
      · exact .refl outbox
      · rename_i request hrequest
        have hattempt := spares_attempt outbox index request
        split <;> rename_i hmade <;> rw [hmade] at hattempt
        · exact hattempt
        · exact hattempt
        · rename_i error next
          have hfail := hattempt.trans (spares_fail next index error)
          dsimp only
          split
          · exact hfail.trans (induction _)
          · exact hfail

theorem spares_send (outbox : Outbox) (index : Nat) : outbox.Spares (outbox.send index).2 :=
  spares_sendWithin _ outbox index

theorem spares_answer (outbox : Outbox) (ticket : Nat) (result : Except SendError Unit) :
    outbox.Spares (outbox.answer ticket result) :=
  .of_posting rfl rfl rfl rfl

theorem spares_resolve (outbox : Outbox) (written : Link.Written Nat) :
    outbox.Spares (outbox.resolve written) := by
  unfold resolve
  split
  · exact spares_answer outbox _ _
  · rename_i number _
    split
    · exact .refl outbox
    · rename_i error _
      have hfail := spares_fail outbox number error
      dsimp only
      split
      · exact hfail.trans (spares_send _ number)
      · exact hfail

theorem spares_writeAt? {after : Outbox} (hafter : outbox.writeAt? index = some after) :
    outbox.Spares after := by
  obtain ⟨⟨written, link⟩, -, rfl⟩ := Option.map_eq_some_iff.mp hafter
  have hfinish : outbox.Spares (outbox.finish index written link) :=
    .of_posting rfl rfl rfl rfl
  exact hfinish.trans (spares_resolve _ written)

theorem spares_submit (outbox : Outbox) (packet : Packet) :
    outbox.Spares (outbox.submit packet).2 := by
  have haccept := spares_accept { outbox with tickets := outbox.tickets + 1 }
    ⟨packet, .ticket outbox.tickets⟩
  have hbegun : outbox.Spares { outbox with tickets := outbox.tickets + 1 } :=
    .of_journal rfl rfl rfl
  unfold submit
  dsimp only
  split
  · exact hbegun.trans haccept
  · exact (hbegun.trans haccept).trans (spares_answer _ _ _)

end Hooks

section Accounts

variable {outbox : Outbox} {given : List Request} {index : Nat} {owed next : Nat → Option SendError}

theorem OwesOne.informs (h : outbox.OwesOne given index none) : outbox.Informs given :=
  { h with account := fun number => by simpa using h.account number }

theorem Informs.relink (h : outbox.Informs given) {link : Link Nat}
    (hlink : link.Within outbox.requests.length) : { outbox with link }.Informs given :=
  ⟨hlink, h.length, h.tried, h.unknown, h.account⟩

theorem Informs.reschedule (h : outbox.Informs given) (schedule : Schedule Nat) :
    { outbox with schedule }.Informs given :=
  ⟨h.queued, h.length, h.tried, h.unknown, h.account⟩

/-- A posting that builds nothing shifts what is owed by what it says and tells. -/
theorem Owes.note (h : outbox.Owes given owed) {posting : Posting}
    (hbuilds : ∀ number, posting.buildOf? number = none)
    (haccount : ∀ number, (owed number).toList ++ (posting.failureOf? number).toList =
      (posting.toldTo? number).toList ++ (next number).toList) :
    (outbox.note posting).Owes given next where
  queued := h.queued
  length := h.length
  tried number request hrequest := by
    simpa [Outbox.note, hbuilds] using h.tried number request hrequest
  unknown number hnumber := by simpa [Outbox.note, hbuilds] using h.unknown number hnumber
  account number := by
    rw [Outbox.note, Journal.failed_append, Journal.told_append, h.account, List.append_assoc,
      haccount, List.append_assoc]

/-- A posting that builds and tells nothing leaves requests to be told of what it says. -/
theorem Informs.fails (h : outbox.Informs given) {posting : Posting}
    (hbuilds : ∀ number, posting.buildOf? number = none)
    (htells : ∀ number, posting.toldTo? number = none)
    (hfails : ∀ number, posting.failureOf? number = next number) :
    (outbox.note posting).Owes given next :=
  h.note hbuilds fun number => by rw [htells, hfails]

/-- A posting about nothing that requests are asked or told. -/
theorem Informs.remark (h : outbox.Informs given) {posting : Posting}
    (hbuilds : ∀ number, posting.buildOf? number = none)
    (htells : ∀ number, posting.toldTo? number = none)
    (hfails : ∀ number, posting.failureOf? number = none) :
    (outbox.note posting).Informs given :=
  h.fails hbuilds htells hfails

/-- The next attempt at a request is the one that it has come to by its script. -/
theorem Informs.build (h : outbox.Informs given) {request : Request}
    (hrequest : outbox.requests[index]? = some request) {link : Link Nat}
    (hlink : link.Within outbox.requests.length) {posting : Posting} {error : Option SendError}
    (hbuilds : ∀ number, posting.buildOf? number =
      if index = number then some request.attempt else none)
    (htells : ∀ number, posting.toldTo? number = none)
    (hfails : ∀ number, posting.failureOf? number = if index = number then error else none) :
    (({ outbox with link }.modifyRequest index fun request =>
      { request with position := request.position + 1 }).note posting).OwesOne given index
        error := by
  have hlength : (outbox.requests.modify index fun request =>
      { request with position := request.position + 1 }).length = outbox.requests.length :=
    List.length_modify ..
  refine ⟨hlength ▸ hlink, hlength.trans h.length, fun number now hnow => ?_,
    fun number hnumber => ?_, fun number => ?_⟩
  · simp only [Outbox.note, modifyRequest, List.getElem?_modify, Option.map_eq_map,
      Option.map_eq_some_iff] at hnow
    obtain ⟨before, hbefore, rfl⟩ := hnow
    obtain ⟨first, hfirst, htried⟩ := h.tried number before hbefore
    refine ⟨first, hfirst, ?_⟩
    rw [Outbox.note, modifyRequest, Journal.builds_append, hbuilds]
    split
    · rename_i hnumber
      cases hnumber
      cases hrequest.symm.trans hbefore
      exact htried.attempt
    · simpa using htried
  · have hother : index ≠ number := by
      rintro rfl
      have hbound := (List.getElem?_eq_some_iff.mp hrequest).1
      exact absurd (hlength ▸ hnumber : outbox.requests.length ≤ index) (Nat.not_le_of_lt hbound)
    rw [Outbox.note, modifyRequest, Journal.builds_append, hbuilds, if_neg hother]
    simpa using h.unknown number (hlength ▸ hnumber)
  · simp [Outbox.note, modifyRequest, h.account, htells, hfails]

/-- What an attempt has failed with, if it failed at once. -/
def Made.error? : Made → Option SendError
  | .failed error => some error
  | _ => none

theorem Informs.attempt (h : outbox.Informs given) {request : Request}
    (hrequest : outbox.requests[index]? = some request) :
    (outbox.attempt index request).2.OwesOne given index
      (outbox.attempt index request).1.error? := by
  have hindex := (List.getElem?_eq_some_iff.mp hrequest).1
  have hbound : ∀ number, (Reply.request index : Reply Nat) = .request number →
      number < outbox.requests.length := by
    rintro number ⟨⟩
    exact hindex
  unfold Outbox.attempt
  split <;> rename_i hattempt
  · exact h.build hrequest h.queued (by simp [Posting.buildOf?, hattempt]) (fun _ => rfl)
      (by simp [Posting.failureOf?, Made.error?])
  · exact h.build hrequest h.queued (by simp [Posting.buildOf?, hattempt]) (fun _ => rfl)
      (by simp [Posting.failureOf?, Made.error?])
  · dsimp only [accept, modifyRequest]
    cases hwriter : outbox.link.writer with
    | none =>
        exact h.build hrequest h.queued (by simp [Posting.buildOf?, hattempt]) (fun _ => rfl)
          (by simp [Posting.failureOf?, Made.error?])
    | some connection =>
        exact h.build hrequest (h.queued.enqueue connection hbound)
          (by simp [Posting.buildOf?, hattempt]) (fun _ => rfl)
          (by simp [Posting.failureOf?, Made.error?])

theorem OwesOne.fail {error : SendError} (h : outbox.OwesOne given index (some error))
    (hindex : index < outbox.requests.length) : (outbox.fail index error).2.Informs given := by
  obtain ⟨failures, change, hchange, heq⟩ := fail_eq (List.getElem?_eq_getElem hindex) error
  have hlength : (outbox.requests.modify index change).length = outbox.requests.length :=
    List.length_modify ..
  have htold : { outbox with failures, requests := outbox.requests.modify index change }.OwesOne
      given index (some error) := by
    refine ⟨hlength ▸ h.queued, hlength.trans h.length, fun number now hnow => ?_,
      fun number hnumber => h.unknown number (hlength ▸ hnumber), h.account⟩
    simp only [List.getElem?_modify, Option.map_eq_map, Option.map_eq_some_iff] at hnow
    obtain ⟨before, hbefore, rfl⟩ := hnow
    obtain ⟨first, hfirst, htried⟩ := h.tried number before hbefore
    refine ⟨first, hfirst, ?_⟩
    split
    · obtain ⟨retries, hretries⟩ := hchange before
      exact hretries ▸ htried.retry retries
    · exact htried
  rw [heq]
  refine htold.note (fun _ => rfl) fun number => ?_
  simp [Posting.failureOf?, Posting.toldTo?]

theorem Informs.sendWithin (h : outbox.Informs given) (fuel index : Nat) :
    (sendWithin fuel outbox index).2.Informs given := by
  induction fuel generalizing outbox with
  | zero => exact h
  | succ fuel induction =>
      unfold Outbox.sendWithin
      split
      · exact h
      · rename_i request hrequest
        have hindex := (List.getElem?_eq_some_iff.mp hrequest).1
        have hattempt := h.attempt hrequest
        have hspares := spares_attempt outbox index request
        split <;> rename_i hmade <;> rw [hmade] at hattempt hspares
        · exact OwesOne.informs hattempt
        · exact OwesOne.informs hattempt
        · have hfail := OwesOne.fail hattempt (hspares.requests ▸ hindex)
          dsimp only
          split
          · exact induction hfail
          · exact hfail

theorem Informs.send (h : outbox.Informs given) (index : Nat) :
    (outbox.send index).2.Informs given :=
  h.sendWithin _ index

theorem Informs.answer (h : outbox.Informs given) (ticket : Nat) (result : Except SendError Unit) :
    (outbox.answer ticket result).Informs given := by
  have hanswered : { outbox with results := outbox.results.insert ticket result }.Informs given :=
    ⟨h.queued, h.length, h.tried, h.unknown, h.account⟩
  exact hanswered.remark (fun _ => rfl) (fun _ => rfl) fun _ => rfl

theorem Informs.writeAt? (h : outbox.Informs given) {after : Outbox}
    (hafter : outbox.writeAt? index = some after) : after.Informs given := by
  obtain ⟨⟨written, link⟩, hnext, rfl⟩ := Option.map_eq_some_iff.mp hafter
  obtain ⟨hwithin, hbound⟩ := h.queued.writeNext? hnext
  have hlink := h.relink hwithin
  obtain ⟨⟨packet, reply⟩, result⟩ := written
  unfold finish resolve
  cases reply with
  | ticket ticket =>
      refine (hlink.remark (fun _ => rfl) (fun _ => rfl) fun _ => ?_).answer ticket result
      cases result <;> simp [Posting.failureOf?]
  | request number =>
      cases result with
      | ok => exact hlink.remark (fun _ => rfl) (fun _ => rfl) fun _ => rfl
      | error error =>
          have howes : (({ outbox with link } : Outbox).note
              (.finished index ⟨packet, .request number⟩ link.sessionId (.error error))).OwesOne
                given number (some error) :=
            hlink.fails (fun _ => rfl) (fun _ => rfl) fun _ => by simp [Posting.failureOf?]
          have hfail := howes.fail (hbound number rfl)
          dsimp only
          split
          · exact hfail.send number
          · exact hfail

theorem Informs.submit (h : outbox.Informs given) (packet : Packet) :
    (outbox.submit packet).2.Informs given := by
  have hbegun : { outbox with tickets := outbox.tickets + 1 }.Informs given :=
    ⟨h.queued, h.length, h.tried, h.unknown, h.account⟩
  unfold Outbox.submit accept
  dsimp only
  cases hwriter : outbox.link.writer with
  | none =>
      simp only [Bool.false_eq_true, if_false]
      exact (hbegun.remark (fun _ => by simp [Posting.buildOf?]) (fun _ => rfl)
        fun _ => by simp [Posting.failureOf?]).answer _ _
  | some connection =>
      simp only [if_true]
      have hbound : ∀ index, (Reply.ticket outbox.tickets : Reply Nat) = .request index →
          index < outbox.requests.length := nofun
      exact (hbegun.relink (hbegun.queued.enqueue connection hbound)).remark
        (fun _ => by simp [Posting.buildOf?]) (fun _ => rfl) fun _ => rfl

theorem Informs.script (h : outbox.Informs given) {request : Request}
    (hrequest : given[index]? = some request) : request.Builds (builds index outbox.journal) := by
  have hindex := h.length ▸ (List.getElem?_eq_some_iff.mp hrequest).1
  obtain ⟨first, hfirst, htried⟩ := h.tried index _ (List.getElem?_eq_getElem hindex)
  cases hrequest.symm.trans hfirst
  exact htried.script

theorem Informs.addRequest (h : outbox.Informs given) (request : Request) :
    (outbox.addRequest request).2.Informs (given ++ [request]) where
  queued := h.queued.mono (by simp [Outbox.addRequest])
  length := by simp [Outbox.addRequest, h.length]
  tried number now hnow := by
    rw [Outbox.addRequest, List.getElem?_append] at hnow
    split at hnow
    · rename_i hold
      obtain ⟨first, hfirst, htried⟩ := h.tried number now hnow
      exact ⟨first, (List.getElem?_append_left (h.length ▸ hold)).trans hfirst, htried⟩
    · rename_i hnew
      have hlate := Nat.le_of_not_lt hnew
      refine ⟨now, ?_, (h.unknown number hlate) ▸ .start now⟩
      rwa [List.getElem?_append_right (h.length ▸ hlate), ← h.length]
  unknown number hnumber := h.unknown number (by simp [Outbox.addRequest] at hnumber; omega)
  account := h.account

end Accounts

end Outbox

end Messenger
