import Messenger.Proofs.Session.Provision
import Messenger.Proofs.Session.Reports

/-!
Calls, traffic and time take in no packet and report nothing of a login. What they leave running is
either read on as before, or not at all.
-/

namespace Messenger

/-- Whether no packet has come in, no login has begun and nothing of a login has been reported. -/
def Happening.isSilent : Happening → Bool
  | .entered state => state ≠ .connecting
  | .received .. => false
  | .reported report => !report.event.isWatched
  | _ => true

theorem begin_not_mem_of_silent {noted : List Happening}
    (hsilent : ∀ happening ∈ noted, happening.isSilent = true) :
    .entered .connecting ∉ noted :=
  fun hmem => nomatch hsilent _ hmem

theorem told_append_of_silent {journal noted : List Happening}
    (hsilent : ∀ happening ∈ noted, happening.isSilent = true) :
    told (journal ++ noted) = told journal := by
  refine told_append_of_untold (begin_not_mem_of_silent hsilent) fun happening hmem => ?_
  have hquiet := hsilent happening hmem
  cases happening with
  | reported report => simpa [Happening.isSilent, Happening.isTold] using hquiet
  | _ => rfl

namespace Standing

/-- No reader is set going, and no login waits for its connection that did not before. -/
structure Fades (before after : Standing) : Prop where
  readers : ∀ (index : Nat) (reader : Reader), reader ≠ .stopped →
    after.readers[index]? = some reader → before.readers[index]? = some reader
  length : after.readers.length = before.readers.length
  dialing : after.IsDialing → before.IsDialing

namespace Fades

theorem of_eq {before after : Standing} (hreaders : after.readers = before.readers)
    (hcalls : ∀ call ∈ after.calls, call ∈ before.calls) :
    Fades before after where
  readers index reader _ hfound := by rwa [hreaders] at hfound
  length := by rw [hreaders]
  dialing := fun ⟨call, hcall, hphase⟩ => ⟨call, hcalls call hcall, hphase⟩

theorem refl (standing : Standing) : Fades standing standing :=
  of_eq rfl fun _ => id

theorem trans {first second third : Standing} (hfirst : Fades first second)
    (hsecond : Fades second third) :
    Fades first third where
  readers index reader hgoing hfound :=
    hfirst.readers index reader hgoing (hsecond.readers index reader hgoing hfound)
  length := hsecond.length.trans hfirst.length
  dialing := fun hdialing => hfirst.dialing (hsecond.dialing hdialing)

end Fades

theorem fades_setStopped (standing : Standing) (index : Nat) :
    Fades standing { standing with readers := standing.readers.set index .stopped } where
  readers _ _ hgoing hfound := (readers_set_ne (Ne.symm hgoing) hfound).2
  length := List.length_set
  dialing := id

theorem fades_stopReader {standing : Standing} (hidle : standing.working = none) :
    Fades standing standing.stopReader where
  readers index reader hgoing hfound := by
    rcases Session.going_stopReader hgoing hfound with hold | hown
    · exact hold
    · rw [hidle] at hown
      cases hown
  length := by
    unfold stopReader
    cases standing.reader with
    | none => rfl
    | some own => exact List.length_set
  dialing := id

theorem fades_teardown {standing : Standing} (hidle : standing.working = none) :
    Fades standing standing.teardown := by
  refine Fades.trans ?_ (fades_stopReader hidle)
  exact .of_eq rfl fun _ => id

theorem fades_finish {standing : Standing} (hidle : standing.working = none) (number : Nat)
    (result : Except SessionError Unit) :
    Fades standing (standing.finish number result) := by
  have hended : Fades standing { standing with
      calls := standing.otherCalls number
      results := standing.results ++ [⟨number, result⟩] } :=
    .of_eq rfl (standing.otherCalls_subset number)
  unfold finish
  dsimp only
  split
  · exact hended
  · refine hended.trans (Fades.trans ?_ (fades_stopReader hidle))
    exact .of_eq rfl fun _ => id

theorem fades_await (standing : Standing) (number : Nat) {phase : Phase}
    (hphase : ∀ username, phase ≠ .connecting username) :
    Fades standing (standing.await number phase) where
  readers _ _ _ hfound := hfound
  length := rfl
  dialing := by
    rintro ⟨call, hcall, username, hdialing⟩
    rcases List.mem_append.mp hcall with hother | hown
    · exact ⟨call, standing.otherCalls_subset number call hother, username, hdialing⟩
    · rw [List.mem_singleton.mp hown] at hdialing
      exact absurd hdialing (hphase username)

end Standing

namespace Session

/-- All that happens between two sessions passes a test. -/
def Notes (test : Happening → Bool) (before after : Session) : Prop :=
  ∃ noted, after.journal = before.journal ++ noted ∧ ∀ happening ∈ noted, test happening = true

section

variable {test : Happening → Bool}

namespace Notes

theorem of_same {before after : Session} (hjournal : after.journal = before.journal) :
    Notes test before after :=
  ⟨[], by simpa using hjournal, by simp⟩

theorem trans {first second third : Session} (hfirst : Notes test first second)
    (hsecond : Notes test second third) :
    Notes test first third := by
  obtain ⟨early, hearly, hpassed⟩ := hfirst
  obtain ⟨late, hlate, hpassedToo⟩ := hsecond
  refine ⟨early ++ late, ?_, ?_⟩
  · rw [hlate, hearly, List.append_assoc]
  · intro happening hmem
    rcases List.mem_append.mp hmem with hmem | hmem
    · exact hpassed happening hmem
    · exact hpassedToo happening hmem

theorem mono {other : Happening → Bool} {before after : Session} (h : Notes test before after)
    (himplies : ∀ happening, test happening = true → other happening = true) :
    Notes other before after := by
  obtain ⟨noted, hjournal, hpassed⟩ := h
  exact ⟨noted, hjournal, fun happening hmem => himplies happening (hpassed happening hmem)⟩

/-- What passes a test as a whole passes it on every part of the way. -/
theorem split {first second third : Session} (h : Notes test first third)
    (hfirst : Follows first second) (hsecond : Follows second third) :
    Notes test first second ∧ Notes test second third := by
  obtain ⟨noted, hjournal, hpassed⟩ := h
  obtain ⟨early, hearly, -⟩ := hfirst.journal
  obtain ⟨late, hlate, -⟩ := hsecond.journal
  rw [hlate, hearly, List.append_assoc] at hjournal
  obtain rfl := List.append_cancel_left hjournal
  exact ⟨⟨early, hearly, fun happening hmem => hpassed happening (List.mem_append_left late hmem)⟩,
    ⟨late, hlate, fun happening hmem => hpassed happening (List.mem_append_right early hmem)⟩⟩

end Notes

theorem notes_note (session : Session) {happening : Happening} (htest : test happening = true) :
    Notes test session (session.note happening) :=
  ⟨[happening], rfl, by simpa using htest⟩

theorem notes_enter (session : Session) {state : SessionState}
    (htest : test (.entered state) = true) :
    Notes test session (session.enter state) := by
  by_cases hsame : session.state = state
  · exact .of_same (by simp [enter, hsame])
  · exact ⟨[.entered state], by simp [enter, hsame], by simpa using htest⟩

theorem notes_report (session : Session) (service : Option Service) (event : Event)
    (htest : test (.reported ⟨service, event⟩) = true) :
    Notes test session (session.report service event) := by
  by_cases hrunning : session.events.running = true
  · exact ⟨[.reported ⟨service, event⟩], by simp [report, hrunning], by simpa using htest⟩
  · exact .of_same (by simp [report, hrunning])

theorem notes_enqueue (session : Session) (outgoing : Outgoing Sending)
    (htest : ∀ index, test (.submitted index outgoing.packet) = true) :
    Notes test session (session.enqueue outgoing) := by
  refine ⟨_, rfl, ?_⟩
  intro happening hmem
  obtain ⟨index, -, rfl⟩ := List.mem_map.mp hmem
  exact htest index

theorem notes_submit (session : Session) (packet : Packet)
    (htest : ∀ index, test (.submitted index packet) = true) :
    Notes test session (session.submit packet).2 := by
  unfold submit
  dsimp only
  split
  · refine Notes.trans ?_ (notes_enqueue _ _ htest)
    exact .of_same rfl
  · exact .of_same rfl

end

/-- One session comes from another without a packet taken in, a login begun or reported on, or a
reader set going. -/
structure Subsides (before after : Session) : Prop where
  journal : Notes Happening.isSilent before after
  standing : Standing.Fades before.standing after.standing

namespace Subsides

theorem of_same {before after : Session} (hjournal : after.journal = before.journal)
    (hstanding : Standing.Fades before.standing after.standing) :
    Subsides before after :=
  ⟨.of_same hjournal, hstanding⟩

theorem refl (session : Session) : Subsides session session :=
  of_same rfl (.refl _)

theorem trans {first second third : Session} (hfirst : Subsides first second)
    (hsecond : Subsides second third) :
    Subsides first third :=
  ⟨hfirst.journal.trans hsecond.journal, hfirst.standing.trans hsecond.standing⟩

end Subsides

theorem Notes.told_eq {before after : Session} (h : Notes Happening.isSilent before after) :
    told after.journal = told before.journal := by
  obtain ⟨noted, hjournal, hsilent⟩ := h
  rw [hjournal, told_append_of_silent hsilent]

theorem subsides_enter (session : Session) (state : SessionState) (hstate : state ≠ .connecting) :
    Subsides session (session.enter state) :=
  ⟨notes_enter session (by simpa [Happening.isSilent] using hstate), .of_eq rfl fun _ => id⟩

theorem subsides_fail (session : Session) (error : SessionError) :
    Subsides session (session.fail error) := by
  have hmarked : Subsides session { session with failure := some error } :=
    .of_same rfl (.of_eq rfl fun _ => id)
  exact hmarked.trans (subsides_enter _ .failed (by decide))

theorem subsides_report (session : Session) (service : Option Service) {event : Event}
    (hunwatched : event.isWatched = false) :
    Subsides session (session.report service event) := by
  refine ⟨notes_report session service event (by simp [Happening.isSilent, hunwatched]), ?_⟩
  rw [standing_report]
  exact .refl _

theorem subsides_submit (session : Session) (packet : Packet) :
    Subsides session (session.submit packet).2 := by
  refine ⟨notes_submit session packet fun _ => rfl, ?_⟩
  rw [standing_submit]
  exact .refl _

theorem subsides_teardown {session : Session} (hidle : session.working = none) :
    Subsides session session.teardown := by
  refine .of_same rfl ?_
  rw [standing_teardown]
  exact Standing.fades_teardown hidle

theorem journal_finish (session : Session) (number : Nat) (result : Except SessionError Unit) :
    (session.finish number result).journal = session.journal := by
  unfold finish
  dsimp only
  split <;> rfl

theorem subsides_finish {session : Session} (hidle : session.working = none) (number : Nat)
    (result : Except SessionError Unit) :
    Subsides session (session.finish number result) := by
  refine .of_same (journal_finish session number result) ?_
  rw [standing_finish]
  exact Standing.fades_finish hidle number result

theorem subsides_await (session : Session) (number : Nat) {phase : Phase}
    (hphase : ∀ username, phase ≠ .connecting username) :
    Subsides session (session.await number phase) :=
  .of_same rfl (Standing.fades_await session.standing number hphase)

theorem subsides_abandonLogin {session : Session} (hidle : session.working = none) (number : Nat)
    (error : SessionError) :
    Subsides session (session.abandonLogin number error) := by
  have hforgot : Subsides session { session with password := none } :=
    .of_same rfl (.of_eq rfl fun _ => id)
  have htorn : Subsides { session with password := none }
      ({ session with password := none } : Session).teardown := subsides_teardown hidle
  refine (hforgot.trans htorn).trans (subsides_finish ?_ number _)
  exact hidle

theorem subsides_failLogin {session : Session} (hidle : session.working = none) (number : Nat)
    (error : SessionError) :
    Subsides session (session.failLogin number error) := by
  refine (subsides_fail session error).trans (subsides_abandonLogin ?_ number error)
  exact hidle

theorem subsides_awaitHandshake {session : Session} (hidle : session.working = none)
    (number deadline : Nat) :
    Subsides session (session.awaitHandshake number deadline) := by
  unfold awaitHandshake
  split
  · split
    · have hforgot : Subsides session { session with password := none } :=
        .of_same rfl (.of_eq rfl fun _ => id)
      refine hforgot.trans (subsides_finish ?_ number _)
      exact hidle
    · exact subsides_abandonLogin hidle number _
  · split
    · exact subsides_failLogin hidle number _
    · exact subsides_await session number (by simp)

theorem subsides_beginCall (session : Session) : Subsides session session.beginCall.2 :=
  .of_same rfl (.of_eq rfl fun _ => id)

theorem subsides_logout {session : Session} (hidle : session.working = none) :
    Subsides session session.logout := by
  unfold logout
  refine (subsides_beginCall session).trans ?_
  dsimp only
  split
  · refine subsides_finish ?_ _ _
    exact hidle
  · refine (subsides_enter _ .unstarted (by decide)).trans ?_
    exact (subsides_submit _ _).trans (subsides_await _ _ (by simp))

theorem subsides_reset {session : Session} (hidle : session.working = none) :
    Subsides session session.reset := by
  unfold reset
  refine (subsides_beginCall session).trans ?_
  dsimp only
  split
  · refine (subsides_enter _ .unstarted (by decide)).trans ?_
    have htorn : Subsides (session.beginCall.2.enter .unstarted)
        (session.beginCall.2.enter .unstarted).teardown := subsides_teardown hidle
    have hcleared : Subsides (session.beginCall.2.enter .unstarted).teardown
        { (session.beginCall.2.enter .unstarted).teardown with failure := none } :=
      .of_same rfl (.of_eq rfl fun _ => id)
    refine (htorn.trans hcleared).trans (subsides_finish ?_ _ _)
    exact hidle
  · refine subsides_finish ?_ _ _
    exact hidle

theorem subsides_goOn {session : Session} (hidle : session.working = none) (call : Call) :
    Subsides session (session.goOn call) := by
  unfold goOn
  split
  · exact .refl session
  · split
    · exact .refl session
    · exact subsides_awaitHandshake hidle _ _
    · exact subsides_failLogin hidle _ _
  · exact subsides_awaitHandshake hidle _ _
  · split
    · exact .refl session
    · refine (subsides_teardown hidle).trans (subsides_finish ?_ _ _)
      exact hidle

theorem subsides_resume {session : Session} (hidle : session.working = none) (number : Nat) :
    Subsides session (session.resume number) := by
  unfold resume
  split
  · split
    · exact subsides_goOn hidle _
    · exact .refl session
  · exact .refl session

theorem subsides_drop {session : Session} (hidle : session.working = none) :
    Subsides session session.drop := by
  have hdropped : Subsides session { session with held := false } :=
    .of_same rfl (.of_eq rfl fun _ => id)
  refine ⟨?_, ?_⟩
  · unfold drop
    dsimp only
    split <;> exact .of_same rfl
  · rw [standing_drop]
    dsimp only
    split
    · exact hdropped.standing
    · refine hdropped.standing.trans (Standing.Fades.trans ?_ (Standing.fades_stopReader ?_))
      · exact .of_eq rfl fun _ => id
      · exact hidle

theorem Carries.subsides {before after : Session} (h : Carries before after) :
    Subsides before after := by
  obtain ⟨noted, hjournal, hsent⟩ := h.journal
  refine ⟨⟨noted, hjournal, ?_⟩, ?_⟩
  · intro happening hmem
    obtain ⟨connection, packet, rfl, -⟩ := hsent happening hmem
    rfl
  · rw [h.standing]
    exact .refl _

/-- A session goes on as it was, with nothing but packets put on the line. -/
structure Steady (before after : Session) : Prop where
  alike : Alike after before
  alive : after.alive = true
  journal : Notes (fun happening => happening.state?.isNone) before after

/-- Nothing is read any more, and no call runs. -/
def Ceased (session : Session) : Prop :=
  session.reader = none ∧ session.calls = []

theorem Steady.of_same {before after : Session} (halike : Alike after before)
    (halive : after.alive = true) (hjournal : after.journal = before.journal) :
    Steady before after :=
  ⟨halike, halive, .of_same hjournal⟩

theorem Steady.refl {session : Session} (halive : session.alive = true) :
    Steady session session :=
  of_same (.refl session) halive rfl

theorem finish_outcome {session : Session} {number : Nat}
    (hothers : session.standing.otherCalls number = []) (result : Except SessionError Unit) :
    Ceased (session.finish number result) ∨ Steady session (session.finish number result) := by
  unfold finish
  dsimp only
  split
  · rename_i halive
    refine .inr (.of_same ?_ halive rfl)
    exact { Alike.refl session with }
  · exact .inl ⟨rfl, hothers⟩

theorem ceased_finish {session : Session} (hreader : session.reader = none) {number : Nat}
    (hothers : session.standing.otherCalls number = []) (result : Except SessionError Unit) :
    Ceased (session.finish number result) := by
  unfold finish
  dsimp only
  split
  · exact ⟨hreader, hothers⟩
  · exact ⟨rfl, hothers⟩

theorem ceased_abandonLogin {session : Session} {number : Nat}
    (hothers : session.standing.otherCalls number = []) (error : SessionError) :
    Ceased (session.abandonLogin number error) := by
  refine ceased_finish rfl ?_ _
  exact hothers

theorem awaitHandshake_outcome {session : Session} {number : Nat}
    (hothers : session.standing.otherCalls number = []) (deadline : Nat) :
    Ceased (session.awaitHandshake number deadline) ∨
      Steady session (session.awaitHandshake number deadline) := by
  unfold awaitHandshake
  split
  · split
    · rename_i hstate
      have hconnected : session.state ≠ .connecting := by simp [hstate]
      have hforgot : Alike { session with password := none } session :=
        { Alike.refl session with password := fun hconnecting => absurd hconnecting hconnected }
      have hended : ({ session with password := none } : Session).standing.otherCalls number = [] :=
        hothers
      rcases finish_outcome hended (.ok ()) with hceased | hsteady
      · exact .inl hceased
      · exact .inr ⟨hsteady.alike.trans hforgot, hsteady.alive, hsteady.journal⟩
    · exact .inl (ceased_abandonLogin hothers _)
  · split
    · refine .inl (ceased_abandonLogin ?_ _)
      exact hothers
    · refine .inr (.of_same ?_ ?_ rfl)
      · exact { Alike.refl session with }
      · simp [alive, await]

theorem resume_outcome {session : Session} (h : Standing.AtRest session.standing)
    (halive : session.alive = true) (number : Nat) :
    Ceased (session.resume number) ∨ Steady session (session.resume number) := by
  unfold resume
  split
  · rename_i call hcall
    have hothers := otherCalls_of_mem h (callNumbered?_mem hcall).1
    split
    · unfold goOn
      split
      · exact .inr (.refl halive)
      · split
        · exact .inr (.refl halive)
        · exact awaitHandshake_outcome hothers _
        · refine .inl (ceased_abandonLogin ?_ _)
          exact hothers
      · exact awaitHandshake_outcome hothers _
      · split
        · exact .inr (.refl halive)
        · refine .inl (ceased_finish rfl ?_ _)
          exact hothers
    · exact .inr (.refl halive)
  · exact .inr (.refl halive)

theorem drop_outcome (session : Session) :
    Ceased session.drop ∨ Steady session session.drop := by
  unfold drop
  dsimp only
  split
  · rename_i halive
    refine .inr (.of_same ?_ halive rfl)
    exact { Alike.refl session with }
  · rename_i hgone
    have hcalls : session.calls = [] := by simpa [alive] using hgone
    exact .inl ⟨rfl, hcalls⟩

theorem Carries.steady {before after : Session} (h : Carries before after)
    (halive : before.alive = true) :
    Steady before after := by
  have hsame := h.standing
  refine ⟨⟨?_, ?_, ?_, ?_, ?_, h.fragments, ?_, h.subsides.journal.told_eq⟩, ?_, ?_⟩
  · exact congrArg Standing.config hsame
  · exact congrArg Standing.state hsame
  · exact congrArg Standing.username hsame
  · exact fun _ => congrArg Standing.password hsame
  · exact congrArg Registry.collectors h.registry
  · exact congrArg Standing.running hsame
  · exact (congrArg Standing.alive hsame).trans halive
  · obtain ⟨noted, hjournal, hsent⟩ := h.journal
    refine ⟨noted, hjournal, fun happening hmem => ?_⟩
    obtain ⟨connection, packet, rfl, -⟩ := hsent happening hmem
    rfl

end Session

end Messenger
