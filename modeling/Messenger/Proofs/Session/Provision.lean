import Messenger.Proofs.Session.Sequential

/-!
What runs in the background of a session: nothing unless it is logged on or logs in, and all that a
session needs while it is logged on.
-/

namespace Messenger

namespace Standing

/-- The connection is read and takes packets, events are accepted, and the requests recur. -/
structure Equipped (standing : Standing) : Prop where
  connection : ∃ index : Nat, standing.writer = some index ∧ standing.reader = some index ∧
    standing.readers[index]? = some .running
  running : standing.running = true
  recurring : standing.recurring = [.ping, .keepAlive]

/-- A login that waits for its connection. -/
def IsDialing (standing : Standing) : Prop :=
  ∃ call ∈ standing.calls, ∃ username, call.phase = .connecting username

/-- What a sequential session has acquired and what it has released. -/
structure Provided (standing : Standing) : Prop where
  equipped : standing.state ≠ .unstarted → standing.state ≠ .failed → ¬ standing.IsDialing →
    standing.Equipped
  dialing : standing.IsDialing →
    standing.state = .connecting ∧ standing.running = true ∧ standing.recurring = []
  released : standing.calls = [] → standing.state ≠ .loggedOn →
    standing.running = false ∧ standing.recurring = []
  /-- The password is kept no longer than the login that needs it. -/
  forgotten : (∀ call ∈ standing.calls, ∃ ticket, call.phase = .leaving ticket) →
    standing.password = none

theorem Equipped.of_eq {before after : Standing} (h : before.Equipped)
    (hwriter : after.writer = before.writer) (hreader : after.reader = before.reader)
    (hreaders : after.readers = before.readers) (hrunning : after.running = before.running)
    (hrecurring : after.recurring = before.recurring) :
    after.Equipped := by
  refine ⟨?_, hrunning.trans h.running, hrecurring.trans h.recurring⟩
  rw [hwriter, hreader, hreaders]
  exact h.connection

theorem isDialing_of_calls {standing : Standing} {call : Call}
    (hcalls : standing.calls = [call]) :
    standing.IsDialing ↔ ∃ username, call.phase = .connecting username := by
  simp [IsDialing, hcalls]

theorem not_isDialing_of_no_calls {standing : Standing} (hcalls : standing.calls = []) :
    ¬ standing.IsDialing := by
  simp [IsDialing, hcalls]

theorem finish_of_held {standing : Standing} (hheld : standing.held = true) (number : Nat)
    (result : Except SessionError Unit) :
    standing.finish number result =
      { standing with
        calls := standing.otherCalls number
        results := standing.results ++ [⟨number, result⟩] } := by
  simp [finish, alive, hheld]

theorem calls_await {standing : Standing} {number : Nat}
    (hcalls : standing.otherCalls number = []) (phase : Phase) :
    (standing.await number phase).calls = [⟨number, phase⟩] := by
  simp [await, hcalls]

namespace Provided

variable {standing : Standing}

theorem of_ended (hcalls : standing.calls = [])
    (hstate : standing.state = .unstarted ∨ standing.state = .failed)
    (hrunning : standing.running = false) (hrecurring : standing.recurring = [])
    (hpassword : standing.password = none) :
    Provided standing where
  equipped hunstarted hfailed := (hstate.elim hunstarted hfailed).elim
  dialing hdialing := absurd hdialing (not_isDialing_of_no_calls hcalls)
  released _ _ := ⟨hrunning, hrecurring⟩
  forgotten _ := hpassword

theorem teardown_finish (hheld : standing.held = true) {number : Nat}
    (hcalls : standing.otherCalls number = [])
    (hstate : standing.state = .unstarted ∨ standing.state = .failed)
    (hpassword : standing.password = none) (result : Except SessionError Unit) :
    Provided (standing.teardown.finish number result) := by
  rw [finish_of_held (by exact hheld)]
  exact of_ended hcalls hstate rfl rfl hpassword

theorem abandonLogin (hheld : standing.held = true) {number : Nat}
    (hcalls : standing.otherCalls number = [])
    (hstate : standing.state = .unstarted ∨ standing.state = .failed) (error : SessionError) :
    Provided (standing.abandonLogin number error) := by
  refine teardown_finish ?_ ?_ ?_ rfl _
  · exact hheld
  · exact hcalls
  · exact hstate

theorem failLogin (hheld : standing.held = true) {number : Nat}
    (hcalls : standing.otherCalls number = []) (error : SessionError) :
    Provided (standing.failLogin number error) := by
  refine abandonLogin ?_ ?_ (.inr rfl) error
  · exact hheld
  · exact hcalls

/-- A call that is answered at once changes nothing that is provided. -/
theorem answered (h : Provided standing) (hheld : standing.held = true)
    (hcalls : standing.calls = []) (number : Nat) (result : Except SessionError Unit) :
    Provided (standing.beginCall.finish number result) := by
  have hothers : standing.otherCalls number = [] := by simp [otherCalls, hcalls]
  rw [finish_of_held (by exact hheld)]
  refine ⟨?_, ?_, ?_, ?_⟩
  · intro hunstarted hfailed _
    exact (h.equipped hunstarted hfailed (not_isDialing_of_no_calls hcalls)).of_eq
      rfl rfl rfl rfl rfl
  · exact fun hdialing => absurd hdialing (not_isDialing_of_no_calls hothers)
  · exact fun _ hne => h.released hcalls hne
  · exact fun _ => h.forgotten (by simp [hcalls])

theorem await_login {number : Nat} {phase : Phase} (hcalls : standing.otherCalls number = [])
    (hleaving : ∀ ticket, phase ≠ .leaving ticket)
    (hdialing : ∀ username, phase ≠ .connecting username)
    (hequipped : standing.state ≠ .unstarted → standing.state ≠ .failed → standing.Equipped) :
    Provided (standing.await number phase) := by
  have honly := calls_await hcalls phase
  refine ⟨?_, ?_, by simp [honly], ?_⟩
  · exact fun hunstarted hfailed _ =>
      (hequipped hunstarted hfailed).of_eq rfl rfl rfl rfl rfl
  · rw [isDialing_of_calls honly]
    exact fun ⟨username, hphase⟩ => absurd hphase (hdialing username)
  · intro hall
    obtain ⟨ticket, hphase⟩ := hall ⟨number, phase⟩ (by simp [honly])
    exact absurd hphase (hleaving ticket)

theorem await_dialing {number : Nat} (hcalls : standing.otherCalls number = [])
    (hstate : standing.state = .connecting) (hrunning : standing.running = true)
    (hrecurring : standing.recurring = []) (username : String) :
    Provided (standing.await number (.connecting username)) := by
  have honly := calls_await hcalls (.connecting username)
  refine ⟨?_, fun _ => ⟨hstate, hrunning, hrecurring⟩, by simp [honly], ?_⟩
  · rw [isDialing_of_calls honly]
    exact fun _ _ hnot => absurd ⟨username, rfl⟩ hnot
  · intro hall
    obtain ⟨ticket, hphase⟩ := hall ⟨number, .connecting username⟩ (by simp [honly])
    cases hphase

theorem await_leaving {number : Nat} (hcalls : standing.otherCalls number = [])
    (hstate : standing.state = .unstarted) (hpassword : standing.password = none)
    (ticket : Nat) :
    Provided (standing.await number (.leaving ticket)) := by
  have honly := calls_await hcalls (.leaving ticket)
  refine ⟨fun hunstarted => absurd hstate hunstarted, ?_, by simp [honly], fun _ => hpassword⟩
  rw [isDialing_of_calls honly]
  exact fun ⟨username, hphase⟩ => nomatch hphase

end Provided

end Standing

namespace Session

open Standing (Provided Equipped Orderly AtRest)

theorem provided_awaitHandshake {session : Session} (hheld : session.held = true) {number : Nat}
    (hcalls : session.standing.otherCalls number = [])
    (hequipped : session.state ≠ .unstarted → session.state ≠ .failed → session.standing.Equipped)
    (deadline : Nat) :
    Provided (session.awaitHandshake number deadline).standing := by
  unfold awaitHandshake
  split
  · rename_i hover
    split
    · rename_i hstate
      rw [standing_finish, Standing.finish_of_held (by exact hheld)]
      refine ⟨?_, ?_, ?_, fun _ => rfl⟩
      · exact fun hunstarted hfailed _ =>
          (hequipped hunstarted hfailed).of_eq rfl rfl rfl rfl rfl
      · exact fun hdialing => absurd hdialing (Standing.not_isDialing_of_no_calls hcalls)
      · exact fun _ hne => absurd hstate hne
    · rename_i hstate
      rw [standing_abandonLogin]
      refine .abandonLogin hheld hcalls ?_ _
      show session.state = .unstarted ∨ session.state = .failed
      cases hcase : session.state with
      | unstarted => exact .inl rfl
      | failed => exact .inr rfl
      | loggedOn => exact absurd hcase hstate
      | _ => simp [hcase, SessionState.isLoggingIn] at hover
  · split
    · rw [standing_failLogin]
      exact .failLogin hheld hcalls _
    · rw [standing_await]
      exact .await_login hcalls (fun _ => by simp) (fun _ => by simp) hequipped

theorem provided_connect {session : Session} (hheld : session.held = true) {number : Nat}
    (hcalls : session.standing.otherCalls number = []) (hstate : session.state = .connecting)
    (hreader : session.reader = none) (hrunning : session.events.running = true)
    (hrecurring : session.standing.recurring = []) (username : String) (outcome : ConnectOutcome) :
    Provided (session.connect number username outcome).standing := by
  cases outcome with
  | opened writeFault =>
      dsimp only [connect]
      rw [standing_openChannel]
      refine .await_login hcalls (fun _ => by simp) (fun _ => by simp) fun _ _ => ?_
      refine ⟨⟨session.standing.readers.length, rfl, rfl, ?_⟩, hrunning, ?_⟩
      · have hnone : session.standing.reader = none := hreader
        simp [Standing.attach, Standing.stopReader, hnone]
      · simp [Standing.attach, hrecurring]
  | refused text =>
      dsimp only [connect]
      rw [standing_failLogin]
      exact .failLogin hheld hcalls _
  | pending =>
      dsimp only [connect]
      rw [standing_await]
      exact .await_dialing hcalls hstate hrunning hrecurring username

theorem provided_login {session : Session} (h : AtRest session.standing)
    (hprovided : Provided session.standing) (hheld : session.held = true)
    (hcalls : session.calls = []) (username password : String) :
    Provided (session.login username password).standing := by
  have hothers : session.beginCall.2.standing.otherCalls session.callCount = [] :=
    otherCalls_of_none hcalls _
  unfold login
  dsimp only
  split
  · rw [standing_finish]
    exact hprovided.answered hheld hcalls _ _
  · rename_i hunstarted
    rw [Decidable.not_not] at hunstarted
    have hstate : session.state = .unstarted := hunstarted
    have hne : session.standing.state ≠ .loggedOn := by simp [standing, hstate]
    obtain ⟨hrunning, hrecurring⟩ := hprovided.released hcalls hne
    split
    · rw [standing_finish, Standing.finish_of_held (by exact hheld)]
      refine .of_ended hothers (.inr rfl) hrunning hrecurring ?_
      exact hprovided.forgotten (by simp [standing, hcalls])
    · refine provided_connect ?_ ?_ ?_ ?_ ?_ ?_ _ _
      · exact hheld
      · exact hothers
      · rfl
      · exact ((h.settled hcalls).2 hne).1
      · simp [startLogin, enter, EventQueue.start, apply_ite EventQueue.running]
      · exact hrecurring

theorem provided_logout {session : Session} (hprovided : Provided session.standing)
    (hheld : session.held = true) (hcalls : session.calls = []) :
    Provided session.logout.standing := by
  have hforgotten : session.password = none := hprovided.forgotten (by simp [standing, hcalls])
  unfold logout
  dsimp only
  split
  · rw [standing_finish]
    exact hprovided.answered hheld hcalls _ _
  · rw [standing_await, standing_submit, standing_enter]
    refine .await_leaving ?_ rfl hforgotten _
    exact otherCalls_of_none hcalls _

theorem provided_reset {session : Session} (hprovided : Provided session.standing)
    (hheld : session.held = true) (hcalls : session.calls = []) :
    Provided session.reset.standing := by
  have hforgotten : session.password = none := hprovided.forgotten (by simp [standing, hcalls])
  unfold reset
  dsimp only
  split
  · rw [standing_finish, Standing.finish_of_held (by exact hheld)]
    exact .of_ended (otherCalls_of_none hcalls _) (.inl rfl) rfl rfl hforgotten
  · rw [standing_finish]
    exact hprovided.answered hheld hcalls _ _

theorem provided_goOn {session : Session} (h : AtRest session.standing)
    (hprovided : Provided session.standing) (hheld : session.held = true) {call : Call}
    (hcall : call ∈ session.calls) :
    Provided (session.goOn call).standing := by
  have hothers := otherCalls_of_mem h hcall
  have hequipped : (∀ username, call.phase ≠ .connecting username) →
      session.state ≠ .unstarted → session.state ≠ .failed → session.standing.Equipped := by
    intro hphase hunstarted hfailed
    refine hprovided.equipped hunstarted hfailed ?_
    rintro ⟨other, hother, username, hdialing⟩
    exact absurd hdialing (eq_of_mem_calls h hcall hother ▸ hphase username)
  unfold goOn
  split
  · exact hprovided
  · rename_i ticket hphase
    split
    · exact hprovided
    · exact provided_awaitHandshake hheld hothers (hequipped (by simp [hphase])) _
    · rw [standing_failLogin]
      exact .failLogin hheld hothers _
  · rename_i deadline hphase
    exact provided_awaitHandshake hheld hothers (hequipped (by simp [hphase])) _
  · rename_i ticket hphase
    split
    · exact hprovided
    · rw [standing_finish, standing_teardown]
      refine .teardown_finish hheld hothers (.inl (h.leaving call hcall ticket hphase)) ?_ _
      refine hprovided.forgotten fun other hother => ⟨ticket, ?_⟩
      rw [eq_of_mem_calls h hcall hother]
      exact hphase

theorem provided_resume {session : Session} (h : AtRest session.standing)
    (hprovided : Provided session.standing) (hheld : session.held = true) (number : Nat) :
    Provided (session.resume number).standing := by
  unfold resume
  split
  · rename_i call hcall
    split
    · exact provided_goOn h hprovided hheld (callNumbered?_mem hcall).1
    · exact hprovided
  · exact hprovided

theorem provided_resolveConnect {session : Session} (h : AtRest session.standing)
    (hprovided : Provided session.standing) (hheld : session.held = true) (number : Nat)
    (outcome : ConnectOutcome) :
    Provided (session.resolveConnect number outcome).standing := by
  unfold resolveConnect
  split
  · rename_i called username hcall
    obtain ⟨hmem, hnumber⟩ := callNumbered?_mem hcall
    obtain ⟨hstate, hrunning, hrecurring⟩ := hprovided.dialing ⟨_, hmem, username, rfl⟩
    refine provided_connect hheld ?_ hstate (h.connecting _ hmem username rfl).2 hrunning
      hrecurring username outcome
    rw [← hnumber]
    exact otherCalls_of_mem h hmem
  · exact hprovided

end Session

namespace Standing

/-- A connection that is read has been taken up. -/
theorem not_isDialing_of_reading {standing : Standing} (h : Orderly standing)
    (hprovided : Provided standing) {index : Nat} {reader : Reader}
    (hreader : standing.readers[index]? = some reader) (hgoing : reader ≠ .stopped) :
    ¬ standing.IsDialing := by
  rintro ⟨call, hcall, username, hphase⟩
  obtain ⟨hstate, -, -⟩ := hprovided.dialing ⟨call, hcall, username, hphase⟩
  cases reader with
  | running =>
      have hown := (h.running index hreader).1
      rw [(h.connecting call hcall username hphase).2] at hown
      cases hown
  | stopping =>
      have hended := h.stopping index hreader
      simp [hstate] at hended
  | stopped => exact hgoing rfl

namespace Provided

variable {standing : Standing}

theorem leaveLogin (h : Provided standing) (horderly : Orderly standing)
    (hdialing : ¬ standing.IsDialing) (hstate : standing.state.isLoggingIn = true)
    (state : SessionState) (failure : Option SessionError) :
    Provided { standing with state, failure } := by
  refine ⟨fun _ _ _ => ?_, fun hdials => absurd hdials hdialing, ?_, h.forgotten⟩
  · refine (h.equipped ?_ ?_ hdialing).of_eq rfl rfl rfl rfl rfl
    · rintro hunstarted
      simp [hunstarted, SessionState.isLoggingIn] at hstate
    · rintro hfailed
      simp [hfailed, SessionState.isLoggingIn] at hstate
  · intro hcalls
    have hover := (horderly.settled hcalls).1
    rw [hstate] at hover
    cases hover

theorem leaveLoggedOn (h : Provided standing) (hdialing : ¬ standing.IsDialing)
    {state : SessionState} (hends : state = .unstarted ∨ state = .failed)
    (failure : Option SessionError) :
    Provided { standing with state, failure : Standing }.teardown where
  equipped hunstarted hfailed := (hends.elim hunstarted hfailed).elim
  dialing hdials := absurd hdials hdialing
  released _ _ := ⟨rfl, rfl⟩
  forgotten hall := h.forgotten hall

theorem work (h : Provided standing) (working : Option Nat) :
    Provided { standing with working } where
  equipped hunstarted hfailed hdialing :=
    (h.equipped hunstarted hfailed hdialing).of_eq rfl rfl rfl rfl rfl
  dialing := h.dialing
  released := h.released
  forgotten := h.forgotten

theorem stopReading (h : Provided standing)
    (hends : standing.state = .unstarted ∨ standing.state = .failed) (index : Nat) :
    Provided { standing with readers := standing.readers.set index .stopped } :=
  { h with equipped := fun hunstarted hfailed => (hends.elim hunstarted hfailed).elim }

end Provided

end Standing

namespace Session

open Standing (Provided Orderly AtRest)

theorem Reacted.provided {before after : Session} {reaction : Reaction} {packet : Packet}
    {result : Except HandlerError Unit} (h : Reacted before reaction packet (after, result))
    (horderly : Orderly before.standing) (hbefore : Provided before.standing)
    (hdialing : ¬ before.standing.IsDialing) :
    Provided after.standing := by
  cases h with
  | aside hafter hchallenge =>
      rw [hafter.standing]
      exact hbefore
  | answered hreaction hstate hvalue hresponse =>
      rw [standing_execute, standing_enter]
      refine hbefore.leaveLogin horderly hdialing ?_ .connected before.failure
      show before.state.isLoggingIn = true
      rw [hstate]
      rfl
  | refused hfault =>
      rw [standing_fail]
      exact hbefore.leaveLogin horderly hdialing hfault.isLoggingIn .failed _
  | welcomed hreaction htold hstate =>
      rw [standing_report, standing_enter, htold.standing]
      refine hbefore.leaveLogin horderly hdialing ?_ .loggedOn before.failure
      show before.state.isLoggingIn = true
      rw [hstate]
      rfl
  | evicted hreaction hstate hbody =>
      rw [standing_teardown, standing_report, standing_enter]
      exact hbefore.leaveLoggedOn hdialing (.inl rfl) before.failure

theorem Handled.provided {before after : Session} {connection : Nat} {packet : Packet}
    (h : Handled before connection packet after) (horderly : Orderly before.standing)
    (hbefore : Provided before.standing) (hdialing : ¬ before.standing.IsDialing) :
    Provided after.standing := by
  cases h with
  | unrouted hroute hstanding hschedule hjournal =>
      rw [standing_note, hstanding]
      exact hbefore
  | reacted hroute hstanding hschedule hjournal hreacted =>
      rw [← hstanding] at horderly hbefore hdialing
      exact hreacted.provided horderly hbefore hdialing

theorem ReadStep.provided {before after : Session} {index : Nat}
    (h : ReadStep before index after) (horderly : Orderly before.standing)
    (hbefore : Provided before.standing) (hdialing : ¬ before.standing.IsDialing) :
    Provided after.standing := by
  have htaken : ∀ rest, Provided (before.startReading index rest).standing := by
    intro rest
    rw [standing_startReading]
    exact hbefore.work (some index)
  cases h with
  | @packet rest packet after hhandled =>
      have hsame : ¬ (before.startReading index rest).standing.IsDialing := by
        rw [standing_startReading]
        exact hdialing
      exact (hhandled.provided (orderly_startReading horderly index rest) (htaken rest)
        hsame).work none
  | @malformed rest error hstate =>
      have hstopped : Provided
          (((before.startReading index rest).fail error).stopReading index).standing := by
        rw [standing_stopReading, standing_fail, standing_startReading]
        refine Provided.stopReading ?_ (.inr rfl) index
        exact (hbefore.leaveLogin horderly hdialing hstate .failed _).work (some index)
      exact hstopped.work none
  | @passedOver rest hstate => exact (htaken rest).work none
  | @cutOff error hstate =>
      rw [standing_stopReading]
      refine Provided.stopReading ?_ (.inr rfl) index
      exact (hbefore.leaveLogin horderly hdialing hstate .failed (some error)).work none
  | @lost told finish hstate htold =>
      rw [standing_stopReading]
      refine Provided.stopReading ?_ (.inr rfl) index
      have hlost : Provided (told.fail (.transport finish.error.message)).teardown.standing := by
        rw [standing_teardown, standing_fail, htold.standing]
        refine Provided.leaveLoggedOn (hbefore.work (some index)) ?_ (.inr rfl) _
        exact hdialing
      exact hlost.work none
  | ended hstate =>
      rw [standing_stopReading]
      refine Provided.stopReading ?_ hstate index
      exact hbefore.work none

theorem readNext?_provided {session next : Session} {index : Nat}
    (horderly : Orderly session.standing) (hprovided : Provided session.standing)
    (hnext : session.readNext? index = some next) :
    Provided next.standing := by
  obtain ⟨⟨reader, hreader, hgoing⟩, hstep⟩ := readNext?_step hnext
  exact hstep.provided horderly hprovided
    (Standing.not_isDialing_of_reading horderly hprovided hreader hgoing)

theorem provided_read? {session final : Session} {index : Nat} (h : AtRest session.standing)
    (hprovided : Provided session.standing) (hread : session.read? index = some final) :
    Provided final.standing := by
  obtain ⟨next, hfirst, rfl⟩ := Option.map_eq_some_iff.mp hread
  have horderly := (readNext?_step hfirst).2.orderly h.toOrderly
  have hnext := readNext?_provided h.toOrderly hprovided hfirst
  split
  · rename_i hstopping
    -- A reader that reads out belongs to a session that has ended, so it needs nothing any more.
    refine (readOut_induction (motive := fun session => Orderly session.standing ∧
      Provided session.standing ∧ (session.state = .unstarted ∨ session.state = .failed))
      ?_ ?_ _ ⟨horderly, hnext, ?_⟩).2.1
    · rintro before after ⟨hbefore, hkept, hended⟩ hstep
      have hread := (readNext?_step hstep).2
      refine ⟨hread.orderly hbefore, readNext?_provided hbefore hkept hstep, ?_⟩
      rw [hread.state_of_ended hended]
      exact hended
    · rintro before ⟨hbefore, hkept, hended⟩
      rw [standing_stopReading]
      exact ⟨hbefore.stopReading index, hkept.stopReading hended index, hended⟩
    · exact horderly.stopping index ((isStopping_iff next index).mp hstopping)
  · exact hnext

@[simp] theorem held_finish (session : Session) (number : Nat)
    (result : Except SessionError Unit) :
    (session.finish number result).held = session.held := by
  unfold finish
  dsimp only
  split <;> rfl

theorem held_awaitHandshake (session : Session) (number deadline : Nat) :
    (session.awaitHandshake number deadline).held = session.held := by
  unfold awaitHandshake
  split
  · split <;> exact held_finish _ _ _
  · split
    · exact held_finish _ _ _
    · rfl

theorem held_connect (session : Session) (number : Nat) (username : String)
    (outcome : ConnectOutcome) :
    (session.connect number username outcome).held = session.held := by
  cases outcome with
  | opened writeFault =>
      exact congrArg Standing.held (standing_openChannel session number username writeFault)
  | refused text => exact held_finish _ _ _
  | pending => rfl

theorem held_goOn (session : Session) (call : Call) :
    (session.goOn call).held = session.held := by
  unfold goOn
  split
  · rfl
  · split
    · rfl
    · exact held_awaitHandshake _ _ _
    · exact held_finish _ _ _
  · exact held_awaitHandshake _ _ _
  · split
    · rfl
    · exact held_finish _ _ _

theorem held_resume (session : Session) (number : Nat) :
    (session.resume number).held = session.held := by
  unfold resume
  split
  · split
    · exact held_goOn _ _
    · rfl
  · rfl

theorem held_resolveConnect (session : Session) (number : Nat) (outcome : ConnectOutcome) :
    (session.resolveConnect number outcome).held = session.held := by
  unfold resolveConnect
  split
  · exact held_connect _ _ _ _
  · rfl

theorem held_drop (session : Session) : session.drop.held = false := by
  unfold drop
  dsimp only
  split <;> rfl

theorem held_read? {session next : Session} {index : Nat}
    (hread : session.read? index = some next) :
    next.held = session.held := by
  refine read?_induction (motive := fun later => later.held = session.held) ?_ ?_ rfl hread
  · intro earlier later hkept hnext
    exact (readNext?_step hnext).2.calls_eq.2.2.trans hkept
  · exact fun _ hkept => hkept

/-- Who has let go of a session does not get hold of it again. -/
theorem Stepped.held {before after : Session} {move : Move} (h : Stepped before move after)
    (hheld : after.held = true) :
    before.held = true := by
  cases h with
  | carried hcarried => exact (congrArg Standing.held hcarried.standing).symm.trans hheld
  | login username password hholds => exact hholds
  | resolveConnect call outcome => rwa [held_resolveConnect] at hheld
  | logout hholds => exact hholds
  | reset hholds => exact hholds
  | drop =>
      rw [held_drop] at hheld
      cases hheld
  | read hread => rwa [held_read? hread] at hheld
  | resume call => rwa [held_resume] at hheld
  | attachStore policy => exact hheld

theorem Stepped.provided {before after : Session} {move : Move} (h : Stepped before move after)
    (hbefore : AtRest before.standing) (hprovided : Provided before.standing)
    (hcalls : move.isCall = true → before.calls = []) (hheld : after.held = true) :
    Provided after.standing := by
  have hholds := h.held hheld
  cases h with
  | carried hcarried =>
      rw [hcarried.standing]
      exact hprovided
  | login username password _ =>
      exact provided_login hbefore hprovided hholds (hcalls rfl) username password
  | resolveConnect call outcome =>
      exact provided_resolveConnect hbefore hprovided hholds call outcome
  | logout _ => exact provided_logout hprovided hholds (hcalls rfl)
  | reset _ => exact provided_reset hprovided hholds (hcalls rfl)
  | drop =>
      rw [held_drop] at hheld
      cases hheld
  | read hread => exact provided_read? hbefore hprovided hread
  | resume call => exact provided_resume hbefore hprovided hholds call
  | attachStore policy =>
      refine ⟨fun hunstarted hfailed hdialing => ?_, hprovided.dialing, hprovided.released,
        hprovided.forgotten⟩
      exact (hprovided.equipped hunstarted hfailed hdialing).of_eq rfl rfl rfl rfl rfl

end Session

end Messenger
