import Messenger.Proofs.Session.Lifecycle
import Messenger.Proofs.Session.Sequential

/-!
The order of a session whose calls may overlap, as long as no login begins before the calls of the
attempts before it have returned: a login goes on only while its call waits, and between two
attempts nothing is in use.
-/

namespace Messenger

/-- Whether a call that waits is a login. -/
def Phase.isLogin : Phase → Bool
  | .leaving _ => false
  | _ => true

namespace Standing

/-- No connection is in use, nothing recurs, and no report is accepted. -/
def Bare (standing : Standing) : Prop :=
  standing.reader = none ∧ standing.writer = none ∧ standing.recurring = [] ∧
    standing.running = false

/-- What holds at any time between two frames. The calls that wait belong to the attempt that the
login with the number `first` has begun. -/
structure Kept (first : Nat) (standing : Standing) : Prop where
  begun : first ≤ standing.callCount
  calls : ∀ call ∈ standing.calls,
    first ≤ call.number ∧ (call.phase.isLogin = true → call.number = first)
  /-- A login goes on only while its call waits, and no other call does; and the queue runs. -/
  login : standing.state.isLoggingIn = true →
    standing.running = true ∧ ∃ call, standing.calls = [call] ∧ call.phase.isLogin = true
  /-- The queue also runs when the login is complete, as long as somebody has the session. -/
  loggedOn : standing.state = .loggedOn → standing.alive = true → standing.running = true
  dialing : ∀ call ∈ standing.calls, ∀ username, call.phase = .connecting username →
    standing.state = .connecting ∧ standing.reader = none
  leaving : ∀ call ∈ standing.calls, ∀ ticket, call.phase = .leaving ticket →
    standing.state = .unstarted ∨ standing.state = .failed
  settled : standing.calls = [] → standing.state ≠ .loggedOn → standing.Bare
  running : ∀ index : Nat, standing.readers[index]? = some .running → standing.reader = some index

/-- What holds besides between two moves. -/
structure AtEase (first : Nat) (standing : Standing) : Prop extends Kept first standing where
  idle : standing.working = none
  stayed : ∀ index : Nat, standing.readers[index]? ≠ some .stopping

/-- That part of it which speaks of connections. -/
structure Tidy (standing : Standing) : Prop where
  running : ∀ index : Nat, standing.readers[index]? = some .running → standing.reader = some index
  idle : standing.working = none
  stayed : ∀ index : Nat, standing.readers[index]? ≠ some .stopping

/-- A call that can wait in an attempt in which no login goes on. -/
structure Lingers (first : Nat) (state : SessionState) (call : Call) : Prop where
  number : first ≤ call.number
  login : call.phase.isLogin = true → call.number = first
  connected : ∀ username, call.phase ≠ .connecting username
  leaving : ∀ ticket, call.phase = .leaving ticket → state = .unstarted ∨ state = .failed

theorem Lingers.of_ended {first : Nat} {state next : SessionState} {call : Call}
    (h : Lingers first state call) (hnext : next = .unstarted ∨ next = .failed) :
    Lingers first next call :=
  { h with leaving := fun _ _ => hnext }

theorem AtEase.tidy {first : Nat} {standing : Standing} (h : AtEase first standing) :
    Tidy standing :=
  ⟨h.running, h.idle, h.stayed⟩

namespace Tidy

variable {standing : Standing}

theorem stopReader (h : Tidy standing) : Tidy standing.stopReader where
  running index hfound := absurd hfound (not_running_stopReader h.running index)
  idle := h.idle
  stayed index := stayed_stopReader h.idle h.stayed index

theorem teardown (h : Tidy standing) : Tidy standing.teardown :=
  stopReader { h with }

theorem release (h : Tidy standing) : Tidy standing.release :=
  stopReader { h with }

theorem attach (h : Tidy standing) (hreader : standing.reader = none) : Tidy standing.attach := by
  unfold Standing.attach Standing.stopReader
  simp only [hreader]
  refine ⟨fun index hfound => ?_, h.idle, fun index hfound => ?_⟩
  · rw [List.getElem?_append] at hfound
    split at hfound
    · have hown := h.running index hfound
      rw [hreader] at hown
      cases hown
    · rename_i hge
      have hlast := (List.getElem?_eq_some_iff.mp hfound).1
      rw [List.length_singleton] at hlast
      exact congrArg some (by omega)
  · rw [List.getElem?_append] at hfound
    split at hfound
    · exact h.stayed index hfound
    · exact absurd (List.mem_of_getElem? hfound) (by simp)

/-- With no reader of its own, a session reads nothing. -/
theorem not_going (h : Tidy standing) (hreader : standing.reader = none) {index : Nat}
    {reader : Reader} (hgoing : reader ≠ .stopped) :
    standing.readers[index]? ≠ some reader := by
  intro hfound
  cases reader with
  | stopped => exact hgoing rfl
  | stopping => exact h.stayed index hfound
  | running =>
      have hown := h.running index hfound
      rw [hreader] at hown
      cases hown

end Tidy

namespace Kept

variable {first : Nat} {standing : Standing}

/-- While no login goes on, nobody waits for a connection. -/
theorem lingers (h : Kept first standing) (hover : standing.state.isLoggingIn = false)
    {call : Call} (hcall : call ∈ standing.calls) :
    Lingers first standing.state call where
  number := (h.calls call hcall).1
  login := (h.calls call hcall).2
  connected username hphase := by
    rw [(h.dialing call hcall username hphase).1] at hover
    cases hover
  leaving := h.leaving call hcall

/-- When the call of a login has returned, no other is left that waits for a connection. -/
theorem others_linger (h : Kept first standing) {call : Call} (hcall : call ∈ standing.calls)
    {state : SessionState} (hstate : state = standing.state ∨ state = .failed) :
    ∀ other ∈ standing.otherCalls call.number, Lingers first state other := by
  intro other hother
  cases hlogin : standing.state.isLoggingIn with
  | true =>
      obtain ⟨-, own, hcalls, -⟩ := h.login hlogin
      rw [hcalls, List.mem_singleton] at hcall
      simp [otherCalls, hcalls, hcall] at hother
  | false =>
      have hlingers := h.lingers hlogin (standing.otherCalls_subset _ other hother)
      rcases hstate with rfl | rfl
      · exact hlingers
      · exact hlingers.of_ended (.inr rfl)

/-- A login goes on to a further state, or ends. -/
theorem leaveLogin (h : Kept first standing) (hlogin : standing.state.isLoggingIn = true)
    (hconnected : ∀ call ∈ standing.calls, ∀ username, call.phase ≠ .connecting username)
    (state : SessionState) (failure : Option SessionError) :
    Kept first { standing with state, failure } := by
  obtain ⟨hrunning, own, hcalls, howns⟩ := h.login hlogin
  refine { h with login := ?_, loggedOn := ?_, dialing := ?_, leaving := ?_, settled := ?_ }
  · exact fun _ => h.login hlogin
  · exact fun _ _ => hrunning
  · exact fun call hmem username hphase => absurd hphase (hconnected call hmem username)
  · intro call hmem ticket hphase
    have hsame : call ∈ standing.calls := hmem
    rw [hcalls, List.mem_singleton] at hsame
    rw [hsame.symm, hphase] at howns
    cases howns
  · intro hnone
    have hnobody : standing.calls = [] := hnone
    rw [hcalls] at hnobody
    cases hnobody

theorem leaveLoggedOn (h : Kept first standing) (hstate : standing.state = .loggedOn)
    {state : SessionState} (hends : state = .unstarted ∨ state = .failed)
    (failure : Option SessionError) :
    Kept first { standing with state, failure : Standing }.teardown where
  begun := h.begun
  calls := h.calls
  login hlogin := by
    have hstill : state.isLoggingIn = true := hlogin
    rcases hends with rfl | rfl <;> cases hstill
  loggedOn hloggedOn := by
    have hstill : state = .loggedOn := hloggedOn
    rcases hends with rfl | rfl <;> cases hstill
  dialing call hmem username hphase := by
    have hdialing := (h.dialing call hmem username hphase).1
    rw [hstate] at hdialing
    cases hdialing
  leaving _ _ _ _ := hends
  settled _ _ := ⟨rfl, rfl, rfl, rfl⟩
  running index hfound := absurd hfound (not_running_stopReader h.running index)

theorem stopReading (h : Kept first standing) (index : Nat) :
    Kept first { standing with readers := standing.readers.set index .stopped } :=
  { h with
    running := fun other hfound => h.running other (readers_set_ne (by decide) hfound).2 }

end Kept

variable {first : Nat} {standing : Standing}

theorem Tidy.atEase (h : Tidy standing) (hbegun : first ≤ standing.callCount)
    (hover : standing.state.isLoggingIn = false)
    (hcalls : ∀ call ∈ standing.calls, Lingers first standing.state call)
    (hrunning : standing.state = .loggedOn → standing.alive = true → standing.running = true)
    (hsettled : standing.calls = [] → standing.state ≠ .loggedOn → standing.Bare) :
    AtEase first standing where
  begun := hbegun
  calls call hmem := ⟨(hcalls call hmem).number, (hcalls call hmem).login⟩
  login hlogin := by
    rw [hover] at hlogin
    cases hlogin
  loggedOn := hrunning
  dialing call hmem username hphase := absurd hphase ((hcalls call hmem).connected username)
  leaving call hmem := (hcalls call hmem).leaving
  settled := hsettled
  running := h.running
  idle := h.idle
  stayed := h.stayed

/-- A call returns while no login goes on. -/
theorem Tidy.finish (h : Tidy standing) (hbegun : first ≤ standing.callCount)
    (hover : standing.state.isLoggingIn = false) {number : Nat}
    (hothers : ∀ other ∈ standing.otherCalls number, Lingers first standing.state other)
    (hrunning : standing.state = .loggedOn → standing.running = true)
    (hbare : standing.otherCalls number = [] → standing.state ≠ .loggedOn → standing.Bare)
    (result : Except SessionError Unit) :
    AtEase first (standing.finish number result) := by
  unfold Standing.finish
  dsimp only
  have hended : Tidy { standing with
      calls := standing.otherCalls number
      results := standing.results ++ [⟨number, result⟩] } := { h with }
  split
  · exact hended.atEase hbegun hover hothers (fun hloggedOn _ => hrunning hloggedOn) hbare
  · rename_i hgone
    refine hended.release.atEase hbegun hover hothers (fun _ halive => absurd halive hgone) ?_
    intro hnone hne
    obtain ⟨-, hwriter, hrecurring, -⟩ := hbare hnone hne
    exact ⟨rfl, hwriter, hrecurring, rfl⟩

theorem Tidy.abandonLogin (h : Tidy standing) (hbegun : first ≤ standing.callCount)
    (hover : standing.state.isLoggingIn = false) (hne : standing.state ≠ .loggedOn) {number : Nat}
    (hothers : ∀ other ∈ standing.otherCalls number, Lingers first standing.state other)
    (error : SessionError) :
    AtEase first (standing.abandonLogin number error) := by
  have hforgot : Tidy { standing with password := none } := { h with }
  exact hforgot.teardown.finish hbegun hover hothers (fun hloggedOn => absurd hloggedOn hne)
    (fun _ _ => ⟨rfl, rfl, rfl, rfl⟩) _

theorem Tidy.failLogin (h : Tidy standing) (hbegun : first ≤ standing.callCount) {number : Nat}
    (hothers : ∀ other ∈ standing.otherCalls number, Lingers first .failed other)
    (error : SessionError) :
    AtEase first (standing.failLogin number error) := by
  have hfailed : Tidy { standing with state := .failed, failure := some error } := { h with }
  exact hfailed.abandonLogin hbegun rfl (fun hloggedOn => nomatch hloggedOn) hothers error

/-- A login that goes on waits alone. -/
theorem Tidy.await (h : Tidy standing) (hbegun : first ≤ standing.callCount)
    (hothers : standing.otherCalls first = []) (hrunning : standing.running = true) {phase : Phase}
    (hphase : phase.isLogin = true)
    (hdialing : ∀ username, phase = .connecting username →
      standing.state = .connecting ∧ standing.reader = none) :
    AtEase first (standing.await first phase) := by
  unfold Standing.await
  rw [hothers, List.nil_append]
  refine { h with
    begun := hbegun
    calls := ?_
    login := fun _ => ⟨hrunning, _, rfl, hphase⟩
    loggedOn := fun _ _ => hrunning
    dialing := ?_
    leaving := ?_
    settled := fun hnone => nomatch hnone }
  · intro call hmem
    rw [List.mem_singleton.mp hmem]
    exact ⟨Nat.le_refl first, fun _ => rfl⟩
  · intro call hmem username hconnecting
    rw [List.mem_singleton.mp hmem] at hconnecting
    exact hdialing username hconnecting
  · intro call hmem ticket hleaving
    rw [List.mem_singleton.mp hmem] at hleaving
    have hwaits : phase = .leaving ticket := hleaving
    rw [hwaits] at hphase
    cases hphase

theorem alive_of_mem {call : Call} (hcall : call ∈ standing.calls) : standing.alive = true := by
  cases hcalls : standing.calls with
  | nil =>
      rw [hcalls] at hcall
      cases hcall
  | cons first rest => simp [alive, hcalls]

theorem Numbered.otherCalls_callCount (h : standing.Numbered) :
    standing.otherCalls standing.callCount = standing.calls := by
  refine List.filter_eq_self.mpr fun call hmem => ?_
  simpa using Nat.ne_of_lt (h call hmem)

end Standing

namespace Session

open Standing (Kept AtEase Tidy Lingers Bare)

variable {first : Nat}

theorem atEase_awaitHandshake {session : Session} (h : AtEase first session.standing)
    {call : Call} (hcall : call ∈ session.calls) (hlogin : call.phase.isLogin = true)
    (deadline : Nat) :
    AtEase first (session.awaitHandshake call.number deadline).standing := by
  have hnumber : call.number = first := (h.calls call hcall).2 hlogin
  unfold awaitHandshake
  split
  · rename_i hover
    rw [Bool.not_eq_true'] at hover
    have hothers := h.others_linger hcall (.inl rfl)
    split
    · rename_i hstate
      rw [standing_finish]
      have hforgot : Tidy ({ session with password := none } : Session).standing :=
        { h.tidy with }
      refine hforgot.finish h.begun hover hothers (fun hloggedOn => ?_)
        (fun _ hne => absurd hstate hne) _
      exact h.loggedOn hloggedOn (Standing.alive_of_mem hcall)
    · rename_i hstate
      rw [standing_abandonLogin]
      exact h.tidy.abandonLogin h.begun hover hstate hothers _
  · rename_i hgoes
    rw [Bool.not_eq_true', Bool.not_eq_false] at hgoes
    split
    · rw [standing_failLogin]
      exact h.tidy.failLogin h.begun (h.others_linger hcall (.inr rfl)) _
    · rw [standing_await, hnumber]
      obtain ⟨hrunning, own, hcalls, -⟩ := h.login hgoes
      refine h.tidy.await h.begun ?_ hrunning rfl (fun _ hphase => nomatch hphase)
      have hown : call ∈ session.standing.calls := hcall
      rw [hcalls, List.mem_singleton] at hown
      simp [Standing.otherCalls, hcalls, ← hown, hnumber]

theorem atEase_connect {session : Session} (htidy : Tidy session.standing)
    (hbegun : first ≤ session.callCount) (hothers : session.standing.otherCalls first = [])
    (hstate : session.state = .connecting) (hrunning : session.events.running = true)
    (hreader : session.reader = none) (username : String) (outcome : ConnectOutcome) :
    AtEase first (session.connect first username outcome).standing := by
  cases outcome with
  | opened writeFault =>
      dsimp only [connect]
      rw [standing_openChannel]
      exact (htidy.attach hreader).await hbegun hothers hrunning rfl
        (fun _ hphase => nomatch hphase)
  | refused text =>
      dsimp only [connect]
      rw [standing_failLogin]
      exact htidy.failLogin hbegun (by simp [hothers]) _
  | pending =>
      dsimp only [connect]
      rw [standing_await]
      exact htidy.await hbegun hothers hrunning rfl fun _ _ => ⟨hstate, hreader⟩

/-- Whether a move is a login that begins to connect. -/
def Begins (session : Session) : Move → Prop
  | .login username password => session.held = true ∧ session.state = .unstarted ∧
      Text.lowerCase (Text.trim username) ≠ "" ∧ password ≠ ""
  | _ => False

instance (session : Session) : (move : Move) → Decidable (session.Begins move)
  | .login _ _ => inferInstanceAs (Decidable (_ ∧ _ ∧ _ ∧ _))
  | .resolveConnect .. | .logout | .reset | .drop | .arrive .. | .endInbound .. | .finishServer _
  | .dropServer _ | .faultWrites .. | .elapseTo _ | .read _ | .write _ | .close _ | .tick
  | .deliver _ | .resume _ | .attachStore _ | .ask .. => isFalse id

theorem atEase_refuse {session : Session} (h : AtEase first session.standing)
    (expected : String) :
    AtEase first (session.refuse expected).standing :=
  { h with begun := Nat.le_succ_of_le h.begun }

theorem atEase_login_begins {session : Session} (h : AtEase first session.standing)
    {username password : String} (hbegins : session.Begins (.login username password))
    (hcalls : session.calls = []) :
    AtEase session.callCount (session.login username password).standing := by
  obtain ⟨-, hstate, husername, hpassword⟩ := hbegins
  unfold login
  dsimp only
  rw [if_neg (not_not_intro (by exact hstate)), if_neg (not_or.mpr ⟨husername, hpassword⟩)]
  refine atEase_connect ?_ ?_ ?_ ?_ ?_ ?_ _ _
  · exact { h.tidy with }
  · exact Nat.le_succ _
  · exact otherCalls_of_none hcalls _
  · rfl
  · exact EventQueue.running_start _
  · exact (h.settled hcalls (by simp [standing, hstate])).1

/-- A login that does not begin is answered at once, and at most the state is another. -/
theorem atEase_login {session : Session} (h : AtEase first session.standing)
    (hnumbered : session.standing.Numbered) (hheld : session.held = true)
    {username password : String} (hbegins : ¬ session.Begins (.login username password)) :
    AtEase first (session.login username password).standing := by
  by_cases hstate : session.state = .unstarted
  · have hinvalid : Text.lowerCase (Text.trim username) = "" ∨ password = "" :=
      Decidable.byContradiction fun hvalid => hbegins ⟨hheld, hstate, not_or.mp hvalid⟩
    have hover : session.standing.state.isLoggingIn = false := by
      rw [show session.standing.state = .unstarted from hstate]
      rfl
    unfold login
    dsimp only
    rw [if_neg (not_not_intro (by exact hstate)), if_pos hinvalid, standing_finish, standing_fail]
    refine Tidy.finish ?_ (Nat.le_succ_of_le h.begun) rfl ?_
      (fun hloggedOn : SessionState.failed = .loggedOn => nomatch hloggedOn) ?_ _
    · exact { h.tidy with }
    · intro other hother
      exact (h.lingers hover (session.standing.otherCalls_subset _ other hother)).of_ended
        (.inr rfl)
    · intro hnone _
      have hcalls : session.standing.calls = [] := hnumbered.otherCalls_callCount.symm.trans hnone
      exact h.settled hcalls (by simp [standing, hstate])
  · rw [login_of_ne hnumbered hheld hstate]
    exact atEase_refuse h _

theorem atEase_logout {session : Session} (h : AtEase first session.standing)
    (hnumbered : session.standing.Numbered) (hheld : session.held = true) :
    AtEase first session.logout.standing := by
  by_cases hstate : session.state = .loggedOn
  · have hover : session.standing.state.isLoggingIn = false := by
      rw [show session.standing.state = .loggedOn from hstate]
      rfl
    unfold logout
    dsimp only
    rw [if_neg (not_not_intro (by exact hstate)), standing_await, standing_submit, standing_enter]
    refine Tidy.atEase ?_ (Nat.le_succ_of_le h.begun) rfl ?_ (fun hloggedOn => nomatch hloggedOn) ?_
    · exact { h.tidy with }
    · intro call hmem
      rcases List.mem_append.mp hmem with hother | hown
      · exact (h.lingers hover (session.standing.otherCalls_subset _ call hother)).of_ended
          (.inl rfl)
      · rw [List.mem_singleton.mp hown]
        exact ⟨h.begun, (fun hlogin => nomatch hlogin), (fun _ hphase => nomatch hphase),
          fun _ _ => .inl rfl⟩
    · intro hnone
      exact absurd hnone (by simp [Standing.await])
  · rw [logout_of_ne hnumbered hheld hstate]
    exact atEase_refuse h _

theorem atEase_reset {session : Session} (h : AtEase first session.standing)
    (hnumbered : session.standing.Numbered) (hheld : session.held = true) :
    AtEase first session.reset.standing := by
  by_cases hstate : session.state = .failed ∨ session.state = .unstarted
  · have hover : session.standing.state.isLoggingIn = false := by
      rcases hstate with hfailed | hunstarted
      · rw [show session.standing.state = .failed from hfailed]
        rfl
      · rw [show session.standing.state = .unstarted from hunstarted]
        rfl
    have hleft : Tidy { session.beginCall.2.standing with state := .unstarted } :=
      { h.tidy with }
    have hstanding : ({ (session.beginCall.2.enter .unstarted).teardown with
        failure := none } : Session).standing =
          { (session.beginCall.2.enter .unstarted).teardown.standing with failure := none } := rfl
    unfold reset
    dsimp only
    rw [if_pos (by exact hstate), standing_finish, hstanding, standing_teardown]
    refine Tidy.finish ?_ (Nat.le_succ_of_le h.begun) rfl ?_
      (fun hloggedOn : SessionState.unstarted = .loggedOn => nomatch hloggedOn)
      (fun _ _ => ⟨rfl, rfl, rfl, rfl⟩) _
    · exact { hleft.teardown with }
    · intro other hother
      exact (h.lingers hover (session.standing.otherCalls_subset _ other hother)).of_ended
        (.inl rfl)
  · obtain ⟨hfailed, hunstarted⟩ := not_or.mp hstate
    rw [reset_of_ne hnumbered hheld hfailed hunstarted]
    exact atEase_refuse h _

theorem atEase_goOn {session : Session} (h : AtEase first session.standing) {call : Call}
    (hcall : call ∈ session.calls) :
    AtEase first (session.goOn call).standing := by
  unfold goOn
  split
  · exact h
  · rename_i ticket hphase
    have hlogin : call.phase.isLogin = true := by
      rw [hphase]
      rfl
    split
    · exact h
    · exact atEase_awaitHandshake h hcall hlogin _
    · rw [standing_failLogin]
      exact h.tidy.failLogin h.begun (h.others_linger hcall (.inr rfl)) _
  · rename_i deadline hphase
    refine atEase_awaitHandshake h hcall ?_ _
    rw [hphase]
    rfl
  · rename_i ticket hphase
    split
    · exact h
    · have hover : session.standing.state.isLoggingIn = false := by
        rcases h.leaving call hcall ticket hphase with hstate | hstate <;> rw [hstate] <;> rfl
      rw [standing_finish, standing_teardown]
      refine h.tidy.teardown.finish h.begun hover (h.others_linger hcall (.inl rfl)) ?_
        (fun _ _ => ⟨rfl, rfl, rfl, rfl⟩) _
      intro hloggedOn
      rcases h.leaving call hcall ticket hphase with hstate | hstate <;>
        cases hstate.symm.trans hloggedOn

theorem atEase_resume {session : Session} (h : AtEase first session.standing) (number : Nat) :
    AtEase first (session.resume number).standing := by
  unfold resume
  split
  · rename_i call hcall
    split
    · exact atEase_goOn h (callNumbered?_mem hcall).1
    · exact h
  · exact h

theorem atEase_resolveConnect {session : Session} (h : AtEase first session.standing)
    (number : Nat) (outcome : ConnectOutcome) :
    AtEase first (session.resolveConnect number outcome).standing := by
  unfold resolveConnect
  split
  · rename_i called username hcall
    obtain ⟨hmem, hnumber⟩ := callNumbered?_mem hcall
    obtain ⟨hstate, hreader⟩ := h.dialing _ hmem username rfl
    have hfirst : called = first := (h.calls _ hmem).2 rfl
    have hlogin : session.standing.state.isLoggingIn = true := by
      rw [hstate]
      rfl
    obtain ⟨hrunning, own, hcalls, -⟩ := h.login hlogin
    rw [show number = first from hnumber.symm.trans hfirst]
    refine atEase_connect h.tidy h.begun ?_ hstate hrunning hreader username outcome
    have hown : (⟨called, .connecting username⟩ : Call) ∈ session.standing.calls := hmem
    rw [hcalls, List.mem_singleton] at hown
    simp [Standing.otherCalls, hcalls, ← hown, hfirst]
  · exact h

theorem atEase_drop {session : Session} (h : AtEase first session.standing) :
    AtEase first session.drop.standing := by
  rw [standing_drop]
  dsimp only
  split
  · rename_i halive
    have hbefore : session.standing.alive = true := by
      simp only [Standing.alive, Bool.false_or] at halive
      simp [Standing.alive, halive]
    exact { h with loggedOn := fun hloggedOn _ => h.loggedOn hloggedOn hbefore }
  · rename_i hgone
    have hcalls : session.standing.calls = [] := by
      simpa [Standing.alive, standing] using hgone
    have hover : session.standing.state.isLoggingIn = false := by
      refine Bool.eq_false_iff.mpr fun hgoes => ?_
      obtain ⟨-, own, howns, -⟩ := h.login hgoes
      rw [hcalls] at howns
      cases howns
    have hdropped : Tidy { session.standing with held := false } := { h.tidy with }
    refine hdropped.release.atEase h.begun hover ?_ (fun _ halive => absurd halive hgone) ?_
    · intro call hmem
      have hnone : call ∈ session.standing.calls := hmem
      rw [hcalls] at hnone
      cases hnone
    · intro _ hne
      obtain ⟨-, hwriter, hrecurring, -⟩ := h.settled hcalls hne
      exact ⟨rfl, hwriter, hrecurring, rfl⟩

section

variable {before after : Session} (h : Kept first before.standing)
  (hconnected : ∀ call ∈ before.calls, ∀ username, call.phase ≠ .connecting username)
include h hconnected

theorem Reacted.kept {reaction : Reaction} {packet : Packet} {result : Except HandlerError Unit}
    (hreacted : Reacted before reaction packet (after, result)) :
    Kept first after.standing := by
  cases hreacted with
  | aside hafter hchallenge =>
      rw [hafter.standing]
      exact h
  | answered hreaction hstate hvalue hresponse =>
      rw [standing_execute, standing_enter]
      refine h.leaveLogin ?_ hconnected .connected before.failure
      rw [show before.standing.state = .connecting from hstate]
      rfl
  | refused hfault =>
      rw [standing_fail]
      exact h.leaveLogin hfault.isLoggingIn hconnected .failed _
  | welcomed hreaction htold hstate =>
      rw [standing_report, standing_enter, htold.standing]
      refine h.leaveLogin ?_ hconnected .loggedOn before.failure
      rw [show before.standing.state = .connected from hstate]
      rfl
  | evicted hreaction hstate hbody =>
      rw [standing_teardown, standing_report, standing_enter]
      exact h.leaveLoggedOn hstate (.inl rfl) before.failure

theorem Handled.kept {connection : Nat} {packet : Packet}
    (hhandled : Handled before connection packet after) :
    Kept first after.standing := by
  cases hhandled with
  | unrouted hroute hstanding hschedule hjournal =>
      rw [standing_note, hstanding]
      exact h
  | @reacted routed _ _ _ _ hroute hstanding hschedule hjournal hreacted =>
      have hcalls : routed.calls = before.calls := congrArg Standing.calls hstanding
      have hrouted : Kept first routed.standing := by
        rw [hstanding]
        exact h
      have hkept := hreacted.kept hrouted (hcalls ▸ hconnected)
      exact hkept

theorem ReadStep.kept {index : Nat} (hstep : ReadStep before index after) :
    Kept first after.standing := by
  have htaken (rest : Text.Bytes) : Kept first (before.startReading index rest).standing := by
    rw [standing_startReading]
    exact { h with }
  cases hstep with
  | @packet rest packet after hhandled =>
      have hkept := hhandled.kept (htaken rest) hconnected
      exact { hkept with }
  | @malformed rest error hstate =>
      have hstopped : Kept first
          (((before.startReading index rest).fail error).stopReading index).standing := by
        rw [standing_stopReading, standing_fail]
        exact ((htaken rest).leaveLogin hstate hconnected .failed _).stopReading index
      exact { hstopped with }
  | @passedOver rest hstate =>
      exact { htaken rest with }
  | @cutOff error hstate =>
      rw [standing_stopReading]
      have hfailed := h.leaveLogin hstate hconnected .failed (some error)
      refine Kept.stopReading ?_ index
      exact { hfailed with }
  | @lost told finish hstate htold =>
      rw [standing_stopReading]
      refine Kept.stopReading ?_ index
      have hlost : Kept first (told.fail (.transport finish.error.message)).teardown.standing := by
        rw [standing_teardown, standing_fail, htold.standing]
        refine Kept.leaveLoggedOn ?_ hstate (.inr rfl) _
        exact { h with }
      exact { hlost with }
  | ended hstate =>
      rw [standing_stopReading]
      refine Kept.stopReading ?_ index
      exact { h with }

end

theorem atEase_read? {session next : Session} {index : Nat} (h : AtEase first session.standing)
    (hread : session.read? index = some next) :
    AtEase first next.standing := by
  have hconnected : ∀ call ∈ session.calls, ∀ username, call.phase ≠ .connecting username := by
    -- Whoever waits for a connection has none to read.
    intro call hmem username hphase
    obtain ⟨hnext, hfirst, -⟩ := Option.map_eq_some_iff.mp hread
    obtain ⟨⟨reader, hfound, hgoing⟩, -⟩ := readNext?_step hfirst
    exact h.tidy.not_going (h.dialing call hmem username hphase).2 hgoing hfound
  have hkept : Kept first next.standing ∧
      ∀ call ∈ next.calls, ∀ username, call.phase ≠ .connecting username := by
    refine read?_induction (motive := fun session => Kept first session.standing ∧
      ∀ call ∈ session.calls, ∀ username, call.phase ≠ .connecting username)
      ?_ ?_ ⟨h.toKept, hconnected⟩ hread
    · rintro before after ⟨hkept, hconnected⟩ hnext
      have hstep := (readNext?_step hnext).2
      exact ⟨hstep.kept hkept hconnected, hstep.calls_eq.1 ▸ hconnected⟩
    · rintro before ⟨hkept, hconnected⟩
      rw [standing_stopReading]
      exact ⟨hkept.stopReading index, hconnected⟩
  obtain ⟨hidle, hstayed⟩ := stayed_read? h.idle h.stayed hread
  exact { hkept.1 with idle := hidle, stayed := hstayed }

/-- Calls may overlap, but every login that begins finds that all calls before it have returned. -/
def Apart (session : Session) : List Move → Prop
  | [] => True
  | move :: rest => (session.Begins move → session.calls = []) ∧ Apart (session.step move) rest

instance decidableApart :
    (session : Session) → (moves : List Move) → Decidable (Apart session moves)
  | _, [] => isTrue trivial
  | session, move :: rest =>
      have := decidableApart (session.step move) rest
      inferInstanceAs (Decidable ((session.Begins move → session.calls = []) ∧ _))

theorem apart_append {session : Session} {early late : List Move} :
    Apart session (early ++ late) ↔ Apart session early ∧ Apart (session.run early) late := by
  induction early generalizing session with
  | nil => simp [Apart, run]
  | cons move rest induction =>
      simp only [List.cons_append, Apart, induction, and_assoc]
      rfl

/-- No move of a run begins a login. -/
def Undivided (session : Session) : List Move → Prop
  | [] => True
  | move :: rest => ¬ session.Begins move ∧ Undivided (session.step move) rest

theorem Stepped.atEase {before after : Session} {move : Move} (h : Stepped before move after)
    (hbefore : AtEase first before.standing) (hnumbered : before.standing.Numbered)
    (hcalls : before.Begins move → before.calls = []) :
    ∃ next, AtEase next after.standing ∧ first ≤ next ∧
      (¬ before.Begins move → next = first) := by
  have hsame {after : Session} (hafter : AtEase first after.standing) :
      ∃ next, AtEase next after.standing ∧ first ≤ next ∧
        (¬ before.Begins move → next = first) :=
    ⟨first, hafter, Nat.le_refl first, fun _ => rfl⟩
  cases h with
  | carried hcarried =>
      refine hsame ?_
      rw [hcarried.standing]
      exact hbefore
  | login username password hheld =>
      by_cases hbegins : before.Begins (.login username password)
      · exact ⟨before.callCount, atEase_login_begins hbefore hbegins (hcalls hbegins),
          hbefore.begun, fun hnot => absurd hbegins hnot⟩
      · exact hsame (atEase_login hbefore hnumbered hheld hbegins)
  | resolveConnect number outcome => exact hsame (atEase_resolveConnect hbefore number outcome)
  | logout hheld => exact hsame (atEase_logout hbefore hnumbered hheld)
  | reset hheld => exact hsame (atEase_reset hbefore hnumbered hheld)
  | drop => exact hsame (atEase_drop hbefore)
  | read hread => exact hsame (atEase_read? hbefore hread)
  | resume number => exact hsame (atEase_resume hbefore number)
  | attachStore policy =>
      exact hsame { hbefore with }

theorem atEase_run {session : Session} (h : AtEase first session.standing)
    (hnumbered : session.standing.Numbered) {moves : List Move} (hapart : Apart session moves) :
    ∃ next, AtEase next (session.run moves).standing ∧ first ≤ next ∧
      (Undivided session moves → next = first) := by
  unfold run
  induction moves generalizing session first with
  | nil => exact ⟨first, h, Nat.le_refl first, fun _ => rfl⟩
  | cons move rest induction =>
      have hstep := step_stepped session move
      obtain ⟨next, hnext, hle, hsame⟩ := hstep.atEase h hnumbered hapart.1
      obtain ⟨last, hlast, hlater, hstill⟩ := induction hnext (hstep.numbered hnumbered) hapart.2
      exact ⟨last, hlast, Nat.le_trans hle hlater, fun hnone =>
        (hstill hnone.2).trans (hsame hnone.1)⟩

theorem atEase_build (config : SessionConfig) (listeners : List String)
    (outcomes : List ConnectOutcome) :
    AtEase 0 (build config listeners outcomes).standing := by
  refine Tidy.atEase ?_ (Nat.le_refl 0) rfl ?_ (fun hloggedOn => nomatch hloggedOn)
    fun _ _ => ⟨rfl, rfl, rfl, rfl⟩
  · exact ⟨fun _ hfound => (nomatch hfound), rfl, fun _ hfound => (nomatch hfound)⟩
  · exact fun _ hmem => nomatch hmem

end Session

end Messenger
