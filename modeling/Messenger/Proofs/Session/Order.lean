import Messenger.Proofs.Session.Lifecycle
import Messenger.Proofs.Session.Wiring

/-!
The order of a session whose calls come one after the other, as it is between two moves, and how
calls keep it up. At most one connection is in use, and it belongs to the call that runs or to the
session that is logged on.
-/

namespace Messenger

namespace Standing

/-- What holds at any time between two frames of a sequential run. -/
structure Orderly (standing : Standing) : Prop where
  wired : Wired standing.handlers standing.collectors
  buffered : standing.fragments = .forList
  recurring : ∀ sending ∈ standing.recurring, sending = .ping ∨ sending = .keepAlive
  /-- The only reader that runs is the session's own, and its connection is the one that takes
  packets. -/
  running : ∀ index : Nat, standing.readers[index]? = some .running →
    standing.reader = some index ∧ standing.writer = some index
  stopping : ∀ index : Nat, standing.readers[index]? = some .stopping →
    standing.state = .unstarted ∨ standing.state = .failed
  alone : standing.calls.length ≤ 1
  /-- Without a call there is no login going on, and no connection but that of a session that is
  logged on. -/
  settled : standing.calls = [] → standing.state.isLoggingIn = false ∧
    (standing.state ≠ .loggedOn → standing.reader = none ∧ standing.writer = none)
  leaving : ∀ call ∈ standing.calls, ∀ ticket, call.phase = .leaving ticket →
    standing.state = .unstarted
  connecting : ∀ call ∈ standing.calls, ∀ username, call.phase = .connecting username →
    standing.username = some username ∧ standing.reader = none

/-- What holds besides between two moves. -/
structure AtRest (standing : Standing) : Prop extends Orderly standing where
  idle : standing.working = none
  stayed : ∀ index : Nat, standing.readers[index]? ≠ some .stopping

/-- What a call relies on and keeps up while it works: that part of the order which does not speak
of calls. -/
structure Clear (standing : Standing) : Prop where
  wired : Wired standing.handlers standing.collectors
  buffered : standing.fragments = .forList
  recurring : ∀ sending ∈ standing.recurring, sending = .ping ∨ sending = .keepAlive
  running : ∀ index : Nat, standing.readers[index]? = some .running →
    standing.reader = some index ∧ standing.writer = some index
  idle : standing.working = none
  stayed : ∀ index : Nat, standing.readers[index]? ≠ some .stopping

theorem AtRest.clear {standing : Standing} (h : AtRest standing) : Clear standing :=
  ⟨h.wired, h.buffered, h.recurring, h.running, h.idle, h.stayed⟩

theorem AtRest.idled {standing : Standing} (h : AtRest standing) :
    { standing with working := none } = standing := by
  rw [← h.idle]

theorem readers_set_ne {standing : Standing} {index other : Nat} {reader wanted : Reader}
    (hne : reader ≠ wanted) (hset : (standing.readers.set index reader)[other]? = some wanted) :
    index ≠ other ∧ standing.readers[other]? = some wanted := by
  rw [List.getElem?_set] at hset
  split at hset
  · split at hset
    · exact absurd (Option.some.inj hset) hne
    · cases hset
  · rename_i hother
    exact ⟨hother, hset⟩

/-- Once its own reader is stopped, no reader of an orderly session runs. -/
theorem not_running_stopReader {standing : Standing}
    (hrunning : ∀ index : Nat, standing.readers[index]? = some .running →
      standing.reader = some index) (index : Nat) :
    standing.stopReader.readers[index]? ≠ some .running := by
  intro hfound
  unfold stopReader at hfound
  cases hreader : standing.reader with
  | none =>
      simp only [hreader] at hfound
      rw [hreader] at hrunning
      cases hrunning index hfound
  | some own =>
      simp only [hreader] at hfound
      have hstopped : (if standing.working = some own then Reader.stopping else .stopped) ≠
          .running := by
        split <;> decide
      obtain ⟨hne, hold⟩ := readers_set_ne hstopped hfound
      rw [hreader] at hrunning
      exact hne (Option.some.inj (hrunning index hold))

theorem stayed_stopReader {standing : Standing} (hidle : standing.working = none)
    (hstayed : ∀ index : Nat, standing.readers[index]? ≠ some .stopping) (index : Nat) :
    standing.stopReader.readers[index]? ≠ some .stopping := by
  intro hfound
  unfold stopReader at hfound
  rw [hidle] at hfound
  cases hreader : standing.reader with
  | none =>
      simp only [hreader] at hfound
      exact hstayed index hfound
  | some own =>
      simp only [hreader] at hfound
      exact hstayed index (readers_set_ne (by simp) hfound).2

namespace Clear

variable {standing : Standing}

theorem release (h : Clear standing) : Clear standing.release where
  wired := h.wired
  buffered := h.buffered
  recurring := h.recurring
  running index hfound := by
    refine absurd hfound (not_running_stopReader ?_ index)
    exact fun other hother => (h.running other hother).1
  idle := h.idle
  stayed index := stayed_stopReader h.idle h.stayed index

theorem teardown (h : Clear standing) : Clear standing.teardown where
  wired := h.wired
  buffered := h.buffered
  recurring _ hmem := nomatch hmem
  running index hfound := by
    refine absurd hfound (not_running_stopReader ?_ index)
    exact fun other hother => (h.running other hother).1
  idle := h.idle
  stayed index := stayed_stopReader h.idle h.stayed index

/-- A connection can be taken up while there is none. -/
theorem attach (h : Clear standing) (hreader : standing.reader = none) :
    Clear standing.attach := by
  unfold Standing.attach stopReader
  simp only [hreader]
  refine ⟨h.wired, h.buffered, ?_, ?_, h.idle, ?_⟩
  · intro sending hmem
    rcases List.mem_append.mp hmem with hmem | hmem
    · exact h.recurring sending hmem
    · simpa using hmem
  · intro index hfound
    rw [List.getElem?_append] at hfound
    split at hfound
    · have hown := (h.running index hfound).1
      rw [hreader] at hown
      cases hown
    · rename_i hge
      have hlast := (List.getElem?_eq_some_iff.mp hfound).1
      have hindex : index = standing.readers.length := by
        simp only [List.length_singleton] at hlast
        omega
      rw [hindex]
      exact ⟨rfl, rfl⟩
  · intro index hfound
    rw [List.getElem?_append] at hfound
    split at hfound
    · exact h.stayed index hfound
    · have hmem := List.mem_of_getElem? hfound
      simp at hmem

theorem atRest_of_no_calls (h : Clear standing) (hcalls : standing.calls = [])
    (hstate : standing.state.isLoggingIn = false)
    (hquiet : standing.state ≠ .loggedOn → standing.reader = none ∧ standing.writer = none) :
    AtRest standing :=
  { h with
    stopping := fun index hfound => absurd hfound (h.stayed index)
    alone := by simp [hcalls]
    settled := fun _ => ⟨hstate, hquiet⟩
    leaving := by simp [hcalls]
    connecting := by simp [hcalls] }

theorem finish (h : Clear standing) {number : Nat} (hcalls : standing.otherCalls number = [])
    (hstate : standing.state.isLoggingIn = false)
    (hquiet : standing.state ≠ .loggedOn → standing.reader = none ∧ standing.writer = none)
    (result : Except SessionError Unit) :
    AtRest (standing.finish number result) := by
  unfold Standing.finish
  have hended : Clear { standing with
      calls := standing.otherCalls number
      results := standing.results ++ [⟨number, result⟩] } := { h with }
  dsimp only
  split
  · exact hended.atRest_of_no_calls hcalls hstate hquiet
  · exact hended.release.atRest_of_no_calls hcalls hstate fun hne => ⟨rfl, (hquiet hne).2⟩

theorem await (h : Clear standing) {number : Nat} (hcalls : standing.otherCalls number = [])
    {phase : Phase} (hleaving : ∀ ticket, phase = .leaving ticket → standing.state = .unstarted)
    (hconnecting : ∀ username, phase = .connecting username →
      standing.username = some username ∧ standing.reader = none) :
    AtRest (standing.await number phase) := by
  unfold Standing.await
  rw [hcalls, List.nil_append]
  refine { h with
    stopping := fun index hfound => absurd hfound (h.stayed index)
    alone := Nat.le_refl 1
    settled := fun hnone => nomatch hnone
    leaving := ?_
    connecting := ?_ }
  · intro call hmem ticket hphase
    rw [List.mem_singleton.mp hmem] at hphase
    exact hleaving ticket hphase
  · intro call hmem username hphase
    rw [List.mem_singleton.mp hmem] at hphase
    exact hconnecting username hphase

theorem abandonLogin (h : Clear standing) {number : Nat}
    (hcalls : standing.otherCalls number = []) (hstate : standing.state.isLoggingIn = false)
    (error : SessionError) :
    AtRest (standing.abandonLogin number error) := by
  have hforgot : Clear { standing with password := none } := { h with }
  exact hforgot.teardown.finish hcalls hstate (fun _ => ⟨rfl, rfl⟩) _

theorem failLogin (h : Clear standing) {number : Nat}
    (hcalls : standing.otherCalls number = []) (error : SessionError) :
    AtRest (standing.failLogin number error) := by
  have hfailed : Clear { standing with state := .failed, failure := some error } := { h with }
  exact hfailed.abandonLogin hcalls rfl error

end Clear

end Standing

namespace Session

open Standing (Orderly AtRest Clear)

theorem atRest_awaitHandshake {session : Session} (h : Clear session.standing) {number : Nat}
    (hcalls : session.standing.otherCalls number = []) (deadline : Nat) :
    AtRest (session.awaitHandshake number deadline).standing := by
  unfold awaitHandshake
  split
  · rename_i hover
    rw [Bool.not_eq_true'] at hover
    split
    · rename_i hstate
      rw [standing_finish]
      have hforgot : Clear ({ session with password := none } : Session).standing := { h with }
      exact hforgot.finish hcalls hover (fun hne => absurd hstate hne) _
    · rw [standing_abandonLogin]
      exact h.abandonLogin hcalls hover _
  · split
    · rw [standing_failLogin]
      exact h.failLogin hcalls _
    · rw [standing_await]
      exact h.await hcalls (fun _ hphase => nomatch hphase) (fun _ hphase => nomatch hphase)

theorem atRest_connect {session : Session} (h : Clear session.standing) {number : Nat}
    (hcalls : session.standing.otherCalls number = []) {username : String}
    (husername : session.username = some username) (hreader : session.reader = none)
    (outcome : ConnectOutcome) :
    AtRest (session.connect number username outcome).standing := by
  cases outcome with
  | opened writeFault =>
      dsimp only [connect]
      rw [standing_openChannel]
      exact (h.attach hreader).await hcalls (fun _ hphase => nomatch hphase)
        (fun _ hphase => nomatch hphase)
  | refused text =>
      dsimp only [connect]
      rw [standing_failLogin]
      exact h.failLogin hcalls _
  | pending =>
      dsimp only [connect]
      rw [standing_await]
      refine h.await hcalls (fun _ hphase => nomatch hphase) ?_
      intro name hphase
      cases hphase
      exact ⟨husername, hreader⟩

theorem otherCalls_of_none {standing : Standing} (hcalls : standing.calls = []) (number : Nat) :
    standing.otherCalls number = [] := by
  unfold Standing.otherCalls
  rw [hcalls]
  rfl

theorem atRest_login {session : Session} (h : AtRest session.standing)
    (hcalls : session.calls = []) (username password : String) :
    AtRest (session.login username password).standing := by
  have hbegun : Clear session.beginCall.2.standing := { h.clear with }
  obtain ⟨hstate, hquiet⟩ := h.settled hcalls
  unfold login
  dsimp only
  split
  · rw [standing_finish]
    exact hbegun.finish (otherCalls_of_none hcalls _) hstate hquiet _
  · rename_i hunstarted
    rw [Decidable.not_not] at hunstarted
    have hne : session.state ≠ .loggedOn := by
      intro hloggedOn
      rw [show session.state = .unstarted from hunstarted] at hloggedOn
      cases hloggedOn
    split
    · rw [standing_finish, standing_fail]
      have hfailed : Clear ({ session.beginCall.2.standing with
          state := .failed
          failure := some (.invalidArgument "username and password must not be empty") }) :=
        { hbegun with }
      exact hfailed.finish (otherCalls_of_none hcalls _) rfl (fun _ => hquiet hne) _
    · refine atRest_connect ?_ ?_ ?_ ?_ _
      · exact { hbegun with }
      · exact otherCalls_of_none hcalls _
      · rfl
      · exact (hquiet hne).1

theorem atRest_logout {session : Session} (h : AtRest session.standing)
    (hcalls : session.calls = []) :
    AtRest session.logout.standing := by
  have hbegun : Clear session.beginCall.2.standing := { h.clear with }
  obtain ⟨hstate, hquiet⟩ := h.settled hcalls
  unfold logout
  dsimp only
  split
  · rw [standing_finish]
    exact hbegun.finish (otherCalls_of_none hcalls _) hstate hquiet _
  · rw [standing_await, standing_submit, standing_enter]
    refine Clear.await ?_ (otherCalls_of_none hcalls _) (fun _ _ => rfl)
      (fun _ hphase => nomatch hphase)
    exact { hbegun with }

theorem atRest_reset {session : Session} (h : AtRest session.standing)
    (hcalls : session.calls = []) :
    AtRest session.reset.standing := by
  have hbegun : Clear session.beginCall.2.standing := { h.clear with }
  obtain ⟨hstate, hquiet⟩ := h.settled hcalls
  unfold reset
  dsimp only
  split
  · rw [standing_finish]
    have hleft : Clear { session.beginCall.2.standing with state := .unstarted } := { hbegun with }
    have hcleared : Clear { ({ session.beginCall.2.standing with state := .unstarted } :
        Standing).teardown with failure := none } := { hleft.teardown with }
    have hstanding : ({ (session.beginCall.2.enter .unstarted).teardown with
        failure := none } : Session).standing =
          { (session.beginCall.2.enter .unstarted).teardown.standing with failure := none } := rfl
    rw [hstanding, standing_teardown]
    exact hcleared.finish (otherCalls_of_none hcalls _) rfl (fun _ => ⟨rfl, rfl⟩) _
  · rw [standing_finish]
    exact hbegun.finish (otherCalls_of_none hcalls _) hstate hquiet _

/-- The only call there is, is the one that was asked for. -/
theorem eq_of_mem_calls {session : Session} (h : AtRest session.standing) {call other : Call}
    (hcall : call ∈ session.calls) (hother : other ∈ session.calls) :
    other = call := by
  have hlength : session.calls.length ≤ 1 := h.alone
  match hcalls : session.calls with
  | [] => simp [hcalls] at hcall
  | [only] =>
      rw [hcalls, List.mem_singleton] at hcall hother
      rw [hother, hcall]
  | first :: second :: rest =>
      rw [hcalls] at hlength
      simp at hlength

theorem otherCalls_of_mem {session : Session} (h : AtRest session.standing) {call : Call}
    (hcall : call ∈ session.calls) :
    session.standing.otherCalls call.number = [] := by
  unfold Standing.otherCalls
  apply List.filter_eq_nil_iff.mpr
  intro other hother
  simp [eq_of_mem_calls h hcall hother]

theorem atRest_goOn {session : Session} (h : AtRest session.standing) {call : Call}
    (hcall : call ∈ session.calls) :
    AtRest (session.goOn call).standing := by
  have hcalls := otherCalls_of_mem h hcall
  unfold goOn
  split
  · exact h
  · split
    · exact h
    · exact atRest_awaitHandshake h.clear hcalls _
    · rw [standing_failLogin]
      exact h.clear.failLogin hcalls _
  · exact atRest_awaitHandshake h.clear hcalls _
  · rename_i ticket hphase
    have hstate : session.state = .unstarted := h.leaving call hcall ticket hphase
    split
    · exact h
    · rw [standing_finish, standing_teardown]
      refine h.clear.teardown.finish hcalls ?_ (fun _ => ⟨rfl, rfl⟩) _
      show session.state.isLoggingIn = false
      rw [hstate]
      rfl

theorem atRest_resume {session : Session} (h : AtRest session.standing) (number : Nat) :
    AtRest (session.resume number).standing := by
  unfold resume
  split
  · rename_i call hcall
    split
    · exact atRest_goOn h (callNumbered?_mem hcall).1
    · exact h
  · exact h

theorem atRest_resolveConnect {session : Session} (h : AtRest session.standing) (number : Nat)
    (outcome : ConnectOutcome) :
    AtRest (session.resolveConnect number outcome).standing := by
  unfold resolveConnect
  split
  · rename_i called username hcall
    obtain ⟨hmem, hnumber⟩ := callNumbered?_mem hcall
    obtain ⟨husername, hreader⟩ := h.connecting _ hmem username rfl
    refine atRest_connect h.clear ?_ husername hreader outcome
    rw [← hnumber]
    exact otherCalls_of_mem h hmem
  · exact h

theorem atRest_drop {session : Session} (h : AtRest session.standing) :
    AtRest session.drop.standing := by
  rw [standing_drop]
  dsimp only
  split
  · exact { h with }
  · rename_i hgone
    have hcalls : session.calls = [] := by
      simpa [Standing.alive, standing] using hgone
    obtain ⟨hstate, hquiet⟩ := h.settled hcalls
    have hdropped : Clear { session.standing with held := false } := { h.clear with }
    exact hdropped.release.atRest_of_no_calls hcalls hstate fun hne => ⟨rfl, (hquiet hne).2⟩

end Session

end Messenger
