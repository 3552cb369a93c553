import Messenger.Proofs.Session.Response

/-!
The time a login gives the server. It begins when the first packet has been written, and when it is
over the login has an answer; the connection and the first packet may take as long as they like.
-/

namespace Messenger

namespace Session

open Standing (Led)

/-- What a login answers that waits for the server no longer. -/
def verdict (session : Session) : Except SessionError Unit :=
  if session.state.isLoggingIn then .error (.timeout session.config.loginTimeout)
  else if session.state = .loggedOn then .ok ()
  else .error (session.failure.getD .connectionClosed)

/-- A login has its answer. Where it was still going on, the session has failed. -/
structure Returns (number : Nat) (before after : Session) : Prop where
  answer : ⟨number, before.verdict⟩ ∈ after.results
  settled : after.state.isLoggingIn = false
  failed : before.state.isLoggingIn = true → after.state = .failed

theorem Returns.of_finish {before after : Session} {number : Nat} {standing : Standing}
    {result : Except SessionError Unit} (hstanding : after.standing = standing.finish number result)
    (hresult : before.verdict = result) (hover : standing.state.isLoggingIn = false)
    (hfailed : before.state.isLoggingIn = true → standing.state = .failed) :
    Returns number before after := by
  have hstate : after.state = standing.state :=
    (congrArg Standing.state hstanding).trans (Standing.state_finish _ _ _)
  refine ⟨?_, hstate ▸ hover, fun hlogin => hstate.trans (hfailed hlogin)⟩
  show (⟨number, before.verdict⟩ : CallResult) ∈ after.standing.results
  rw [hstanding, Standing.results_finish, hresult]
  exact List.mem_append_right _ List.mem_cons_self

theorem returns_awaitHandshake {session : Session} {number deadline : Nat}
    (hover : session.state.isLoggingIn = true → deadline ≤ session.schedule.now) :
    Returns number session (session.awaitHandshake number deadline) := by
  unfold awaitHandshake
  cases hlogin : session.state.isLoggingIn with
  | true =>
      rw [if_neg (by simp), if_pos (hover hlogin)]
      exact .of_finish (standing_failLogin _ _ _) (by simp [verdict, hlogin]) rfl fun _ => rfl
  | false =>
      have hended (hgoing : session.state.isLoggingIn = true) : session.state = .failed := by
        simp [hlogin] at hgoing
      rw [if_pos (by simp)]
      split
      · rename_i hstate
        exact .of_finish (standing_finish _ _ _) (by simp [verdict, hstate, SessionState.isLoggingIn])
          hlogin hended
      · rename_i hstate
        exact .of_finish (standing_abandonLogin _ _ _) (by simp [verdict, hlogin, hstate]) hlogin
          hended

theorem callNumbered?_of_mem {session : Session} (h : session.standing.Led) {call : Call}
    (hcall : call ∈ session.calls) :
    session.callNumbered? call.number = some call := by
  cases hfound : session.callNumbered? call.number with
  | none =>
      have hnone := List.find?_eq_none.mp hfound call hcall
      simp at hnone
  | some found =>
      obtain ⟨hmem, hnumber⟩ := callNumbered?_mem hfound
      rw [h.eq_of_number hmem hcall hnumber]

section

variable {session : Session} (h : session.standing.Led) {number : Nat}
include h

theorem step_resume_announcing {ticket : Nat}
    (hcall : ⟨number, .announcing ticket⟩ ∈ session.calls)
    (hwritten : session.acknowledged.find? ticket = some (.ok ())) :
    session.step (.resume number) =
      session.awaitHandshake number (session.schedule.now + session.config.loginTimeout) := by
  have hfound : session.callNumbered? number = some ⟨number, .announcing ticket⟩ :=
    callNumbered?_of_mem h hcall
  have hready : session.ready (.announcing ticket) = true :=
    (session.acknowledged.contains_iff ticket).mpr ⟨_, hwritten⟩
  simp [step, resume, hfound, hready, goOn, hwritten]

theorem step_resume_handshake {deadline : Nat}
    (hcall : ⟨number, .handshake deadline⟩ ∈ session.calls) :
    session.step (.resume number) =
      if session.ready (.handshake deadline) then session.awaitHandshake number deadline
      else session := by
  have hfound : session.callNumbered? number = some ⟨number, .handshake deadline⟩ :=
    callNumbered?_of_mem h hcall
  simp [step, resume, hfound, goOn]

end

theorem returns_or_waits {session : Session} (h : session.standing.Led)
    (hnumbered : session.standing.Numbered) {number deadline : Nat}
    (hcall : ⟨number, .handshake deadline⟩ ∈ session.calls) (moves : List Move) :
    ⟨number, .handshake deadline⟩ ∈ (session.run moves).calls ∨
      ∃ first rest, moves = first ++ .resume number :: rest ∧
        Returns number (session.run first) ((session.run first).step (.resume number)) := by
  induction moves generalizing session with
  | nil => exact .inl hcall
  | cons move rest induction =>
      have hstep := step_stepped session move
      have hturned := hstep.turned h hnumbered
      have hlater (hkept : ⟨number, .handshake deadline⟩ ∈ (session.step move).calls) :
          ⟨number, .handshake deadline⟩ ∈ (session.run (move :: rest)).calls ∨
            ∃ first last, move :: rest = first ++ .resume number :: last ∧
              Returns number (session.run first)
                ((session.run first).step (.resume number)) := by
        rcases induction (hturned.led h) (hstep.numbered hnumbered) hkept with
          hwaits | ⟨first, last, rfl, hreturns⟩
        · exact .inl hwaits
        · exact .inr ⟨move :: first, last, rfl, hreturns⟩
      rcases hturned.handshake hcall rfl with hkept | rfl
      · exact hlater hkept
      · have hgoesOn := step_resume_handshake h hcall
        cases hready : session.ready (.handshake deadline) with
        | false =>
            rw [hready, if_neg (by simp)] at hgoesOn
            refine hlater ?_
            show ⟨number, .handshake deadline⟩ ∈ (session.step (.resume number)).calls
            rw [hgoesOn]
            exact hcall
        | true =>
            rw [hready, if_pos rfl] at hgoesOn
            refine .inr ⟨[], rest, rfl, ?_⟩
            show Returns number session (session.step (.resume number))
            rw [hgoesOn]
            refine returns_awaitHandshake fun hlogin => ?_
            simpa [ready, hlogin] using hready

/-- A login has its answer when all is quiet and the time it gives the server is over, which begins
when the login learns that its first packet has been written. -/
theorem returns_in_time {session : Session} (h : session.standing.Led)
    (hnumbered : session.standing.Numbered) {number ticket : Nat}
    (hcall : ⟨number, .announcing ticket⟩ ∈ session.calls)
    (hwritten : session.acknowledged.find? ticket = some (.ok ())) {late : List Move}
    (hquiet : (session.run (.resume number :: late)).isQuiet = true)
    (htime : session.schedule.now + session.config.loginTimeout ≤
      (session.run (.resume number :: late)).schedule.now) :
    ∃ first rest, .resume number :: late = first ++ .resume number :: rest ∧
      Returns number (session.run first) ((session.run first).step (.resume number)) := by
  have hgoesOn := step_resume_announcing h hcall hwritten
  by_cases hover : session.state.isLoggingIn = true →
      session.schedule.now + session.config.loginTimeout ≤ session.schedule.now
  · refine ⟨[], late, rfl, ?_⟩
    show Returns number session (session.step (.resume number))
    rw [hgoesOn]
    exact returns_awaitHandshake hover
  · rw [Classical.not_imp] at hover
    have hwaits : session.step (.resume number) = session.await number
        (.handshake (session.schedule.now + session.config.loginTimeout)) := by
      rw [hgoesOn]
      simp only [awaitHandshake, hover.1, Bool.not_true, Bool.false_eq_true, if_false,
        if_neg hover.2]
    have hstep := step_stepped session (.resume number)
    have hwaiting : ⟨number, .handshake (session.schedule.now + session.config.loginTimeout)⟩ ∈
        (session.step (.resume number)).calls := by
      rw [hwaits]
      exact List.mem_append_right _ List.mem_cons_self
    rcases returns_or_waits ((hstep.turned h hnumbered).led h) (hstep.numbered hnumbered) hwaiting
      late with hstill | ⟨first, rest, rfl, hreturns⟩
    · have hready := not_ready_of_isQuiet hquiet hstill
      simp only [ready, Bool.or_eq_false_iff, decide_eq_false_iff_not] at hready
      exact absurd htime hready.2
    · exact ⟨.resume number :: first, rest, rfl, hreturns⟩

theorem turned_run {session : Session} (h : session.standing.Led)
    (hnumbered : session.standing.Numbered) (moves : List Move) :
    (session.run moves).config = session.config ∧
      ∀ entry ∈ session.results, entry ∈ (session.run moves).results := by
  unfold run
  induction moves generalizing session with
  | nil => exact ⟨rfl, fun _ => id⟩
  | cons move rest induction =>
      have hstep := step_stepped session move
      have hturned := hstep.turned h hnumbered
      obtain ⟨hconfig, hresults⟩ := induction (hturned.led h) (hstep.numbered hnumbered)
      exact ⟨hconfig.trans hturned.config,
        fun entry hentry => hresults entry (hturned.results hentry)⟩

/-- What a login can wait for when all is quiet. Only the server is given a time. -/
inductive Waits (session : Session) : Phase → Prop
  | connecting (username : String) : Waits session (.connecting username)
  | announcing {ticket : Nat} (hunwritten : session.acknowledged.contains ticket = false) :
      Waits session (.announcing ticket)
  | handshake {deadline : Nat} (hlogin : session.state.isLoggingIn = true)
      (hdeadline : session.schedule.now < deadline) : Waits session (.handshake deadline)

theorem waits_of_not_ready {session : Session} {phase : Phase} (hlogin : phase.isLogin = true)
    (hready : session.ready phase = false) :
    Waits session phase := by
  cases phase with
  | connecting username => exact .connecting username
  | announcing ticket => exact .announcing hready
  | handshake deadline =>
      simp only [ready, Bool.or_eq_false_iff, Bool.not_eq_false', decide_eq_false_iff_not,
        Nat.not_le] at hready
      exact .handshake hready.1 hready.2
  | leaving ticket => cases hlogin

/-- A login whose first packet has been written has its answer when the time it gives the server is
over and all is quiet: if it was still going on when its turn came the session has failed and the
answer tells of the timeout, and otherwise of what came first. Whoever logs in at that time is
another login. -/
theorem timeout_bounds_handshake (config : SessionConfig) (listeners : List String)
    (outcomes : List ConnectOutcome) (early late : List Move) (number ticket : Nat)
    (hcall : ⟨number, .announcing ticket⟩ ∈
      ((build config listeners outcomes).run early).calls)
    (hwritten : ((build config listeners outcomes).run early).acknowledged.find? ticket =
      some (.ok ()))
    (hquiet : ((build config listeners outcomes).run
      (early ++ .resume number :: late)).isQuiet = true)
    (htime : ((build config listeners outcomes).run early).schedule.now + config.loginTimeout ≤
      ((build config listeners outcomes).run (early ++ .resume number :: late)).schedule.now) :
    let start := build config listeners outcomes
    let final := start.run (early ++ .resume number :: late)
    (final.state.isLoggingIn = true →
        ∃ call ∈ final.calls, call.number ≠ number ∧ Waits final call.phase) ∧
      ∃ first rest, .resume number :: late = first ++ .resume number :: rest ∧
        let before := start.run (early ++ first)
        let after := start.run (early ++ first ++ [.resume number])
        after.state.isLoggingIn = false ∧
          (before.state.isLoggingIn = true → after.state = .failed ∧
            final.resultOf? number = some (.error (.timeout config.loginTimeout))) ∧
          (before.state.isLoggingIn = false →
            final.resultOf? number = some (if before.state = .loggedOn then .ok ()
              else .error (before.failure.getD .connectionClosed))) := by
  intro start final
  have hled (moves : List Move) : (start.run moves).standing.Led :=
    led_run (led_build config listeners outcomes) (numbered_build config listeners outcomes) moves
  have hnumbered (moves : List Move) : (start.run moves).standing.Numbered :=
    numbered_run (numbered_build config listeners outcomes) moves
  have hconfig (moves : List Move) : (start.run moves).config = config :=
    (turned_run (hled []) (hnumbered []) moves).1
  have hanswering : final.standing.Answering :=
    answering_run (hnumbered []) (answering_build config listeners outcomes) _
  have hrun (moves : List Move) : start.run (early ++ moves) = (start.run early).run moves :=
    run_append start early moves
  have hover : (start.run early).schedule.now + (start.run early).config.loginTimeout ≤
      ((start.run early).run (.resume number :: late)).schedule.now := by
    rw [hconfig early, ← hrun]
    exact htime
  obtain ⟨first, rest, hsplit, hreturns⟩ :=
    returns_in_time (hled early) (hnumbered early) hcall hwritten (hrun _ ▸ hquiet) hover
  have hafter : start.run (early ++ first ++ [.resume number]) =
      ((start.run early).run first).step (.resume number) := by
    rw [run_append, hrun, run_singleton]
  rw [← hafter, ← hrun] at hreturns
  have hfinal : final = (start.run (early ++ first ++ [.resume number])).run rest := by
    rw [← run_append]
    simp [final, hsplit]
  have hentry : ⟨number, (start.run (early ++ first)).verdict⟩ ∈ final.results := by
    rw [hfinal]
    exact (turned_run (hled _) (hnumbered _) rest).2 _ hreturns.answer
  have hanswer : final.resultOf? number = some (start.run (early ++ first)).verdict :=
    resultOf?_of_mem hanswering hentry
  refine ⟨fun hlogin => ?_, first, rest, hsplit, hreturns.settled, fun hlogin => ?_, fun hended => ?_⟩
  · obtain ⟨call, hcall, hphase⟩ := (hled _).led hlogin
    exact ⟨call, hcall, hanswering.running _ hentry call hcall,
      waits_of_not_ready hphase (not_ready_of_isQuiet hquiet hcall)⟩
  · refine ⟨hreturns.failed hlogin, ?_⟩
    rw [hanswer, verdict, if_pos hlogin, hconfig]
  · rw [hanswer, verdict, if_neg (by simp [hended])]

/-- The server stays silent. -/
theorem timeout_bounds_handshake_silence :
    let early : List Move := [.login "ann" "secret", .write 0]
    let late : List Move := [.elapseTo 60000, .resume 0, .close 0]
    let session := (build {} [] []).run early
    let final := (build {} [] []).run (early ++ .resume 0 :: late)
    session.calls = [⟨0, .announcing 0⟩] ∧ session.schedule.now = 0 ∧ final.isQuiet = true ∧
      final.schedule.now = 60000 ∧
      ∃ first rest, .resume 0 :: late = first ++ .resume 0 :: rest ∧
        ((build {} [] []).run (early ++ first ++ [.resume 0])).state.isLoggingIn = false := by
  intro early late session final
  have hcalls : session.calls = [⟨0, .announcing 0⟩] := by decide +kernel
  have hbegun : session.schedule.now = 0 := by decide +kernel
  have hquiet : final.isQuiet = true := by decide +kernel
  have hover : final.schedule.now = 60000 := by decide +kernel
  have hwritten : session.acknowledged.find? 0 = some (.ok ()) := rfl
  obtain ⟨-, first, rest, hsplit, hended, -⟩ := timeout_bounds_handshake {} [] [] early late 0 0
    (hcalls ▸ List.mem_cons_self) hwritten hquiet (by rw [hbegun, hover]; decide)
  exact ⟨hcalls, hbegun, hquiet, hover, first, rest, hsplit, hended⟩

/-- A login whose connection does not come about waits for it at any time, whatever the settings. -/
theorem connecting_at_rest (config : SessionConfig) (time : Nat) :
    let session := (build config [] [.pending]).run [.login "ann" "secret", .elapseTo time]
    session.isQuiet = true ∧ session.schedule.now = time ∧ session.state = .connecting ∧
      session.calls = [⟨0, .connecting "ann"⟩] := by
  intro session
  refine ⟨rfl, ?_, rfl, ?_⟩
  · exact Nat.zero_max time
  · rfl

/-- So the time limit does not hold from the call on: it is over for a login that waits for its
connection, and for one whose first packet was long in writing, and neither has an answer. -/
theorem connecting_past_limit :
    let unconnected := (build {} [] [.pending]).run [.login "ann" "secret", .elapseTo 60000]
    let unwritten := (build {} [] []).run
      [.login "ann" "secret", .elapseTo 59999, .write 0, .resume 0, .elapseTo 60000, .tick, .write 0]
    ∀ session ∈ [unconnected, unwritten],
      session.isQuiet = true ∧ session.config.loginTimeout ≤ session.schedule.now ∧
        session.state = .connecting ∧ session.calls.map Call.number = [0] := by
  decide +kernel

end Session

end Messenger
