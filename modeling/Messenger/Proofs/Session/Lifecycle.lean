import Messenger.Proofs.Session.Trail

/-!
What becomes of a call that is made in the wrong state: it is answered, and changes nothing.
-/

namespace Messenger

open SessionState (Trail)

namespace Standing

/-- The calls that run have numbers that were given out, so the next call gets one of its own. -/
def Numbered (standing : Standing) : Prop :=
  ∀ call ∈ standing.calls, call.number < standing.callCount

theorem otherCalls_subset (standing : Standing) (number : Nat) :
    ∀ call ∈ standing.otherCalls number, call ∈ standing.calls :=
  fun _ hmem => (List.mem_filter.mp hmem).1

@[simp] theorem calls_finish (standing : Standing) (number : Nat)
    (result : Except SessionError Unit) :
    (standing.finish number result).calls = standing.otherCalls number := by
  unfold finish
  dsimp only
  split <;> rfl

@[simp] theorem callCount_finish (standing : Standing) (number : Nat)
    (result : Except SessionError Unit) :
    (standing.finish number result).callCount = standing.callCount := by
  unfold finish
  dsimp only
  split <;> rfl

namespace Numbered

variable {standing : Standing}

theorem finish (h : standing.Numbered) (number : Nat) (result : Except SessionError Unit) :
    (standing.finish number result).Numbered := by
  intro call hmem
  rw [calls_finish] at hmem
  rw [callCount_finish]
  exact h call (standing.otherCalls_subset number call hmem)

theorem await {number : Nat} (h : standing.Numbered) (hnumber : number < standing.callCount)
    (phase : Phase) :
    (standing.await number phase).Numbered := by
  intro call hmem
  rcases List.mem_append.mp hmem with hmem | hmem
  · exact h call (standing.otherCalls_subset number call hmem)
  · rw [List.mem_singleton.mp hmem]
    exact hnumber

theorem beginCall (h : standing.Numbered) : standing.beginCall.Numbered :=
  fun call hmem => Nat.lt_succ_of_lt (h call hmem)

theorem abandonLogin (h : standing.Numbered) (number : Nat) (error : SessionError) :
    (standing.abandonLogin number error).Numbered := by
  refine finish ?_ number _
  exact h

theorem failLogin (h : standing.Numbered) (number : Nat) (error : SessionError) :
    (standing.failLogin number error).Numbered := by
  refine abandonLogin ?_ number error
  exact h

end Numbered

end Standing

namespace Session

theorem numbered_awaitHandshake {session : Session} {number : Nat}
    (h : session.standing.Numbered) (hnumber : number < session.callCount) (deadline : Nat) :
    (session.awaitHandshake number deadline).standing.Numbered := by
  unfold awaitHandshake
  split
  · split
    · rw [standing_finish]
      refine .finish ?_ number _
      exact h
    · rw [standing_abandonLogin]
      exact h.abandonLogin number _
  · split
    · rw [standing_failLogin]
      exact h.failLogin number _
    · rw [standing_await]
      exact h.await hnumber _

theorem numbered_connect {session : Session} {number : Nat}
    (h : session.standing.Numbered) (hnumber : number < session.callCount) (username : String)
    (outcome : ConnectOutcome) :
    (session.connect number username outcome).standing.Numbered := by
  cases outcome with
  | opened writeFault =>
      dsimp only [connect]
      rw [standing_openChannel]
      have hattached : session.standing.attach.Numbered := h
      exact hattached.await hnumber _
  | refused text =>
      dsimp only [connect]
      rw [standing_failLogin]
      exact h.failLogin number _
  | pending =>
      dsimp only [connect]
      rw [standing_await]
      exact h.await hnumber _

theorem numbered_login {session : Session} (h : session.standing.Numbered)
    (username password : String) :
    (session.login username password).standing.Numbered := by
  unfold login
  have hbegun : session.beginCall.2.standing.Numbered := h.beginCall
  have hnumber : session.callCount < session.beginCall.2.callCount := Nat.lt_succ_self _
  dsimp only
  split
  · rw [standing_finish]
    exact hbegun.finish _ _
  · split
    · rw [standing_finish, standing_fail]
      refine .finish ?_ _ _
      exact hbegun
    · refine numbered_connect ?_ ?_ _ _
      · exact hbegun
      · exact hnumber

theorem numbered_logout {session : Session} (h : session.standing.Numbered) :
    session.logout.standing.Numbered := by
  unfold logout
  have hbegun : session.beginCall.2.standing.Numbered := h.beginCall
  have hnumber : session.callCount < session.beginCall.2.callCount := Nat.lt_succ_self _
  dsimp only
  split
  · rw [standing_finish]
    exact hbegun.finish _ _
  · rw [standing_await, standing_submit, standing_enter]
    refine .await ?_ ?_ _
    · exact hbegun
    · exact hnumber

theorem numbered_reset {session : Session} (h : session.standing.Numbered) :
    session.reset.standing.Numbered := by
  unfold reset
  have hbegun : session.beginCall.2.standing.Numbered := h.beginCall
  dsimp only
  split
  · rw [standing_finish]
    refine .finish ?_ _ _
    exact hbegun
  · rw [standing_finish]
    exact hbegun.finish _ _

theorem callNumbered?_mem {session : Session} {number : Nat} {call : Call}
    (hcall : session.callNumbered? number = some call) :
    call ∈ session.calls ∧ call.number = number := by
  refine ⟨List.mem_of_find?_eq_some hcall, ?_⟩
  have hnumber := List.find?_some hcall
  simpa using hnumber

theorem numbered_goOn {session : Session} (h : session.standing.Numbered) {call : Call}
    (hcall : call ∈ session.calls) :
    (session.goOn call).standing.Numbered := by
  have hnumber : call.number < session.callCount := h call hcall
  unfold goOn
  split
  · exact h
  · split
    · exact h
    · exact numbered_awaitHandshake h hnumber _
    · rw [standing_failLogin]
      exact h.failLogin _ _
  · exact numbered_awaitHandshake h hnumber _
  · split
    · exact h
    · rw [standing_finish, standing_teardown]
      refine .finish ?_ _ _
      exact h

theorem numbered_resume {session : Session} (h : session.standing.Numbered) (number : Nat) :
    (session.resume number).standing.Numbered := by
  unfold resume
  split
  · rename_i call hcall
    split
    · exact numbered_goOn h (callNumbered?_mem hcall).1
    · exact h
  · exact h

theorem numbered_resolveConnect {session : Session} (h : session.standing.Numbered)
    (number : Nat) (outcome : ConnectOutcome) :
    (session.resolveConnect number outcome).standing.Numbered := by
  unfold resolveConnect
  split
  · rename_i called username hcall
    obtain ⟨hmem, hnumber⟩ := callNumbered?_mem hcall
    refine numbered_connect h ?_ username outcome
    rw [← hnumber]
    exact h _ hmem
  · exact h

theorem Reacted.calls_eq {before after : Session} {reaction : Reaction} {packet : Packet}
    {result : Except HandlerError Unit} (h : Reacted before reaction packet (after, result)) :
    after.calls = before.calls ∧ after.callCount = before.callCount ∧ after.held = before.held := by
  cases h with
  | aside hafter hchallenge =>
      exact ⟨congrArg Standing.calls hafter.standing, congrArg Standing.callCount hafter.standing,
        congrArg Standing.held hafter.standing⟩
  | answered hreaction hstate hvalue hresponse => exact ⟨rfl, rfl, rfl⟩
  | refused hfault => exact ⟨rfl, rfl, rfl⟩
  | welcomed hreaction htold hstate =>
      exact ⟨congrArg Standing.calls htold.standing, congrArg Standing.callCount htold.standing,
        congrArg Standing.held htold.standing⟩
  | evicted hreaction hstate hbody => exact ⟨rfl, rfl, rfl⟩

theorem Handled.calls_eq {before after : Session} {connection : Nat} {packet : Packet}
    (h : Handled before connection packet after) :
    after.calls = before.calls ∧ after.callCount = before.callCount ∧ after.held = before.held := by
  cases h with
  | unrouted hroute hstanding hschedule hjournal =>
      exact ⟨congrArg Standing.calls hstanding, congrArg Standing.callCount hstanding,
        congrArg Standing.held hstanding⟩
  | reacted hroute hstanding hschedule hjournal hreacted =>
      obtain ⟨hcalls, hcount, hheld⟩ := hreacted.calls_eq
      exact ⟨hcalls.trans (congrArg Standing.calls hstanding),
        hcount.trans (congrArg Standing.callCount hstanding),
        hheld.trans (congrArg Standing.held hstanding)⟩

/-- Calls neither begin nor end while a reader is at work. -/
theorem ReadStep.calls_eq {before after : Session} {index : Nat}
    (h : ReadStep before index after) :
    after.calls = before.calls ∧ after.callCount = before.callCount ∧ after.held = before.held := by
  cases h with
  | packet hhandled => exact hhandled.calls_eq
  | malformed hstate => exact ⟨rfl, rfl, rfl⟩
  | passedOver hstate => exact ⟨rfl, rfl, rfl⟩
  | cutOff hstate => exact ⟨rfl, rfl, rfl⟩
  | lost hstate htold =>
      exact ⟨congrArg Standing.calls htold.standing, congrArg Standing.callCount htold.standing,
        congrArg Standing.held htold.standing⟩
  | ended hstate => exact ⟨rfl, rfl, rfl⟩

theorem numbered_read? {session next : Session} {index : Nat} (h : session.standing.Numbered)
    (hread : session.read? index = some next) :
    next.standing.Numbered := by
  refine read?_induction (motive := fun session => session.standing.Numbered) ?_ ?_ h hread
  · intro before after hbefore hnext
    obtain ⟨hcalls, hcount, -⟩ := (readNext?_step hnext).2.calls_eq
    intro call hmem
    have hbegun : call ∈ before.calls := by
      rw [← hcalls]
      exact hmem
    have hlt : call.number < before.callCount := hbefore call hbegun
    rw [← hcount] at hlt
    exact hlt
  · intro before hbefore
    exact hbefore

theorem numbered_drop {session : Session} (h : session.standing.Numbered) :
    session.drop.standing.Numbered := by
  rw [standing_drop]
  dsimp only
  split <;> exact h

theorem Stepped.numbered {before after : Session} {move : Move} (h : Stepped before move after)
    (hbefore : before.standing.Numbered) :
    after.standing.Numbered := by
  cases h with
  | carried hcarried =>
      rw [hcarried.standing]
      exact hbefore
  | login username password hheld => exact numbered_login hbefore username password
  | resolveConnect call outcome => exact numbered_resolveConnect hbefore call outcome
  | logout hheld => exact numbered_logout hbefore
  | reset hheld => exact numbered_reset hbefore
  | drop => exact numbered_drop hbefore
  | read hread => exact numbered_read? hbefore hread
  | resume call => exact numbered_resume hbefore call
  | attachStore policy => exact hbefore

theorem numbered_run {session : Session} (h : session.standing.Numbered) (moves : List Move) :
    (session.run moves).standing.Numbered :=
  run_keeps (motive := fun session => session.standing.Numbered)
    (fun between move => (step_stepped between move).numbered) h moves

theorem login_eq_connect {session : Session} (hstate : session.state = .unstarted)
    {username password : String} (husername : Text.lowerCase (Text.trim username) ≠ "")
    (hpassword : password ≠ "") :
    session.login username password =
      (session.beginCall.2.startLogin (Text.lowerCase (Text.trim username)) password).connect
        session.callCount (Text.lowerCase (Text.trim username))
        ((session.outcomes.head?).getD (.opened none)) := by
  unfold login
  dsimp only
  rw [if_neg (by exact not_not_intro hstate), if_neg (by exact not_or.mpr ⟨husername, hpassword⟩)]
  rfl

theorem logout_eq_await {session : Session} (hstate : session.state = .loggedOn) :
    session.logout =
      ((session.beginCall.2.enter .unstarted).submit
        (.request .logoff [("0", session.user)])).2.await session.callCount
          (.leaving session.tickets) := by
  unfold logout
  dsimp only
  rw [if_neg (by exact not_not_intro hstate), ticket_submit]
  rfl

/-- The session after a call that was refused because of the state: the call has its number and its
answer, and nothing else is different. -/
def refuse (session : Session) (expected : String) : Session :=
  { session with
    callCount := session.callCount + 1
    results := session.results ++
      [⟨session.callCount, .error (.illegalState expected session.state)⟩] }

theorem finish_beginCall {session : Session} (h : session.standing.Numbered)
    (hheld : session.held = true) (expected : String) :
    session.beginCall.2.finish session.beginCall.1 (.error (.illegalState expected session.state)) =
      session.refuse expected := by
  have hcalls : session.calls.filter (fun call => call.number != session.callCount) =
      session.calls := by
    apply List.filter_eq_self.mpr
    intro call hmem
    have hlt : call.number < session.callCount := h call hmem
    simpa using Nat.ne_of_lt hlt
  unfold finish beginCall refuse
  simp [alive, hheld, hcalls]

theorem login_of_ne {session : Session} (h : session.standing.Numbered)
    (hheld : session.held = true) (hstate : session.state ≠ .unstarted)
    (username password : String) :
    session.login username password = session.refuse "Unstarted" := by
  unfold login
  dsimp only
  rw [if_pos (by exact hstate)]
  exact finish_beginCall h hheld "Unstarted"

theorem logout_of_ne {session : Session} (h : session.standing.Numbered)
    (hheld : session.held = true) (hstate : session.state ≠ .loggedOn) :
    session.logout = session.refuse "LoggedOn" := by
  unfold logout
  dsimp only
  rw [if_pos (by exact hstate)]
  exact finish_beginCall h hheld "LoggedOn"

theorem reset_of_ne {session : Session} (h : session.standing.Numbered)
    (hheld : session.held = true) (hfailed : session.state ≠ .failed)
    (hunstarted : session.state ≠ .unstarted) :
    session.reset = session.refuse "Failed or Unstarted" := by
  unfold reset
  dsimp only
  rw [if_neg (by exact not_or.mpr ⟨hfailed, hunstarted⟩)]
  exact finish_beginCall h hheld "Failed or Unstarted"

theorem numbered_build (config : SessionConfig) (listeners : List String)
    (outcomes : List ConnectOutcome) :
    (build config listeners outcomes).standing.Numbered :=
  fun _ hmem => nomatch hmem

/-- Whatever happens to a session, its states follow the lifecycle, and a call made in the wrong
state is answered with that state and changes nothing. -/
theorem run_lifecycle (config : SessionConfig) (listeners : List String)
    (outcomes : List ConnectOutcome) (moves : List Move) :
    let session := (build config listeners outcomes).run moves
    Trail .unstarted (visited session.journal) session.state ∧
      (session.held = true →
        (∀ username password, session.state ≠ .unstarted →
          session.step (.login username password) = session.refuse "Unstarted") ∧
        (session.state ≠ .loggedOn → session.step .logout = session.refuse "LoggedOn") ∧
        (session.state ∈ [SessionState.connecting, .connected, .loggedOn] →
          session.step .reset = session.refuse "Failed or Unstarted")) := by
  intro session
  have hnumbered : session.standing.Numbered :=
    numbered_run (numbered_build config listeners outcomes) moves
  constructor
  · obtain ⟨noted, hjournal, htrail⟩ :=
      (follows_run (build config listeners outcomes) moves).journal
    have hnoted : session.journal = noted := hjournal
    rw [hnoted]
    exact htrail
  · intro hheld
    refine ⟨?_, ?_, ?_⟩
    · intro username password hstate
      dsimp only [step]
      rw [if_pos hheld]
      exact login_of_ne hnumbered hheld hstate username password
    · intro hstate
      dsimp only [step]
      rw [if_pos hheld]
      exact logout_of_ne hnumbered hheld hstate
    · intro hstate
      dsimp only [step]
      rw [if_pos hheld]
      refine reset_of_ne hnumbered hheld ?_ ?_
      · rintro hfailed
        simp [hfailed] at hstate
      · rintro hunstarted
        simp [hunstarted] at hstate

/-- A login that waits for its connection keeps out every other call. -/
theorem run_lifecycle_pending :
    let session := (build {} [] [.pending]).run [.login "Ann" "secret"]
    session.state = .connecting ∧
      session.step (.login "Ben" "word") = session.refuse "Unstarted" ∧
      session.step .logout = session.refuse "LoggedOn" ∧
      session.step .reset = session.refuse "Failed or Unstarted" := by
  intro session
  have hstate : session.state = .connecting := rfl
  obtain ⟨-, hcalls⟩ := run_lifecycle {} [] [.pending] [.login "Ann" "secret"]
  obtain ⟨hlogin, hlogout, hreset⟩ := hcalls rfl
  refine ⟨hstate, hlogin "Ben" "word" ?_, hlogout ?_, hreset ?_⟩
  · rw [hstate]
    decide
  · rw [hstate]
    decide
  · rw [hstate]
    decide

end Session

end Messenger
