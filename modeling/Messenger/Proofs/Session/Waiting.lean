import Messenger.Proofs.Session.Answers
import Messenger.Proofs.Session.Apart

/-!
The calls that wait. A call goes on waiting until it is its turn, and as long as a session logs in
there is a login that waits, however calls overlap.
-/

namespace Messenger

namespace Session

/-- No login begins, and the settings are kept. -/
structure Abstains (before after : Session) : Prop where
  config : after.config = before.config
  login : after.state.isLoggingIn = true → before.state.isLoggingIn = true

section

variable {before after : Session}

theorem Abstains.of_standing {middle : Session} (h : Abstains middle after)
    (hstanding : middle.standing = before.standing) :
    Abstains before after where
  config := h.config.trans (congrArg Standing.config hstanding)
  login hafter := by
    have hstate : middle.state = before.state := congrArg Standing.state hstanding
    exact hstate ▸ h.login hafter

theorem Reacted.abstains {reaction : Reaction} {packet : Packet} {result : Except HandlerError Unit}
    (h : Reacted before reaction packet (after, result)) :
    Abstains before after := by
  cases h with
  | aside hsame hchallenge => exact Abstains.of_standing ⟨rfl, id⟩ hsame.standing
  | answered hreaction hstate hvalue hresponse =>
      exact ⟨rfl, fun _ => by simp [hstate, SessionState.isLoggingIn]⟩
  | refused hfault => exact ⟨rfl, fun _ => hfault.isLoggingIn⟩
  | welcomed hreaction htold hstate =>
      exact ⟨congrArg Standing.config htold.standing,
        fun _ => by simp [hstate, SessionState.isLoggingIn]⟩
  | evicted hreaction hstate hbody =>
      refine ⟨rfl, fun hafter => ?_⟩
      have hunstarted : SessionState.unstarted.isLoggingIn = true := hafter
      cases hunstarted

theorem Handled.abstains {connection : Nat} {packet : Packet}
    (h : Handled before connection packet after) :
    Abstains before after := by
  cases h with
  | unrouted hroute hstanding hschedule hjournal =>
      exact Abstains.of_standing ⟨rfl, id⟩ hstanding
  | reacted hroute hstanding hschedule hjournal hreacted =>
      have hreactedToo := hreacted.abstains.of_standing hstanding
      exact { hreactedToo with }

theorem ReadStep.abstains {index : Nat} (h : ReadStep before index after) :
    Abstains before after := by
  cases h with
  | packet hhandled =>
      have hhandledToo := hhandled.abstains
      exact { hhandledToo with }
  | malformed hstate => exact ⟨rfl, fun _ => hstate⟩
  | passedOver hstate => exact ⟨rfl, id⟩
  | cutOff hstate => exact ⟨rfl, fun _ => hstate⟩
  | lost hstate htold =>
      refine ⟨congrArg Standing.config htold.standing, fun hafter => ?_⟩
      have hfailed : SessionState.failed.isLoggingIn = true := hafter
      cases hfailed
  | ended hstate => exact ⟨rfl, id⟩

end

end Session

namespace Standing

/-- Two sessions have the same settings, the same calls that wait and the same answers. -/
structure SameCalls (before after : Standing) : Prop where
  config : after.config = before.config
  calls : after.calls = before.calls
  results : after.results = before.results

/-- Whether the call with a certain number, if it waits for the answer of the server, goes on by a
move. -/
def IsTurn (standing : Standing) (move : Session.Move) (number : Nat) : Prop :=
  ∀ call ∈ standing.calls, call.number = number →
    (∃ deadline, call.phase = .handshake deadline) → move = .resume number

/-- What a move makes of the calls that wait and of their answers, and of the login that goes on. -/
inductive Turned (before : Standing) (move : Session.Move) (after : Standing) : Prop
  | kept (hsame : SameCalls before after)
      (hlogin : after.state.isLoggingIn = true → before.state.isLoggingIn = true)
  | answered (number : Nat) (result : Except SessionError Unit) (hturn : before.IsTurn move number)
      (hconfig : after.config = before.config) (hcalls : after.calls = before.otherCalls number)
      (hresults : after.results = before.results ++ [⟨number, result⟩])
      (hlogin : after.state.isLoggingIn = true → before.state.isLoggingIn = true ∧
        ∀ call ∈ before.calls, call.number = number → call.phase.isLogin = false)
  | waits (number : Nat) (phase : Phase) (hturn : before.IsTurn move number)
      (hconfig : after.config = before.config)
      (hcalls : after.calls = before.otherCalls number ++ [⟨number, phase⟩])
      (hresults : after.results = before.results)
      (hlogin : after.state.isLoggingIn = true → phase.isLogin = true)

/-- As long as a login goes on there is one that waits, and no two calls have the same number. -/
structure Led (standing : Standing) : Prop where
  distinct : (standing.calls.map Call.number).Nodup
  led : standing.state.isLoggingIn = true → ∃ call ∈ standing.calls, call.phase.isLogin = true

theorem mem_otherCalls {standing : Standing} {number : Nat} {call : Call}
    (hcall : call ∈ standing.calls) (hne : call.number ≠ number) :
    call ∈ standing.otherCalls number :=
  List.mem_filter.mpr ⟨hcall, by simpa using hne⟩

theorem distinct_otherCalls {standing : Standing}
    (h : (standing.calls.map Call.number).Nodup) (number : Nat) :
    ((standing.otherCalls number).map Call.number).Nodup :=
  h.sublist (List.filter_sublist.map _)

theorem Led.eq_of_number {standing : Standing} (h : standing.Led) {call other : Call}
    (hcall : call ∈ standing.calls) (hother : other ∈ standing.calls)
    (hnumber : call.number = other.number) :
    call = other :=
  List.inj_on_of_nodup_map h.distinct hcall hother hnumber

theorem Turned.led {before after : Standing} {move : Session.Move}
    (h : Turned before move after) (hbefore : before.Led) :
    after.Led := by
  cases h with
  | kept hsame hlogin =>
      refine ⟨hsame.calls ▸ hbefore.distinct, fun hafter => ?_⟩
      rw [hsame.calls]
      exact hbefore.led (hlogin hafter)
  | answered number result hturn hconfig hcalls hresults hlogin =>
      refine ⟨hcalls ▸ distinct_otherCalls hbefore.distinct number, fun hafter => ?_⟩
      obtain ⟨hgoing, hothers⟩ := hlogin hafter
      obtain ⟨call, hcall, hphase⟩ := hbefore.led hgoing
      refine ⟨call, ?_, hphase⟩
      rw [hcalls]
      refine mem_otherCalls hcall fun hnumber => ?_
      rw [hothers call hcall hnumber] at hphase
      cases hphase
  | waits number phase hturn hconfig hcalls hresults hlogin =>
      constructor
      · rw [hcalls, List.map_append]
        refine List.nodup_append.mpr
          ⟨distinct_otherCalls hbefore.distinct number, List.nodup_singleton _, ?_⟩
        intro earlier hearlier own hown
        obtain ⟨call, hcall, rfl⟩ := List.mem_map.mp hearlier
        rw [List.mem_singleton.mp hown]
        simpa using (List.mem_filter.mp hcall).2
      · intro hafter
        refine ⟨⟨number, phase⟩, ?_, hlogin hafter⟩
        rw [hcalls]
        exact List.mem_append_right _ List.mem_cons_self

/-- A login that waits for the answer of the server goes on waiting until it is its turn. -/
theorem Turned.handshake {before after : Standing} {move : Session.Move}
    (h : Turned before move after) {call : Call} (hcall : call ∈ before.calls) {deadline : Nat}
    (hphase : call.phase = .handshake deadline) :
    call ∈ after.calls ∨ move = .resume call.number := by
  have hother {number : Nat} (hturn : before.IsTurn move number) :
      call ∈ before.otherCalls number ∨ move = .resume call.number := by
    by_cases hnumber : call.number = number
    · exact .inr (hnumber ▸ hturn call hcall hnumber ⟨deadline, hphase⟩)
    · exact .inl (mem_otherCalls hcall hnumber)
  cases h with
  | kept hsame hlogin => exact .inl (hsame.calls ▸ hcall)
  | answered number result hturn hconfig hcalls hresults hlogin =>
      rw [hcalls]
      exact hother hturn
  | waits number phase hturn hconfig hcalls hresults hlogin =>
      rw [hcalls]
      exact (hother hturn).imp_left (List.mem_append_left _)

/-- Answers stay. -/
theorem Turned.results {before after : Standing} {move : Session.Move}
    (h : Turned before move after) {entry : CallResult} (hentry : entry ∈ before.results) :
    entry ∈ after.results := by
  cases h with
  | kept hsame hlogin => exact hsame.results ▸ hentry
  | answered number result hturn hconfig hcalls hresults hlogin =>
      rw [hresults]
      exact List.mem_append_left _ hentry
  | waits number phase hturn hconfig hcalls hresults hlogin => exact hresults ▸ hentry

theorem Turned.config {before after : Standing} {move : Session.Move}
    (h : Turned before move after) :
    after.config = before.config := by
  cases h with
  | kept hsame hlogin => exact hsame.config
  | answered number result hturn hconfig hcalls hresults hlogin => exact hconfig
  | waits number phase hturn hconfig hcalls hresults hlogin => exact hconfig

@[simp] theorem config_finish (standing : Standing) (number : Nat)
    (result : Except SessionError Unit) :
    (standing.finish number result).config = standing.config := by
  unfold finish
  dsimp only
  split <;> rfl

section

variable {before standing : Standing} {move : Session.Move} {number : Nat}
  (hturn : before.IsTurn move number) (hsame : SameCalls before standing)
include hturn hsame

theorem Turned.finish
    (hlogin : standing.state.isLoggingIn = true → before.state.isLoggingIn = true ∧
      ∀ call ∈ before.calls, call.number = number → call.phase.isLogin = false)
    (result : Except SessionError Unit) :
    Turned before move (standing.finish number result) := by
  refine .answered number result hturn ?_ ?_ ?_ ?_
  · rw [config_finish, hsame.config]
  · rw [calls_finish, otherCalls, hsame.calls]
    rfl
  · rw [results_finish, hsame.results]
  · rw [state_finish]
    exact hlogin

theorem Turned.await {phase : Phase}
    (hlogin : standing.state.isLoggingIn = true → phase.isLogin = true) :
    Turned before move (standing.await number phase) := by
  refine .waits number phase hturn hsame.config ?_ hsame.results hlogin
  rw [Standing.await, otherCalls, hsame.calls]
  rfl

end

/-- A new call has its turn when it is made. -/
theorem IsTurn.of_new {standing : Standing} (h : standing.Numbered) (move : Session.Move) :
    standing.IsTurn move standing.callCount :=
  fun call hcall hnumber => absurd (h call hcall) (hnumber ▸ Nat.lt_irrefl _)

end Standing

namespace Session

open Standing (Turned Led IsTurn SameCalls)

section

variable {before : Standing} {session : Session} {move : Move} {number : Nat}
  (hturn : before.IsTurn move number) (hsame : before.SameCalls session.standing)
include hturn hsame

theorem turned_failLogin (error : SessionError) :
    Turned before move (session.failLogin number error).standing := by
  rw [standing_failLogin]
  refine .finish hturn ?_ (fun hafter => ?_) _
  · exact { hsame with }
  · cases hafter

/-- A login that goes on waits again, or is answered. -/
theorem turned_awaitHandshake (deadline : Nat) :
    Turned before move (session.awaitHandshake number deadline).standing := by
  unfold awaitHandshake
  split
  · rename_i hover
    have hnone (hafter : session.state.isLoggingIn = true) : False := by simp [hafter] at hover
    split
    · rw [standing_finish]
      refine .finish hturn ?_ (fun hafter => (hnone hafter).elim) _
      exact { hsame with }
    · rw [standing_abandonLogin]
      refine .finish hturn ?_ (fun hafter => (hnone hafter).elim) _
      exact { hsame with }
  · split
    · exact turned_failLogin hturn hsame _
    · rw [standing_await]
      exact .await hturn { hsame with } fun _ => rfl

theorem turned_connect (username : String) (outcome : ConnectOutcome) :
    Turned before move (session.connect number username outcome).standing := by
  cases outcome with
  | opened writeFault =>
      dsimp only [connect]
      rw [standing_openChannel]
      refine .await hturn ?_ fun _ => rfl
      exact { hsame with }
  | refused text => exact turned_failLogin hturn hsame _
  | pending =>
      dsimp only [connect]
      rw [standing_await]
      exact .await hturn { hsame with } fun _ => rfl

end

section

variable {session : Session} (h : session.standing.Numbered) {move : Move}
include h

/-- A call that is answered at once touches none of those that wait. -/
theorem turned_answered (result : Except SessionError Unit) :
    Turned session.standing move
      (session.beginCall.2.standing.finish session.callCount result) := by
  refine .finish (IsTurn.of_new h move) ?_ ?_ _
  · exact ⟨rfl, rfl, rfl⟩
  · refine fun hafter => ⟨hafter, fun call hcall hnumber => ?_⟩
    exact absurd (h call hcall) (hnumber ▸ Nat.lt_irrefl _)

theorem turned_login (username password : String) :
    Turned session.standing move (session.login username password).standing := by
  have hturn := IsTurn.of_new h move
  unfold login
  dsimp only
  split
  · rw [standing_finish]
    exact turned_answered h _
  · split
    · rw [standing_finish, standing_fail]
      refine .finish hturn ?_ (fun hafter => ?_) _
      · exact ⟨rfl, rfl, rfl⟩
      · cases hafter
    · refine turned_connect hturn ?_ _ _
      exact ⟨rfl, rfl, rfl⟩

theorem turned_logout : Turned session.standing move session.logout.standing := by
  have hturn := IsTurn.of_new h move
  unfold logout
  dsimp only
  split
  · rw [standing_finish]
    exact turned_answered h _
  · rw [standing_await, standing_submit, standing_enter]
    refine .await hturn ?_ fun hafter => ?_
    · exact ⟨rfl, rfl, rfl⟩
    · cases hafter

theorem turned_reset : Turned session.standing move session.reset.standing := by
  have hturn := IsTurn.of_new h move
  unfold reset
  dsimp only
  split
  · rw [standing_finish]
    refine .finish hturn ?_ (fun hafter => ?_) _
    · exact ⟨rfl, rfl, rfl⟩
    · cases hafter
  · rw [standing_finish]
    exact turned_answered h _

end

theorem turned_drop (session : Session) (move : Move) :
    Turned session.standing move session.drop.standing := by
  rw [standing_drop]
  dsimp only
  split <;> exact .kept ⟨rfl, rfl, rfl⟩ id

theorem turned_read? {session next : Session} {index : Nat}
    (hread : session.read? index = some next) (move : Move) :
    Turned session.standing move next.standing := by
  obtain ⟨hsame, hlogin⟩ : SameCalls session.standing next.standing ∧
      (next.state.isLoggingIn = true → session.state.isLoggingIn = true) := by
    refine read?_induction (motive := fun after => SameCalls session.standing after.standing ∧
      (after.state.isLoggingIn = true → session.state.isLoggingIn = true))
      ?_ ?_ ⟨⟨rfl, rfl, rfl⟩, id⟩ hread
    · rintro before after ⟨hsame, hlogin⟩ hnext
      have hstep := (readNext?_step hnext).2
      refine ⟨⟨?_, ?_, ?_⟩, fun hafter => hlogin (hstep.abstains.login hafter)⟩
      · exact hstep.abstains.config.trans hsame.config
      · exact hstep.calls_eq.1.trans hsame.calls
      · exact hstep.results_eq.trans hsame.results
    · rintro before ⟨hsame, hlogin⟩
      exact ⟨{ hsame with }, hlogin⟩
  exact .kept hsame hlogin

theorem turned_goOn {session : Session} (h : session.standing.Led) {call : Call}
    (hcall : call ∈ session.calls) :
    Turned session.standing (.resume call.number) (session.goOn call).standing := by
  have hturn : session.standing.IsTurn (.resume call.number) call.number := fun _ _ _ _ => rfl
  unfold goOn
  split
  · exact .kept ⟨rfl, rfl, rfl⟩ id
  · split
    · exact .kept ⟨rfl, rfl, rfl⟩ id
    · exact turned_awaitHandshake hturn ⟨rfl, rfl, rfl⟩ _
    · exact turned_failLogin hturn ⟨rfl, rfl, rfl⟩ _
  · exact turned_awaitHandshake hturn ⟨rfl, rfl, rfl⟩ _
  · rename_i ticket hphase
    split
    · exact .kept ⟨rfl, rfl, rfl⟩ id
    · rw [standing_finish, standing_teardown]
      refine .finish hturn ?_ ?_ _
      · exact ⟨rfl, rfl, rfl⟩
      · refine fun hafter => ⟨hafter, fun other hother hnumber => ?_⟩
        rw [h.eq_of_number hother hcall hnumber, hphase]
        rfl

theorem turned_resume {session : Session} (h : session.standing.Led) (number : Nat) :
    Turned session.standing (.resume number) (session.resume number).standing := by
  unfold resume
  split
  · rename_i call hcall
    obtain ⟨hmem, rfl⟩ := callNumbered?_mem hcall
    split
    · exact turned_goOn h hmem
    · exact .kept ⟨rfl, rfl, rfl⟩ id
  · exact .kept ⟨rfl, rfl, rfl⟩ id

theorem turned_resolveConnect {session : Session} (h : session.standing.Led) (number : Nat)
    (outcome : ConnectOutcome) (move : Move) :
    Turned session.standing move (session.resolveConnect number outcome).standing := by
  unfold resolveConnect
  split
  · rename_i called username hcall
    obtain ⟨hmem, rfl⟩ := callNumbered?_mem hcall
    refine turned_connect (fun other hother hnumber hwaits => ?_) ⟨rfl, rfl, rfl⟩ _ _
    obtain ⟨deadline, hphase⟩ := hwaits
    rw [h.eq_of_number hother hmem hnumber] at hphase
    cases hphase
  · exact .kept ⟨rfl, rfl, rfl⟩ id

theorem Stepped.turned {before after : Session} {move : Move} (hstep : Stepped before move after)
    (h : before.standing.Led) (hnumbered : before.standing.Numbered) :
    Turned before.standing move after.standing := by
  cases hstep with
  | carried hcarried =>
      rw [hcarried.standing]
      exact .kept ⟨rfl, rfl, rfl⟩ id
  | login username password hheld => exact turned_login hnumbered username password
  | resolveConnect call outcome => exact turned_resolveConnect h call outcome _
  | logout hheld => exact turned_logout hnumbered
  | reset hheld => exact turned_reset hnumbered
  | drop => exact turned_drop before _
  | read hread => exact turned_read? hread _
  | resume call => exact turned_resume h call
  | attachStore policy => exact .kept ⟨rfl, rfl, rfl⟩ id

theorem led_run {session : Session} (h : session.standing.Led)
    (hnumbered : session.standing.Numbered) (moves : List Move) :
    (session.run moves).standing.Led := by
  refine (run_keeps (motive := fun session => session.standing.Led ∧ session.standing.Numbered)
    (fun between move hbetween => ?_) ⟨h, hnumbered⟩ moves).1
  obtain ⟨h, hnumbered⟩ := hbetween
  have hstep := step_stepped between move
  exact ⟨(hstep.turned h hnumbered).led h, hstep.numbered hnumbered⟩

theorem led_build (config : SessionConfig) (listeners : List String)
    (outcomes : List ConnectOutcome) :
    (build config listeners outcomes).standing.Led :=
  ⟨.nil, fun hlogin => nomatch hlogin⟩

end Session

end Messenger
