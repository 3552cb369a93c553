import Messenger.Proofs.Session.Answers
import Messenger.Proofs.Session.Apart
import Messenger.Proofs.Session.Holdings

/-!
What a call ends when it goes on. Where no login begins before the calls of the attempts before it
have returned, whatever else overlaps, it is its own attempt.
-/

namespace Messenger

namespace Session

open Standing (AtEase Tidy)

/-- Nothing of a session is at work. -/
structure Stopped (session : Session) : Prop where
  bare : session.standing.Bare
  unread : ∀ index, ¬ session.IsRead index

/-- All that is at work in a session has been opened since an earlier one. -/
structure Since (start session : Session) : Prop where
  read : ∀ index, session.IsRead index → start.link.connections.length ≤ index
  writer : ∀ index, session.link.writer = some index → start.link.connections.length ≤ index
  tasks : ∀ task ∈ session.schedule.tasks, start.schedule.count ≤ task.number
  queue : session.events.running = true →
    start.events.courses.length < session.events.courses.length

theorem stopped_of_bare {session : Session} (h : Tidy session.standing)
    (hbare : session.standing.Bare) :
    session.Stopped where
  bare := hbare
  unread index hread := by
    rcases hread with hworking | ⟨reader, hgoing, hfound⟩
    · rw [show session.working = none from h.idle] at hworking
      cases hworking
    · exact h.not_going hbare.1 hgoing hfound

theorem Proceeds.since {start session : Session} (h : Proceeds start session)
    (hstopped : start.Stopped) :
    Since start session := by
  obtain ⟨-, hwriter, hrecurring, hrunning⟩ := hstopped.bare
  have hlength : start.standing.readers.length = start.link.connections.length :=
    List.length_map _
  refine ⟨fun index hread => ?_, fun index hwrites => ?_, fun task htask => ?_, fun hruns => ?_⟩
  · rw [← hlength]
    exact (h.read index hread).resolve_left (hstopped.unread index)
  · rw [← hlength]
    refine (h.writer index hwrites).resolve_left fun hwrote => ?_
    rw [show start.link.writer = none from hwriter] at hwrote
    cases hwrote
  · refine (h.schedule.tasks task htask).resolve_left ?_
    rintro ⟨earlier, hearlier, -⟩
    have hnone : start.schedule.tasks = [] := List.map_eq_nil_iff.mp hrecurring
    rw [hnone] at hearlier
    cases hearlier
  · obtain ⟨moves, noted, hmoves⟩ := h.queue
    rw [hmoves.events] at hruns ⊢
    refine (EventQueue.running_run start.events hruns).resolve_left ?_
    rw [show start.events.running = false from hrunning]
    decide

/-- How a call has gone on: it still waits, or it is a login that is complete, or it has ended and
stopped all that is at work. Only a login fails. -/
structure GoneOn (session : Session) (call : Call) (after : Session) : Prop where
  returned : (∃ other ∈ after.calls, other.number = call.number) ∨
    call.phase.isLogin = true ∧ ⟨call.number, .ok ()⟩ ∈ after.results ∨ after.standing.Bare
  state : after.state = session.state ∨ after.state = .failed ∧ call.phase.isLogin = true

theorem bare_finish {standing : Standing} (h : standing.Bare) (number : Nat)
    (result : Except SessionError Unit) :
    (standing.finish number result).Bare := by
  obtain ⟨-, hwriter, hrecurring, -⟩ := id h
  unfold Standing.finish
  dsimp only
  split
  · exact h
  · exact ⟨rfl, hwriter, hrecurring, rfl⟩

section

variable {session : Session} {call : Call}

theorem goneOn_finish_teardown {before : Session} (number : Nat)
    (result : Except SessionError Unit)
    (hstate : before.state = session.state ∨ before.state = .failed ∧ call.phase.isLogin = true) :
    GoneOn session call (before.teardown.finish number result) := by
  have hstanding := standing_finish before.teardown number result
  rw [standing_teardown] at hstanding
  refine ⟨.inr (.inr ?_), ?_⟩
  · rw [hstanding]
    exact bare_finish ⟨rfl, rfl, rfl, rfl⟩ number result
  · rw [show (before.teardown.finish number result).state = before.state from
      (congrArg Standing.state hstanding).trans (Standing.state_finish _ _ _)]
    exact hstate

theorem goneOn_await (phase : Phase) : GoneOn session call (session.await call.number phase) :=
  ⟨.inl ⟨_, List.mem_append_right _ (List.mem_singleton.mpr rfl), rfl⟩, .inl rfl⟩

variable (hlogin : call.phase.isLogin = true)
include hlogin

theorem goneOn_failLogin (error : SessionError) :
    GoneOn session call (session.failLogin call.number error) :=
  goneOn_finish_teardown _ _ (.inr ⟨rfl, hlogin⟩)

theorem goneOn_awaitHandshake (deadline : Nat) :
    GoneOn session call (session.awaitHandshake call.number deadline) := by
  unfold awaitHandshake
  split
  · split
    · have hstanding := standing_finish { session with password := none } call.number (.ok ())
      have hresults : (({ session with password := none } : Session).finish call.number
          (.ok ())).results = session.results ++ [⟨call.number, .ok ()⟩] :=
        (congrArg Standing.results hstanding).trans (Standing.results_finish _ _ _)
      refine ⟨.inr (.inl ⟨hlogin, ?_⟩), .inl ?_⟩
      · rw [hresults]
        exact List.mem_append_right _ (List.mem_singleton.mpr rfl)
      · exact (congrArg Standing.state hstanding).trans (Standing.state_finish _ _ _)
    · exact goneOn_finish_teardown _ _ (.inl rfl)
  · split
    · exact goneOn_failLogin hlogin _
    · exact goneOn_await _

theorem goneOn_connect (username : String) (outcome : ConnectOutcome) :
    GoneOn session call (session.connect call.number username outcome) := by
  cases outcome with
  | opened writeFault =>
      have hstanding := standing_openChannel session call.number username writeFault
      have hcalls := congrArg Standing.calls hstanding
      refine ⟨.inl ⟨⟨call.number, .announcing session.tickets⟩, ?_, rfl⟩,
        .inl (congrArg Standing.state hstanding)⟩
      show _ ∈ (session.openChannel call.number username writeFault).standing.calls
      rw [hcalls]
      exact List.mem_append_right _ (List.mem_singleton.mpr rfl)
  | refused text => exact goneOn_failLogin hlogin _
  | pending => exact goneOn_await _

end

theorem goneOn_of_waiting {session : Session} {call : Call} (hcall : call ∈ session.calls) :
    GoneOn session call session :=
  ⟨.inl ⟨call, hcall, rfl⟩, .inl rfl⟩

theorem goneOn_resume {session : Session} {number : Nat} {call : Call}
    (hcall : session.callNumbered? number = some call) :
    GoneOn session call (session.resume number) := by
  have hwaits := (callNumbered?_mem hcall).1
  unfold resume
  rw [hcall]
  dsimp only
  split
  · unfold goOn
    split
    · exact goneOn_of_waiting hwaits
    · rename_i ticket hphase
      have hlogin : call.phase.isLogin = true := by
        rw [hphase]
        rfl
      split
      · exact goneOn_of_waiting hwaits
      · exact goneOn_awaitHandshake hlogin _
      · exact goneOn_failLogin hlogin _
    · rename_i deadline hphase
      refine goneOn_awaitHandshake ?_ _
      rw [hphase]
      rfl
    · split
      · exact goneOn_of_waiting hwaits
      · exact goneOn_finish_teardown _ _ (.inl rfl)
  · exact goneOn_of_waiting hwaits

theorem goneOn_resolveConnect {session : Session} {number : Nat} {call : Call}
    (hcall : session.callNumbered? number = some call) (outcome : ConnectOutcome) :
    GoneOn session call (session.resolveConnect number outcome) := by
  obtain ⟨hwaits, hnumber⟩ := callNumbered?_mem hcall
  unfold resolveConnect
  rw [hcall]
  split
  · rename_i called username hfound
    cases hfound
    rw [← hnumber]
    exact goneOn_connect rfl username outcome
  · exact goneOn_of_waiting hwaits

/-- Where every login that begins finds that all calls before it have returned, whatever else
overlaps: when a login begins, nothing is at work; all that is at work later has been opened since,
and all calls that wait have been made since, so none is left that could end what a later login has
opened. A call that goes on still waits, or completes its login, or ends with its attempt. As long
as no other login begins, only this one waits as a login, and only it fails. -/
theorem calls_end_their_own_attempt (config : SessionConfig) (listeners : List String)
    (outcomes : List ConnectOutcome) (before during : List Move) (username password : String)
    (hapart : Apart (build config listeners outcomes)
      (before ++ .login username password :: during))
    (hbegins : ((build config listeners outcomes).run before).Begins
      (.login username password)) :
    let start := (build config listeners outcomes).run before
    let session := start.run (.login username password :: during)
    start.calls = [] ∧ start.Stopped ∧ Since start session ∧
      (∀ call ∈ session.calls, start.callCount ≤ call.number) ∧
      (∀ number call after, session.callNumbered? number = some call →
        (after = session.step (.resume number) ∨
          ∃ outcome, after = session.step (.resolveConnect number outcome)) →
        ((∃ other ∈ after.calls, other.number = number) ∨
          call.phase.isLogin = true ∧ after.resultOf? number = some (.ok ()) ∨ after.Stopped) ∧
        (after.state = session.state ∨ after.state = .failed ∧ call.phase.isLogin = true)) ∧
      (Undivided (start.step (.login username password)) during → ∀ call ∈ session.calls,
        call.phase.isLogin = true → call.number = start.callCount) := by
  intro start session
  obtain ⟨hearly, hcalls, hlate⟩ := apart_append.mp hapart
  have hnone : start.calls = [] := hcalls hbegins
  have hnumbered : start.standing.Numbered := numbered_run (numbered_build _ _ _) before
  obtain ⟨earliest, heased, -, -⟩ :=
    atEase_run (atEase_build config listeners outcomes) (numbered_build _ _ _) hearly
  have hbegun : AtEase start.callCount (start.step (.login username password)).standing := by
    have hstep : start.step (.login username password) = start.login username password :=
      if_pos hbegins.1
    rw [hstep]
    exact atEase_login_begins heased hbegins hnone
  obtain ⟨first, hfirst, hle, hundivided⟩ :=
    atEase_run hbegun ((step_stepped start _).numbered hnumbered) hlate
  have hstopped : start.Stopped := by
    refine stopped_of_bare heased.tidy (heased.settled hnone ?_)
    simp [standing, hbegins.2.1]
  have hanswering : session.standing.Answering := by
    have hrun : session =
        (build config listeners outcomes).run (before ++ .login username password :: during) :=
      (run_append _ before _).symm
    rw [hrun]
    exact answering_run (numbered_build _ _ _) (answering_build _ _ _) _
  have hnumberedNow : session.standing.Numbered := numbered_run hnumbered _
  refine ⟨hnone, hstopped, (proceeds_run start _).since hstopped, ?_, ?_, ?_⟩
  · exact fun call hmem => Nat.le_trans hle (hfirst.calls call hmem).1
  · intro number call after hcall hafter
    obtain ⟨hwaits, hnumber⟩ := callNumbered?_mem hcall
    have hgoes : GoneOn session call after ∧ Tidy after.standing ∧ after.standing.Answering := by
      rcases hafter with rfl | ⟨outcome, rfl⟩
      · exact ⟨goneOn_resume hcall, (atEase_resume hfirst number).tidy,
          (step_stepped session _).answering hnumberedNow hanswering⟩
      · exact ⟨goneOn_resolveConnect hcall outcome,
          (atEase_resolveConnect hfirst number outcome).tidy,
          (step_stepped session _).answering hnumberedNow hanswering⟩
    obtain ⟨hgone, htidy, hanswered⟩ := hgoes
    refine ⟨?_, hgone.state⟩
    rcases hgone.returned with hstill | ⟨hlogin, hresult⟩ | hbare
    · exact .inl (hnumber ▸ hstill)
    · exact .inr (.inl ⟨hlogin, hnumber ▸ resultOf?_of_mem hanswered hresult⟩)
    · exact .inr (.inr (stopped_of_bare htidy hbare))
  · intro hsame call hmem hlogin
    rw [← hundivided hsame]
    exact (hfirst.calls call hmem).2 hlogin

/-- A reset that overlaps the login it puts an end to: the login returns after it, and the next one
is ended by nothing but the end of its own connection. -/
theorem calls_end_their_own_attempt_reset :
    let before : List Move := [.login "ann" "secret", .write 0, .resume 0, .finishServer 0,
      .read 0, .reset, .resume 0]
    let during : List Move := [.write 1, .resume 2, .finishServer 1, .read 1]
    let start := (build {} [] []).run before
    let session := start.run (.login "ann" "secret" :: during)
    ¬ Sequential (build {} [] []) before ∧ start.Stopped ∧ Since start session ∧
      (session.step (.resume 2)).Stopped := by
  intro before during start session
  have hoverlaps : ¬ Sequential (build {} [] []) before := by decide +kernel
  have hbegins : start.Begins (.login "ann" "secret") := by decide +kernel
  have hapart : Apart (build {} [] []) (before ++ .login "ann" "secret" :: during) := by
    decide +kernel
  obtain ⟨-, hstopped, hsince, -, hgoes, -⟩ :=
    calls_end_their_own_attempt {} [] [] before during "ann" "secret" hapart hbegins
  have hcall : session.callNumbered? 2 = some ⟨2, .handshake 60000⟩ := by decide +kernel
  refine ⟨hoverlaps, hstopped, hsince, ?_⟩
  rcases (hgoes 2 _ _ hcall (.inl rfl)).1 with ⟨other, hstill, -⟩ | ⟨-, hresult⟩ | hended
  · have hnone : (session.step (.resume 2)).calls = [] := by decide +kernel
    rw [hnone] at hstill
    cases hstill
  · have hfailed : ((session.step (.resume 2)).resultOf? 2).map Except.isOk = some false := by
      decide +kernel
    have hmap := congrArg (Option.map Except.isOk) hresult
    rw [show _ = some false from hfailed] at hmap
    cases hmap
  · exact hended

/-- A logout stops all that is at work when its packet has been written, whoever has opened it. -/
theorem bare_of_leaving {session : Session} {number ticket : Nat} {call : Call}
    (hcall : session.callNumbered? number = some call) (hphase : call.phase = .leaving ticket)
    {result : Except SendError Unit} (hwritten : session.acknowledged.find? ticket = some result) :
    (session.resume number).standing.Bare := by
  have hready : session.ready (.leaving ticket) = true :=
    (session.acknowledged.contains_iff ticket).mpr ⟨result, hwritten⟩
  have hresume : session.resume number = session.teardown.finish call.number (.ok ()) := by
    simp [resume, hcall, hready, goOn, hphase, hwritten]
  rw [hresume, standing_finish, standing_teardown]
  exact bare_finish ⟨rfl, rfl, rfl, rfl⟩ _ _

/-- Otherwise a call can end what it has not begun. A login fails, the session is reset before its
call has seen that, and another login begins: the first call goes on waiting in the second attempt,
and its timeout ends that one, with its connection, its recurring requests and its queue. -/
theorem login_ends_a_later_attempt :
    let before := (build {} [] []).run [.login "ann" "secret", .write 0, .resume 0,
      .finishServer 0, .read 0, .reset, .login "ann" "secret", .elapseTo 60000]
    let after := before.step (.resume 0)
    (before.calls.map Call.number = [0, 2] ∧ before.state = .connecting ∧
      before.standing.readers = [.stopped, .running] ∧ before.link.writer = some 1 ∧
      before.schedule.requests ≠ [] ∧ before.events.running = true) ∧
    (after.calls.map Call.number = [2] ∧ after.state = .failed ∧
      after.standing.readers = [.stopped, .stopped] ∧ after.link.writer = none ∧
      after.schedule.requests = [] ∧ after.events.running = false) := by
  decide +kernel

end Session

end Messenger
