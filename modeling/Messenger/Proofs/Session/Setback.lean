import Messenger.Proofs.Session.Answers
import Messenger.Proofs.Session.Holdings
import Messenger.Proofs.Session.Silence

/-!
What ends a login attempt before it is complete, and that the first such setback is what the login
answers with, whatever comes after it.
-/

namespace Messenger

open Conference (Store)

namespace Session

open Standing (Orderly AtRest)

/-- Whether the time a call gives the server is over. Without any such time it is over as soon as
the first packet has been written. -/
def OutOfTime (session : Session) : Phase → Prop
  | .announcing ticket =>
      session.acknowledged.find? ticket = some (.ok ()) ∧ session.config.loginTimeout = 0
  | .handshake deadline => deadline ≤ session.schedule.now
  | _ => False

/-- A move that ends a login, and the error the login ends with. -/
inductive Setback (session : Session) : Move → SessionError → Prop
  /-- A refusal, a challenge that is missing or empty, or the server's goodbye. -/
  | packet {index : Nat} {packet : Packet} {reaction : Reaction} {error : SessionError}
      (hread : session.upcoming? index = some (.ok (.ok packet)))
      (hreaction : packet.service.loginReaction? = some reaction)
      (hfault : Fault session.state reaction packet error) :
      Setback session (.read index) error
  | malformed {index : Nat} {error : FrameError}
      (hread : session.upcoming? index = some (.ok (.error error))) :
      Setback session (.read index) (.malformed error.message)
  | lost {index : Nat} {finish : StreamEnd}
      (hread : session.upcoming? index = some (.error finish)) :
      Setback session (.read index) (.transport finish.error.message)
  | timeout {call : Call} (hcall : call ∈ session.calls) (hover : session.OutOfTime call.phase) :
      Setback session (.resume call.number) (.timeout session.config.loginTimeout)

theorem OutOfTime.waits {session : Session} {phase : Phase} (h : session.OutOfTime phase) :
    (∃ ticket, phase = .announcing ticket) ∨ ∃ deadline, phase = .handshake deadline := by
  cases phase with
  | announcing ticket => exact .inl ⟨ticket, rfl⟩
  | handshake deadline => exact .inr ⟨deadline, rfl⟩
  | connecting username => exact h.elim
  | leaving ticket => exact h.elim

theorem goOn_of_outOfTime {session : Session} {call : Call}
    (hlogin : session.state.isLoggingIn = true) (hover : session.OutOfTime call.phase) :
    session.ready call.phase = true ∧
      session.goOn call =
        session.failLogin call.number (.timeout session.config.loginTimeout) := by
  rcases hover.waits with ⟨ticket, hphase⟩ | ⟨deadline, hphase⟩ <;> rw [hphase] at hover
  · obtain ⟨hwritten, htimeout⟩ := hover
    rw [hphase]
    refine ⟨(session.acknowledged.contains_iff ticket).mpr ⟨_, hwritten⟩, ?_⟩
    simp [goOn, hphase, hwritten, awaitHandshake, hlogin, htimeout]
  · have hdeadline : deadline ≤ session.schedule.now := hover
    rw [hphase]
    exact ⟨by simp [ready, hdeadline], by simp [goOn, hphase, awaitHandshake, hlogin, hdeadline]⟩

/-- What a reader comes to next, as long as it has not stopped. -/
theorem upcoming?_cases {session : Session} {index : Nat}
    {next : Except StreamEnd (Except FrameError Packet)}
    (hread : session.upcoming? index = some next) :
    ∃ connection, session.link.connections[index]? = some connection ∧
      connection.reader ≠ .stopped ∧
      ((∃ result rest, Frame.readPacket? connection.inbound = some (result, rest) ∧
          next = .ok result) ∨
        ∃ finish, Frame.readPacket? connection.inbound = none ∧
          connection.inboundEnd = some finish ∧ next = .error finish) := by
  unfold upcoming? at hread
  cases hconnection : session.link.connections[index]? with
  | none => simp [hconnection] at hread
  | some connection =>
      simp only [hconnection] at hread
      by_cases hstopped : connection.reader = .stopped
      · simp [hstopped] at hread
      · rw [if_neg hstopped] at hread
        refine ⟨connection, rfl, hstopped, ?_⟩
        cases hframe : Frame.readPacket? connection.inbound with
        | some entry =>
            rw [hframe] at hread
            exact .inl ⟨entry.1, entry.2, rfl, (Option.some.inj hread).symm⟩
        | none =>
            rw [hframe] at hread
            obtain ⟨finish, hfinish, rfl⟩ := Option.map_eq_some_iff.mp hread
            exact .inr ⟨finish, rfl, hfinish, rfl⟩

theorem readNext?_of_frame {session : Session} {index : Nat} {result : Except FrameError Packet}
    (hread : session.upcoming? index = some (.ok result)) :
    ∃ rest, session.readNext? index = some (session.takeFrame index result rest) := by
  obtain ⟨connection, hconnection, hgoing, ⟨found, rest, hframe, hfound⟩ | ⟨_, _, _, hnone⟩⟩ :=
    upcoming?_cases hread
  · cases hfound
    exact ⟨rest, by simp [readNext?, hconnection, hgoing, hframe]⟩
  · cases hnone

theorem readNext?_of_end {session : Session} {index : Nat} {finish : StreamEnd}
    (hread : session.upcoming? index = some (.error finish)) :
    session.readNext? index = some (session.meetEnd index finish) := by
  obtain ⟨connection, hconnection, hgoing, ⟨_, _, _, hnone⟩ | ⟨found, hframe, hend, hfound⟩⟩ :=
    upcoming?_cases hread
  · cases hnone
  · cases hfound
    simp [readNext?, hconnection, hgoing, hframe, hend]

theorem react_of_fault {session : Session} {reaction : Reaction} {packet : Packet}
    {error : SessionError} (halive : session.alive = true)
    (hfault : Fault session.state reaction packet error) :
    session.react reaction packet = (session.fail error, .ok ()) := by
  generalize hstate : session.state = state at hfault
  cases hfault with
  | unasked hvalue => simp [react, halive, onChallenge, hstate, hvalue]
  | emptyChallenge hvalue => simp [react, halive, onChallenge, hstate, hvalue, Auth.respond]
  | refused hlogin hvalue hcode hrefused =>
      subst hcode
      simp [react, halive, onAuthResponse, hstate, hvalue, hlogin, hrefused]
  | loggedOff hlogin hbody =>
      cases state <;>
        simp_all [react, onLogoff, SessionState.isLoggingIn]

theorem handle_of_fault {session : Session} {reaction : Reaction} {packet : Packet}
    {error : SessionError} (halive : session.alive = true)
    (hroute : (session.registry.route packet).1 = .react reaction packet)
    (hfault : Fault session.state reaction packet error) :
    session.handle packet =
      { session with registry := (session.registry.route packet).2 : Session }.fail error := by
  have hreact : ({ session with registry := (session.registry.route packet).2 } : Session).react
      reaction packet = _ := react_of_fault halive hfault
  unfold handle dispatch
  rw [show session.registry.route packet = (.react reaction packet,
    (session.registry.route packet).2) by rw [← hroute]]
  simp only [hreact]
  rfl

theorem read?_of_readNext? {session next : Session} {index : Nat}
    (hnext : session.readNext? index = some next) (hgoing : next.isStopping index = false) :
    session.read? index = some next := by
  simp [read?, hnext, hgoing]

/-- A login that has failed: nothing else of the session has changed but which connections are
read. -/
structure Failing (before : Session) (error : SessionError) (after : Session) : Prop where
  standing : ∃ readers, after.standing =
    { before.standing with state := .failed, failure := some error, readers : Standing }
  journal : Notes (fun happening => !happening.isWelcome) before after

section

variable {session : Session} (h : AtRest session.standing)
  (hlogin : session.state.isLoggingIn = true)
include hlogin

theorem ne_failed_of_isLoggingIn : session.state ≠ .failed := by
  intro hfailed
  rw [hfailed] at hlogin
  cases hlogin

include h

theorem failing_packet (halive : session.alive = true) {index : Nat} {packet : Packet}
    {reaction : Reaction} {error : SessionError} {rest : Text.Bytes}
    (hreaction : packet.service.loginReaction? = some reaction)
    (hfault : Fault session.state reaction packet error) :
    Failing session error (session.takeFrame index (.ok packet) rest) ∧
      (session.takeFrame index (.ok packet) rest).standing.readers = session.standing.readers := by
  let taken := ((session.startReading index rest).note (.received index packet)).adopt
    packet.sessionId
  have hstanding : taken.standing = { session.standing with working := some index } :=
    (standing_adopt _ _).trans (standing_startReading session index rest)
  have hregistry : taken.registry = session.registry := registry_adopt _ _
  have hjournal : taken.journal = session.journal ++ [.received index packet] :=
    journal_adopt _ _
  have hroute : (taken.registry.route packet).1 = .react reaction packet := by
    rw [hregistry]
    exact Registry.route_login h.wired rfl hreaction
  have hstate : taken.state = session.state := congrArg Standing.state hstanding
  have halive : taken.alive = true := (alive_adopt _ _).trans halive
  have hhandle := handle_of_fault halive hroute (hstate.symm ▸ hfault)
  have hafter : session.takeFrame index (.ok packet) rest =
      { (taken.handle packet).note .handled with working := none } := rfl
  have hfailed : (session.takeFrame index (.ok packet) rest).standing =
      { session.standing with state := .failed, failure := some error } := by
    have hlast : (taken.handle packet).standing =
        { session.standing with
          working := some index, state := .failed, failure := some error } := by
      rw [hhandle, standing_fail, standing_route, hstanding]
    have hended : (session.takeFrame index (.ok packet) rest).standing =
        { ({ session.standing with working := none } : Standing) with
          state := .failed, failure := some error } := by
      show ({ (taken.handle packet).standing with working := none } : Standing) = _
      rw [hlast]
    rw [hended, h.idled]
  refine ⟨⟨⟨session.standing.readers, hfailed⟩, ?_⟩, by rw [hfailed]⟩
  refine ⟨[.received index packet, .entered .failed, .handled], ?_, by simp [Happening.isWelcome]⟩
  have hstill : taken.state ≠ .failed := hstate ▸ ne_failed_of_isLoggingIn hlogin
  have hlater : (taken.handle packet).journal = taken.journal ++ [.entered .failed] := by
    rw [hhandle]
    exact journal_fail hstill error
  rw [hafter]
  show (taken.handle packet).journal ++ [.handled] = _
  rw [hlater, hjournal]
  simp

theorem failing_malformed (index : Nat) (error : FrameError) (rest : Text.Bytes) :
    Failing session (.malformed error.message) (session.takeFrame index (.error error) rest) ∧
      (session.takeFrame index (.error error) rest).isStopping index = false := by
  have hafter : session.takeFrame index (.error error) rest =
      { ((session.startReading index rest).fail (.malformed error.message)).stopReading index with
        working := none } := by
    unfold takeFrame readResult
    exact congrArg (fun next : Session => { next with working := none }) (if_pos hlogin)
  rw [hafter]
  refine ⟨⟨⟨session.standing.readers.set index .stopped, ?_⟩, ?_⟩, isStopping_stopReading _ index⟩
  · show ({ (((session.startReading index rest).fail
      (.malformed error.message)).stopReading index).standing with working := none } : Standing) = _
    rw [standing_stopReading, standing_fail, standing_startReading]
    exact congrArg (fun standing : Standing => { standing with
      state := .failed
      failure := some (.malformed error.message)
      readers := session.standing.readers.set index .stopped }) h.idled
  · refine ⟨[.entered .failed], ?_, by simp [Happening.isWelcome]⟩
    have hopen : (session.startReading index rest).state ≠ .failed :=
      ne_failed_of_isLoggingIn hlogin
    exact journal_fail hopen _

theorem failing_lost (index : Nat) (finish : StreamEnd) :
    Failing session (.transport finish.error.message) (session.meetEnd index finish) ∧
      (session.meetEnd index finish).isStopping index = false := by
  have hlost : ({ session with working := some index } : Session).loseConnection finish.error =
      ({ session with working := some index } : Session).fail
        (.transport finish.error.message) := by
    rcases loseConnection_cases { session with working := some index } finish.error with
      ⟨-, hlost⟩ | ⟨hstate, -⟩ | ⟨hstate | hstate, -⟩
    · exact hlost
    all_goals
      rw [show session.state = _ from hstate] at hlogin
      cases hlogin
  unfold meetEnd
  rw [hlost]
  refine ⟨⟨⟨session.standing.readers.set index .stopped, ?_⟩, ?_⟩, isStopping_stopReading _ index⟩
  · rw [standing_stopReading]
    exact congrArg (fun standing : Standing => { standing with
      state := .failed
      failure := some (.transport finish.error.message)
      readers := session.standing.readers.set index .stopped }) h.idled
  · refine ⟨[.entered .failed], ?_, by simp [Happening.isWelcome]⟩
    have hopen : ({ session with working := some index } : Session).state ≠ .failed :=
      ne_failed_of_isLoggingIn hlogin
    exact journal_fail hopen _

/-- The reader that meets with a setback ends the login. -/
theorem failing_read (halive : session.alive = true) {index : Nat} {error : SessionError}
    (hsetback : Setback session (.read index) error) :
    Failing session error (session.step (.read index)) := by
  have hstep (next : Session) (hnext : session.readNext? index = some next)
      (hgoing : next.isStopping index = false) : session.step (.read index) = next := by
    simp [step, read?_of_readNext? hnext hgoing]
  cases hsetback with
  | packet hread hreaction hfault =>
      obtain ⟨rest, hnext⟩ := readNext?_of_frame hread
      obtain ⟨hfailing, hreaders⟩ := failing_packet h hlogin halive hreaction hfault
      rw [hstep _ hnext]
      · exact hfailing
      · refine Bool.eq_false_iff.mpr (mt (isStopping_iff _ index).mp ?_)
        rw [hreaders]
        exact h.stayed index
  | malformed hread =>
      obtain ⟨rest, hnext⟩ := readNext?_of_frame hread
      obtain ⟨hfailing, hgoing⟩ := failing_malformed h hlogin index _ rest
      rw [hstep _ hnext hgoing]
      exact hfailing
  | lost hread =>
      obtain ⟨hfailing, hgoing⟩ := failing_lost h hlogin index _
      rw [hstep _ (readNext?_of_end hread) hgoing]
      exact hfailing

end

/-- The login that waits in a call has failed with an error, and the call has either not been told
yet or been answered with it. -/
structure Fallen (call : Call) (error : SessionError) (session : Session) : Prop where
  state : session.state = .failed
  failure : session.failure = some error
  answer : session.calls = [call] ∨
    session.calls = [] ∧ session.resultOf? call.number = some (.error error)

section

variable {call : Call} {error : SessionError} {before after : Session}

theorem Fallen.of_standing (h : Fallen call error before)
    (hstate : after.state = before.state) (hfailure : after.failure = before.failure)
    (hcalls : after.calls = before.calls) (hresults : after.results = before.results) :
    Fallen call error after where
  state := hstate.trans h.state
  failure := hfailure.trans h.failure
  answer := by
    unfold resultOf?
    rw [hcalls, hresults]
    exact h.answer

/-- A call that is refused leaves the answers there are. -/
theorem Fallen.refuse (h : Fallen call error before) (hcalls : before.calls = [])
    (expected : String) :
    Fallen call error (before.refuse expected) where
  state := h.state
  failure := h.failure
  answer := by
    refine .inr ⟨hcalls, ?_⟩
    rcases h.answer with hwaiting | ⟨-, hanswer⟩
    · rw [hwaiting] at hcalls
      cases hcalls
    · obtain ⟨entry, hfound, hresult⟩ := Option.map_eq_some_iff.mp hanswer
      unfold resultOf?
      rw [show (before.refuse expected).results = before.results ++ _ from rfl,
        List.find?_append, hfound]
      exact congrArg some hresult

theorem Reacted.failure_of_ended {reaction : Reaction} {packet : Packet}
    {result : Except HandlerError Unit} (h : Reacted before reaction packet (after, result))
    (hfailed : before.state = .failed) :
    after.failure = before.failure ∧
      Notes (fun happening => !happening.isWelcome) before after := by
  cases h with
  | aside hafter hchallenge =>
      obtain ⟨noted, hjournal, hnews⟩ := hafter.journal
      refine ⟨congrArg Standing.failure hafter.standing, noted, hjournal, fun happening hmem => ?_⟩
      have hplain := Happening.isPlain_of_isNews (hnews happening hmem)
      simp only [Happening.isPlain, Bool.and_eq_true] at hplain
      exact hplain.1.1
  | answered hreaction hstate hvalue hresponse => simp [hstate] at hfailed
  | refused hfault =>
      have hlogin := hfault.isLoggingIn
      rw [hfailed] at hlogin
      cases hlogin
  | welcomed hreaction htold hstate => simp [hstate] at hfailed
  | evicted hreaction hstate hbody => simp [hstate] at hfailed

theorem Handled.failure_of_ended {connection : Nat} {packet : Packet}
    (h : Handled before connection packet after) (hfailed : before.state = .failed) :
    after.failure = before.failure ∧
      Notes (fun happening => !happening.isWelcome) before after := by
  cases h with
  | @unrouted passed hroute hstanding hschedule hjournal =>
      refine ⟨congrArg Standing.failure hstanding, [.received connection packet, .handled], ?_,
        by simp [Happening.isWelcome]⟩
      show passed.journal ++ [.handled] = _
      rw [hjournal, List.append_assoc]
      rfl
  | @reacted routed passed reaction joined result hroute hstanding hschedule hjournal hreacted =>
      have hstill : routed.state = .failed := (congrArg Standing.state hstanding).trans hfailed
      obtain ⟨hfailure, hnotes⟩ := hreacted.failure_of_ended hstill
      refine ⟨hfailure.trans (congrArg Standing.failure hstanding), ?_⟩
      have hreceived : Notes (fun happening => !happening.isWelcome) before routed :=
        ⟨[.received connection packet], hjournal, by simp [Happening.isWelcome]⟩
      exact (hreceived.trans hnotes).trans (notes_note passed rfl)

/-- What is read of a login that has failed makes no difference to it. -/
theorem ReadStep.failure_of_ended {index : Nat} (h : ReadStep before index after)
    (hfailed : before.state = .failed) :
    after.failure = before.failure ∧
      Notes (fun happening => !happening.isWelcome) before after := by
  have hover : before.state.isLoggingIn = false := by
    rw [hfailed]
    rfl
  cases h with
  | packet hhandled => exact hhandled.failure_of_ended hfailed
  | malformed hstate =>
      rw [hover] at hstate
      cases hstate
  | passedOver hstate => exact ⟨rfl, .of_same rfl⟩
  | cutOff hstate =>
      rw [hover] at hstate
      cases hstate
  | lost hstate htold =>
      rw [hfailed] at hstate
      cases hstate
  | ended hstate => exact ⟨rfl, .of_same rfl⟩

theorem fallen_read? (h : Fallen call error before) {index : Nat}
    (hread : before.read? index = some after) :
    Fallen call error after ∧ Notes (fun happening => !happening.isWelcome) before after := by
  refine read?_induction (motive := fun session => Fallen call error session ∧
    Notes (fun happening => !happening.isWelcome) before session) ?_ ?_ ⟨h, .of_same rfl⟩ hread
  · rintro session next ⟨hfallen, hnotes⟩ hnext
    have hstep := (readNext?_step hnext).2
    obtain ⟨hfailure, hlater⟩ := hstep.failure_of_ended hfallen.state
    have hstate := hstep.state_of_ended (.inr hfallen.state)
    exact ⟨hfallen.of_standing hstate hfailure hstep.calls_eq.1 hstep.results_eq,
      hnotes.trans hlater⟩
  · rintro session ⟨hfallen, hnotes⟩
    exact ⟨hfallen.of_standing rfl rfl rfl rfl, hnotes⟩

theorem resume_eq_goOn {session : Session} (hcalls : session.calls = [call])
    (hready : session.ready call.phase = true) :
    session.resume call.number = session.goOn call := by
  simp [resume, callNumbered?, hcalls, hready]

theorem awaitHandshake_of_failed {session : Session} (hstate : session.state = .failed)
    (hfailure : session.failure = some error) (number deadline : Nat) :
    session.awaitHandshake number deadline = session.abandonLogin number error := by
  simp [awaitHandshake, hstate, hfailure, SessionState.isLoggingIn]

/-- A call that is told of the failure of its login is answered with it. -/
theorem fallen_abandonLogin {session : Session} (hstate : session.state = .failed)
    (hfailure : session.failure = some error) (hcalls : session.calls = [call])
    (hnumbered : session.standing.Numbered) (hanswering : session.standing.Answering) :
    Fallen call error (session.abandonLogin call.number error) ∧
      (session.abandonLogin call.number error).resultOf? call.number = some (.error error) ∧
      (session.abandonLogin call.number error).journal = session.journal := by
  have hstanding := standing_abandonLogin session call.number error
  have hopen := hanswering.open_of_mem hnumbered (show call ∈ session.calls by simp [hcalls])
  have hafter : (session.abandonLogin call.number error).standing.Answering := by
    rw [hstanding]
    exact hanswering.abandonLogin hopen error
  have hresults : (session.abandonLogin call.number error).results =
      session.results ++ [⟨call.number, .error error⟩] := by
    refine (congrArg Standing.results hstanding).trans ?_
    exact Standing.results_finish _ _ _
  have hended : (session.abandonLogin call.number error).calls = [] := by
    refine (congrArg Standing.calls hstanding).trans ((Standing.calls_finish _ _ _).trans ?_)
    show session.calls.filter _ = []
    simp [hcalls]
  have hmem : ⟨call.number, .error error⟩ ∈ (session.abandonLogin call.number error).results := by
    simp [hresults]
  have hanswer := resultOf?_of_mem hafter hmem
  refine ⟨⟨?_, ?_, .inr ⟨hended, hanswer⟩⟩, hanswer, journal_finish _ _ _⟩
  · refine (congrArg Standing.state hstanding).trans ((Standing.state_finish _ _ _).trans hstate)
  · refine (congrArg Standing.failure hstanding).trans ?_
    exact (Standing.failure_finish _ _ _).trans hfailure

section

variable (hwaits : (∃ ticket, call.phase = .announcing ticket) ∨
  ∃ deadline, call.phase = .handshake deadline)
include hwaits

theorem goOn_of_failed {session : Session} (hstate : session.state = .failed)
    (hfailure : session.failure = some error)
    (hwritten : ∀ ticket, call.phase = .announcing ticket →
      session.acknowledged.find? ticket = some (.ok ())) :
    session.goOn call = session.abandonLogin call.number error := by
  unfold goOn
  rcases hwaits with ⟨ticket, hphase⟩ | ⟨deadline, hphase⟩
  · rw [hphase]
    dsimp only
    rw [hwritten ticket hphase]
    exact awaitHandshake_of_failed hstate hfailure _ _
  · rw [hphase]
    exact awaitHandshake_of_failed hstate hfailure _ _

theorem ready_of_failed {session : Session} (hstate : session.state = .failed)
    (hwritten : ∀ ticket, call.phase = .announcing ticket →
      session.acknowledged.contains ticket = true) :
    session.ready call.phase = true := by
  rcases hwaits with ⟨ticket, hphase⟩ | ⟨deadline, hphase⟩
  · rw [hphase]
    exact hwritten ticket hphase
  · simp [hphase, ready, hstate, SessionState.isLoggingIn]

variable (h : Fallen call error before) (hnumbered : before.standing.Numbered)
  (hanswering : before.standing.Answering)
include h hnumbered hanswering

theorem fallen_resume
    (hwritten : ∀ ticket, call.phase = .announcing ticket →
      ∀ fault, before.acknowledged.find? ticket ≠ some (.error fault)) (number : Nat) :
    Fallen call error (before.resume number) ∧
      (before.resume number).journal = before.journal := by
  unfold resume
  split
  · rename_i other hother
    obtain ⟨hmem, rfl⟩ := callNumbered?_mem hother
    rcases h.answer with hcalls | ⟨hnone, -⟩
    · rw [hcalls, List.mem_singleton] at hmem
      subst hmem
      split
      · rename_i hready
        have hknown : ∀ ticket, other.phase = .announcing ticket →
            before.acknowledged.find? ticket = some (.ok ()) := by
          intro ticket hphase
          rw [hphase] at hready
          obtain ⟨result, hresult⟩ := (before.acknowledged.contains_iff ticket).mp hready
          cases result with
          | ok done => exact hresult
          | error fault => exact absurd hresult (hwritten ticket hphase fault)
        rw [goOn_of_failed hwaits h.state h.failure hknown]
        obtain ⟨hfallen, -, hjournal⟩ :=
          fallen_abandonLogin h.state h.failure hcalls hnumbered hanswering
        exact ⟨hfallen, hjournal⟩
      · exact ⟨h, rfl⟩
    · rw [hnone] at hmem
      cases hmem
  · exact ⟨h, rfl⟩

/-- The answer comes as soon as the first packet of the login has been written. -/
theorem answered_resume
    (hwritten : ∀ ticket, call.phase = .announcing ticket →
      before.acknowledged.find? ticket = some (.ok ())) :
    (before.resume call.number).resultOf? call.number = some (.error error) := by
  rcases h.answer with hcalls | ⟨hnone, hanswer⟩
  · have hready : before.ready call.phase = true := by
      refine ready_of_failed hwaits h.state fun ticket hphase => ?_
      exact (before.acknowledged.contains_iff ticket).mpr ⟨.ok (), hwritten ticket hphase⟩
    rw [resume_eq_goOn hcalls hready, goOn_of_failed hwaits h.state h.failure hwritten]
    exact (fallen_abandonLogin h.state h.failure hcalls hnumbered hanswering).2.1
  · have hsame : before.resume call.number = before := by
      simp [resume, callNumbered?, hnone]
    rw [hsame]
    exact hanswer

theorem Stepped.fallen {move : Move} (hstep : Stepped before move after)
    (hcalls : move.isCall = true → before.calls = []) (hreset : move ≠ .reset)
    (hwritten : ∀ ticket, call.phase = .announcing ticket →
      ∀ fault, before.acknowledged.find? ticket ≠ some (.error fault)) :
    Fallen call error after ∧ Notes (fun happening => !happening.isWelcome) before after := by
  have hstarted : before.state ≠ .unstarted := by simp [h.state]
  have hloggedOn : before.state ≠ .loggedOn := by simp [h.state]
  cases hstep with
  | carried hcarried =>
      have hstanding := hcarried.standing
      obtain ⟨noted, hjournal, hsent⟩ := hcarried.journal
      refine ⟨h.of_standing (congrArg Standing.state hstanding)
        (congrArg Standing.failure hstanding) (congrArg Standing.calls hstanding)
        (congrArg Standing.results hstanding), noted, hjournal, fun happening hmem => ?_⟩
      obtain ⟨connection, packet, rfl, -⟩ := hsent happening hmem
      rfl
  | login username password hheld =>
      rw [login_of_ne hnumbered hheld hstarted]
      exact ⟨h.refuse (hcalls rfl) _, .of_same rfl⟩
  | logout hheld =>
      rw [logout_of_ne hnumbered hheld hloggedOn]
      exact ⟨h.refuse (hcalls rfl) _, .of_same rfl⟩
  | reset hheld => exact absurd rfl hreset
  | resolveConnect number outcome =>
      have hsame : before.resolveConnect number outcome = before := by
        unfold Session.resolveConnect
        split
        · rename_i called username hcall
          obtain ⟨hmem, -⟩ := callNumbered?_mem hcall
          rcases h.answer with hrunning | ⟨hnone, -⟩
          · rw [hrunning, List.mem_singleton] at hmem
            subst hmem
            simp at hwaits
          · rw [hnone] at hmem
            cases hmem
        · rfl
      rw [hsame]
      exact ⟨h, .of_same rfl⟩
  | drop =>
      unfold Session.drop
      dsimp only
      split <;> exact ⟨h.of_standing rfl rfl rfl rfl, .of_same rfl⟩
  | read hread => exact fallen_read? h hread
  | resume number =>
      obtain ⟨hfallen, hjournal⟩ := fallen_resume hwaits h hnumbered hanswering hwritten number
      exact ⟨hfallen, .of_same hjournal⟩
  | attachStore policy => exact ⟨h.of_standing rfl rfl rfl rfl, .of_same rfl⟩

omit hnumbered hanswering h in
theorem fallen_run {session : Session} (h : Fallen call error session)
    (hnumbered : session.standing.Numbered) (hanswering : session.standing.Answering)
    {moves : List Move} (hsequential : Sequential session moves) (hreset : .reset ∉ moves)
    (hwritten : ∀ ticket, call.phase = .announcing ticket → ∀ late, late <+: moves →
      ∀ fault, (session.run late).acknowledged.find? ticket ≠ some (.error fault)) :
    Fallen call error (session.run moves) ∧
      Notes (fun happening => !happening.isWelcome) session (session.run moves) := by
  unfold run
  induction moves generalizing session with
  | nil => exact ⟨h, .of_same rfl⟩
  | cons move rest induction =>
      have hstep := step_stepped session move
      obtain ⟨hfallen, hnotes⟩ := hstep.fallen hwaits h hnumbered hanswering hsequential.1
        (fun hmove => hreset (hmove ▸ List.mem_cons_self ..))
        (fun ticket hphase => hwritten ticket hphase [] (List.nil_prefix))
      obtain ⟨hlast, hlater⟩ := induction hfallen (hstep.numbered hnumbered)
        (hstep.answering hnumbered hanswering) hsequential.2
        (fun hmem => hreset (List.mem_cons_of_mem move hmem))
        (fun ticket hphase late hlate => hwritten ticket hphase (move :: late)
          (List.cons_prefix_cons.mpr ⟨rfl, hlate⟩))
      exact ⟨hlast, hnotes.trans hlater⟩

end

theorem upcoming?_going {session : Session} {index : Nat}
    {next : Except StreamEnd (Except FrameError Packet)}
    (hread : session.upcoming? index = some next) :
    ∃ reader : Reader, reader ≠ .stopped ∧ session.standing.readers[index]? = some reader := by
  obtain ⟨connection, hconnection, hgoing, -⟩ := upcoming?_cases hread
  refine ⟨connection.reader, hgoing, ?_⟩
  exact (session.link.getElem?_readers index).trans (by simp [hconnection])

/-- The call that meets with a setback waits for its first packet to be written, or for the
server. -/
theorem Setback.waits {session : Session} {move : Move} (hsetback : Setback session move error)
    (hrest : AtRest session.standing) (hlogin : session.state.isLoggingIn = true) :
    ∃ call, session.calls = [call] ∧ ((∃ ticket, call.phase = .announcing ticket) ∨
      ∃ deadline, call.phase = .handshake deadline) := by
  have hreading {index : Nat} {next : Except StreamEnd (Except FrameError Packet)}
      (hread : session.upcoming? index = some next) : session.reader = some index := by
    obtain ⟨reader, hgoing, hfound⟩ := upcoming?_going hread
    cases reader with
    | stopped => exact absurd rfl hgoing
    | stopping => exact absurd hfound (hrest.stayed index)
    | running => exact (hrest.running index hfound).1
  have hcall : ∃ call, session.calls = [call] := by
    have hbusy : session.calls ≠ [] := by
      intro hnone
      have hover := (hrest.settled hnone).1
      rw [show session.standing.state = session.state from rfl, hlogin] at hover
      cases hover
    refine List.length_eq_one_iff.mp (Nat.le_antisymm hrest.alone ?_)
    exact List.length_pos_iff.mpr hbusy
  obtain ⟨call, hcalls⟩ := hcall
  have hmem : call ∈ session.calls := by simp [hcalls]
  refine ⟨call, hcalls, ?_⟩
  have hdialing (hreader : session.reader ≠ none) (username : String) :
      call.phase ≠ .connecting username :=
    fun hphase => hreader (hrest.connecting call hmem username hphase).2
  have hphases (hreader : session.reader ≠ none) :
      (∃ ticket, call.phase = .announcing ticket) ∨
        ∃ deadline, call.phase = .handshake deadline := by
    cases hphase : call.phase with
    | connecting username => exact absurd hphase (hdialing hreader username)
    | announcing ticket => exact .inl ⟨ticket, rfl⟩
    | handshake deadline => exact .inr ⟨deadline, rfl⟩
    | leaving ticket =>
        have hstate : session.state = .unstarted := hrest.leaving call hmem ticket hphase
        rw [hstate] at hlogin
        cases hlogin
  cases hsetback with
  | packet hread hreaction hfault => exact hphases (by simp [hreading hread])
  | malformed hread => exact hphases (by simp [hreading hread])
  | lost hread => exact hphases (by simp [hreading hread])
  | @timeout other hother hover =>
      rw [hcalls, List.mem_singleton] at hother
      subst hother
      exact hover.waits

/-- A setback ends the login. -/
theorem Setback.fallen {session : Session} {move : Move} (hsetback : Setback session move error)
    (hrest : AtRest session.standing) (hlogin : session.state.isLoggingIn = true)
    (hnumbered : session.standing.Numbered) (hanswering : session.standing.Answering)
    {call : Call} (hcalls : session.calls = [call]) :
    Fallen call error (session.step move) ∧
      Notes (fun happening => !happening.isWelcome) session (session.step move) := by
  have halive : session.alive = true := by simp [alive, hcalls]
  have hread {index : Nat} (hsetback : Setback session (.read index) error) :
      Fallen call error (session.step (.read index)) ∧
        Notes (fun happening => !happening.isWelcome) session (session.step (.read index)) := by
    have hfailing := failing_read hrest hlogin halive hsetback
    obtain ⟨readers, hstanding⟩ := hfailing.standing
    refine ⟨⟨?_, ?_, .inl ?_⟩, hfailing.journal⟩
    · exact congrArg Standing.state hstanding
    · exact congrArg Standing.failure hstanding
    · exact (congrArg Standing.calls hstanding).trans hcalls
  cases hsetback with
  | packet hframe hreaction hfault => exact hread (.packet hframe hreaction hfault)
  | malformed hframe => exact hread (.malformed hframe)
  | lost hend => exact hread (.lost hend)
  | @timeout other hother hover =>
      rw [hcalls, List.mem_singleton] at hother
      subst hother
      obtain ⟨hready, hgoOn⟩ := goOn_of_outOfTime hlogin hover
      have hstep : session.step (.resume other.number) = session.goOn other :=
        resume_eq_goOn hcalls hready
      have hfailed : (session.fail (.timeout session.config.loginTimeout)).state = .failed := rfl
      have hfailing : (session.fail
          (.timeout session.config.loginTimeout)).standing.Answering := { hanswering with }
      obtain ⟨hfallen, -, hjournal⟩ :=
        fallen_abandonLogin hfailed rfl hcalls hnumbered hfailing
      rw [hstep, hgoOn, failLogin]
      refine ⟨hfallen, [.entered .failed], ?_, by simp [Happening.isWelcome]⟩
      rw [hjournal]
      exact journal_fail (ne_failed_of_isLoggingIn hlogin) _

end

/-- Once the call has returned, no connection there is will ever be read again. -/
theorem read?_of_fallen {session : Session} (hrest : AtRest session.standing)
    (hcalls : session.calls = []) (hstate : session.state = .failed) (later : List Move)
    {index : Nat} (hindex : index < session.link.connections.length) :
    (session.run later).read? index = none := by
  have hproceeds := proceeds_run session later
  have hquiet : session.reader = none :=
    ((hrest.settled hcalls).2 (by simp [standing, hstate])).1
  refine Option.map_eq_none_iff.mpr (Option.eq_none_iff_forall_ne_some.mpr fun next hnext => ?_)
  obtain ⟨⟨reader, hfound, hgoing⟩, -⟩ := readNext?_step hnext
  rcases hproceeds.read index (.inr ⟨reader, hgoing, hfound⟩) with hread | hnew
  · rcases hread with hworking | ⟨stood, hstood, hearlier⟩
    · rw [show session.working = none from hrest.idle] at hworking
      cases hworking
    · cases stood with
      | stopped => exact absurd rfl hstood
      | stopping => exact hrest.stayed index hearlier
      | running =>
          have hown := (hrest.running index hearlier).1
          rw [show session.standing.reader = session.reader from rfl, hquiet] at hown
          cases hown
  · have hlength : session.standing.readers.length = session.link.connections.length :=
      List.length_map _
    omega

/-- In a run whose calls come one after the other, the first setback of a login is what the login
answers with, once its first packet has been written, and what is kept as the reason of the failure.
Nothing that follows completes the login or changes the reason, unless the session is reset; and
when the login has answered, its connection is not read again, whatever follows. -/
theorem first_setback_wins (config : SessionConfig) (listeners : List String)
    (outcomes : List ConnectOutcome) (before rest : List Move) (move : Move) (error : SessionError)
    (hsequential : Sequential (build config listeners outcomes) (before ++ move :: rest))
    (hlogin : ((build config listeners outcomes).run before).state.isLoggingIn = true)
    (hsetback : Setback ((build config listeners outcomes).run before) move error)
    (hreset : .reset ∉ rest)
    (hwritten : ∀ call ∈ ((build config listeners outcomes).run before).calls,
      ∀ ticket, call.phase = .announcing ticket → ∀ late, late <+: rest → ∀ fault,
        ((build config listeners outcomes).run
          (before ++ move :: late)).acknowledged.find? ticket ≠ some (.error fault)) :
    let session := (build config listeners outcomes).run before
    let final := (build config listeners outcomes).run (before ++ move :: rest)
    final.state = .failed ∧ final.failure = some error ∧
      (∃ noted, final.journal = session.journal ++ noted ∧
        ∀ happening ∈ noted, happening.isWelcome = false) ∧
      ∃ call, session.calls = [call] ∧
        ((∃ ticket, call.phase = .announcing ticket) ∨
          ∃ deadline, call.phase = .handshake deadline) ∧
        ((∀ ticket, call.phase = .announcing ticket →
            final.acknowledged.find? ticket = some (.ok ())) →
          (final.resume call.number).resultOf? call.number = some (.error error)) ∧
        (final.calls = [] → final.resultOf? call.number = some (.error error) ∧
          ∀ (later : List Move) (index : Nat), index < final.link.connections.length →
            (final.run later).read? index = none) := by
  intro session final
  obtain ⟨hearly, hlate⟩ := sequential_append.mp hsequential
  have hrest : AtRest session.standing := atRest_run (atRest_build _ _ _) hearly
  have hnumbered : session.standing.Numbered := numbered_run (numbered_build _ _ _) before
  have hanswering : session.standing.Answering :=
    answering_run (numbered_build _ _ _) (answering_build _ _ _) before
  obtain ⟨call, hcalls, hwaits⟩ := hsetback.waits hrest hlogin
  obtain ⟨hfallen, hnotes⟩ := hsetback.fallen hrest hlogin hnumbered hanswering hcalls
  have hrun (late : List Move) : (build config listeners outcomes).run (before ++ move :: late) =
      (session.step move).run late := by
    simp [run, session]
  have hstep := step_stepped session move
  obtain ⟨hlast, hlater⟩ := fallen_run hwaits hfallen (hstep.numbered hnumbered)
    (hstep.answering hnumbered hanswering) hlate.2 hreset
    (fun ticket hphase late hprefix fault => by
      rw [← hrun]
      exact hwritten call (by simp [hcalls]) ticket hphase late hprefix fault)
  have hfinal : final = (session.step move).run rest := hrun rest
  rw [← hfinal] at hlast hlater
  obtain ⟨noted, hjournal, hquiet⟩ := hnotes.trans hlater
  have hnumberedLast : final.standing.Numbered := numbered_run (numbered_build _ _ _) _
  have hansweringLast : final.standing.Answering :=
    answering_run (numbered_build _ _ _) (answering_build _ _ _) _
  refine ⟨hlast.state, hlast.failure, ⟨noted, hjournal, ?_⟩, call, hcalls, hwaits, ?_, ?_⟩
  · exact fun happening hmem => by simpa using hquiet happening hmem
  · exact answered_resume hwaits hlast hnumberedLast hansweringLast
  · intro hreturned
    refine ⟨?_, fun later index hindex => ?_⟩
    · rcases hlast.answer with hrunning | ⟨-, hanswer⟩
      · rw [hrunning] at hreturned
        cases hreturned
      · exact hanswer
    · exact read?_of_fallen (atRest_run (atRest_build _ _ _) hsequential) hreturned hlast.state
        later hindex

/-- The refusal of a locked account is followed by a frame that makes no sense and by the end of the
stream. -/
theorem first_setback_wins_locked :
    let before : List Move := [.login "ann" "secret", .write 0, .resume 0,
      .arrive 0 [89, 77, 83, 71, 0, 12, 0, 0, 0, 15, 0, 84, 0, 0, 0, 0, 0, 0, 0, 0,
        54, 54, 192, 128, 49, 52, 192, 128, 50, 48, 192, 128, 117, 192, 128,
        89, 77, 83, 71, 0, 12, 0, 0, 0, 1, 0, 87, 0, 0, 0, 0, 0, 0, 0, 0, 57],
      .finishServer 0]
    let session := (build {} [] []).run before
    let final := (build {} [] []).run (before ++ .read 0 :: [.read 0, .read 0, .resume 0])
    session.state = .connecting ∧ final.state = .failed ∧
      final.failure = some (.rejected (.locked (some "u"))) ∧
      final.resultOf? 0 = some (.error (.rejected (.locked (some "u")))) := by
  intro before session final
  let refusal : Packet := { service := .authResp, body := ⟨[("66", "14"), ("20", "u")]⟩ }
  have hstate : session.state = .connecting := by decide +kernel
  have hread : session.upcoming? 0 = some (.ok (.ok refusal)) := by decide +kernel
  have hwaiting : session.calls = [⟨0, .handshake 60000⟩] := by decide +kernel
  have hreturned : final.calls = [] := by decide +kernel
  have hcode : (Text.int64? (Text.trim "14")).getD (-1) = 14 := by decide
  have hfault : Fault .connecting .authResponse refusal (.rejected (.locked (some "u"))) :=
    .refused rfl rfl hcode.symm (by decide)
  obtain ⟨hfailed, hfailure, -, call, hcalls, -, -, hanswer⟩ :=
    first_setback_wins {} [] [] before [.read 0, .read 0, .resume 0] (.read 0)
      (.rejected (.locked (some "u")))
      (by decide +kernel) (congrArg SessionState.isLoggingIn hstate)
      (.packet hread rfl (hstate ▸ hfault)) (by simp)
      (fun call hmem ticket hphase => by
        rw [hwaiting, List.mem_singleton] at hmem
        rw [hmem] at hphase
        cases hphase)
  rw [hwaiting] at hcalls
  cases hcalls
  exact ⟨hstate, hfailed, hfailure, (hanswer hreturned).1⟩

end Session

end Messenger
