import Messenger.Proofs.Session.Handling

/-!
What one step of a reader does to a session, and how a property that each step keeps is kept by all
the steps a reader takes at once.
-/

namespace Messenger.Session

@[simp] theorem standing_startReading (session : Session) (index : Nat) (rest : Text.Bytes) :
    (session.startReading index rest).standing =
      { session.standing with working := some index } := by
  have hreaders : (session.link.modify index fun connection =>
      { connection with inbound := rest }).readers = session.link.readers :=
    session.link.readers_modify index fun _ _ => rfl
  simp [startReading, standing, hreaders]

@[simp] theorem standing_stopReading (session : Session) (index : Nat) :
    (session.stopReading index).standing =
      { session.standing with readers := session.standing.readers.set index .stopped } := by
  simp [stopReading, standing, Link.readers_modify_reader]

/-- Nothing has happened between two sessions but that the loss of a connection was reported, first
as an exception and then as the end of the session. -/
structure Mourns (before : Session) (text : String) (after : Session) : Prop where
  standing : after.standing = before.standing
  schedule : after.schedule = before.schedule
  voices : Voices before after
  journal : after.journal = before.journal ++
    if before.events.running then
      [.reported ⟨none, .exception text⟩, .reported ⟨none, .connectionClosed text⟩]
    else []

theorem mourns_report (session : Session) (text : String) :
    Mourns session text
      ((session.report none (.exception text)).report none (.connectionClosed text)) where
  standing := (standing_report _ _ _).trans (standing_report _ _ _)
  schedule := rfl
  voices := (Voices.report session none _).trans (.report _ none _)
  journal := by
    cases hrunning : session.events.running <;> simp [report, hrunning]

/-- What the reader of a connection comes upon next: a frame, or the end of the stream. -/
def upcoming? (session : Session) (index : Nat) :
    Option (Except StreamEnd (Except FrameError Packet)) :=
  match session.link.connections[index]? with
  | none => none
  | some connection =>
      if connection.reader = .stopped then none else
        match Frame.readPacket? connection.inbound with
        | some (result, _) => some (.ok result)
        | none => connection.inboundEnd.map .error

/-- The loss of a connection ends a login or a session that is logged on, and is nothing to any
other. -/
theorem loseConnection_cases (session : Session) (error : ReadError) :
    (session.state.isLoggingIn = true ∧
      session.loseConnection error = session.fail (.transport error.message)) ∨
    (session.state = .loggedOn ∧ ∃ told, Mourns session error.message told ∧
      session.loseConnection error = (told.fail (.transport error.message)).teardown) ∨
    ((session.state = .unstarted ∨ session.state = .failed) ∧
      session.loseConnection error = session) := by
  unfold loseConnection
  cases hstate : session.state with
  | unstarted => exact .inr (.inr ⟨.inl rfl, rfl⟩)
  | connecting => exact .inl ⟨rfl, rfl⟩
  | connected => exact .inl ⟨rfl, rfl⟩
  | loggedOn =>
      exact .inr (.inl ⟨rfl, _, mourns_report session error.message, rfl⟩)
  | failed => exact .inr (.inr ⟨.inr rfl, rfl⟩)

inductive ReadStep (before : Session) (index : Nat) : Session → Prop
  | packet {rest : Text.Bytes} {packet : Packet} {after : Session}
      (hhandled : Handled (before.startReading index rest) index packet after) :
      ReadStep before index { after with working := none }
  | malformed {rest : Text.Bytes} {error : SessionError}
      (hstate : before.state.isLoggingIn = true) :
      ReadStep before index
        { ((before.startReading index rest).fail error).stopReading index with working := none }
  | passedOver {rest : Text.Bytes} (hstate : before.state.isLoggingIn = false) :
      ReadStep before index { before.startReading index rest with working := none }
  | cutOff {error : SessionError} (hstate : before.state.isLoggingIn = true) :
      ReadStep before index ({ before.fail error with working := none }.stopReading index)
  | lost {told : Session} {finish : StreamEnd} (hstate : before.state = .loggedOn)
      (htold : Mourns { before with working := some index } finish.error.message told)
      (hend : before.upcoming? index = some (.error finish)) :
      ReadStep before index
        ({ (told.fail (.transport finish.error.message)).teardown with
          working := none }.stopReading index)
  | ended (hstate : before.state = .unstarted ∨ before.state = .failed) :
      ReadStep before index ({ before with working := none }.stopReading index)

theorem Reacted.wiring {before after : Session} {reaction : Reaction} {packet : Packet}
    {result : Except HandlerError Unit} (h : Reacted before reaction packet (after, result)) :
    after.standing.handlers = before.standing.handlers ∧
      after.standing.collectors = before.standing.collectors := by
  cases h with
  | aside hafter hchallenge => exact ⟨by rw [hafter.standing], by rw [hafter.standing]⟩
  | answered hreaction hstate hvalue hresponse => exact ⟨rfl, rfl⟩
  | refused hfault => exact ⟨rfl, rfl⟩
  | @welcomed told hreaction htold hstate =>
      have htoldToo : told.standing.handlers = before.standing.handlers ∧
          told.standing.collectors = before.standing.collectors := by
        rw [htold.standing]
        exact ⟨rfl, rfl⟩
      exact htoldToo
  | evicted hreaction hstate hbody => exact ⟨rfl, rfl⟩

theorem Handled.wiring {before after : Session} {connection : Nat} {packet : Packet}
    (h : Handled before connection packet after) :
    after.standing.handlers = before.standing.handlers ∧
      after.standing.collectors = before.standing.collectors := by
  cases h with
  | unrouted hroute hstanding hschedule hjournal =>
      exact ⟨congrArg Standing.handlers hstanding, congrArg Standing.collectors hstanding⟩
  | reacted hroute hstanding hschedule hjournal hreacted =>
      obtain ⟨hhandlers, hcollectors⟩ := hreacted.wiring
      exact ⟨hhandlers.trans (congrArg Standing.handlers hstanding),
        hcollectors.trans (congrArg Standing.collectors hstanding)⟩

theorem ReadStep.wiring {before after : Session} {index : Nat} (h : ReadStep before index after) :
    after.standing.handlers = before.standing.handlers ∧
      after.standing.collectors = before.standing.collectors := by
  cases h with
  | packet hhandled => exact hhandled.wiring
  | malformed hstate => exact ⟨rfl, rfl⟩
  | passedOver hstate => exact ⟨rfl, rfl⟩
  | cutOff hstate => exact ⟨rfl, rfl⟩
  | @lost told finish hstate htold hend =>
      have htoldToo : told.standing.handlers = before.standing.handlers ∧
          told.standing.collectors = before.standing.collectors := by
        rw [htold.standing]
        exact ⟨rfl, rfl⟩
      exact htoldToo
  | ended hstate => exact ⟨rfl, rfl⟩

theorem takeFrame_step (session : Session) (index : Nat) (result : Except FrameError Packet)
    (rest : Text.Bytes) :
    ReadStep session index (session.takeFrame index result rest) := by
  unfold takeFrame readResult
  cases result with
  | ok packet => exact .packet (receive_handled _ index packet)
  | error error =>
      dsimp only
      cases hstate : session.state.isLoggingIn with
      | true =>
          rw [if_pos (by exact hstate)]
          exact .malformed hstate
      | false =>
          rw [if_neg (by simp [startReading, hstate])]
          exact .passedOver hstate

theorem meetEnd_step {session : Session} {index : Nat} {finish : StreamEnd}
    (hend : session.upcoming? index = some (.error finish)) :
    ReadStep session index (session.meetEnd index finish) := by
  unfold meetEnd
  rcases loseConnection_cases { session with working := some index } finish.error with
    ⟨hstate, hlost⟩ | ⟨hstate, told, htold, hlost⟩ | ⟨hstate, hlost⟩
  · rw [hlost]
    exact .cutOff hstate
  · rw [hlost]
    exact .lost hstate htold hend
  · rw [hlost]
    exact .ended hstate

/-- A reader that is not stopped takes a frame, or meets the end of its connection. -/
theorem readNext?_cases {session next : Session} {index : Nat}
    (hnext : session.readNext? index = some next) :
    (∃ reader, session.standing.readers[index]? = some reader ∧ reader ≠ .stopped) ∧
      ((∃ result rest, next = session.takeFrame index result rest) ∨
        ∃ finish, session.upcoming? index = some (.error finish) ∧
          next = session.meetEnd index finish) := by
  unfold readNext? at hnext
  cases hconnection : session.link.connections[index]? with
  | none => simp [hconnection] at hnext
  | some connection =>
      simp only [hconnection] at hnext
      split at hnext
      · cases hnext
      · rename_i hreader
        refine ⟨⟨connection.reader, ?_, hreader⟩, ?_⟩
        · simp [standing, Link.getElem?_readers, hconnection]
        · split at hnext
          · rename_i result rest hframe
            exact .inl ⟨result, rest, (Option.some.inj hnext).symm⟩
          · rename_i hframe
            obtain ⟨finish, hfinish, rfl⟩ := Option.map_eq_some_iff.mp hnext
            exact .inr ⟨finish, by simp [upcoming?, hconnection, hreader, hframe, hfinish], rfl⟩

theorem readNext?_step {session next : Session} {index : Nat}
    (hnext : session.readNext? index = some next) :
    (∃ reader, session.standing.readers[index]? = some reader ∧ reader ≠ .stopped) ∧
      ReadStep session index next := by
  obtain ⟨hreader, ⟨result, rest, rfl⟩ | ⟨finish, hend, rfl⟩⟩ := readNext?_cases hnext
  · exact ⟨hreader, takeFrame_step session index result rest⟩
  · exact ⟨hreader, meetEnd_step hend⟩

section

variable {motive : Session → Prop} {index : Nat}
  (hnext : ∀ session next, motive session → session.readNext? index = some next → motive next)
  (hstop : ∀ session, motive session → motive (session.stopReading index))

include hnext hstop

theorem readOut_induction (fuel : Nat) {session : Session} (hsession : motive session) :
    motive (readOut fuel session index) := by
  induction fuel generalizing session with
  | zero => exact hstop session hsession
  | succ fuel induction =>
      unfold readOut
      split
      · split
        · rename_i next hread
          exact induction (hnext session next hsession hread)
        · exact hstop session hsession
      · exact hsession

theorem read?_induction {session final : Session} (hsession : motive session)
    (hread : session.read? index = some final) :
    motive final := by
  obtain ⟨next, hfirst, rfl⟩ := Option.map_eq_some_iff.mp hread
  have hmotive := hnext session next hsession hfirst
  split
  · exact readOut_induction hnext hstop _ hmotive
  · exact hmotive

end

end Messenger.Session
