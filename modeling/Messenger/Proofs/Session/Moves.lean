import Messenger.Proofs.Session.Standing

/-!
What a move of a session comes to. Traffic, which is bytes, packets, reports, requests to rooms and
time, leaves a session where it stands and only puts packets on the line.
-/

namespace Messenger.Session

/-- A packet that recurs, or one that answers no challenge, has been put on the line. -/
def IsSending (recurring : List Sending) (happening : Happening) : Prop :=
  ∃ connection packet, happening = .submitted connection packet ∧
    (packet.service ≠ .authResp ∨ .packet packet ∈ recurring)

/-- One session comes from another by traffic. -/
structure Carries (before after : Session) : Prop where
  standing : after.standing = before.standing
  registry : after.registry = before.registry
  fragments : after.fragments = before.fragments
  /-- The recurring requests of a session that is gone come to an end. -/
  timetable : before.alive = true → after.schedule.timetable = before.schedule.timetable
  journal : ∃ noted, after.journal = before.journal ++ noted ∧
    ∀ happening ∈ noted, IsSending before.standing.recurring happening

namespace Carries

theorem of_same {before after : Session} (hstanding : after.standing = before.standing)
    (hjournal : after.journal = before.journal)
    (hregistry : after.registry = before.registry := by rfl)
    (hfragments : after.fragments = before.fragments := by rfl)
    (htimetable : before.alive = true →
      after.schedule.timetable = before.schedule.timetable := by exact fun _ => rfl) :
    Carries before after :=
  ⟨hstanding, hregistry, hfragments, htimetable, [], by simpa using hjournal, by simp⟩

theorem refl (session : Session) : Carries session session :=
  of_same rfl rfl

theorem execute {before armed : Session} (hstanding : armed.standing = before.standing)
    (hregistry : armed.registry = before.registry)
    (hfragments : armed.fragments = before.fragments)
    (htimetable : armed.schedule.timetable = before.schedule.timetable)
    (hjournal : armed.journal = before.journal) (sending : Sending) {packet : Packet}
    (hpacket : packet.service ≠ .authResp ∨ .packet packet ∈ before.standing.recurring) :
    Carries before (armed.execute sending packet) := by
  refine ⟨(standing_execute armed sending packet).trans hstanding, hregistry, hfragments,
    fun _ => htimetable, armed.link.writer.toList.map fun index => .submitted index packet, ?_, ?_⟩
  · rw [← hjournal]
    rfl
  · intro happening hmem
    obtain ⟨connection, -, rfl⟩ := List.mem_map.mp hmem
    exact ⟨connection, packet, rfl, hpacket⟩

end Carries

theorem write?_carries {session next : Session} {index : Nat}
    (hwrite : session.write? index = some next) :
    Carries session next := by
  have hstanding := standing_write? session index hwrite
  obtain ⟨⟨written, link⟩, -, rfl⟩ := Option.map_eq_some_iff.mp hwrite
  dsimp only at hstanding ⊢
  cases hreply : written.outgoing.reply with
  | ticket ticket =>
      rw [hreply] at hstanding
      exact .of_same hstanding rfl
  | request request =>
      rw [hreply] at hstanding
      exact .of_same hstanding rfl

/-- A recurring request that is due goes out, unless the session is gone. -/
theorem tick?_carries {session next : Session} (htick : session.tick? = some next) :
    Carries session next := by
  obtain ⟨task, hripe, rfl⟩ := Option.map_eq_some_iff.mp htick
  have hmem : task.request ∈ session.standing.recurring := Schedule.ripe?_mem_requests hripe
  have harmed : ({ session with schedule := session.schedule.rearm task.number } :
      Session).standing = session.standing := by
    simp [standing]
  have htimetable : (session.schedule.rearm task.number).timetable = session.schedule.timetable :=
    Schedule.timetable_rearm _ _
  dsimp only
  split
  · rename_i hgone
    have hended : ¬ session.alive = true := by simpa [alive] using hgone
    refine .of_same ?_ rfl rfl rfl fun halive => absurd halive hended
    simp [standing]
  · cases hrequest : task.request with
    | packet packet =>
        exact .execute harmed rfl rfl htimetable rfl (.packet packet) (.inr (hrequest ▸ hmem))
    | ping =>
        exact .execute harmed rfl rfl htimetable rfl .ping (.inl (by simp [Packet.request]))
    | keepAlive =>
        exact .execute harmed rfl rfl htimetable rfl .keepAlive
          (.inl (by simp [Packet.request]))

theorem withStore_carries (session : Session) (store : Nat)
    {request : Conference.Store → String →
      Except Conference.ConferenceError (Packet × Conference.Store)}
    (hrequest : ∀ rooms user packet next, request rooms user = .ok (packet, next) →
      packet.service ≠ .authResp) :
    Carries session (session.withStore store request).1 := by
  unfold withStore
  split
  · exact .refl session
  · rename_i user huser
    split
    · exact .refl session
    · rename_i rooms hrooms
      cases hanswer : request rooms user with
      | error error => exact .refl session
      | ok answer =>
          obtain ⟨packet, next⟩ := answer
          apply Carries.execute
          case hpacket => exact .inl (hrequest rooms user packet next hanswer)
          all_goals rfl

theorem createRoom_carries (session : Session) (store : Nat) (users : List String)
    (message : String) :
    Carries session (session.createRoom store users message).1 := by
  unfold createRoom
  split
  · exact .refl session
  · split
    · exact .refl session
    · apply Carries.execute
      case hpacket => exact .inl (by simp [Conference.Store.create, Packet.request])
      all_goals rfl

theorem known_service {store : Conference.Store} {name : String} {service : Service}
    {fields : Conference.Room → List (String × String)}
    {change : Conference.Room → Conference.Store} {packet : Packet} {next : Conference.Store}
    (hknown : (do
      let room ← store.known name
      return (Packet.request service (fields room), change room)) = Except.ok (packet, next)) :
    packet.service = service := by
  cases hroom : store.known name with
  | error error => simp [hroom, bind, Except.bind] at hknown
  | ok room =>
      simp only [hroom, bind, Except.bind, pure, Except.pure, Except.ok.injEq,
        Prod.mk.injEq] at hknown
      rw [← hknown.1]
      rfl

theorem ask_carries (session : Session) (store : Nat) (request : Conference.Request) :
    Carries session (session.ask store request) := by
  cases request with
  | create users message => exact createRoom_carries session store users message
  | invite room user message =>
      exact withStore_carries session store fun _ _ _ _ hknown => known_service hknown ▸ (by decide)
  | accept room =>
      exact withStore_carries session store fun _ _ _ _ hknown => known_service hknown ▸ (by decide)
  | decline room message =>
      exact withStore_carries session store fun _ _ _ _ hknown => known_service hknown ▸ (by decide)
  | leave room =>
      exact withStore_carries session store fun _ _ _ _ hknown => known_service hknown ▸ (by decide)
  | say room text =>
      exact withStore_carries session store fun _ _ _ _ hknown => known_service hknown ▸ (by decide)

/-- What a move comes to: traffic, or a piece of the life of the session. -/
inductive Stepped (before : Session) : Move → Session → Prop
  | carried {move : Move} {after : Session} (hcarried : Carries before after) :
      Stepped before move after
  | login (username password : String) (hheld : before.held = true) :
      Stepped before (.login username password) (before.login username password)
  | resolveConnect (call : Nat) (outcome : ConnectOutcome) :
      Stepped before (.resolveConnect call outcome) (before.resolveConnect call outcome)
  | logout (hheld : before.held = true) : Stepped before .logout before.logout
  | reset (hheld : before.held = true) : Stepped before .reset before.reset
  | drop : Stepped before .drop before.drop
  | read {connection : Nat} {next : Session} (hread : before.read? connection = some next) :
      Stepped before (.read connection) next
  | resume (call : Nat) : Stepped before (.resume call) (before.resume call)
  | attachStore (policy : Conference.BufferPolicy) :
      Stepped before (.attachStore policy) (before.attachStore policy)

theorem step_stepped (session : Session) (move : Move) :
    Stepped session move (session.step move) := by
  cases move with
  | login username password =>
      dsimp only [step]
      split
      · rename_i hheld
        exact .login username password hheld
      · exact .carried (.refl session)
  | resolveConnect call outcome => exact .resolveConnect call outcome
  | logout =>
      dsimp only [step]
      split
      · rename_i hheld
        exact .logout hheld
      · exact .carried (.refl session)
  | reset =>
      dsimp only [step]
      split
      · rename_i hheld
        exact .reset hheld
      · exact .carried (.refl session)
  | drop => exact .drop
  | arrive connection bytes =>
      exact .carried (.of_same (standing_onConnection session connection fun _ => rfl) rfl)
  | endInbound connection finish =>
      exact .carried (.of_same (standing_endInbound session connection finish) rfl)
  | finishServer connection =>
      exact .carried (.of_same (standing_finishServer session connection) rfl)
  | dropServer connection =>
      exact .carried (.of_same (standing_dropServer session connection) rfl)
  | faultWrites connection writeFault =>
      exact .carried (.of_same (standing_onConnection session connection fun _ => rfl) rfl)
  | elapseTo time => exact .carried (.of_same rfl rfl)
  | read connection =>
      dsimp only [step]
      cases hread : session.read? connection with
      | none => exact .carried (.refl session)
      | some next => exact .read hread
  | write connection =>
      dsimp only [step]
      cases hwrite : session.write? connection with
      | none => exact .carried (.refl session)
      | some next => exact .carried (write?_carries hwrite)
  | close connection => exact .carried (.of_same (standing_closeWriter session connection) rfl)
  | tick =>
      dsimp only [step]
      cases htick : session.tick? with
      | none => exact .carried (.refl session)
      | some next => exact .carried (tick?_carries htick)
  | deliver course => exact .carried (.of_same (standing_deliver session course) rfl)
  | resume call => exact .resume call
  | attachStore policy => exact .attachStore policy
  | ask store request => exact .carried (ask_carries session store request)

theorem run_append (session : Session) (early late : List Move) :
    session.run (early ++ late) = (session.run early).run late :=
  List.foldl_append

/-- What no move takes from a session, no run does. -/
theorem run_keeps {motive : Session → Prop}
    (hstep : ∀ (session : Session) (move : Move), motive session → motive (session.step move))
    {session : Session} (h : motive session) (moves : List Move) :
    motive (session.run moves) :=
  List.foldlRecOn moves step h fun between hbetween move _ => hstep between move hbetween

end Messenger.Session
