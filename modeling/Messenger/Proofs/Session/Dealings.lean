import Messenger.Proofs.Session.Apart
import Messenger.Proofs.Session.Coupling
import Messenger.Proofs.Session.Ledger
import Messenger.Proofs.Session.Tidings

/-!
The deals that a move of a session comes to: what its reader hears, what its calls and requests do,
and what its writers make of the packets that wait.
-/

namespace Messenger

/-- Whether a deal can be a matter of the session alone. -/
def Deal.isInner : Deal → Bool
  | entered state => state ≠ .connecting ∧ state ≠ .connected
  | detached => true
  | submitted _ => true
  | noted happening => happening.isRemark
  | _ => false

/-- Whether a deal can come of a packet that is heard on a connection. -/
def Deal.isHeard (index : Nat) : Deal → Bool
  | entered state => state ≠ .connecting ∧ state ≠ .connected
  | detached => true
  | taken connection _ => connection = index
  | answered connection outgoing => connection = index ∧ outgoing.packet.service = .authResp
  | noted happening => happening.isRemark
  | _ => false

namespace Session

section

variable {index : Nat}

theorem heard_report (session : Session) (service : Option Service) (event : Event) :
    Deals (Deal.isHeard index) session (session.report service event) := by
  cases hrunning : session.events.running with
  | true =>
      refine .of_act (.noted (.reported ⟨service, event⟩)) ?_ rfl
      simp [report, ledger, Ledger.act, hrunning]
  | false => exact .of_same (by simp [report, ledger, hrunning])

theorem heard_reportAll (session : Session) (reports : List Report) :
    Deals (Deal.isHeard index) session (session.reportAll reports) := by
  unfold reportAll
  induction reports generalizing session with
  | nil => exact .refl session
  | cons entry rest induction => exact (heard_report session _ _).trans (induction _)

theorem heard_reportEvents (session : Session) (service : Service) (events : List Event) :
    Deals (Deal.isHeard index) session (session.reportEvents service events) := by
  rw [reportEvents_eq]
  exact heard_reportAll session _

theorem heard_onAuthResponse (session : Session) (packet : Packet) :
    Deals (Deal.isHeard index) session (session.onAuthResponse packet) := by
  unfold onAuthResponse
  split
  · exact .refl session
  · dsimp only
    split
    · exact .refl session
    · exact .fail session _ rfl

theorem heard_markLoggedOn (session : Session) :
    Deals (Deal.isHeard index) session session.markLoggedOn := by
  unfold markLoggedOn
  split
  · exact (Deals.enter session _ rfl).trans (heard_report _ _ _)
  · exact .refl session

theorem heard_onLogon (session : Session) (packet : Packet) :
    Deals (Deal.isHeard index) session (session.onLogon packet) :=
  (heard_reportEvents session _ _).trans (heard_markLoggedOn _)

theorem heard_onRoster (session : Session) (packet : Packet) :
    Deals (Deal.isHeard index) session (session.onRoster packet) := by
  unfold onRoster
  dsimp only
  split
  · exact .of_same rfl
  · have hbuffered : Deals (Deal.isHeard index) session
        { session with fragments := (session.fragments.offer packet).2 } := .of_same rfl
    exact (hbuffered.trans (heard_report _ _ _)).trans (heard_markLoggedOn _)

theorem heard_onLogoff (session : Session) (packet : Packet) :
    Deals (Deal.isHeard index) session (session.onLogoff packet) := by
  unfold onLogoff
  split
  · exact heard_reportEvents session _ _
  · split
    · exact ((Deals.enter session _ rfl).trans (heard_report _ _ _)).trans (.teardown _ rfl)
    · exact .fail session _ rfl
    · exact .fail session _ rfl
    · exact .refl session

section

variable {session : Session}
  (hwriter : session.state = .connecting → session.link.writer = some index)
include hwriter

theorem heard_onChallenge (packet : Packet) :
    Deals (Deal.isHeard index) session (session.onChallenge packet) := by
  unfold onChallenge
  split
  · exact .refl session
  · rename_i hstate
    rw [Decidable.not_not] at hstate
    split
    · exact .fail session _ rfl
    · dsimp only
      split
      · exact .fail session _ rfl
      · rename_i response hresponse
        refine .of_act (.answered index
          ⟨session.authResponse response, .request (.packet (session.authResponse response))⟩)
          ?_ (by simp [Deal.isHeard, authResponse, Packet.request])
        have hconnected : session.ledger.state ≠ .connected := by
          rw [show session.ledger.state = .connecting from hstate]
          decide
        have hledger : session.ledger.writer = some index := hwriter hstate
        simp only [ledger_execute, ledger_enter, Ledger.enter, Ledger.submit, Ledger.act, hledger,
          if_neg hconnected]

theorem heard_react (reaction : Reaction) (packet : Packet) :
    Deals (Deal.isHeard index) session (session.react reaction packet).1 := by
  have hresult (service : Service) (events : Except HandlerError (List Event)) :
      Deals (Deal.isHeard index) session (session.reportResult service events).1 :=
    reportResult_eq session service events ▸ heard_reportAll session _
  have hfriend (event : String → Option String → Event) :
      Deals (Deal.isHeard index) session (session.reportFriend packet event).1 :=
    reportFriend_eq session packet event ▸ heard_reportAll session _
  have hevents (events : List Event) :
      Deals (Deal.isHeard index) session (session.reportEvents packet.service events) :=
    heard_reportEvents session _ _
  have hconference (store : Nat) :
      Deals (Deal.isHeard index) session (session.onConference store packet).1 := by
    unfold onConference
    split
    · exact .refl session
    · rename_i rooms hrooms
      have hchanged : Deals (Deal.isHeard index) session
          { session with stores := session.stores.set store (rooms.receive packet).1 } :=
        .of_same rfl
      dsimp only
      split
      · exact hchanged.trans (heard_reportAll _ _)
      · exact hchanged
  unfold react
  split
  · exact hconference _
  · split
    · exact .refl session
    · split
      · exact heard_onChallenge hwriter packet
      · exact heard_onAuthResponse session packet
      · exact heard_onLogon session packet
      · exact heard_onRoster session packet
      · exact heard_onLogoff session packet
      · exact hevents _
      · exact hresult _ _
      · exact hresult _ _
      · exact hfriend _
      · exact hfriend _
      · exact hresult _ _
      · exact hresult _ _
      · exact hresult _ _
      · exact hevents _
      · exact .refl session

theorem heard_handle (packet : Packet) :
    Deals (Deal.isHeard index) session (session.handle packet) := by
  unfold handle dispatch
  generalize session.registry.route packet = routed
  obtain ⟨route, registry⟩ := routed
  have hrouted : Deals (Deal.isHeard index) session { session with registry } := .of_same rfl
  cases route with
  | react reaction joined =>
      have hreacted := hrouted.trans
        (@heard_react index { session with registry } hwriter reaction joined)
      dsimp only
      generalize ({ session with registry } : Session).react reaction joined = outcome
        at hreacted ⊢
      obtain ⟨after, result⟩ := outcome
      cases result with
      | ok done => exact hreacted
      | error error => exact hreacted.trans (heard_report after _ _)
  | collected => exact hrouted
  | passthrough => exact hrouted
  | unregistered => exact hrouted

theorem heard_receive (packet : Packet) :
    Deals (Deal.isHeard index) session (session.receive index packet) := by
  have htaken : Deals (Deal.isHeard index) session
      ((session.note (.received index packet)).adopt packet.sessionId) := by
    refine .of_act (.taken index packet) ?_ (by simp [Deal.isHeard])
    rw [adopt_eq]
    unfold Link.adopt
    split <;> rename_i hid <;>
      simp [note, ledger, Ledger.act, hid]
  have hstanding := standing_adopt (session.note (.received index packet)) packet.sessionId
  refine (htaken.trans (heard_handle ?_ packet)).trans (.note _ rfl)
  intro hstate
  exact (congrArg Standing.writer hstanding).trans
    (hwriter ((congrArg Standing.state hstanding).symm.trans hstate))

end

theorem heard_stopReading (session : Session) :
    Deals (Deal.isHeard index) session (session.stopReading index) :=
  .of_same (ledger_onConnection session index fun _ => rfl)

theorem heard_readResult {session : Session}
    (hwriter : session.state = .connecting → session.link.writer = some index)
    (result : Except FrameError Packet) :
    Deals (Deal.isHeard index) session (session.readResult index result) := by
  unfold readResult
  cases result with
  | ok packet => exact heard_receive hwriter packet
  | error error =>
      dsimp only
      split
      · exact (Deals.fail session _ rfl).trans (heard_stopReading _)
      · exact .refl session

theorem heard_loseConnection (session : Session) (error : ReadError) :
    Deals (Deal.isHeard index) session (session.loseConnection error) := by
  unfold loseConnection
  split
  · exact .fail session _ rfl
  · exact .fail session _ rfl
  · exact (((heard_report session _ _).trans (heard_report _ _ _)).trans (.fail _ _ rfl)).trans
      (.teardown _ rfl)
  · exact .refl session

theorem heard_readNext? {session next : Session} (h : session.standing.Coupled)
    (hnext : session.readNext? index = some next) :
    Deals (Deal.isHeard index) session next := by
  obtain ⟨⟨reader, hreader, hgoing⟩, ⟨result, rest, rfl⟩ | ⟨finish, -, rfl⟩⟩ :=
    readNext?_cases hnext
  · have htaken : Deals (Deal.isHeard index) session (session.startReading index rest) :=
      .of_same (ledger_onConnection session index fun _ => rfl)
    have hwriter : session.state = .connecting → session.link.writer = some index := by
      intro hstate
      cases reader with
      | running => exact (h.running index hreader).2
      | stopping =>
          rcases h.stopping index hreader with hended | hended <;>
            · rw [show session.standing.state = .connecting from hstate] at hended
              cases hended
      | stopped => exact absurd rfl hgoing
    have hread := htaken.trans
      (@heard_readResult index (session.startReading index rest) hwriter result)
    exact hread.trans (.of_same rfl)
  · have hbusy : Deals (Deal.isHeard index) session { session with working := some index } :=
      .of_same rfl
    have hlost := hbusy.trans (heard_loseConnection _ finish.error)
    exact (hlost.trans (.of_same rfl)).trans (heard_stopReading _)

theorem heard_read? {session next : Session} (h : session.standing.Coupled)
    (hread : session.read? index = some next) :
    Deals (Deal.isHeard index) session next := by
  refine (read?_induction (motive := fun after => after.standing.Coupled ∧
    Deals (Deal.isHeard index) session after) ?_ ?_ ⟨h, .refl session⟩ hread).2
  · rintro before after ⟨hcoupled, hdeals⟩ hnext
    exact ⟨(readNext?_step hnext).2.coupled hcoupled,
      hdeals.trans (heard_readNext? hcoupled hnext)⟩
  · rintro before ⟨hcoupled, hdeals⟩
    refine ⟨?_, hdeals.trans (heard_stopReading before)⟩
    rw [standing_stopReading]
    exact hcoupled.stopReading index

end

theorem inner_awaitHandshake (session : Session) (number deadline : Nat) :
    Deals Deal.isInner session (session.awaitHandshake number deadline) := by
  unfold awaitHandshake
  split
  · split
    · refine .of_same ?_
      rw [ledger_finish]
      rfl
    · exact .of_act .detached (ledger_abandonLogin session number _) rfl
  · split
    · exact (Deals.fail session _ rfl).trans (.of_act .detached (ledger_abandonLogin _ number _) rfl)
    · exact .of_same rfl

theorem inner_submit (session : Session) (packet : Packet) :
    Deals Deal.isInner session (session.submit packet).2 :=
  .of_act (.submitted _) (ledger_submit session packet) rfl

theorem inner_goOn (session : Session) (call : Call) :
    Deals Deal.isInner session (session.goOn call) := by
  unfold goOn
  split
  · exact .refl session
  · split
    · exact .refl session
    · exact inner_awaitHandshake session _ _
    · exact (Deals.fail session _ rfl).trans (.of_act .detached (ledger_abandonLogin _ _ _) rfl)
  · exact inner_awaitHandshake session _ _
  · split
    · exact .refl session
    · exact (Deals.teardown session rfl).trans (.of_same (ledger_finish _ _ _))

theorem inner_resume (session : Session) (number : Nat) :
    Deals Deal.isInner session (session.resume number) := by
  unfold resume
  split
  · split
    · exact inner_goOn session _
    · exact .refl session
  · exact .refl session

theorem inner_logout (session : Session) : Deals Deal.isInner session session.logout := by
  have hbegun : Deals Deal.isInner session session.beginCall.2 := .of_same rfl
  unfold logout
  dsimp only
  split
  · exact hbegun.trans (.of_same (ledger_finish _ _ _))
  · exact (hbegun.trans (.enter _ _ rfl)).trans ((inner_submit _ _).trans (.of_same rfl))

theorem inner_reset (session : Session) : Deals Deal.isInner session session.reset := by
  have hbegun : Deals Deal.isInner session session.beginCall.2 := .of_same rfl
  unfold reset
  dsimp only
  split
  · have hleft := (hbegun.trans (.enter _ .unstarted rfl)).trans (.teardown _ rfl)
    exact hleft.trans (.of_same (ledger_finish _ _ _))
  · exact hbegun.trans (.of_same (ledger_finish _ _ _))

/-- What a login deals once its attempt to connect has come to something: its first packet is put
in line for a new connection, or it fails. -/
def IsConnect (deals : List Deal) : Prop :=
  (∃ outgoing, deals = [.opened, .submitted outgoing]) ∨ ∀ deal ∈ deals, deal.isInner = true

theorem connect_deals (session : Session) (number : Nat) (username : String)
    (outcome : ConnectOutcome) :
    ∃ deals, (session.connect number username outcome).ledger = session.ledger.acts deals ∧
      IsConnect deals := by
  cases outcome with
  | opened writeFault =>
      exact ⟨[.opened, .submitted ⟨.request .auth [("1", username)], .ticket session.tickets⟩],
        ledger_openChannel session number username writeFault, .inl ⟨_, rfl⟩⟩
  | refused text =>
      exact ⟨[.entered .failed, .detached], ledger_failLogin session number _,
        .inr (by simp [Deal.isInner])⟩
  | pending => exact ⟨[], rfl, .inr (by simp)⟩

theorem login_deals {session : Session} (username password : String)
    (hbegins : ¬ session.Begins (.login username password)) (hheld : session.held = true) :
    Deals Deal.isInner session (session.login username password) := by
  have hbegun : Deals Deal.isInner session session.beginCall.2 := .of_same rfl
  unfold login
  dsimp only
  split
  · exact hbegun.trans (.of_same (ledger_finish _ _ _))
  · rename_i hstate
    rw [Decidable.not_not] at hstate
    split
    · exact (hbegun.trans (.fail _ _ rfl)).trans (.of_same (ledger_finish _ _ _))
    · rename_i hvalid
      exact absurd ⟨hheld, hstate, not_or.mp hvalid⟩ hbegins

theorem login_begins_deals {session : Session} {username password : String}
    (hbegins : session.Begins (.login username password)) :
    ∃ rest, (session.login username password).ledger = session.ledger.acts (.begun :: rest) ∧
      IsConnect rest := by
  obtain ⟨-, hstate, husername, hpassword⟩ := hbegins
  have hbegun : session.beginCall.2.state = .unstarted := hstate
  obtain ⟨rest, hledger, hrest⟩ := connect_deals
    (session.beginCall.2.startLogin (Text.lowerCase (Text.trim username)) password)
    session.callCount (Text.lowerCase (Text.trim username))
    ((session.outcomes.head?).getD (.opened none))
  refine ⟨rest, ?_, hrest⟩
  rw [login_eq_connect hstate husername hpassword, hledger, ledger_startLogin hbegun]
  rfl

theorem inner_execute (session : Session) (sending : Sending) (packet : Packet) :
    Deals Deal.isInner session (session.execute sending packet) :=
  .of_act (.submitted _) (ledger_execute session sending packet) rfl

theorem inner_tick? {session next : Session} (htick : session.tick? = some next) :
    Deals Deal.isInner session next := by
  obtain ⟨task, -, rfl⟩ := Option.map_eq_some_iff.mp htick
  have harmed : Deals Deal.isInner session
      { session with schedule := session.schedule.rearm task.number } := .of_same rfl
  dsimp only
  split
  · exact .of_same rfl
  · cases task.request <;> exact harmed.trans (inner_execute _ _ _)

theorem inner_withStore (session : Session) (store : Nat)
    (request : Conference.Store → String →
      Except Conference.ConferenceError (Packet × Conference.Store)) :
    Deals Deal.isInner session (session.withStore store request).1 := by
  unfold withStore
  split
  · exact .refl session
  · split
    · exact .refl session
    · split
      · exact .refl session
      · rename_i rooms _ packet next _
        have hchanged : Deals Deal.isInner session
            { session with stores := session.stores.set store next } := .of_same rfl
        exact hchanged.trans (inner_execute _ _ _)

theorem inner_createRoom (session : Session) (store : Nat) (users : List String)
    (message : String) :
    Deals Deal.isInner session (session.createRoom store users message).1 := by
  unfold createRoom
  split
  · exact .refl session
  · split
    · exact .refl session
    · rename_i _ user _ _ rooms _
      have hchanged : Deals Deal.isInner session
          { session with
            stores := session.stores.set store (rooms.create user users message).2.2 } := .of_same rfl
      exact hchanged.trans (inner_execute _ _ _)

theorem inner_ask (session : Session) (store : Nat) (request : Conference.Request) :
    Deals Deal.isInner session (session.ask store request) := by
  cases request with
  | create users message => exact inner_createRoom session store users message
  | invite room user message => exact inner_withStore session store _
  | accept room => exact inner_withStore session store _
  | decline room message => exact inner_withStore session store _
  | leave room => exact inner_withStore session store _
  | say room text => exact inner_withStore session store _

/-- What a writer makes of the packet that is next on its line. -/
def transmission? (session : Session) : Move → Option Transmission
  | .write index => (session.link.writeNext? index).map fun (written, _) =>
      { connection := index
        outgoing := written.outgoing
        sessionId := session.link.sessionId
        result := written.result
        journal := session.journal }
  | _ => none

theorem line_write (connection : Connection Sending) (transmission : Transmission)
    (hresult : (connection.write transmission.sessionId transmission.outgoing.packet).1 =
      transmission.result) :
    (connection.write transmission.sessionId transmission.outgoing.packet).2.line =
      ⟨connection.queue, connection.written ++ transmission.frame?.toList⟩ := by
  unfold Transmission.frame?
  rw [← hresult]
  unfold Connection.write Connection.line
  cases hframe : Frame.encode
      { transmission.outgoing.packet with sessionId := transmission.sessionId } with
  | error error => simp
  | ok bytes =>
      cases connection.writeError? with
      | some text => simp
      | none => simp [Except.toOption]

/-- A writer takes the packet that is next on its line, under the session id of the moment. -/
theorem write_deals {session : Session} {index : Nat} {transmission : Transmission}
    (htransmission : session.transmission? (.write index) = some transmission) :
    (session.step (.write index)).ledger = session.ledger.act (.written transmission) ∧
      transmission.connection = index ∧ transmission.sessionId = session.link.sessionId ∧
      transmission.journal = session.journal ∧
      ∃ line rest, session.ledger.lines[index]? = some line ∧
        line.waiting = transmission.outgoing :: rest := by
  obtain ⟨⟨written, link⟩, hwrite, htransmitted⟩ := Option.map_eq_some_iff.mp htransmission
  obtain ⟨connection, rest, hconnection, hqueue, hresult, hnext⟩ := Link.writeNext?_cases hwrite
  subst htransmitted
  have hstep : (session.step (.write index)).ledger = { session with link : Session }.ledger := by
    simp only [step, write?, hwrite, Option.map_some, Option.getD_some]
    split <;> rfl
  refine ⟨?_, rfl, rfl, rfl, connection.line, rest, by simp [ledger, hconnection], hqueue⟩
  let made : Transmission :=
    ⟨index, written.outgoing, session.link.sessionId, written.result, session.journal⟩
  have hline := line_write { connection with queue := rest } made hresult
  have hlines := lines_modify session.link index
    (fun _ => ({ connection with queue := rest }.write session.link.sessionId
      written.outgoing.packet).2)
    (fun line => ⟨line.waiting.tail, line.written ++ made.frame?.toList⟩) ?_
  · rw [hstep, hnext]
    simp only [ledger, hlines]
    rfl
  · intro other hother
    rw [hconnection] at hother
    cases hother
    refine hline.trans ?_
    simp [Connection.line, hqueue]

/-- The deals that a move comes to. -/
inductive Dealt (before : Session) : Move → List Deal → Prop
  | inner {move : Move} {deals : List Deal} (hnone : before.transmission? move = none)
      (hinner : ∀ deal ∈ deals, deal.isInner = true) : Dealt before move deals
  | begins {username password : String} {rest : List Deal}
      (hbegins : before.Begins (.login username password)) (hrest : IsConnect rest) :
      Dealt before (.login username password) (.begun :: rest)
  | connects {number called : Nat} {username : String} {outcome : ConnectOutcome}
      {deals : List Deal} (hcall : ⟨called, .connecting username⟩ ∈ before.calls)
      (hdeals : IsConnect deals) : Dealt before (.resolveConnect number outcome) deals
  | reads {index : Nat} {deals : List Deal}
      (hrunning : before.standing.readers[index]? = some .running)
      (hheard : ∀ deal ∈ deals, deal.isHeard index = true) : Dealt before (.read index) deals
  | writes {index : Nat} {transmission : Transmission}
      (htransmission : before.transmission? (.write index) = some transmission) :
      Dealt before (.write index) [.written transmission]

theorem Deals.dealt {before after : Session} {move : Move} (h : Deals Deal.isInner before after)
    (hnone : before.transmission? move = none) :
    ∃ deals, after.ledger = before.ledger.acts deals ∧ Dealt before move deals := by
  obtain ⟨deals, hledger, hinner⟩ := h
  exact ⟨deals, hledger, .inner hnone hinner⟩

theorem step_dealt {session : Session} (h : session.standing.Joined) (move : Move) :
    ∃ deals, (session.step move).ledger = session.ledger.acts deals ∧
      Dealt session move deals := by
  have hsame {after : Session} (hafter : after.ledger = session.ledger) :
      Deals Deal.isInner session after := .of_same hafter
  cases move with
  | login username password =>
      by_cases hbegins : session.Begins (.login username password)
      · obtain ⟨rest, hledger, hrest⟩ := login_begins_deals hbegins
        refine ⟨.begun :: rest, ?_, .begins hbegins hrest⟩
        rw [step, if_pos hbegins.1]
        exact hledger
      · dsimp only [step]
        split
        · rename_i hheld
          exact (login_deals username password hbegins hheld).dealt rfl
        · exact (Deals.refl session).dealt rfl
  | resolveConnect number outcome =>
      dsimp only [step, resolveConnect]
      split
      · rename_i called username hcall
        obtain ⟨deals, hledger, hdeals⟩ := connect_deals session number username outcome
        exact ⟨deals, hledger, .connects (callNumbered?_mem hcall).1 hdeals⟩
      · exact (Deals.refl session).dealt rfl
  | logout =>
      dsimp only [step]
      split
      · exact (inner_logout session).dealt rfl
      · exact (Deals.refl session).dealt rfl
  | reset =>
      dsimp only [step]
      split
      · exact (inner_reset session).dealt rfl
      · exact (Deals.refl session).dealt rfl
  | drop => exact (hsame (ledger_drop session)).dealt rfl
  | arrive connection bytes =>
      refine Deals.dealt (hsame ?_) rfl
      exact ledger_onConnection session connection fun _ => rfl
  | endInbound connection finish =>
      exact (hsame (ledger_endInbound session connection finish)).dealt rfl
  | finishServer connection => exact (hsame (ledger_finishServer session connection)).dealt rfl
  | dropServer connection => exact (hsame (ledger_dropServer session connection)).dealt rfl
  | faultWrites connection writeFault =>
      refine Deals.dealt (hsame ?_) rfl
      exact ledger_onConnection session connection fun _ => rfl
  | elapseTo time => exact (hsame rfl).dealt rfl
  | read index =>
      dsimp only [step]
      cases hread : session.read? index with
      | none => exact (Deals.refl session).dealt rfl
      | some next =>
          obtain ⟨deals, hledger, hheard⟩ := heard_read? h.coupled hread
          refine ⟨deals, hledger, .reads ?_ hheard⟩
          obtain ⟨first, hfirst, -⟩ := Option.map_eq_some_iff.mp hread
          obtain ⟨⟨reader, hreader, hgoing⟩, -⟩ := readNext?_step hfirst
          cases reader with
          | running => exact hreader
          | stopping => exact absurd hreader (h.stayed index)
          | stopped => exact absurd rfl hgoing
  | write index =>
      cases htransmission : session.transmission? (.write index) with
      | some transmission =>
          exact ⟨[.written transmission], (write_deals htransmission).1, .writes htransmission⟩
      | none =>
          have hnothing : session.link.writeNext? index = none :=
            Option.map_eq_none_iff.mp htransmission
          refine (hsame ?_).dealt htransmission
          simp [step, write?, hnothing]
  | close connection => exact (hsame (ledger_closeWriter session connection)).dealt rfl
  | tick =>
      dsimp only [step]
      cases htick : session.tick? with
      | none => exact (Deals.refl session).dealt rfl
      | some next => exact (inner_tick? htick).dealt rfl
  | deliver course => exact (hsame rfl).dealt rfl
  | resume call => exact (inner_resume session call).dealt rfl
  | attachStore policy => exact (hsame rfl).dealt rfl
  | ask store request => exact (inner_ask session store request).dealt rfl

end Session

end Messenger
