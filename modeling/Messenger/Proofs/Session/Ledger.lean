import Messenger.Proofs.Session.Standing

/-!
The ledger of a session: its state, the session id it goes by, the packets that wait on each of its
lines and the frames written there, and its journal. Whatever a session does comes to a few deals,
and its ledger follows from those.
-/

namespace Messenger

open Text (Bytes)

/-- What a writer makes of a packet, with all that had happened by then. -/
structure Transmission where
  connection : Nat
  outgoing : Outgoing Sending
  /-- The session id of the moment. -/
  sessionId : UInt32
  result : Except SendError Unit
  journal : List Happening

/-- The frame that is on the wire, if the packet could be encoded and written. -/
def Transmission.frame? (transmission : Transmission) : Option Bytes :=
  match transmission.result with
  | .ok () =>
      (Frame.encode
        { transmission.outgoing.packet with sessionId := transmission.sessionId }).toOption
  | .error _ => none

structure Line where
  waiting : List (Outgoing Sending) := []
  written : List Bytes := []

def Connection.line (connection : Connection Sending) : Line :=
  ⟨connection.queue, connection.written⟩

/-- Whether a happening is neither a change of state nor the coming or going of a packet. -/
def Happening.isRemark : Happening → Bool
  | .handled => true
  | .reported _ => true
  | _ => false

inductive Deal where
  /-- A login begins to connect. -/
  | begun
  | entered (state : SessionState)
  /-- A new connection takes packets. -/
  | opened
  | detached
  | submitted (outgoing : Outgoing Sending)
  | taken (connection : Nat) (packet : Packet)
  /-- The challenge is answered. -/
  | answered (connection : Nat) (outgoing : Outgoing Sending)
  | written (transmission : Transmission)
  | noted (happening : Happening)

structure Ledger where
  state : SessionState
  sessionId : UInt32
  writer : Option Nat
  lines : List Line
  journal : List Happening

namespace Ledger

def enter (ledger : Ledger) (state : SessionState) : Ledger :=
  { ledger with
    state
    journal := if ledger.state = state then ledger.journal else ledger.journal ++ [.entered state] }

def put (ledger : Ledger) (connection : Nat) (outgoing : Outgoing Sending) : Ledger :=
  { ledger with
    lines := ledger.lines.modify connection fun line =>
      { line with waiting := line.waiting ++ [outgoing] }
    journal := ledger.journal ++ [.submitted connection outgoing.packet] }

def submit (ledger : Ledger) (outgoing : Outgoing Sending) : Ledger :=
  match ledger.writer with
  | none => ledger
  | some connection => ledger.put connection outgoing

def act (ledger : Ledger) : Deal → Ledger
  | .begun =>
      { ledger with
        state := .connecting
        sessionId := 0
        journal := ledger.journal ++ [.entered .connecting] }
  | .entered state => ledger.enter state
  | .opened =>
      { ledger with lines := ledger.lines ++ [{}], writer := some ledger.lines.length }
  | .detached => { ledger with writer := none }
  | .submitted outgoing => ledger.submit outgoing
  | .taken connection packet =>
      { ledger with
        sessionId := if packet.sessionId ≠ 0 then packet.sessionId else ledger.sessionId
        journal := ledger.journal ++ [.received connection packet] }
  | .answered connection outgoing =>
      let connected : Ledger :=
        { ledger with
          state := .connected
          journal := ledger.journal ++ [.entered .connected] }
      connected.put connection outgoing
  | .written transmission =>
      { ledger with
        lines := ledger.lines.modify transmission.connection fun line =>
          ⟨line.waiting.tail, line.written ++ transmission.frame?.toList⟩ }
  | .noted happening => { ledger with journal := ledger.journal ++ [happening] }

def acts (ledger : Ledger) (deals : List Deal) : Ledger :=
  deals.foldl act ledger

/-- What each deal keeps that suits the ledger, all of them keep; a deal goes on to suit the ledger
while others are acted on. -/
theorem acts_keep {motive : Ledger → Prop} (suits : Ledger → Deal → Prop)
    (hact : ∀ {ledger}, motive ledger → ∀ {deal}, suits ledger deal → motive (ledger.act deal))
    (hmono : ∀ {ledger deal} other, suits ledger deal → suits (ledger.act other) deal)
    {ledger : Ledger} {deals : List Deal} (h : motive ledger)
    (hsuits : ∀ deal ∈ deals, suits ledger deal) :
    motive (ledger.acts deals) := by
  unfold acts
  induction deals generalizing ledger with
  | nil => exact h
  | cons deal rest induction =>
      obtain ⟨hfirst, hrest⟩ := List.forall_mem_cons.mp hsuits
      exact induction (hact h hfirst) fun other hmem => hmono deal (hrest other hmem)

end Ledger

namespace Session

def ledger (session : Session) : Ledger where
  state := session.state
  sessionId := session.link.sessionId
  writer := session.link.writer
  lines := session.link.connections.map Connection.line
  journal := session.journal

@[simp] theorem ledger_enter (session : Session) (state : SessionState) :
    (session.enter state).ledger = session.ledger.enter state := rfl

@[simp] theorem ledger_fail (session : Session) (error : SessionError) :
    (session.fail error).ledger = session.ledger.enter .failed :=
  ledger_enter _ _

theorem lines_modify (link : Link Sending) (index : Nat)
    (change : Connection Sending → Connection Sending) (effect : Line → Line)
    (hchange : ∀ connection, link.connections[index]? = some connection →
      (change connection).line = effect connection.line) :
    (link.modify index change).connections.map Connection.line =
      (link.connections.map Connection.line).modify index effect := by
  apply List.ext_getElem?
  intro position
  simp only [Link.modify, List.getElem?_map, List.getElem?_modify]
  by_cases heq : index = position
  · subst heq
    cases hconnection : link.connections[index]? with
    | none => rfl
    | some connection => simp [hchange connection hconnection]
  · simp [heq]

theorem lines_same (link : Link Sending) (index : Nat)
    {change : Connection Sending → Connection Sending}
    (hchange : ∀ connection, (change connection).line = connection.line) :
    (link.modify index change).connections.map Connection.line =
      link.connections.map Connection.line := by
  have hlines := lines_modify link index change id fun connection _ => hchange connection
  rw [hlines, List.modify_id]

theorem ledger_onConnection (session : Session) (index : Nat)
    {change : Connection Sending → Connection Sending}
    (hchange : ∀ connection, (change connection).line = connection.line) :
    (session.onConnection index change).ledger = session.ledger := by
  have hlines := lines_same session.link index hchange
  simp only [onConnection, ledger, hlines]
  rfl

@[simp] theorem ledger_enqueue (session : Session) (outgoing : Outgoing Sending) :
    (session.enqueue outgoing).ledger = session.ledger.submit outgoing := by
  have hwriter : session.ledger.writer = session.link.writer := rfl
  unfold Ledger.submit
  rw [hwriter]
  cases hlink : session.link.writer with
  | none => simp [enqueue, Link.enqueue?, hlink, ledger]
  | some index =>
      have hlines := lines_modify session.link index
        (fun connection => { connection with queue := connection.queue ++ [outgoing] })
        (fun line => { line with waiting := line.waiting ++ [outgoing] }) fun _ _ => rfl
      simp only [enqueue, Link.enqueue?, hlink, Link.enqueue, ledger, Option.map_some,
        Option.getD_some, hlines, Ledger.put]
      simp [Link.modify, hlink]

@[simp] theorem ledger_execute (session : Session) (sending : Sending) (packet : Packet) :
    (session.execute sending packet).ledger =
      session.ledger.submit ⟨packet, .request sending⟩ :=
  ledger_enqueue _ _

@[simp] theorem ledger_submit (session : Session) (packet : Packet) :
    (session.submit packet).2.ledger =
      session.ledger.submit ⟨packet, .ticket session.tickets⟩ := by
  unfold submit
  dsimp only
  split
  · exact ledger_enqueue _ _
  · rename_i hdetached
    have hwriter : session.ledger.writer = none :=
      Option.not_isSome_iff_eq_none.mp hdetached
    unfold Ledger.submit
    rw [hwriter]
    rfl

@[simp] theorem ledger_stopReader (session : Session) :
    session.stopReader.ledger = session.ledger := by
  unfold stopReader
  cases session.reader with
  | none => rfl
  | some index => exact ledger_onConnection session index fun _ => rfl

@[simp] theorem ledger_teardown (session : Session) :
    session.teardown.ledger = session.ledger.act .detached := by
  unfold teardown
  rw [ledger_stopReader]
  rfl

@[simp] theorem ledger_release (session : Session) :
    session.release.ledger = session.ledger := by
  unfold release
  rw [ledger_stopReader]
  rfl

@[simp] theorem ledger_drop (session : Session) : session.drop.ledger = session.ledger := by
  unfold drop
  dsimp only
  split
  · rfl
  · rw [ledger_release]
    rfl

@[simp] theorem ledger_finish (session : Session) (number : Nat)
    (result : Except SessionError Unit) :
    (session.finish number result).ledger = session.ledger := by
  unfold finish
  dsimp only
  split
  · rfl
  · rw [ledger_release]
    rfl

@[simp] theorem ledger_await (session : Session) (number : Nat) (phase : Phase) :
    (session.await number phase).ledger = session.ledger := rfl

@[simp] theorem ledger_abandonLogin (session : Session) (number : Nat) (error : SessionError) :
    (session.abandonLogin number error).ledger = session.ledger.act .detached := by
  unfold abandonLogin
  rw [ledger_finish, ledger_teardown]
  rfl

@[simp] theorem ledger_failLogin (session : Session) (number : Nat) (error : SessionError) :
    (session.failLogin number error).ledger = (session.ledger.enter .failed).act .detached := by
  unfold failLogin
  rw [ledger_abandonLogin, ledger_fail]

@[simp] theorem ledger_attach (session : Session) (writeFault : Option String) :
    (session.attach writeFault).ledger = session.ledger.act .opened := by
  have hattached : (session.attach writeFault).ledger =
      ({ session with link := session.link.attach { writeFault } } : Session).stopReader.ledger :=
    rfl
  rw [hattached, ledger_stopReader]
  simp [ledger, Link.attach, Ledger.act, Connection.line]

@[simp] theorem ledger_openChannel (session : Session) (number : Nat) (username : String)
    (writeFault : Option String) :
    (session.openChannel number username writeFault).ledger =
      (session.ledger.act .opened).submit
        ⟨.request .auth [("1", username)], .ticket session.tickets⟩ := by
  unfold openChannel
  rw [ledger_await, ledger_submit, ledger_attach]
  rfl

theorem ledger_startLogin {session : Session} (hstate : session.state = .unstarted)
    (username password : String) :
    (session.startLogin username password).ledger = session.ledger.act .begun := by
  unfold startLogin
  rw [ledger_enter]
  simp [Ledger.enter, ledger, Ledger.act, hstate]

@[simp] theorem ledger_endInbound (session : Session) (index : Nat) (finish : StreamEnd) :
    (session.endInbound index finish).ledger = session.ledger :=
  ledger_onConnection session index fun _ => rfl

@[simp] theorem ledger_finishServer (session : Session) (index : Nat) :
    (session.finishServer index).ledger = session.ledger := by
  refine Eq.trans (ledger_onConnection _ index ?_) (ledger_endInbound session index .closed)
  exact fun _ => rfl

@[simp] theorem ledger_dropServer (session : Session) (index : Nat) :
    (session.dropServer index).ledger = session.ledger := by
  refine Eq.trans (ledger_onConnection _ index ?_) (ledger_finishServer session index)
  exact fun _ => rfl

@[simp] theorem ledger_closeWriter (session : Session) (index : Nat) :
    (session.closeWriter index).ledger = session.ledger := by
  unfold closeWriter Link.close
  split
  · exact ledger_onConnection session index fun _ => rfl
  · rfl

/-- One session comes from another by deals of a certain kind. -/
def Deals (allowed : Deal → Bool) (before after : Session) : Prop :=
  ∃ deals, after.ledger = before.ledger.acts deals ∧ ∀ deal ∈ deals, allowed deal = true

namespace Deals

variable {allowed : Deal → Bool}

theorem of_same {before after : Session} (hledger : after.ledger = before.ledger) :
    Deals allowed before after :=
  ⟨[], hledger, by simp⟩

theorem refl (session : Session) : Deals allowed session session :=
  of_same rfl

theorem of_act {before after : Session} (deal : Deal)
    (hledger : after.ledger = before.ledger.act deal) (hallowed : allowed deal = true) :
    Deals allowed before after :=
  ⟨[deal], hledger, by simpa using hallowed⟩

theorem trans {first second third : Session} (hfirst : Deals allowed first second)
    (hsecond : Deals allowed second third) :
    Deals allowed first third := by
  obtain ⟨early, hearly, hearlyAllowed⟩ := hfirst
  obtain ⟨late, hlate, hlateAllowed⟩ := hsecond
  refine ⟨early ++ late, ?_, ?_⟩
  · rw [hlate, hearly, Ledger.acts, Ledger.acts, Ledger.acts, List.foldl_append]
  · intro deal hmem
    rcases List.mem_append.mp hmem with hmem | hmem
    · exact hearlyAllowed deal hmem
    · exact hlateAllowed deal hmem

theorem enter (session : Session) (state : SessionState)
    (hallowed : allowed (.entered state) = true) :
    Deals allowed session (session.enter state) :=
  of_act (.entered state) (ledger_enter session state) hallowed

theorem fail (session : Session) (error : SessionError)
    (hallowed : allowed (.entered .failed) = true) :
    Deals allowed session (session.fail error) :=
  of_act (.entered .failed) (ledger_fail session error) hallowed

theorem note (session : Session) {happening : Happening}
    (hallowed : allowed (.noted happening) = true) :
    Deals allowed session (session.note happening) :=
  of_act (.noted happening) rfl hallowed

theorem teardown (session : Session) (hallowed : allowed .detached = true) :
    Deals allowed session session.teardown :=
  of_act .detached (ledger_teardown session) hallowed

end Deals

end Session

end Messenger
