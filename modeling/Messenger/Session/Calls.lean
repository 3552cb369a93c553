import Messenger.Session.Handlers
import Messenger.Text.LowerCase

/-!
Login, logout and reset. A call runs until it has to wait: a login for its connection, for its
first packet to be written and for the server's answer, a logout for its packet to be written.
-/

namespace Messenger.Session

def finish (session : Session) (number : Nat) (result : Except SessionError Unit) : Session :=
  let session := { session with
    calls := session.calls.filter fun call => call.number != number
    results := session.results ++ [⟨number, result⟩] }
  if session.alive then session else session.release

def await (session : Session) (number : Nat) (phase : Phase) : Session :=
  { session with
    calls := session.calls.filter (fun call => call.number != number) ++ [⟨number, phase⟩] }

def beginCall (session : Session) : Nat × Session :=
  (session.callCount, { session with callCount := session.callCount + 1 })

def abandonLogin (session : Session) (number : Nat) (error : SessionError) : Session :=
  ({ session with password := none }.teardown).finish number (.error error)

def failLogin (session : Session) (number : Nat) (error : SessionError) : Session :=
  (session.fail error).abandonLogin number error

def awaitHandshake (session : Session) (number deadline : Nat) : Session :=
  if !session.state.isLoggingIn then
    if session.state = .loggedOn then
      { session with password := none }.finish number (.ok ())
    else
      session.abandonLogin number (session.failure.getD .connectionClosed)
  else if deadline ≤ session.schedule.now then
    session.failLogin number (.timeout session.config.loginTimeout)
  else
    session.await number (.handshake deadline)

/-- Takes up a connection in the place of the one before: its reader starts, and the recurring
requests are scheduled. -/
def attach (session : Session) (writeFault : Option String) : Session :=
  let attached := { session with link := session.link.attach { writeFault } }.stopReader
  { attached with
    reader := some session.link.connections.length
    schedule := (attached.schedule.add .ping session.config.pingInterval).add .keepAlive
      session.config.keepAliveInterval }

def openChannel (session : Session) (number : Nat) (username : String)
    (writeFault : Option String) : Session :=
  let (ticket, sent) := (session.attach writeFault).submit (.request .auth [("1", username)])
  sent.await number (.announcing ticket)

def connect (session : Session) (number : Nat) (username : String) :
    ConnectOutcome → Session
  | .opened writeFault => session.openChannel number username writeFault
  | .refused text => session.failLogin number (.transport text)
  | .pending => session.await number (.connecting username)

def startLogin (session : Session) (username password : String) : Session :=
  { session with
    failure := none
    username := some username
    password := some password
    link := { session.link with sessionId := 0 }
    fragments := session.fragments.clear
    events := session.events.start
    outcomes := session.outcomes.tail }.enter .connecting

def login (session : Session) (username password : String) : Session :=
  let (number, session) := session.beginCall
  if session.state ≠ .unstarted then
    session.finish number (.error (.illegalState "Unstarted" session.state))
  else
    let username := Text.lowerCase (Text.trim username)
    if username = "" ∨ password = "" then
      let error := SessionError.invalidArgument "username and password must not be empty"
      (session.fail error).finish number (.error error)
    else
      (session.startLogin username password).connect number username
        ((session.outcomes.head?).getD (.opened none))

def logout (session : Session) : Session :=
  let (number, session) := session.beginCall
  if session.state ≠ .loggedOn then
    session.finish number (.error (.illegalState "LoggedOn" session.state))
  else
    let (ticket, sent) := (session.enter .unstarted).submit
      (.request .logoff [("0", session.user)])
    sent.await number (.leaving ticket)

def reset (session : Session) : Session :=
  let (number, session) := session.beginCall
  if session.state = .failed ∨ session.state = .unstarted then
    { (session.enter .unstarted).teardown with failure := none }.finish number (.ok ())
  else
    session.finish number (.error (.illegalState "Failed or Unstarted" session.state))

def ready (session : Session) (phase : Phase) : Bool :=
  match phase with
  | .connecting _ => false
  | .announcing ticket => session.acknowledged.contains ticket
  | .handshake deadline => !session.state.isLoggingIn || deadline ≤ session.schedule.now
  | .leaving ticket => session.acknowledged.contains ticket

def goOn (session : Session) (call : Call) : Session :=
  match call.phase with
  | .connecting _ => session
  | .announcing ticket =>
      match session.acknowledged.find? ticket with
      | none => session
      | some (.ok ()) =>
          session.awaitHandshake call.number (session.schedule.now + session.config.loginTimeout)
      | some (.error error) => session.failLogin call.number (.transport error.message)
  | .handshake deadline => session.awaitHandshake call.number deadline
  | .leaving ticket =>
      match session.acknowledged.find? ticket with
      | none => session
      | some _ => session.teardown.finish call.number (.ok ())

def callNumbered? (session : Session) (number : Nat) : Option Call :=
  session.calls.find? fun call => call.number == number

def resume (session : Session) (number : Nat) : Session :=
  match session.callNumbered? number with
  | some call => if session.ready call.phase then session.goOn call else session
  | none => session

def resultOf? (session : Session) (number : Nat) : Option (Except SessionError Unit) :=
  (session.results.find? fun entry => entry.number == number).map (·.result)

end Messenger.Session
