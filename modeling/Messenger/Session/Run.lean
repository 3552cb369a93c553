import Messenger.Session.Calls
import Messenger.Session.Reading
import Messenger.Session.Rooms

/-!
Runs of a session. A move is one thing that can happen: something from outside, such as a call,
bytes that arrive or time that passes, or one piece of work of the session itself. A session that
has no work left is quiet.
-/

namespace Messenger

namespace Session

/-- Runs one recurring request whose time has come. It ends when the session is gone. -/
def tick? (session : Session) : Option Session :=
  session.schedule.ripe?.map fun task =>
    let armed := { session with schedule := session.schedule.rearm task.number }
    if !session.alive then { armed with schedule := armed.schedule.finish task.number } else
      match task.request with
      | .packet packet => armed.execute (.packet packet) packet
      | .ping => armed.execute .ping (.request .ping [])
      | .keepAlive => armed.execute .keepAlive (.request .keepAlive [("0", session.user)])

def write? (session : Session) (index : Nat) : Option Session :=
  (session.link.writeNext? index).map fun (written, link) =>
    let session := { session with link }
    match written.outgoing.reply with
    | .ticket ticket =>
        { session with acknowledged := session.acknowledged.insert ticket written.result }
    | .request _ => session

def closeWriter (session : Session) (index : Nat) : Session :=
  { session with link := session.link.close index }

def deliver (session : Session) (course : Nat) : Session :=
  let (deliveries, events) := session.events.deliver course
  { session with events, delivered := session.delivered ++ deliveries }

def onConnection (session : Session) (index : Nat)
    (change : Connection Sending → Connection Sending) : Session :=
  { session with link := session.link.modify index change }

def arrive (session : Session) (index : Nat) (bytes : Text.Bytes) : Session :=
  session.onConnection index fun connection =>
    { connection with inbound := connection.inbound ++ bytes }

def endInbound (session : Session) (index : Nat) (finish : StreamEnd) : Session :=
  session.onConnection index fun connection =>
    { connection with inboundEnd := connection.inboundEnd.orElse fun () => some finish }

def finishServer (session : Session) (index : Nat) : Session :=
  (session.endInbound index .closed).onConnection index fun connection =>
    { connection with serverFinished := true }

/-- The server lets go of its end: the stream from it ends, and writes fail. -/
def dropServer (session : Session) (index : Nat) : Session :=
  (session.finishServer index).onConnection index fun connection =>
    { connection with serverGone := true }

def faultWrites (session : Session) (index : Nat) (writeFault : Option String) : Session :=
  session.onConnection index fun connection => { connection with writeFault }

def elapseTo (session : Session) (time : Nat) : Session :=
  { session with schedule := session.schedule.elapseTo time }

def resolveConnect (session : Session) (number : Nat) (outcome : ConnectOutcome) : Session :=
  match session.callNumbered? number with
  | some ⟨_, .connecting username⟩ => session.connect number username outcome
  | _ => session

inductive Move where
  | login (username password : String)
  | resolveConnect (call : Nat) (outcome : ConnectOutcome)
  | logout
  | reset
  | drop
  | arrive (connection : Nat) (bytes : Text.Bytes)
  | endInbound (connection : Nat) (finish : StreamEnd)
  | finishServer (connection : Nat)
  | dropServer (connection : Nat)
  | faultWrites (connection : Nat) (writeFault : Option String)
  | elapseTo (time : Nat)
  | read (connection : Nat)
  | write (connection : Nat)
  | close (connection : Nat)
  | tick
  | deliver (course : Nat)
  | resume (call : Nat)
  | attachStore (policy : Conference.BufferPolicy)
  | ask (store : Nat) (request : Conference.Request)
deriving Repr

/-- What a session becomes by a move. Only one who holds it can call it. -/
def step (session : Session) : Move → Session
  | .login username password =>
      if session.held then session.login username password else session
  | .resolveConnect call outcome => session.resolveConnect call outcome
  | .logout => if session.held then session.logout else session
  | .reset => if session.held then session.reset else session
  | .drop => session.drop
  | .arrive connection bytes => session.arrive connection bytes
  | .endInbound connection finish => session.endInbound connection finish
  | .finishServer connection => session.finishServer connection
  | .dropServer connection => session.dropServer connection
  | .faultWrites connection writeFault => session.faultWrites connection writeFault
  | .elapseTo time => session.elapseTo time
  | .read connection => (session.read? connection).getD session
  | .write connection => (session.write? connection).getD session
  | .close connection => session.closeWriter connection
  | .tick => session.tick?.getD session
  | .deliver course => session.deliver course
  | .resume call => session.resume call
  | .attachStore policy => session.attachStore policy
  | .ask store request => session.ask store request

def run (session : Session) (moves : List Move) : Session :=
  moves.foldl step session

/-! Doing all the work there is: readers first, then recurring requests, writers, deliveries and
calls. -/

def readAll : Nat → Session → Nat → Session
  | 0, session, _ => session
  | fuel + 1, session, index =>
      match session.read? index with
      | some next => readAll fuel next index
      | none => session

def workReaders (session : Session) : Session :=
  (List.range session.link.connections.length).foldl
    (fun session index => readAll (session.readBound index) session index) session

def tickAll : Nat → Session → Session
  | 0, session => session
  | fuel + 1, session =>
      match session.tick? with
      | some next => tickAll fuel next
      | none => session

def workSchedule (session : Session) : Session :=
  tickAll session.schedule.tasks.length session

def writeAll : Nat → Session → Nat → Session
  | 0, session, _ => session
  | fuel + 1, session, index =>
      match session.write? index with
      | some next => writeAll fuel next index
      | none => session

def queued (session : Session) (index : Nat) : Nat :=
  match session.link.connections[index]? with
  | some connection => connection.queue.length
  | none => 0

def workWriters (session : Session) : Session :=
  (List.range session.link.connections.length).foldl
    (fun session index => (writeAll (session.queued index) session index).closeWriter index) session

def workDeliveries (session : Session) : Session :=
  let (deliveries, events) := session.events.settle
  { session with events, delivered := session.delivered ++ deliveries }

def workCalls (session : Session) : Session :=
  (session.calls.map (·.number)).foldl resume session

def isQuiet (session : Session) : Bool :=
  (List.range session.link.connections.length).all (fun index =>
    !session.canRead index && session.queued index == 0 && !session.link.canClose index) &&
  session.schedule.ripe?.isNone && session.events.waiting.isEmpty &&
  session.calls.all fun call => !session.ready call.phase

def work (session : Session) : Session :=
  session.workReaders.workSchedule.workWriters.workDeliveries.workCalls

/-- A call waits at most three times, so a few rounds leave nothing to do. -/
def settleWithin : Nat → Session → Session
  | 0, session => session
  | fuel + 1, session => if session.isQuiet then session else settleWithin fuel session.work

def settle (session : Session) : Session :=
  settleWithin (3 * session.calls.length + 3) session

def deadlines (session : Session) : List Nat :=
  session.calls.filterMap fun call =>
    match call.phase with
    | .handshake deadline => some deadline
    | _ => none

def advanceWithin : Nat → Nat → Session → Session
  | 0, target, session => (session.elapseTo target).settle
  | fuel + 1, target, session =>
      match Schedule.earliest? target (session.schedule.dueTimes ++ session.deadlines) with
      | some time => advanceWithin fuel target (session.elapseTo time).settle
      | none => session.elapseTo target

/-- Lets time pass; whatever falls due on the way happens in the order of its time. -/
def advance (session : Session) (span : Nat) : Session :=
  let session := session.settle
  advanceWithin (session.schedule.dueBound span + session.calls.length)
    (session.schedule.now + span) session

inductive SendOutcome where
  | sent
  | broken
  | dropped
  | noConnection
deriving DecidableEq, Repr, Inhabited

/-- The server sends on a connection; what it sends is lost once the connection has ended. -/
def serverSend (session : Session) (index : Nat) (bytes : Text.Bytes) : SendOutcome × Session :=
  match session.link.connections[index]? with
  | none => (.noConnection, session)
  | some connection =>
      match connection.view with
      | .dropped => (.dropped, session)
      | .ended => (.broken, session)
      | .openPipe =>
          if connection.serverFinished then (.broken, session)
          else (.sent, session.arrive index bytes)

end Session

end Messenger
