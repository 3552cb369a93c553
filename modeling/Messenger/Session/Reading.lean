import Messenger.Session.Handlers

/-!
The reader of a connection: it takes one frame at a time off the bytes that have arrived, and stops
at the end of the stream.
-/

namespace Messenger.Session

def loseConnection (session : Session) (error : ReadError) : Session :=
  match session.state with
  | .connecting => session.fail (.transport error.message)
  | .connected => session.fail (.transport error.message)
  | .loggedOn =>
      (((session.report none (.exception error.message)).report none
        (.connectionClosed error.message)).fail (.transport error.message)).teardown
  | _ => session

def stopReading (session : Session) (connection : Nat) : Session :=
  { session with
    link := session.link.modify connection fun connection =>
      { connection with reader := .stopped } }

/-- A malformed frame ends a login; after that it is passed over. -/
def readResult (session : Session) (connection : Nat) :
    Except FrameError Packet → Session
  | .ok packet => session.receive connection packet
  | .error error =>
      if session.state.isLoggingIn then
        (session.fail (.malformed error.message)).stopReading connection
      else session

def startReading (session : Session) (index : Nat) (rest : Text.Bytes) : Session :=
  { session with
    working := some index
    link := session.link.modify index fun connection => { connection with inbound := rest } }

def takeFrame (session : Session) (index : Nat) (result : Except FrameError Packet)
    (rest : Text.Bytes) : Session :=
  { (session.startReading index rest).readResult index result with working := none }

def meetEnd (session : Session) (index : Nat) (finish : StreamEnd) : Session :=
  let lost := { session with working := some index }.loseConnection finish.error
  { lost with working := none }.stopReading index

def readNext? (session : Session) (index : Nat) : Option Session :=
  match session.link.connections[index]? with
  | none => none
  | some connection =>
      if connection.reader = .stopped then none else
        match Frame.readPacket? connection.inbound with
        | some (result, rest) => some (session.takeFrame index result rest)
        | none => connection.inboundEnd.map (session.meetEnd index)

def canRead (session : Session) (index : Nat) : Bool :=
  match session.link.connections[index]? with
  | none => false
  | some connection =>
      connection.reader != .stopped &&
        ((Frame.split? connection.inbound).isSome || connection.inboundEnd.isSome)

def isStopping (session : Session) (index : Nat) : Bool :=
  match session.link.connections[index]? with
  | some connection => connection.reader = .stopping
  | none => false

/-- A reader that has ended its own session reads what is there, and then stops. -/
def readOut : Nat → Session → Nat → Session
  | 0, session, index => session.stopReading index
  | fuel + 1, session, index =>
      if session.isStopping index then
        match session.readNext? index with
        | some next => readOut fuel next index
        | none => session.stopReading index
      else session

/-- How many frames can be waiting on a connection, at most, with its end. -/
def readBound (session : Session) (index : Nat) : Nat :=
  match session.link.connections[index]? with
  | some connection => connection.inbound.length / Frame.headerSize + 1
  | none => 0

def read? (session : Session) (index : Nat) : Option Session :=
  (session.readNext? index).map fun next =>
    if next.isStopping index then readOut (next.readBound index) next index else next

end Messenger.Session
