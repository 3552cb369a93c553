import Messenger.Frame.Stream

/-!
The connections of a session and the line of packets that wait to be written on each. A packet is
stamped with the session id of the moment it is written, and whoever sent it learns the outcome.
-/

namespace Messenger

open Text (Bytes)

inductive SendError where
  | notConnected
  | encode (error : FrameError)
  | write (text : String)
  | build (text : String)
deriving DecidableEq, Repr, Inhabited

namespace SendError

def message : SendError → String
  | notConnected => "not connected"
  | encode error => s!"failed to encode request: {error.message}"
  | write text => s!"transport write failed: {text}"
  | build text => s!"failed to build request: {text}"

end SendError

inductive Reply (ρ : Type) where
  | ticket (number : Nat)
  | request (request : ρ)
deriving DecidableEq, Repr, Inhabited

structure Outgoing (ρ : Type) where
  packet : Packet
  reply : Reply ρ
deriving DecidableEq, Repr, Inhabited

/-- The side of a connection that reads. One that stops by its own doing goes on with the frames
that are already there. -/
inductive Reader where
  | running
  | stopping
  | stopped
deriving DecidableEq, Repr, Inhabited

inductive ServerView where
  | openPipe
  | ended
  | dropped
deriving DecidableEq, Repr, Inhabited

structure Connection (ρ : Type) where
  queue : List (Outgoing ρ) := []
  closed : Bool := false
  written : List Bytes := []
  writeFault : Option String := none
  serverGone : Bool := false
  inbound : Bytes := []
  inboundEnd : Option StreamEnd := none
  serverFinished : Bool := false
  reader : Reader := .running
deriving DecidableEq, Repr, Inhabited

namespace Connection

variable {ρ : Type}

def writeError? (connection : Connection ρ) : Option String :=
  match connection.writeFault with
  | some text => some text
  | none => if connection.serverGone then some "broken pipe" else none

/-- A connection has ended for the server when neither its reader nor its writer is left. -/
def view (connection : Connection ρ) : ServerView :=
  if connection.serverGone then .dropped
  else if connection.closed && connection.reader = .stopped then .ended
  else .openPipe

def write (connection : Connection ρ) (sessionId : UInt32) (packet : Packet) :
    Except SendError Unit × Connection ρ :=
  match Frame.encode { packet with sessionId } with
  | .error error => (.error (.encode error), connection)
  | .ok bytes =>
      match connection.writeError? with
      | some text => (.error (.write text), connection)
      | none => (.ok (), { connection with written := connection.written ++ [bytes] })

def sent (connection : Connection ρ) : List Packet :=
  connection.written.filterMap fun frame => (Frame.decodeWhole frame).toOption

end Connection

structure Link (ρ : Type) where
  connections : List (Connection ρ) := []
  writer : Option Nat := none
  sessionId : UInt32 := 0
deriving DecidableEq, Repr, Inhabited

namespace Link

variable {ρ : Type}

def isAttached (link : Link ρ) : Bool :=
  link.writer.isSome

def modify (link : Link ρ) (index : Nat) (change : Connection ρ → Connection ρ) : Link ρ :=
  { link with connections := link.connections.modify index change }

def attach (link : Link ρ) (connection : Connection ρ) : Link ρ :=
  { link with
    connections := link.connections ++ [connection]
    writer := some link.connections.length }

/-- No connection takes packets; those already accepted are still written. -/
def detach (link : Link ρ) : Link ρ :=
  { link with writer := none }

def enqueue (link : Link ρ) (index : Nat) (outgoing : Outgoing ρ) : Link ρ :=
  link.modify index fun connection =>
    { connection with queue := connection.queue ++ [outgoing] }

def enqueue? (link : Link ρ) (outgoing : Outgoing ρ) : Option (Link ρ) :=
  link.writer.map fun index => link.enqueue index outgoing

def writable? (link : Link ρ) : Option Nat :=
  link.connections.findIdx? fun connection => !connection.queue.isEmpty

structure Written (ρ : Type) where
  outgoing : Outgoing ρ
  result : Except SendError Unit

def writeNext? (link : Link ρ) (index : Nat) : Option (Written ρ × Link ρ) :=
  match link.connections[index]? with
  | none => none
  | some connection =>
      match connection.queue with
      | [] => none
      | outgoing :: rest =>
          let (result, connection) :=
            { connection with queue := rest }.write link.sessionId outgoing.packet
          some (⟨outgoing, result⟩, link.modify index fun _ => connection)

/-- Whether a connection's writer is done: it takes no packets and none waits. -/
def canClose (link : Link ρ) (index : Nat) : Bool :=
  match link.connections[index]? with
  | some connection =>
      !connection.closed && link.writer != some index && connection.queue.isEmpty
  | none => false

def closable? (link : Link ρ) : Option Nat :=
  (List.range link.connections.length).find? link.canClose

def close (link : Link ρ) (index : Nat) : Link ρ :=
  if link.canClose index then
    link.modify index fun connection => { connection with closed := true }
  else link

end Link

end Messenger
