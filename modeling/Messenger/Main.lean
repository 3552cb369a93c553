import Messenger.Configuration.File
import Messenger.Event.Describe
import Messenger.Event.Line
import Messenger.Session.Run
import Std.Async.DNS
import Std.Async.Select
import Std.Async.Signal
import Std.Async.TCP
import Std.Async.Timer

/-!
The client on the command line. It logs in with the name and the password that the environment
holds, and shows every event until it is interrupted or the session ends.
-/

namespace Messenger.Console

open Std.Async

def defaultPath : String := "messenger.toml"

def readFile (path : String) : IO Configuration.File := do
  try
    let bytes ← IO.FS.readBinFile path
    return .content bytes.toList
  catch
    | .noFileOrDirectory .. => return .missing
    | _ => return .unreadable

def lineOf (display : Display) (report : Report) : String :=
  match display with
  | .text => report.event.describe
  | .json => report.line

def socketAddress (port : UInt16) : Std.Net.IPAddr → Std.Net.SocketAddress
  | .v4 addr => .v4 { addr, port }
  | .v6 addr => .v6 { addr, port }

def openSocket (server : Configuration.Server) : Async TCP.Socket.Client := do
  let addresses ← DNS.getAddrInfo server.host (toString server.port)
  let some address := addresses[0]? | throw (IO.userError "the host has no address")
  let socket ← TCP.Socket.Client.mk
  socket.connect (socketAddress server.port address)
  socket.noDelay
  return socket

def connect (server : Configuration.Server) : Async (Except String TCP.Socket.Client) := do
  try
    let opened ← Async.race (some <$> openSocket server) do
      sleep (.ofNat (1000 * server.connectTimeoutSecs.toNat))
      return none
    match opened with
    | some socket => return .ok socket
    | none => return .error s!"connect to {Configuration.address server} timed out"
  catch error => return .error error.toString

structure Client where
  socket : TCP.Socket.Client
  interrupt : Signal.Waiter
  display : Display
  started : Nat
  session : Session
  sent : Nat := 0
  shown : Nat := 0

namespace Client

def flush (client : Client) : Async Client := do
  for delivery in client.session.delivered.drop client.shown do
    IO.println (lineOf client.display delivery.report)
  let shown := client.session.delivered.length
  let written := client.session.link.connections.flatMap Connection.written
  let fresh := written.drop client.sent
  if !fresh.isEmpty then
    client.socket.send ⟨fresh.flatten.toArray⟩
  return { client with shown, sent := written.length }

def catchUp (client : Client) : Async Client := do
  let elapsed := (← IO.monoMsNow) - client.started
  return { client with session := client.session.advance (elapsed - client.session.schedule.now) }

/-- A session is over when its login has returned and it is not logged on. -/
def isOver (client : Client) : Bool :=
  !client.session.results.isEmpty && client.session.state != .loggedOn

inductive Input where
  | bytes (bytes : Option ByteArray)
  | pause
  | interrupt

def await (client : Client) : Async Input := do
  Selectable.one #[
    .case (client.socket.recvSelector 65536) fun bytes => return .bytes bytes,
    .case (← Selector.sleep 100) fun _ => return .pause,
    .case client.interrupt.selector fun _ => return .interrupt]

def takeIn (client : Client) : Input → Client
  | .bytes (some bytes) => { client with session := client.session.arrive 0 bytes.toList }
  | .bytes none => { client with session := client.session.finishServer 0 }
  | .pause => client
  | .interrupt => { client with session := client.session.logout }

partial def serve (client : Client) : Async Client := do
  let client ← (← client.catchUp).flush
  if client.isOver then return client
  serve (client.takeIn (← client.await))

end Client

def outcome (session : Session) : Bool × String :=
  match session.resultOf? 0 with
  | some (.error error) => (false, s!"login failed: {error.message}")
  | _ =>
      match session.failure with
      | some error => (true, s!"session ended: {error.message}")
      | none => (true, "session ended")

def runSession (configuration : Configuration) (username password : String) :
    Async Session := do
  let idle := Session.build configuration.sessionConfig ["console"] [.pending]
  let session := (idle.attachStore configuration.bufferPolicy).login username password
  if !session.results.isEmpty then return session
  let interrupt ← Signal.Waiter.mk .sigint false
  match ← connect configuration.server with
  | .error text => return session.resolveConnect 0 (.refused text)
  | .ok socket =>
      let session := session.resolveConnect 0 (.opened none)
      let started ← IO.monoMsNow
      return (← Client.serve
        { socket, interrupt, display := configuration.display, started, session }).session

def run (arguments : List String) : IO UInt32 := do
  match Configuration.load (← readFile (arguments.head?.getD defaultPath)) with
  | .error error =>
      IO.eprintln error.message
      return 1
  | .ok configuration =>
      match ← IO.getEnv "YMSG_USERNAME", ← IO.getEnv "YMSG_PASSWORD" with
      | some username, some password =>
          let (well, text) := outcome (← (runSession configuration username password).block)
          IO.eprintln text
          return if well then 0 else 1
      | _, _ =>
          IO.eprintln "YMSG_USERNAME and YMSG_PASSWORD must be set"
          return 1

end Messenger.Console

def main (arguments : List String) : IO UInt32 :=
  Messenger.Console.run arguments
