import Messenger.Conference.Requests
import Messenger.Dispatch.Registry
import Messenger.Event.Queue
import Messenger.Outbound.Link
import Messenger.Outbound.Schedule
import Messenger.Packet.Fragments
import Messenger.Session.State

/-!
A session with all that belongs to it: its connections and recurring requests, its handlers and
rooms, the events on their way to listeners, and the calls that have not returned yet. The journal
tells what has happened to it so far, the latest at the end.
-/

namespace Messenger

inductive Reaction where
  | challenge
  | authResponse
  | logon
  | roster
  | logoff
  | message
  | notify
  | newMail
  | friendAdded
  | friendRemoved
  | groupRenamed
  | contactNew
  | fileTransfer
  | statusChange
  | conference (store : Nat)
deriving DecidableEq, Repr, Inhabited

inductive Sending where
  | packet (packet : Packet)
  | ping
  | keepAlive
deriving DecidableEq, Repr, Inhabited

inductive ConnectOutcome where
  | opened (writeFault : Option String)
  | refused (text : String)
  | pending
deriving DecidableEq, Repr, Inhabited

/-- What a call waits for. -/
inductive Phase where
  | connecting (username : String)
  | announcing (ticket : Nat)
  | handshake (deadline : Nat)
  | leaving (ticket : Nat)
deriving DecidableEq, Repr, Inhabited

structure Call where
  number : Nat
  phase : Phase
deriving DecidableEq, Repr, Inhabited

structure CallResult where
  number : Nat
  result : Except SessionError Unit
deriving Inhabited

inductive Happening where
  | entered (state : SessionState)
  /-- A packet has come in on a connection and is about to be handled. -/
  | received (connection : Nat) (packet : Packet)
  | handled
  | submitted (connection : Nat) (packet : Packet)
  | reported (report : Report)
deriving DecidableEq, Repr, Inhabited

def defaultRegistry : Registry Reaction :=
  let statusServices := [Service.isAway, .isBack, .statusUpdate]
  let named : List (Service × Reaction) :=
    [(.auth, .challenge), (.authResp, .authResponse), (.list, .roster), (.logoff, .logoff),
     (.message, .message), (.notify, .notify), (.newMail, .newMail), (.friendAdd, .friendAdded),
     (.friendRemove, .friendRemoved), (.gotGroupRename, .groupRenamed), (.contactNew, .contactNew),
     (.fileTransfer, .fileTransfer)] ++ statusServices.map fun service => (service, .statusChange)
  let singles := named.foldl
    (fun registry entry => registry.register entry.1 entry.2) ({} : Registry Reaction)
  (singles.registerCollector .logon 0 .logon).registerPassthrough .ping

structure Session where
  config : SessionConfig := {}
  state : SessionState := .unstarted
  failure : Option SessionError := none
  username : Option String := none
  password : Option String := none
  registry : Registry Reaction := defaultRegistry
  link : Link Sending := {}
  schedule : Schedule Sending := {}
  events : EventQueue String := {}
  /-- The connection whose reader the session stops when it ends. -/
  reader : Option Nat := none
  working : Option Nat := none
  fragments : FragmentBuffer := .forList
  stores : List Conference.Store := []
  /-- What attempts to connect will come to, the next one first; past these, they succeed. -/
  outcomes : List ConnectOutcome := []
  calls : List Call := []
  callCount : Nat := 0
  results : List CallResult := []
  /-- Whether anybody but a running call still holds the session. -/
  held : Bool := true
  tickets : Nat := 0
  acknowledged : Table Nat (Except SendError Unit) := ∅
  delivered : List (Delivery String) := []
  journal : List Happening := []
deriving Inhabited

namespace Session

def build (config : SessionConfig) (listeners : List String) (outcomes : List ConnectOutcome) :
    Session :=
  { config, outcomes, events := { listeners } }

/-- A session lives while somebody holds it or a call runs. -/
def alive (session : Session) : Bool :=
  session.held || !session.calls.isEmpty

def user (session : Session) : String :=
  session.username.getD ""

def note (session : Session) (happening : Happening) : Session :=
  { session with journal := session.journal ++ [happening] }

/-- Goes over into a state, which is no event where the session is in it already. -/
def enter (session : Session) (state : SessionState) : Session :=
  { session with
    state
    journal :=
      if session.state = state then session.journal else session.journal ++ [.entered state] }

def report (session : Session) (service : Option Service) (event : Event) : Session :=
  { session with
    events := session.events.append ⟨service, event⟩
    journal :=
      if session.events.running then session.journal ++ [.reported ⟨service, event⟩]
      else session.journal }

def reportAll (session : Session) (reports : List Report) : Session :=
  reports.foldl (fun session entry => session.report entry.service entry.event) session

def fail (session : Session) (error : SessionError) : Session :=
  { session with failure := some error }.enter .failed

def enqueue (session : Session) (outgoing : Outgoing Sending) : Session :=
  { session with
    link := (session.link.enqueue? outgoing).getD session.link
    journal := session.journal ++
      session.link.writer.toList.map fun index => .submitted index outgoing.packet }

def execute (session : Session) (sending : Sending) (packet : Packet) : Session :=
  session.enqueue ⟨packet, .request sending⟩

def submit (session : Session) (packet : Packet) : Nat × Session :=
  let ticket := session.tickets
  let session := { session with tickets := ticket + 1 }
  if session.link.isAttached then (ticket, session.enqueue ⟨packet, .ticket ticket⟩)
  else
    (ticket, { session with
      acknowledged := session.acknowledged.insert ticket (.error .notConnected) })

/-- Stops the session's reader: at once, or after the frames that are there if it is the reader
itself that ends the session. -/
def stopReader (session : Session) : Session :=
  { session with
    reader := none
    link :=
      match session.reader with
      | none => session.link
      | some index =>
          let next : Reader := if session.working = some index then .stopping else .stopped
          session.link.modify index fun connection => { connection with reader := next } }

/-- Stops all that runs in the background. Reports already accepted are still delivered, and
packets already accepted still written. -/
def teardown (session : Session) : Session :=
  let quiet := { session with
    schedule := session.schedule.cancelAll
    link := session.link.detach
    events := session.events.kill
    fragments := session.fragments.clear }
  quiet.stopReader

def release (session : Session) : Session :=
  { session with events := session.events.kill }.stopReader

def drop (session : Session) : Session :=
  let session := { session with held := false }
  if session.alive then session else session.release

def attachStore (session : Session) (policy : Conference.BufferPolicy) : Session :=
  let reaction := Reaction.conference session.stores.length
  { session with
    stores := session.stores ++ [{ policy }]
    registry := Conference.Store.services.foldl
      (fun registry service => registry.register service reaction) session.registry }

def loggedOnUser (session : Session) : Except Conference.ConferenceError String :=
  if session.alive && session.state = .loggedOn then
    match session.username with
    | some user => .ok user
    | none => .error .notLoggedOn
  else .error .notLoggedOn

end Session

end Messenger
