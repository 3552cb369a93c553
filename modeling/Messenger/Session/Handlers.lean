import Messenger.Session.Basic
import Messenger.Text.Numeral

/-!
What a session makes of the packets it receives. The packets of the login drive its state; the
others become events.
-/

namespace Messenger

namespace Packet

/-- The friends a packet speaks of. The n-th friend goes with the n-th status and the n-th text. -/
def friendStatuses (packet : Packet) (online : Bool) : List Event :=
  let statuses := (packet.body.getAll "10").toArray
  let notes := (packet.body.getAll "19").toArray
  (packet.body.getAll "7").mapIdx fun index user =>
    let status := statuses[index]?.bind fun text => Text.word32? (Text.trim text)
    .statusUpdate user (status.getD 0) notes[index]? online

def serverError (packet : Packet) : List Event :=
  (packet.value? "16").toList.map fun text => .error packet.service text

end Packet

namespace Session

/-- The status of messages that were kept while we were away. -/
def offlineStatus : UInt32 := 0x5A55AA56

def reportEvents (session : Session) (service : Service) (events : List Event) : Session :=
  events.foldl (fun session event => session.report (some service) event) session

def markLoggedOn (session : Session) : Session :=
  if session.state = .connected then
    (session.enter .loggedOn).report (some .logon) (.loggedOn session.user)
  else session

def authResponse (session : Session) (response : Auth.Response) : Packet :=
  { Packet.request .authResp
      [("0", session.user), ("6", response.plain), ("96", response.crypt),
       ("135", session.config.clientVersion), ("2", "1"), ("1", session.user)] with
    status := session.config.initialStatus }

def onChallenge (session : Session) (packet : Packet) : Session :=
  if session.state ≠ .connecting then session else
    match packet.value? "94" with
    | none => session.fail (.malformed "AUTH challenge without field 94")
    | some challenge =>
        let version := Auth.Version.ofFlag (packet.value? "13")
        match Auth.respond version session.user (session.password.getD "") challenge with
        | .error error => session.fail (.challenge error)
        | .ok response =>
            let answer := session.authResponse response
            (session.enter .connected).execute (.packet answer) answer

def onAuthResponse (session : Session) (packet : Packet) : Session :=
  match packet.value? "66" with
  | none => session
  | some text =>
      let code := (Text.int64? (Text.trim text)).getD (-1)
      if code = 0 || !session.state.isLoggingIn then session
      else session.fail (.rejected (.ofCode code (packet.value? "20")))

def onLogon (session : Session) (packet : Packet) : Session :=
  (session.reportEvents packet.service
    (packet.serverError ++ packet.friendStatuses true)).markLoggedOn

def onRoster (session : Session) (packet : Packet) : Session :=
  let (complete, fragments) := session.fragments.offer packet
  let session := { session with fragments }
  match complete with
  | none => session
  | some list => (session.report (some .list) (.listReceived list)).markLoggedOn

def onLogoff (session : Session) (packet : Packet) : Session :=
  if packet.has "7" then session.reportEvents packet.service (packet.friendStatuses false) else
    match session.state with
    | .loggedOn =>
        ((session.enter .unstarted).report (some .logoff)
          (.connectionClosed "session ended by server")).teardown
    | .connecting => session.fail .connectionClosed
    | .connected => session.fail .connectionClosed
    | _ => session

/-- A packet may bring several messages; the n-th sender and recipient go with the n-th text. -/
def messageEvents (packet : Packet) : List Event :=
  let senders := (packet.body.getAll "4").toArray
  let accounts := (packet.body.getAll "1").toArray
  let recipients := (packet.body.getAll "5").toArray
  (packet.body.getAll "14").mapIdx fun index text =>
    let sender := senders[index]?.orElse fun () => accounts[index]?
    .message (sender.getD "") (recipients[index]?.getD "") text (packet.status = offlineStatus)

def sameWord (first second : String) : Bool :=
  first.toList.map Char.toLower == second.toList.map Char.toLower

def notifyEvents (packet : Packet) : Except HandlerError (List Event) :=
  if (packet.value? "49").any (sameWord "TYPING") then
    (packet.require "4").map fun sender =>
      [.typing sender ((packet.value? "5").getD "") (packet.value? "13" = some "1")]
  else .ok []

def newMailEvents (packet : Packet) : Except HandlerError (List Event) :=
  match packet.value? "9" with
  | none => .ok [.newMail 0]
  | some text =>
      match Text.word32? (Text.trim text) with
      | some count => .ok [.newMail count]
      | none => .error (.invalidField .newMail "9" text)

def groupRenamedEvents (packet : Packet) : List Event :=
  match packet.value? "67", packet.value? "65" with
  | some oldName, some newName => [.groupRenamed oldName newName]
  | _, _ => []

def contactEvents (packet : Packet) : Except HandlerError (List Event) :=
  if packet.body.isEmpty then .ok []
  else if packet.has "7" then .ok (packet.friendStatuses true)
  else (packet.require "3").map fun sender => [.contactRequest sender (packet.value? "14")]

/-- Without a time of expiry the packet only confirms an upload of our own. -/
def fileTransferEvents (packet : Packet) : List Event :=
  let sender := (packet.value? "4").getD ""
  if packet.has "38" then
    [.fileTransfer sender (packet.value? "20") (packet.value? "27") (packet.value? "14")]
  else
    [.message sender ((packet.value? "5").getD "") ((packet.value? "14").getD "") false]

def reportResult (session : Session) (service : Service)
    (events : Except HandlerError (List Event)) : Session × Except HandlerError Unit :=
  match events with
  | .ok events => (session.reportEvents service events, .ok ())
  | .error error => (session, .error error)

def reportFriend (session : Session) (packet : Packet)
    (event : String → Option String → Event) : Session × Except HandlerError Unit :=
  (session.reportEvents packet.service packet.serverError).reportResult packet.service
    ((packet.require "7").map fun friend => [event friend (packet.value? "65")])

def onConference (session : Session) (store : Nat) (packet : Packet) :
    Session × Except HandlerError Unit :=
  match session.stores[store]? with
  | none => (session, .ok ())
  | some rooms =>
      let (rooms, result) := rooms.receive packet
      let session := { session with stores := session.stores.set store rooms }
      match result with
      | .ok reports => (session.reportAll reports, .ok ())
      | .error error => (session, .error error)

/-- The default handlers need a living session; rooms do not. -/
def react (session : Session) (reaction : Reaction) (packet : Packet) :
    Session × Except HandlerError Unit :=
  match reaction with
  | .conference store => session.onConference store packet
  | reaction =>
      if !session.alive then (session, .error .sessionGone) else
        match reaction with
        | .challenge => (session.onChallenge packet, .ok ())
        | .authResponse => (session.onAuthResponse packet, .ok ())
        | .logon => (session.onLogon packet, .ok ())
        | .roster => (session.onRoster packet, .ok ())
        | .logoff => (session.onLogoff packet, .ok ())
        | .message =>
            (session.reportEvents packet.service (packet.serverError ++ messageEvents packet),
              .ok ())
        | .notify => session.reportResult .notify (notifyEvents packet)
        | .newMail => session.reportResult .newMail (newMailEvents packet)
        | .friendAdded => session.reportFriend packet .friendAdded
        | .friendRemoved => session.reportFriend packet .friendRemoved
        | .groupRenamed => session.reportResult .gotGroupRename (.ok (groupRenamedEvents packet))
        | .contactNew => session.reportResult packet.service (contactEvents packet)
        | .fileTransfer => session.reportResult .fileTransfer (.ok (fileTransferEvents packet))
        | .statusChange =>
            (session.reportEvents packet.service
              (packet.serverError ++ packet.friendStatuses true), .ok ())
        | .conference _ => (session, .ok ())

def dispatch (session : Session) (packet : Packet) : Session × Except HandlerError Outcome :=
  let (route, registry) := session.registry.route packet
  let session := { session with registry }
  match route with
  | .react reaction packet =>
      let (session, result) := session.react reaction packet
      (session, result.map fun () => .handled)
  | .collected => (session, .ok .collected)
  | .passthrough => (session, .ok .passthrough)
  | .unregistered => (session, .ok .unregistered)

def handle (session : Session) (packet : Packet) : Session :=
  match session.dispatch packet with
  | (session, .ok _) => session
  | (session, .error error) => session.report (some packet.service) (.exception error.message)

def adopt (session : Session) (sessionId : UInt32) : Session :=
  if sessionId ≠ 0 then { session with link := { session.link with sessionId } } else session

/-- Takes in a packet from a connection. A session id that differs from ours is adopted before the
packet is handled. -/
def receive (session : Session) (connection : Nat) (packet : Packet) : Session :=
  (((session.note (.received connection packet)).adopt packet.sessionId).handle packet).note
    .handled

end Session

end Messenger
