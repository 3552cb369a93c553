import Messenger.Packet.Basic

/-!
What a session reports. Each event has a tag and named data in a fixed order; everything that is
shown of an event is made from these.
-/

namespace Messenger

inductive Event where
  | loggedOn (username : String)
  | connectionClosed (reason : String)
  | listReceived (list : Packet)
  | message (sender recipient text : String) (offline : Bool)
  | statusUpdate (user : String) (status : UInt32) (message : Option String) (online : Bool)
  | typing (sender recipient : String) (typing : Bool)
  | newMail (count : UInt32)
  | friendAdded (friend : String) (group : Option String)
  | friendRemoved (friend : String) (group : Option String)
  | groupRenamed (oldName newName : String)
  | contactRequest (sender : String) (message : Option String)
  | fileTransfer (sender : String) (url filename message : Option String)
  | conferenceInvite (room inviter : String) (members : List String) (message : Option String)
  | conferenceLogon (room user : String)
  | conferenceLogoff (room user : String)
  | conferenceDecline (room user : String) (message : Option String)
  | conferenceMessage (room sender text : String)
  | error (service : Service) (message : String)
  /-- A fault of the session itself, once it is logged on. -/
  | exception (message : String)
deriving DecidableEq, Repr, Inhabited

inductive Datum where
  | text (value : String)
  | maybe (value : Option String)
  | texts (values : List String)
  | flag (value : Bool)
  | number (value : UInt32)
  | service (value : Service)
  | packet (value : Packet)
deriving DecidableEq, Repr, Inhabited

namespace Event

def tag : Event → String
  | loggedOn .. => "logged_on"
  | connectionClosed .. => "connection_closed"
  | listReceived .. => "list_received"
  | message .. => "message"
  | statusUpdate .. => "status_update"
  | typing .. => "typing"
  | newMail .. => "new_mail"
  | friendAdded .. => "friend_added"
  | friendRemoved .. => "friend_removed"
  | groupRenamed .. => "group_renamed"
  | contactRequest .. => "contact_request"
  | fileTransfer .. => "file_transfer"
  | conferenceInvite .. => "conference_invite"
  | conferenceLogon .. => "conference_logon"
  | conferenceLogoff .. => "conference_logoff"
  | conferenceDecline .. => "conference_decline"
  | conferenceMessage .. => "conference_message"
  | error .. => "error"
  | exception .. => "exception"

def data : Event → List (String × Datum)
  | loggedOn username => [("username", .text username)]
  | connectionClosed reason => [("reason", .text reason)]
  | listReceived list => [("list", .packet list)]
  | message sender recipient text offline =>
      [("from", .text sender), ("to", .text recipient), ("text", .text text),
       ("offline", .flag offline)]
  | statusUpdate user status note online =>
      [("user", .text user), ("status", .number status), ("message", .maybe note),
       ("online", .flag online)]
  | typing sender recipient active =>
      [("from", .text sender), ("to", .text recipient), ("typing", .flag active)]
  | newMail count => [("count", .number count)]
  | friendAdded friend group => [("friend", .text friend), ("group", .maybe group)]
  | friendRemoved friend group => [("friend", .text friend), ("group", .maybe group)]
  | groupRenamed oldName newName => [("old_name", .text oldName), ("new_name", .text newName)]
  | contactRequest sender note => [("from", .text sender), ("message", .maybe note)]
  | fileTransfer sender url filename note =>
      [("from", .text sender), ("url", .maybe url), ("filename", .maybe filename),
       ("message", .maybe note)]
  | conferenceInvite room inviter members note =>
      [("room", .text room), ("inviter", .text inviter), ("members", .texts members),
       ("message", .maybe note)]
  | conferenceLogon room user => [("room", .text room), ("user", .text user)]
  | conferenceLogoff room user => [("room", .text room), ("user", .text user)]
  | conferenceDecline room user note =>
      [("room", .text room), ("user", .text user), ("message", .maybe note)]
  | conferenceMessage room sender text =>
      [("room", .text room), ("from", .text sender), ("text", .text text)]
  | error service text => [("service", .service service), ("message", .text text)]
  | exception text => [("message", .text text)]

end Event

structure Report where
  service : Option Service
  event : Event
deriving DecidableEq, Repr, Inhabited

end Messenger
