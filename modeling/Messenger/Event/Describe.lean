import Messenger.Event.Basic
import Messenger.Text.Quoted

/-!
Events in words. The common ones have a phrase of their own; the others show their data as a
record, with every text in quotation marks.
-/

namespace Messenger

namespace Datum

def shown : Datum → String
  | text value => Text.quote value
  | maybe none => "None"
  | maybe (some value) => s!"Some({Text.quote value})"
  | texts values =>
      let shown := String.intercalate ", " (values.map Text.quote)
      s!"[{shown}]"
  | flag value => if value then "true" else "false"
  | number value => toString value.toNat
  | service value => value.display
  | packet value => value.service.display

end Datum

namespace Event

def title : Event → String
  | loggedOn .. => "LoggedOn"
  | connectionClosed .. => "ConnectionClosed"
  | listReceived .. => "ListReceived"
  | message .. => "Message"
  | statusUpdate .. => "StatusUpdate"
  | typing .. => "Typing"
  | newMail .. => "NewMail"
  | friendAdded .. => "FriendAdded"
  | friendRemoved .. => "FriendRemoved"
  | groupRenamed .. => "GroupRenamed"
  | contactRequest .. => "ContactRequest"
  | fileTransfer .. => "FileTransfer"
  | conferenceInvite .. => "ConferenceInvite"
  | conferenceLogon .. => "ConferenceLogon"
  | conferenceLogoff .. => "ConferenceLogoff"
  | conferenceDecline .. => "ConferenceDecline"
  | conferenceMessage .. => "ConferenceMessage"
  | error .. => "Error"
  | exception .. => "Exception"

def record (event : Event) : String :=
  let data := event.data.map fun datum => s!"{datum.1}: {datum.2.shown}"
  let shown := String.intercalate ", " data
  s!"{event.title} \x7b {shown} \x7d"

def describe : Event → String
  | loggedOn username => s!"logged on as {username}"
  | connectionClosed reason => s!"connection closed: {reason}"
  | listReceived list => s!"roster received ({list.body.size} fields)"
  | message sender _ text true => s!"[offline] {sender}: {text}"
  | message sender _ text false => s!"{sender}: {text}"
  | statusUpdate user status note online =>
      let state := if online then "online" else "offline"
      match note with
      | some text => s!"{user} is {state} ({status.toNat}) {text}"
      | none => s!"{user} is {state} ({status.toNat})"
  | newMail count => s!"{count.toNat} new mail(s)"
  | conferenceMessage room sender text => s!"[{room}] {sender}: {text}"
  | error service text => s!"server error on {service.display}: {text}"
  | event => event.record

end Event

end Messenger
