import Messenger.Event.Line

/-!
The call by which a listener with one entry for each kind of event learns of an event.
-/

namespace Messenger

open Text (Json)

structure Callback where
  name : String
  arguments : List Json
deriving Repr, Inhabited

namespace Event

def callbackName : Event → String
  | listReceived .. => "on_list"
  | event => "on_" ++ event.tag

/-- A message and a change of status come as one value, a file transfer as the event it is; an
invitation leaves out its message. -/
def callbackArguments (event : Event) : List Json :=
  match event with
  | message .. => [.obj event.dataJson]
  | statusUpdate .. => [.obj event.dataJson]
  | fileTransfer .. => [event.json]
  | conferenceInvite room inviter members _ =>
      [.str room, .str inviter, .arr (members.map .str)]
  | event => event.dataJson.map Prod.snd

def callback (event : Event) : Callback :=
  ⟨event.callbackName, event.callbackArguments⟩

end Event

end Messenger
