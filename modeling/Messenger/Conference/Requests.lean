import Messenger.Conference.Store

/-!
What a user does with rooms: each request changes the store and yields the packet to send.
-/

namespace Messenger.Conference

inductive ConferenceError where
  | unknownConference (room : String)
  | notLoggedOn
deriving DecidableEq, Repr, Inhabited

namespace ConferenceError

def message : ConferenceError → String
  | unknownConference room => s!"conference {room} not found"
  | notLoggedOn => "session is not logged on"

end ConferenceError

inductive Request where
  | create (users : List String) (message : String)
  | invite (room user message : String)
  | accept (room : String)
  | decline (room message : String)
  | leave (room : String)
  | say (room text : String)
deriving DecidableEq, Repr, Inhabited

def isAscii (text : String) : Bool :=
  text.toList.all fun c => c.toNat < 128

namespace Store

def known (store : Store) (name : String) : Except ConferenceError Room :=
  match store.rooms.find? name with
  | some room => .ok room
  | none => .error (.unknownConference name)

/-- Fields that address every member of a room under one key. -/
def memberFields (user : String) (room : Room) (key name : String) : List (String × String) :=
  ("1", user) :: room.members.map (fun member => (key, member)) ++ [("57", name)]

/-- Opens a room of our own; its name is the user's with a number. -/
def create (store : Store) (user : String) (users : List String) (message : String) :
    String × Packet × Store :=
  let name := s!"{user}-{store.created}"
  let room := { invited := true, inviter := some user : Room }.addMembers users
  let fields := [("1", user), ("50", user)] ++ users.map (fun invited => ("52", invited)) ++
    [("57", name), ("58", message), ("13", "0")]
  (name, .request .confInvite fields,
    { store with created := store.created + 1 }.setRoom name room)

def invite (store : Store) (user name invited message : String) :
    Except ConferenceError (Packet × Store) := do
  let room ← store.known name
  let members := room.members.flatMap fun member => [("52", member), ("53", member)]
  let fields := [("1", user), ("51", invited), ("57", name)] ++ members ++
    [("58", message), ("13", "0")]
  return (.request .confAddInvite fields, store)

def accept (store : Store) (user name : String) : Except ConferenceError (Packet × Store) := do
  let room ← store.known name
  return (.request .confLogon (memberFields user room "3" name), store)

def close (store : Store) (name : String) (room : Room) : Store :=
  (store.setRoom name { room with closed := true }).forget name

def decline (store : Store) (user name message : String) :
    Except ConferenceError (Packet × Store) := do
  let room ← store.known name
  return (.request .confDecline (memberFields user room "3" name ++ [("14", message)]),
    store.close name room)

def leave (store : Store) (user name : String) : Except ConferenceError (Packet × Store) := do
  let room ← store.known name
  return (.request .confLogoff (memberFields user room "3" name), store.close name room)

/-- A message that is not plain ASCII is marked as such. -/
def say (store : Store) (user name text : String) : Except ConferenceError (Packet × Store) := do
  let room ← store.known name
  let encoding := if isAscii text then [] else [("97", "1")]
  return (.request .confMsg (memberFields user room "53" name ++ [("14", text)] ++ encoding),
    store)

end Store

end Messenger.Conference
