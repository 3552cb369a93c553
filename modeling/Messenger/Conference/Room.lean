import Messenger.Dispatch.HandlerError
import Messenger.Event.Basic

/-!
One conversation of several users. Until the invitation to it has arrived, a room only holds the
packets that came too early.
-/

namespace Messenger.Conference

structure Room where
  invited : Bool := false
  /-- A closed room takes part in no event. -/
  closed : Bool := false
  inviter : Option String := none
  members : List String := []
  pending : List Packet := []
deriving DecidableEq, Repr, Inhabited

structure Snapshot where
  room : String
  invited : Bool
  inviter : Option String
  members : List String
  pending : Nat
deriving DecidableEq, Repr, Inhabited

namespace Room

def addMember (room : Room) (user : String) : Room :=
  if user ∈ room.members then room else { room with members := room.members ++ [user] }

def removeMember (room : Room) (user : String) : Room :=
  { room with members := room.members.filter (· != user) }

def addMembers (room : Room) (users : List String) : Room :=
  users.foldl addMember room

def snapshot (room : Room) (name : String) : Snapshot where
  room := name
  invited := room.invited
  inviter := room.inviter
  members := room.members
  pending := room.pending.length

def update (room : Room) (name : String) (packet : Packet) :
    Except HandlerError (Room × Option Event) :=
  let shown (room : Room) (event : Event) := (room, if room.closed then none else some event)
  match packet.service with
  | .confLogon =>
      (packet.require "53").map fun user =>
        shown (room.addMember user) (.conferenceLogon name user)
  | .confLogoff =>
      (packet.require "56").map fun user =>
        shown (room.removeMember user) (.conferenceLogoff name user)
  | .confDecline =>
      (packet.require "54").map fun user =>
        shown (room.removeMember user) (.conferenceDecline name user (packet.value? "14"))
  | .confMsg =>
      (packet.require "3").map fun sender =>
        shown room (.conferenceMessage name sender ((packet.value? "14").getD ""))
  | _ => .ok (room, none)

/-- Applies a packet that came too early; one that lacks a field is passed over. -/
def replay (name : String) (state : Room × List Report) (packet : Packet) : Room × List Report :=
  match state.1.update name packet with
  | .error _ => state
  | .ok (room, event) =>
      (room, state.2 ++ event.toList.map fun event => ⟨some packet.service, event⟩)

def invite (room : Room) (name : String) (packet : Packet) : Room × List Report :=
  let inviter := (packet.value? "50").getD ""
  let members := packet.body.getAll "52"
  let known :=
    if inviter = "" then room
    else { room with inviter := some inviter }.addMember inviter
  let joined := { known with invited := true }.addMembers members
  let event := Event.conferenceInvite name inviter members (packet.value? "58")
  joined.pending.foldl (replay name)
    ({ joined with pending := [] }, [⟨some packet.service, event⟩])

end Room

end Messenger.Conference
