import Messenger.Conference.Room
import Messenger.Table

/-!
The rooms of a session. A packet for an unknown room is kept until the invitation comes, if the
policy keeps packets of its service. A room we have left is remembered by name: nothing but a new
invitation brings it back.
-/

namespace Messenger.Conference

structure BufferPolicy where
  declines : Bool := false
deriving DecidableEq, Repr, Inhabited

def BufferPolicy.buffers (policy : BufferPolicy) : Service → Bool
  | .confLogon => true
  | .confLogoff => true
  | .confMsg => true
  | .confDecline => policy.declines
  | _ => false

structure Store where
  rooms : Table String Room := ∅
  left : List String := []
  policy : BufferPolicy := {}
  /-- How many rooms have been created, as a word that starts anew when it is full. -/
  created : UInt64 := 0
deriving Repr, Inhabited

namespace Store

def services : List Service :=
  [.confInvite, .confAddInvite, .confLogon, .confLogoff, .confDecline, .confMsg]

def snapshot? (store : Store) (name : String) : Option Snapshot :=
  (store.rooms.find? name).map fun room => room.snapshot name

def roomNames (store : Store) : List String :=
  store.rooms.keys.mergeSort

def setRoom (store : Store) (name : String) (room : Room) : Store :=
  { store with rooms := store.rooms.insert name room }

def forget (store : Store) (name : String) : Store :=
  { store with
    rooms := store.rooms.erase name
    left := name :: store.left.filter (· != name) }

def receiveInvite (store : Store) (name : String) (packet : Packet) : Store × List Report :=
  let room := (store.rooms.find? name).getD {}
  let (room, reports) := room.invite name packet
  ({ store with left := store.left.filter (· != name) }.setRoom name room, reports)

def receiveUpdate (store : Store) (name : String) (packet : Packet) :
    Store × Except HandlerError (List Report) :=
  if name ∈ store.left then (store, .ok []) else
    match store.rooms.find? name with
    | none =>
        if store.policy.buffers packet.service then
          (store.setRoom name { pending := [packet] }, .ok [])
        else (store, .ok [])
    | some room =>
        if room.invited then
          match room.update name packet with
          | .error error => (store, .error error)
          | .ok (room, event) =>
              (store.setRoom name room,
                .ok (event.toList.map fun event => ⟨some packet.service, event⟩))
        else if store.policy.buffers packet.service then
          (store.setRoom name { room with pending := room.pending ++ [packet] }, .ok [])
        else (store, .ok [])

def receive (store : Store) (packet : Packet) : Store × Except HandlerError (List Report) :=
  match packet.require "57" with
  | .error error => (store, .error error)
  | .ok name =>
      if packet.service = .confInvite ∨ packet.service = .confAddInvite then
        let (store, reports) := store.receiveInvite name packet
        (store, .ok reports)
      else store.receiveUpdate name packet

end Store

end Messenger.Conference
