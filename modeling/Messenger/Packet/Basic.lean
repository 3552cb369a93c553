import Messenger.Service

/-!
A packet and its body. The body is a list of fields in wire order: a key may come several times,
and the n-th value of one key belongs to the n-th value of another.
-/

namespace Messenger

structure Body where
  fields : List (String × String) := []
deriving DecidableEq, Repr, Inhabited

namespace Body

def empty : Body := {}

def push (body : Body) (key value : String) : Body :=
  ⟨body.fields ++ [(key, value)]⟩

def getAll (body : Body) (key : String) : List String :=
  (body.fields.filter fun field => field.1 == key).map Prod.snd

def get? (body : Body) (key : String) : Option String :=
  (body.fields.find? fun field => field.1 == key).map Prod.snd

def getNth? (body : Body) (key : String) (index : Nat) : Option String :=
  (body.getAll key)[index]?

def contains (body : Body) (key : String) : Bool :=
  body.fields.any fun field => field.1 == key

def size (body : Body) : Nat :=
  body.fields.length

def isEmpty (body : Body) : Bool :=
  body.fields.isEmpty

@[simp] theorem getAll_push_self (body : Body) (key value : String) :
    (body.push key value).getAll key = body.getAll key ++ [value] := by
  simp [getAll, push]

@[simp] theorem getAll_push_of_ne (body : Body) {key other : String} (hne : key ≠ other)
    (value : String) : (body.push key value).getAll other = body.getAll other := by
  simp [getAll, push, hne]

theorem getAll_cons (key : String) (field : String × String) (rest : List (String × String)) :
    getAll ⟨field :: rest⟩ key = (if field.1 == key then [field.2] else []) ++ getAll ⟨rest⟩ key := by
  unfold getAll
  rw [List.filter_cons]
  split <;> rfl

theorem getAll_append (key : String) (first second : List (String × String)) :
    getAll ⟨first ++ second⟩ key = getAll ⟨first⟩ key ++ getAll ⟨second⟩ key := by
  simp [getAll]

theorem get?_eq_head? (body : Body) (key : String) :
    body.get? key = (body.getAll key).head? := by
  simp [get?, getAll]

theorem contains_iff_get? (body : Body) (key : String) :
    body.contains key = true ↔ (body.get? key).isSome = true := by
  simp [contains, get?, List.find?_isSome]

end Body

structure Packet where
  version : UInt16 := 12
  service : Service
  status : UInt32 := 0
  /-- Given out by the server; zero until then. -/
  sessionId : UInt32 := 0
  body : Body := {}
deriving DecidableEq, Repr, Inhabited

namespace Packet

def value? (packet : Packet) (key : String) : Option String :=
  packet.body.get? key

def has (packet : Packet) (key : String) : Bool :=
  packet.body.contains key

def request (service : Service) (fields : List (String × String)) : Packet :=
  { service, body := ⟨fields⟩ }

end Packet

end Messenger
