import Messenger.Packet.Merge

/-!
Responses that arrive in pieces. One unfinished response is kept for each service; the piece that
carries the terminal key completes it.
-/

namespace Messenger

structure FragmentBuffer where
  policy : MergePolicy
  terminalKey : String
  inProgress : Table Service Packet := ∅
deriving Repr, Inhabited

namespace FragmentBuffer

/-- The roster: its friend, ignore and identity lists are cut anywhere inside their values. -/
def forList : FragmentBuffer where
  policy := .concatenating ["87", "88", "89"]
  terminalKey := "59"

def isPending (buffer : FragmentBuffer) (service : Service) : Bool :=
  buffer.inProgress.contains service

def clear (buffer : FragmentBuffer) : FragmentBuffer :=
  { buffer with inProgress := ∅ }

def offer (buffer : FragmentBuffer) (packet : Packet) : Option Packet × FragmentBuffer :=
  let merged :=
    match buffer.inProgress.find? packet.service with
    | some primary => primary.mergeWith buffer.policy packet
    | none => packet
  if packet.has buffer.terminalKey then
    (some merged, { buffer with inProgress := buffer.inProgress.erase packet.service })
  else
    (none, { buffer with inProgress := buffer.inProgress.insert packet.service merged })

end FragmentBuffer

end Messenger
