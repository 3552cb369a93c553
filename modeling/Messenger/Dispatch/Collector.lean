import Messenger.Packet.Merge

/-!
Packets that are held until one of them has the status that closes the cycle, and then joined.
-/

namespace Messenger

structure Collector where
  proceedStatus : UInt32
  policy : MergePolicy := {}
  pending : List Packet := []
deriving Repr, Inhabited

namespace Collector

def join (policy : MergePolicy) : List Packet → Option Packet
  | [] => none
  | first :: rest => some (rest.foldl (Packet.mergeWith policy) first)

/-- The packet that completes a cycle yields the whole cycle, joined under the first header. -/
def offer (collector : Collector) (packet : Packet) : Option Packet × Collector :=
  let held := collector.pending ++ [packet]
  if packet.status = collector.proceedStatus then
    (join collector.policy held, { collector with pending := [] })
  else
    (none, { collector with pending := held })

end Collector

end Messenger
