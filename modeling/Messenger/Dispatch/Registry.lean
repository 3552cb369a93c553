import Messenger.Dispatch.Collector
import Messenger.Dispatch.HandlerError

/-!
Which handler a packet goes to. The handler installed last for a service is the one that counts.
A handler is named by a reaction; what the reaction does is left to the one who dispatches, so the
registry can be changed while a packet is handled.
-/

namespace Messenger

inductive Handler (ρ : Type) where
  | single (reaction : ρ)
  /-- One of the registry's collectors; several services may share it. -/
  | collect (collector : Nat)
  | passthrough
deriving DecidableEq, Repr, Inhabited

inductive Route (ρ : Type) where
  | react (reaction : ρ) (packet : Packet)
  | collected
  | passthrough
  | unregistered
deriving DecidableEq, Repr, Inhabited

inductive Outcome where
  | handled
  | collected
  | passthrough
  | unregistered
deriving DecidableEq, Repr, Inhabited

structure Collecting (ρ : Type) where
  collector : Collector
  reaction : ρ
deriving Repr, Inhabited

structure Registry (ρ : Type) where
  handlers : Table Service (Handler ρ) := ∅
  collectors : List (Collecting ρ) := []
deriving Repr, Inhabited

namespace Registry

variable {ρ : Type}

def insert (registry : Registry ρ) (service : Service) (handler : Handler ρ) : Registry ρ :=
  { registry with handlers := registry.handlers.insert service handler }

def register (registry : Registry ρ) (service : Service) (reaction : ρ) : Registry ρ :=
  registry.insert service (.single reaction)

def registerPassthrough (registry : Registry ρ) (service : Service) : Registry ρ :=
  registry.insert service .passthrough

def unregister (registry : Registry ρ) (service : Service) : Registry ρ :=
  { registry with handlers := registry.handlers.erase service }

def isRegistered (registry : Registry ρ) (service : Service) : Bool :=
  registry.handlers.contains service

/-- Adds a collector that no service uses yet; its number is the count of those before it. -/
def addCollector (registry : Registry ρ) (collector : Collector) (reaction : ρ) : Registry ρ :=
  { registry with collectors := registry.collectors ++ [⟨collector, reaction⟩] }

def registerCollector (registry : Registry ρ) (service : Service) (proceedStatus : UInt32)
    (reaction : ρ) : Registry ρ :=
  (registry.addCollector { proceedStatus } reaction).insert service
    (.collect registry.collectors.length)

def offer (registry : Registry ρ) (collector : Nat) (packet : Packet) : Route ρ × Registry ρ :=
  match registry.collectors[collector]? with
  | none => (.unregistered, registry)
  | some collecting =>
      let (complete, next) := collecting.collector.offer packet
      let registry := { registry with
        collectors := registry.collectors.set collector { collecting with collector := next } }
      match complete with
      | some joined => (.react collecting.reaction joined, registry)
      | none => (.collected, registry)

def route (registry : Registry ρ) (packet : Packet) : Route ρ × Registry ρ :=
  match registry.handlers.find? packet.service with
  | some (.single reaction) => (.react reaction packet, registry)
  | some (.collect collector) => registry.offer collector packet
  | some .passthrough => (.passthrough, registry)
  | none => (.unregistered, registry)

inductive Change (ρ : Type) where
  | insert (service : Service) (handler : Handler ρ)
  | unregister (service : Service)
  | addCollector (proceedStatus : UInt32) (policy : MergePolicy) (reaction : ρ)
  | registerCollector (service : Service) (proceedStatus : UInt32) (reaction : ρ)
deriving Repr, Inhabited

def apply (registry : Registry ρ) : Change ρ → Registry ρ
  | .insert service handler => registry.insert service handler
  | .unregister service => registry.unregister service
  | .addCollector proceedStatus policy reaction =>
      registry.addCollector { proceedStatus, policy } reaction
  | .registerCollector service proceedStatus reaction =>
      registry.registerCollector service proceedStatus reaction

/-- The changes a handler makes, and how it ends. The changes stay even where it fails. -/
structure Response (ρ : Type) where
  changes : List (Change ρ) := []
  error : Option HandlerError := none
deriving Repr, Inhabited

structure Dispatched (ρ : Type) where
  call : Option (ρ × Packet)
  outcome : Except HandlerError Outcome

def finish (respond : ρ → Packet → Response ρ) (route : Route ρ) (registry : Registry ρ) :
    Dispatched ρ × Registry ρ :=
  match route with
  | .react reaction packet =>
      let response := respond reaction packet
      (⟨some (reaction, packet), match response.error with
        | some error => .error error
        | none => .ok .handled⟩, response.changes.foldl apply registry)
  | .collected => (⟨none, .ok .collected⟩, registry)
  | .passthrough => (⟨none, .ok .passthrough⟩, registry)
  | .unregistered => (⟨none, .ok .unregistered⟩, registry)

def dispatch (respond : ρ → Packet → Response ρ) (registry : Registry ρ) (packet : Packet) :
    Dispatched ρ × Registry ρ :=
  let (route, registry) := registry.route packet
  finish respond route registry

def dispatchOffer (respond : ρ → Packet → Response ρ) (registry : Registry ρ) (collector : Nat)
    (packet : Packet) : Dispatched ρ × Registry ρ :=
  let (route, registry) := registry.offer collector packet
  finish respond route registry

end Registry

end Messenger
