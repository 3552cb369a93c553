import Mathlib.Data.List.Induction
import Messenger.Dispatch.Registry
import Messenger.Proofs.Packet.Pieces

/-!
What a collector makes of the packets offered to it. They come apart into cycles, each of them up to
the next packet with the closing status. The handler is called once for each cycle, at its last
packet and with the cycle joined; whether it fails or not, nothing is held but what has come since.
-/

namespace Messenger

/-- Items up to and with the one that closes them. -/
@[ext]
structure Cycle (α : Type) where
  held : List α
  closing : α
deriving DecidableEq, Repr

namespace Cycle

variable {α β : Type}

def items (cycle : Cycle α) : List α :=
  cycle.held ++ [cycle.closing]

def first (cycle : Cycle α) : α :=
  cycle.held.headD cycle.closing

def map (f : α → β) (cycle : Cycle α) : Cycle β :=
  ⟨cycle.held.map f, f cycle.closing⟩

/-- The first packet, and the others merged into it in order. -/
def merged (policy : MergePolicy) (cycle : Cycle Packet) : Packet :=
  cycle.items.tail.foldl (Packet.mergeWith policy) cycle.first

/-- Items cut after each one that closes. What follows the last of these is open. -/
structure Cut (closes : α → Bool) (items : List α) (cycles : List (Cycle α)) (rest : List α) :
    Prop where
  items_eq : items = cycles.flatMap Cycle.items ++ rest
  closing : ∀ cycle ∈ cycles, closes cycle.closing = true
  held : ∀ cycle ∈ cycles, ∀ item ∈ cycle.held, closes item = false
  rest_open : ∀ item ∈ rest, closes item = false

theorem items_eq_cons (cycle : Cycle α) : cycle.items = cycle.first :: cycle.items.tail := by
  obtain ⟨held, closing⟩ := cycle
  cases held <;> rfl

theorem join_items (policy : MergePolicy) (cycle : Cycle Packet) :
    Collector.join policy cycle.items = some (cycle.merged policy) := by
  rw [items_eq_cons]
  rfl

theorem items_map (f : α → β) (cycle : Cycle α) : (cycle.map f).items = cycle.items.map f := by
  simp [items, map]

theorem first_map (f : α → β) (cycle : Cycle α) : (cycle.map f).first = f cycle.first := by
  obtain ⟨held, closing⟩ := cycle
  cases held <;> rfl

namespace Cut

variable {closes : α → Bool} {items rest others : List α} {cycles : List (Cycle α)}

theorem nil : Cut closes [] [] [] :=
  ⟨rfl, by simp, by simp, by simp⟩

theorem snoc_open (h : Cut closes items cycles rest) {item : α} (hopen : closes item = false) :
    Cut closes (items ++ [item]) cycles (rest ++ [item]) where
  items_eq := by rw [h.items_eq, List.append_assoc]
  closing := h.closing
  held := h.held
  rest_open other hmem := by
    rcases List.mem_append.mp hmem with hrest | hitem
    · exact h.rest_open other hrest
    · rw [List.mem_singleton.mp hitem]
      exact hopen

theorem snoc_closing (h : Cut closes items cycles rest) {item : α} (hcloses : closes item = true) :
    Cut closes (items ++ [item]) (cycles ++ [⟨rest, item⟩]) [] where
  items_eq := by
    rw [h.items_eq, List.flatMap_append]
    simp [Cycle.items]
  closing cycle hmem := by
    rcases List.mem_append.mp hmem with hcycles | hlast
    · exact h.closing cycle hcycles
    · rw [List.mem_singleton.mp hlast]
      exact hcloses
  held cycle hmem := by
    rcases List.mem_append.mp hmem with hcycles | hlast
    · exact h.held cycle hcycles
    · rw [List.mem_singleton.mp hlast]
      exact h.rest_open
  rest_open := by simp

theorem rest_eq_of_nil (h : Cut closes items [] rest) (hother : Cut closes items cycles others) :
    cycles = [] ∧ others = rest := by
  have hitems : rest = cycles.flatMap Cycle.items ++ others := by
    rw [← hother.items_eq, h.items_eq]
    rfl
  cases cycles with
  | nil => exact ⟨rfl, hitems.symm⟩
  | cons cycle later =>
      have hmem : cycle.closing ∈ rest := by
        rw [hitems]
        simp [Cycle.items]
      have hopen := h.rest_open _ hmem
      rw [hother.closing cycle List.mem_cons_self] at hopen
      cases hopen

theorem tail {cycle : Cycle α} (h : Cut closes items (cycle :: cycles) rest) :
    Cut closes (cycles.flatMap Cycle.items ++ rest) cycles rest where
  items_eq := rfl
  closing other hmem := h.closing other (List.mem_cons_of_mem _ hmem)
  held other hmem := h.held other (List.mem_cons_of_mem _ hmem)
  rest_open := h.rest_open

/-- The first cycle ends with the first item that closes. -/
theorem takeWhile_items {cycle : Cycle α} (h : Cut closes items (cycle :: cycles) rest) :
    items.takeWhile (fun item => !closes item) = cycle.held := by
  have hheld : ∀ item ∈ cycle.held, (!closes item) = true := by
    intro item hmem
    rw [h.held cycle List.mem_cons_self item hmem]
    rfl
  rw [h.items_eq, List.flatMap_cons, Cycle.items, List.append_assoc, List.append_assoc,
    List.takeWhile_append_of_pos hheld, List.cons_append,
    List.takeWhile_cons_of_neg (by simp [h.closing cycle List.mem_cons_self]), List.append_nil]

theorem unique {rest : List α} {cycles laters : List (Cycle α)} (h : Cut closes items cycles rest)
    (hother : Cut closes items laters others) :
    laters = cycles ∧ others = rest := by
  induction cycles generalizing items laters with
  | nil => exact h.rest_eq_of_nil hother
  | cons cycle cycles induction =>
      cases laters with
      | nil => exact (hother.rest_eq_of_nil h).imp Eq.symm Eq.symm
      | cons later laters =>
          have hheld : later.held = cycle.held := by
            rw [← hother.takeWhile_items, h.takeWhile_items]
          have hitems : later.closing :: (laters.flatMap Cycle.items ++ others) =
              cycle.closing :: (cycles.flatMap Cycle.items ++ rest) := by
            have hboth := hother.items_eq.symm.trans h.items_eq
            simpa [Cycle.items, hheld] using hboth
          obtain ⟨hclosing, hafter⟩ := List.cons.inj hitems
          have htail := hother.tail
          rw [hafter] at htail
          obtain ⟨rfl, rfl⟩ := induction h.tail htail
          exact ⟨by rw [Cycle.ext hheld hclosing], rfl⟩

end Cut

end Cycle

namespace Body

theorem mergeWith_default (body continuation : Body) :
    body.mergeWith {} continuation = body.append continuation := by
  have hfold : ∀ fields gathered : List (String × String),
      fields.foldl (fun gathered field =>
        mergeField (MergePolicy.ruleFor {} field.1) gathered field) gathered =
        fields.reverse ++ gathered := by
    intro fields
    induction fields with
    | nil => exact fun _ => rfl
    | cons field rest induction =>
        intro gathered
        rw [List.foldl_cons, induction]
        simp [mergeField, MergePolicy.ruleFor, MergeRule.join?]
  simp [mergeWith, append, hfold]

theorem foldl_mergeWith_default (body : Body) (continuations : List Body) :
    continuations.foldl (mergeWith {}) body =
      ⟨body.fields ++ continuations.flatMap Body.fields⟩ := by
  induction continuations generalizing body with
  | nil => simp
  | cons continuation rest induction =>
      rw [List.foldl_cons, mergeWith_default, induction]
      simp [append]

end Body

/-- Where no key continues, the bodies follow one another. -/
theorem Cycle.merged_default (cycle : Cycle Packet) :
    cycle.merged {} =
      { cycle.first with body := ⟨cycle.items.flatMap fun packet => packet.body.fields⟩ } := by
  have hitems : cycle.items.flatMap (fun packet => packet.body.fields) =
      cycle.first.body.fields ++ cycle.items.tail.flatMap fun packet => packet.body.fields := by
    rw [cycle.items_eq_cons]
    rfl
  rw [merged, Packet.foldl_mergeWith, Body.foldl_mergeWith_default, hitems, List.flatMap_map]

namespace Registry

variable {ρ : Type}

/-- A packet that is offered, and how the handler would respond to a call at that time. -/
structure Offering (ρ : Type) where
  packet : Packet
  respond : ρ → Packet → Response ρ

/-- The answers to offers to one collector, one after another. -/
def offerAll (registry : Registry ρ) (number : Nat) :
    List (Offering ρ) → List (Dispatched ρ) × Registry ρ
  | [] => ([], registry)
  | offering :: rest =>
      let (answer, next) := registry.dispatchOffer offering.respond number offering.packet
      let (answers, last) := next.offerAll number rest
      (answer :: answers, last)

theorem offerAll_concat (registry : Registry ρ) (number : Nat) (offerings : List (Offering ρ))
    (offering : Offering ρ) :
    registry.offerAll number (offerings ++ [offering]) =
      let before := registry.offerAll number offerings
      let last := before.2.dispatchOffer offering.respond number offering.packet
      (before.1 ++ [last.1], last.2) := by
  induction offerings generalizing registry with
  | nil => rfl
  | cons earlier rest induction => simp only [List.cons_append, offerAll, induction]

/-- The collector that a change makes. -/
def Change.collecting? : Change ρ → Option (Collecting ρ)
  | insert .. => none
  | unregister _ => none
  | addCollector proceedStatus policy reaction => some ⟨{ proceedStatus, policy }, reaction⟩
  | registerCollector _ proceedStatus reaction => some ⟨{ proceedStatus }, reaction⟩

theorem collectors_apply (registry : Registry ρ) (change : Change ρ) :
    (registry.apply change).collectors = registry.collectors ++ change.collecting?.toList := by
  cases change <;>
    simp [apply, insert, unregister, addCollector, registerCollector, Change.collecting?]

/-- Whatever a handler changes, the collectors that there were are as before. -/
theorem collectors_changes (registry : Registry ρ) (changes : List (Change ρ)) :
    (changes.foldl apply registry).collectors =
      registry.collectors ++ changes.filterMap Change.collecting? := by
  induction changes generalizing registry with
  | nil => simp
  | cons change rest induction =>
      rw [List.foldl_cons, induction, collectors_apply, List.append_assoc, List.filterMap_cons]
      cases change.collecting? <;> rfl

end Registry

namespace Collecting

open Registry (Offering Dispatched Response)

variable {ρ : Type}

def holding (collecting : Collecting ρ) (packets : List Packet) : Collecting ρ :=
  { collecting with collector := { collecting.collector with pending := packets } }

def closes (collecting : Collecting ρ) (offering : Offering ρ) : Bool :=
  offering.packet.status == collecting.collector.proceedStatus

/-- The answer to a packet that is only held: nobody is called. -/
def waiting : Dispatched ρ :=
  ⟨none, .ok .collected⟩

/-- The answer to the last packet of a cycle: the handler is called with the cycle joined, and where
it fails its error is the answer. -/
def delivery (collecting : Collecting ρ) (cycle : Cycle (Offering ρ)) : Dispatched ρ :=
  let joined := (cycle.map Offering.packet).merged collecting.collector.policy
  { call := some (collecting.reaction, joined)
    outcome :=
      match (cycle.closing.respond collecting.reaction joined).error with
      | some error => .error error
      | none => .ok .handled }

def answers (collecting : Collecting ρ) (cycle : Cycle (Offering ρ)) : List (Dispatched ρ) :=
  List.replicate cycle.held.length waiting ++ [collecting.delivery cycle]

variable {registry : Registry ρ} {number : Nat} {collecting : Collecting ρ}
  {held : List (Offering ρ)} {offering : Offering ρ}

theorem offer_of_open
    (hholds : registry.collectors[number]? =
      some (collecting.holding (held.map Offering.packet)))
    (hopen : collecting.closes offering = false) :
    registry.offer number offering.packet =
      (.collected, { registry with
        collectors := registry.collectors.set number
          (collecting.holding ((held ++ [offering]).map Offering.packet)) }) := by
  have hstatus : offering.packet.status ≠ collecting.collector.proceedStatus := by
    simpa [closes] using hopen
  unfold Registry.offer
  simp [hholds, holding, Collector.offer, hstatus]

theorem offer_of_closing
    (hholds : registry.collectors[number]? =
      some (collecting.holding (held.map Offering.packet)))
    (hcloses : collecting.closes offering = true) :
    registry.offer number offering.packet =
      (.react collecting.reaction
        (((Cycle.mk held offering).map Offering.packet).merged collecting.collector.policy),
      { registry with collectors := registry.collectors.set number (collecting.holding []) }) := by
  have hstatus : offering.packet.status = collecting.collector.proceedStatus := by
    simpa [closes] using hcloses
  have hjoin : Collector.join collecting.collector.policy
      (held.map Offering.packet ++ [offering.packet]) =
        some (((Cycle.mk held offering).map Offering.packet).merged collecting.collector.policy) :=
    Cycle.join_items _ ((Cycle.mk held offering).map Offering.packet)
  unfold Registry.offer
  simp [hholds, holding, Collector.offer, hstatus, hjoin]

theorem dispatchOffer_of_open
    (hholds : registry.collectors[number]? =
      some (collecting.holding (held.map Offering.packet)))
    (hopen : collecting.closes offering = false) :
    let dispatched := registry.dispatchOffer offering.respond number offering.packet
    dispatched.1 = waiting ∧ dispatched.2.collectors[number]? =
      some (collecting.holding ((held ++ [offering]).map Offering.packet)) := by
  have hnumber : number < registry.collectors.length :=
    (List.getElem?_eq_some_iff.mp hholds).1
  simp only [Registry.dispatchOffer, offer_of_open hholds hopen, Registry.finish]
  exact ⟨rfl, List.getElem?_set_self hnumber⟩

theorem dispatchOffer_of_closing
    (hholds : registry.collectors[number]? =
      some (collecting.holding (held.map Offering.packet)))
    (hcloses : collecting.closes offering = true) :
    let dispatched := registry.dispatchOffer offering.respond number offering.packet
    dispatched.1 = collecting.delivery ⟨held, offering⟩ ∧
      dispatched.2.collectors[number]? = some (collecting.holding []) := by
  have hnumber : number < registry.collectors.length :=
    (List.getElem?_eq_some_iff.mp hholds).1
  simp only [Registry.dispatchOffer, offer_of_closing hholds hcloses, Registry.finish,
    Registry.collectors_changes]
  refine ⟨rfl, ?_⟩
  rw [List.getElem?_append_left (by simpa using hnumber)]
  exact List.getElem?_set_self hnumber

/-- After any offers, the answers are those of the cycles so far, and what is held is what has come
since the last of them. -/
theorem cut_offerAll (hidle : registry.collectors[number]? = some (collecting.holding []))
    (offerings : List (Offering ρ)) :
    ∃ cycles rest, Cycle.Cut collecting.closes offerings cycles rest ∧
      (registry.offerAll number offerings).1 =
        cycles.flatMap collecting.answers ++ List.replicate rest.length waiting ∧
      (registry.offerAll number offerings).2.collectors[number]? =
        some (collecting.holding (rest.map Offering.packet)) := by
  induction offerings using List.reverseRecOn with
  | nil => exact ⟨[], [], .nil, rfl, hidle⟩
  | append_singleton offerings offering induction =>
      obtain ⟨cycles, rest, hcut, hanswers, hholds⟩ := induction
      rw [Registry.offerAll_concat]
      cases hcloses : collecting.closes offering with
      | false =>
          obtain ⟨hanswer, hnext⟩ := dispatchOffer_of_open hholds hcloses
          refine ⟨cycles, rest ++ [offering], hcut.snoc_open hcloses, ?_, hnext⟩
          simp only [hanswers, hanswer, List.append_assoc, List.length_append,
            List.length_singleton, List.replicate_succ']
      | true =>
          obtain ⟨hanswer, hnext⟩ := dispatchOffer_of_closing hholds hcloses
          refine ⟨cycles ++ [⟨rest, offering⟩], [], hcut.snoc_closing hcloses, ?_, hnext⟩
          simp only [hanswers, hanswer, List.append_assoc, List.flatMap_append,
            List.flatMap_singleton, answers, List.length_nil, List.replicate_zero, List.append_nil]

end Collecting

namespace Registry

variable {ρ : Type}

/-- Packets offered to a collector that holds none come apart, in one way, into cycles and the
packets since the last of them. The handler is called once a cycle, when its last packet is offered,
with the first packet into which the others are merged; no other offer calls it, and what it fails
with is told by that offer alone. -/
theorem offerAll_cycles {registry : Registry ρ} {number : Nat} {collecting : Collecting ρ}
    (hnumber : registry.collectors[number]? = some collecting)
    (hidle : collecting.collector.pending = []) (offerings : List (Offering ρ)) :
    ∃ cycles rest,
      Cycle.Cut collecting.closes offerings cycles rest ∧
      (∀ others since, Cycle.Cut collecting.closes offerings others since →
        others = cycles ∧ since = rest) ∧
      (registry.offerAll number offerings).1 =
        cycles.flatMap collecting.answers ++ List.replicate rest.length Collecting.waiting ∧
      (registry.offerAll number offerings).2.collectors[number]?.map
        (·.collector.pending) = some (rest.map Offering.packet) ∧
      (collecting.collector.policy = {} → ∀ cycle ∈ cycles,
        (collecting.delivery cycle).call = some (collecting.reaction,
          { cycle.first.packet with
            body := ⟨cycle.items.flatMap fun offering => offering.packet.body.fields⟩ })) := by
  have hholding : collecting.holding [] = collecting := by
    rw [Collecting.holding, ← hidle]
  obtain ⟨cycles, rest, hcut, hanswers, hholds⟩ :=
    Collecting.cut_offerAll (hholding ▸ hnumber) offerings
  refine ⟨cycles, rest, hcut, fun _ _ hother => hcut.unique hother, hanswers, ?_, ?_⟩
  · rw [hholds]
    rfl
  · intro hpolicy cycle hcycle
    rw [Collecting.delivery, hpolicy, Cycle.merged_default, Cycle.items_map, List.flatMap_map,
      Cycle.first_map]

/-- A cycle of two packets whose handler fails, a cycle of one, and a packet that is held. -/
theorem offerAll_cycles_failing :
    let ok : String → Packet → Response String := fun _ _ => {}
    let gone : String → Packet → Response String := fun _ _ => { error := some .sessionGone }
    let registry : Registry String := Registry.addCollector {} { proceedStatus := 0 } "logon"
    let offerings : List (Offering String) :=
      [⟨⟨16, .logon, 1, 3, ⟨[("7", "ann")]⟩⟩, ok⟩, ⟨⟨12, .logon, 0, 0, ⟨[("7", "bob")]⟩⟩, gone⟩,
        ⟨⟨12, .list, 0, 0, ⟨[("7", "eve")]⟩⟩, ok⟩, ⟨⟨12, .logon, 9, 0, ⟨[]⟩⟩, gone⟩]
    (registry.offerAll 0 offerings).1.map Dispatched.call =
        [none, some ("logon", ⟨16, .logon, 1, 3, ⟨[("7", "ann"), ("7", "bob")]⟩⟩),
          some ("logon", ⟨12, .list, 0, 0, ⟨[("7", "eve")]⟩⟩), none] ∧
      (registry.offerAll 0 offerings).1.map Dispatched.outcome =
        [.ok .collected, .error .sessionGone, .ok .handled, .ok .collected] ∧
      (registry.offerAll 0 offerings).2.collectors[0]?.map (·.collector.pending) =
        some [⟨12, .logon, 9, 0, ⟨[]⟩⟩] := by
  intro ok gone registry offerings
  obtain ⟨cycles, rest, -, hunique, hanswers, hpending, -⟩ :=
    @offerAll_cycles String registry 0 ⟨{ proceedStatus := 0 }, "logon"⟩ rfl rfl offerings
  obtain ⟨hcycles, hrest⟩ := hunique
    [⟨[⟨⟨16, .logon, 1, 3, ⟨[("7", "ann")]⟩⟩, ok⟩], ⟨⟨12, .logon, 0, 0, ⟨[("7", "bob")]⟩⟩, gone⟩⟩,
      ⟨[], ⟨⟨12, .list, 0, 0, ⟨[("7", "eve")]⟩⟩, ok⟩⟩]
    [⟨⟨12, .logon, 9, 0, ⟨[]⟩⟩, gone⟩]
    ⟨rfl, by decide, by decide, by decide⟩
  rw [hanswers, hpending, ← hcycles, ← hrest]
  exact ⟨rfl, rfl, rfl⟩

end Registry

end Messenger
