import Mathlib.Data.List.DropRight
import Messenger.Proofs.Packet.Pieces

/-!
Responses of many services that arrive in pieces, in any order. What is held for a service is known
from the steps alone: it is what has come for it since the last step that left nothing of it. The
pieces of one service have no part in the responses of another.
-/

namespace Messenger

/-- What is in any of the pieces is in the whole, and nothing else. -/
theorem Packet.has_mergeWith (policy : MergePolicy) (primary continuation : Packet)
    (key : String) :
    (primary.mergeWith policy continuation).has key = (primary.has key || continuation.has key) := by
  rw [Bool.eq_iff_iff, Bool.or_eq_true, has, has, has, Body.contains_iff_mem,
    Body.contains_iff_mem, Body.contains_iff_mem, ← List.mem_append]
  show key ∈ (primary.body.mergeWith policy continuation.body).keys ↔ _
  rw [Body.keys_mergeWith]
  exact policy.mem_append_opened primary.body.keys continuation.body.keys key

namespace Collector

theorem join_eq_none_iff {policy : MergePolicy} {packets : List Packet} :
    join policy packets = none ↔ packets = [] := by
  cases packets <;> simp [join]

theorem has_of_join {policy : MergePolicy} {packets : List Packet} {merged : Packet}
    (hjoin : join policy packets = some merged) {key : String}
    (hpackets : ∀ packet ∈ packets, packet.has key = false) : merged.has key = false := by
  cases packets with
  | nil => cases hjoin
  | cons first rest =>
      obtain rfl := Option.some.inj hjoin
      obtain ⟨hfirst, hrest⟩ := List.forall_mem_cons.mp hpackets
      clear hjoin hpackets
      induction rest generalizing first with
      | nil => exact hfirst
      | cons packet rest induction =>
          obtain ⟨hpacket, hrest⟩ := List.forall_mem_cons.mp hrest
          apply induction _ _ hrest
          rw [Packet.has_mergeWith, hfirst, hpacket]
          rfl

end Collector

namespace FragmentBuffer

inductive Step where
  | offer (packet : Packet)
  | clear
deriving DecidableEq, Repr

namespace Step

def concerns (service : Service) : Step → Bool
  | offer packet => packet.service == service
  | clear => true

/-- Whether the step leaves nothing of the service. -/
def settles (terminalKey : String) (service : Service) : Step → Bool
  | offer packet => packet.service == service && packet.has terminalKey
  | clear => true

def packetFor? (service : Service) : Step → Option Packet
  | offer packet => if packet.service = service then some packet else none
  | clear => none

end Step

def step (buffer : FragmentBuffer) : Step → FragmentBuffer
  | .offer packet => (buffer.offer packet).2
  | .clear => buffer.clear

def run (buffer : FragmentBuffer) (steps : List Step) : FragmentBuffer :=
  steps.foldl step buffer

/-- The packets of a service since the last step that left nothing of it. -/
def unfinished (terminalKey : String) (service : Service) (steps : List Step) : List Packet :=
  (steps.rtakeWhile fun step => !step.settles terminalKey service).filterMap
    (Step.packetFor? service)

section Unfinished

variable {terminalKey : String} {service : Service} {steps : List Step} {step : Step}

theorem unfinished_of_settles (hsettles : step.settles terminalKey service = true) :
    unfinished terminalKey service (steps ++ [step]) = [] := by
  unfold unfinished
  rw [List.rtakeWhile_concat_neg _ _ _ (by simp [hsettles])]
  rfl

theorem unfinished_of_not_settles (hopen : step.settles terminalKey service = false) :
    unfinished terminalKey service (steps ++ [step]) =
      unfinished terminalKey service steps ++ (step.packetFor? service).toList := by
  unfold unfinished
  rw [List.rtakeWhile_concat_pos _ _ _ (by simp [hopen]), List.filterMap_append]
  cases hpacket : step.packetFor? service <;> simp [hpacket]

theorem mem_unfinished {packet : Packet} (hmem : packet ∈ unfinished terminalKey service steps) :
    packet.service = service ∧ packet.has terminalKey = false := by
  obtain ⟨step, hstep, hpacket⟩ := List.mem_filterMap.mp hmem
  have hopen := List.mem_rtakeWhile_imp hstep
  cases step with
  | clear => cases hpacket
  | offer other =>
      obtain ⟨hservice, hother⟩ := Option.ite_some_none_eq_some.mp hpacket
      subst hother
      simpa [Step.settles, hservice] using hopen

/-- Steps about other services leave what is held as it is. -/
theorem unfinished_filter (terminalKey : String) (service : Service) (steps : List Step) :
    unfinished terminalKey service (steps.filter (Step.concerns service)) =
      unfinished terminalKey service steps := by
  induction steps using List.reverseRecOn with
  | nil => rfl
  | append_singleton steps step induction =>
      rw [List.filter_append, List.filter_singleton]
      cases hsettles : step.settles terminalKey service with
      | true =>
          have hconcerns : step.concerns service = true := by
            cases step with
            | clear => rfl
            | offer packet => exact (Bool.and_eq_true_iff.mp hsettles).1
          rw [hconcerns]
          exact (unfinished_of_settles hsettles).trans (unfinished_of_settles hsettles).symm
      | false =>
          rw [unfinished_of_not_settles hsettles, ← induction]
          cases hconcerns : step.concerns service with
          | true => exact unfinished_of_not_settles hsettles
          | false =>
              have hpacket : step.packetFor? service = none := by
                cases step with
                | clear => cases hconcerns
                | offer packet => exact if_neg (by simpa [Step.concerns] using hconcerns)
              simp [hpacket]

end Unfinished

/-- For each service a buffer holds what its unfinished packets make together. -/
structure Remembers (buffer : FragmentBuffer) (policy : MergePolicy) (terminalKey : String)
    (steps : List Step) : Prop where
  policy_eq : buffer.policy = policy
  terminalKey_eq : buffer.terminalKey = terminalKey
  find?_eq : ∀ service, buffer.inProgress.find? service =
    Collector.join policy (unfinished terminalKey service steps)

namespace Remembers

variable {buffer : FragmentBuffer} {policy : MergePolicy} {terminalKey : String}
  {steps : List Step}

theorem offer_of_terminal (h : Remembers buffer policy terminalKey steps) {packet : Packet}
    (hterminal : packet.has terminalKey = true) :
    (buffer.offer packet).1 =
        Collector.join policy (unfinished terminalKey packet.service steps ++ [packet]) ∧
      Remembers (buffer.offer packet).2 policy terminalKey (steps ++ [.offer packet]) := by
  have hoffer := FragmentBuffer.offer_of_terminal (h.terminalKey_eq ▸ hterminal)
  rw [h.find?_eq, h.policy_eq, Collector.join_toList_append] at hoffer
  rw [hoffer]
  refine ⟨rfl, rfl, h.terminalKey_eq, fun service => ?_⟩
  by_cases hservice : service = packet.service
  · rw [unfinished_of_settles (by simp [Step.settles, hservice, hterminal]), hservice]
    exact Table.find?_erase_self _ _
  · rw [unfinished_of_not_settles (by simp [Step.settles, Ne.symm hservice])]
    simp [Step.packetFor?, Ne.symm hservice, Table.find?_erase_of_ne _ hservice, h.find?_eq]

theorem offer_of_partial (h : Remembers buffer policy terminalKey steps) {packet : Packet}
    (hpartial : packet.has terminalKey = false) :
    (buffer.offer packet).1 = none ∧
      Remembers (buffer.offer packet).2 policy terminalKey (steps ++ [.offer packet]) := by
  obtain ⟨merged, hmerged, hoffer⟩ :=
    FragmentBuffer.offer_of_partial (h.terminalKey_eq ▸ hpartial)
  rw [h.find?_eq, h.policy_eq, Collector.join_toList_append] at hmerged
  rw [hoffer]
  refine ⟨rfl, h.policy_eq, h.terminalKey_eq, fun service => ?_⟩
  rw [unfinished_of_not_settles (by simp [Step.settles, hpartial])]
  by_cases hservice : service = packet.service
  · simp [Step.packetFor?, hservice, hmerged]
  · simp [Step.packetFor?, Ne.symm hservice, Table.find?_insert_of_ne _ hservice, h.find?_eq]

theorem answer (h : Remembers buffer policy terminalKey steps) (packet : Packet) :
    (buffer.offer packet).1 = if packet.has terminalKey then
      Collector.join policy (unfinished terminalKey packet.service steps ++ [packet]) else none := by
  cases hterminal : packet.has terminalKey with
  | true => exact (h.offer_of_terminal hterminal).1
  | false => exact (h.offer_of_partial hterminal).1

theorem isPending_iff (h : Remembers buffer policy terminalKey steps) (service : Service) :
    buffer.isPending service = true ↔ unfinished terminalKey service steps ≠ [] := by
  rw [isPending, Table.contains, h.find?_eq, Option.isSome_iff_ne_none, ne_eq,
    Collector.join_eq_none_iff]

theorem step (h : Remembers buffer policy terminalKey steps) (step : Step) :
    Remembers (buffer.step step) policy terminalKey (steps ++ [step]) := by
  cases step with
  | offer packet =>
      cases hterminal : packet.has terminalKey with
      | true => exact (h.offer_of_terminal hterminal).2
      | false => exact (h.offer_of_partial hterminal).2
  | clear =>
      refine ⟨h.policy_eq, h.terminalKey_eq, fun service => ?_⟩
      rw [unfinished_of_settles rfl]
      rfl

end Remembers

theorem remembers_run (policy : MergePolicy) (terminalKey : String) (steps : List Step) :
    Remembers (run { policy, terminalKey } steps) policy terminalKey steps := by
  induction steps using List.reverseRecOn with
  | nil => exact ⟨rfl, rfl, fun _ => rfl⟩
  | append_singleton steps step induction =>
      rw [run, List.foldl_append]
      exact induction.step step

/-- After any steps, the packet that carries the terminal key is answered with all of its service
since the last step that left nothing of it, merged in order under the first header; any other is
answered with nothing. A service is pending while something of it has come since, what is pending
lacks the terminal key, and what was done for other services makes no difference. -/
theorem run_reassembles (policy : MergePolicy) (terminalKey : String) (steps : List Step) :
    let buffer := run { policy, terminalKey } steps
    (∀ packet, ∃ first rest,
      unfinished terminalKey packet.service steps ++ [packet] = first :: rest ∧
      ∀ merged, (buffer.offer packet).1 = some merged ↔
        packet.has terminalKey = true ∧ merged = rest.foldl (Packet.mergeWith policy) first ∧
          merged = { first with body := merged.body }) ∧
    (∀ service, buffer.isPending service = true ↔
      unfinished terminalKey service steps ≠ []) ∧
    (∀ packet, ((run { policy, terminalKey }
        (steps.filter (Step.concerns packet.service))).offer packet).1 =
      (buffer.offer packet).1) ∧
    ∀ service pending, buffer.inProgress.find? service = some pending →
      pending.has terminalKey = false := by
  intro buffer
  have hbuffer := remembers_run policy terminalKey steps
  refine ⟨fun packet => ?_, hbuffer.isPending_iff, fun packet => ?_, ?_⟩
  · obtain ⟨first, rest, hpackets⟩ : ∃ first rest,
        unfinished terminalKey packet.service steps ++ [packet] = first :: rest :=
      List.exists_cons_of_ne_nil (by simp)
    have hheader : rest.foldl (Packet.mergeWith policy) first =
        { first with body := (rest.foldl (Packet.mergeWith policy) first).body } := by
      rw [Packet.foldl_mergeWith]
    refine ⟨first, rest, hpackets, fun merged => ?_⟩
    rw [hbuffer.answer, hpackets, Option.ite_none_right_eq_some, Collector.join,
      Option.some_inj, eq_comm (b := merged)]
    refine and_congr_right fun _ => ⟨?_, And.left⟩
    rintro rfl
    exact ⟨rfl, hheader⟩
  · have hothers := remembers_run policy terminalKey
      (steps.filter (Step.concerns packet.service))
    rw [hbuffer.answer, hothers.answer, unfinished_filter]
  · intro service pending hpending
    rw [hbuffer.find?_eq] at hpending
    exact Collector.has_of_join hpending fun packet hmem => (mem_unfinished hmem).2

/-- A roster in two pieces with a packet of another service between them. What came before the
clearing is no part of it. -/
example :
    let steps : List Step := [.offer (.request .list [("87", "old")]), .clear,
      .offer (.request .list [("87", "ann,")]), .offer (.request .chatJoin [("59", "me")])]
    ((run forList steps).offer (.request .list [("87", "bob"), ("59", "B")])).1 =
      some (.request .list [("87", "ann,bob"), ("59", "B")]) := by
  decide

end FragmentBuffer

end Messenger
