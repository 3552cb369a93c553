import Messenger.Proofs.Dispatch.Cycles

/-!
Which handler a packet reaches. A registry is changed from outside and by the handlers it calls;
what has happened to it is told by its history. A packet goes to the handler installed last for its
service. A collector takes in what is sent to it under any service.
-/

namespace Messenger

def Handler.collector? {ρ : Type} : Handler ρ → Option Nat
  | .collect collector => some collector
  | _ => none

namespace Registry

variable {ρ : Type}

namespace Change

/-- The service that has another handler after the change, or none. -/
def service? : Change ρ → Option Service
  | insert service _ => some service
  | unregister service => some service
  | addCollector .. => none
  | registerCollector service .. => some service

/-- The handler of that service, where so many collectors have been made before. -/
def handler? (made : Nat) : Change ρ → Option (Handler ρ)
  | insert _ handler => some handler
  | unregister _ => none
  | addCollector .. => none
  | registerCollector .. => some (.collect made)

end Change

theorem find?_apply (registry : Registry ρ) (change : Change ρ) (service : Service) :
    (registry.apply change).handlers.find? service =
      if change.service? = some service then change.handler? registry.collectors.length
      else registry.handlers.find? service := by
  by_cases hservice : change.service? = some service
  · rw [if_pos hservice]
    cases change <;> cases hservice <;>
      simp [apply, insert, unregister, registerCollector, addCollector, Change.handler?]
  · rw [if_neg hservice]
    cases change with
    | addCollector => rfl
    | _ =>
        have hne : service ≠ _ := fun heq => hservice (congrArg some heq.symm)
        simp [apply, insert, unregister, registerCollector, addCollector, hne]

inductive Step (ρ : Type) where
  | change (change : Change ρ)
  | dispatch (offering : Offering ρ)

/-- What the history of a registry tells. -/
inductive Entry (ρ : Type) where
  | changed (change : Change ρ)
  | dispatched (offering : Offering ρ) (answer : Dispatched ρ)

/-- The changes made by the handler that is called, which may fail after them. -/
def Offering.changes (offering : Offering ρ) (answer : Dispatched ρ) : List (Change ρ) :=
  match answer.call with
  | none => []
  | some (reaction, packet) => (offering.respond reaction packet).changes

/-- A step adds to the history, whose newest entry stands in front. -/
def step (state : List (Entry ρ) × Registry ρ) : Step ρ → List (Entry ρ) × Registry ρ
  | .change change => (.changed change :: state.1, state.2.apply change)
  | .dispatch offering =>
      let (answer, next) := state.2.dispatch offering.respond offering.packet
      ((offering.changes answer).reverse.map .changed ++ .dispatched offering answer :: state.1,
        next)

/-- What becomes of a new registry. -/
def run (steps : List (Step ρ)) : List (Entry ρ) × Registry ρ :=
  steps.foldl step ([], {})

/-- The collectors, as they were made. -/
def made : List (Entry ρ) → List (Collecting ρ)
  | [] => []
  | .changed change :: earlier => made earlier ++ change.collecting?.toList
  | .dispatched .. :: earlier => made earlier

/-- The handler that the last change for a service has left. -/
def installed (service : Service) : List (Entry ρ) → Option (Handler ρ)
  | [] => none
  | .changed change :: earlier =>
      if change.service? = some service then change.handler? (made earlier).length
      else installed service earlier
  | .dispatched .. :: earlier => installed service earlier

/-- What went to a collector, under whichever service, in the order in which it came. -/
def reached (number : Nat) : List (Entry ρ) → List (Offering ρ)
  | [] => []
  | .changed _ :: earlier => reached number earlier
  | .dispatched offering _ :: earlier =>
      if (installed offering.packet.service earlier).bind Handler.collector? = some number then
        reached number earlier ++ [offering]
      else reached number earlier

/-- The collectors that were not made for one service. -/
def shared : List (Entry ρ) → List Nat
  | [] => []
  | .changed (.addCollector ..) :: earlier => shared earlier ++ [(made earlier).length]
  | _ :: earlier => shared earlier

def Entry.Lawful (earlier : List (Entry ρ)) : Entry ρ → Prop
  | changed (.insert _ (.collect number)) => number ∈ shared earlier
  | _ => True

/-- A collector is installed by one who has it: not before it is made, and never again if it was
made for one service. -/
def Lawful : List (Entry ρ) → Prop
  | [] => True
  | entry :: earlier => entry.Lawful earlier ∧ Lawful earlier

/-- The answer to a packet, by what has happened before. -/
inductive Answered (earlier : List (Entry ρ)) (offering : Offering ρ) : Dispatched ρ → Prop
  | unregistered (hnone : installed offering.packet.service earlier = none) :
      Answered earlier offering ⟨none, .ok .unregistered⟩
  | passthrough (hpasses : installed offering.packet.service earlier = some .passthrough) :
      Answered earlier offering ⟨none, .ok .passthrough⟩
  | handled {reaction : ρ}
      (hsingle : installed offering.packet.service earlier = some (.single reaction)) :
      Answered earlier offering
        { call := some (reaction, offering.packet)
          outcome :=
            match (offering.respond reaction offering.packet).error with
            | some error => .error error
            | none => .ok .handled }
  | collected {number : Nat} {collecting : Collecting ρ}
      (hcollects : installed offering.packet.service earlier = some (.collect number))
      (hmade : (made earlier)[number]? = some collecting)
      (hopen : collecting.closes offering = false) :
      Answered earlier offering Collecting.waiting
  | delivered {number : Nat} {collecting : Collecting ρ} {cycles : List (Cycle (Offering ρ))}
      {held : List (Offering ρ)}
      (hcollects : installed offering.packet.service earlier = some (.collect number))
      (hmade : (made earlier)[number]? = some collecting)
      (hcut : Cycle.Cut collecting.closes (reached number earlier) cycles held)
      (hcloses : collecting.closes offering = true) :
      Answered earlier offering (collecting.delivery ⟨held, offering⟩)

section Lawful

variable {earlier later newer older history : List (Entry ρ)} {service own : Service}
  {number : Nat} {status : UInt32} {reaction : ρ}

theorem made_length_cons (entry : Entry ρ) (earlier : List (Entry ρ)) :
    (made earlier).length ≤ (made (entry :: earlier)).length := by
  cases entry <;> simp [made]

theorem shared_cons {entry : Entry ρ} (hshared : number ∈ shared (entry :: earlier)) :
    number ∈ shared earlier ∨
      number = (made earlier).length ∧ number < (made (entry :: earlier)).length := by
  cases entry with
  | dispatched => exact .inl hshared
  | changed change =>
      cases change with
      | addCollector =>
          rcases List.mem_append.mp hshared with hshared | hlast
          · exact .inl hshared
          · rw [List.mem_singleton.mp hlast]
            simp [made, Change.collecting?]
      | _ => exact .inl hshared

theorem shared_lt (hshared : number ∈ shared history) : number < (made history).length := by
  induction history with
  | nil => cases hshared
  | cons entry earlier induction =>
      rcases shared_cons hshared with hearlier | ⟨-, hlt⟩
      · exact Nat.lt_of_lt_of_le (induction hearlier) (made_length_cons entry earlier)
      · exact hlt

/-- The change that sends packets to a collector installs it, or makes it. -/
theorem sends_to_collector {change : Change ρ} (hchange : (Entry.changed change).Lawful earlier)
    (hhandler : change.handler? (made earlier).length = some (.collect number)) :
    number ∈ shared earlier ∨ number = (made earlier).length ∧ change.collecting?.isSome := by
  cases change with
  | insert service handler =>
      cases hhandler
      exact .inl hchange
  | unregister => cases hhandler
  | addCollector => cases hhandler
  | registerCollector =>
      cases hhandler
      exact .inr ⟨rfl, rfl⟩

theorem installed_lt (hlawful : Lawful history)
    (hinstalled : installed service history = some (.collect number)) :
    number < (made history).length := by
  induction history with
  | nil => cases hinstalled
  | cons entry earlier induction =>
      have hgrows := made_length_cons entry earlier
      cases entry with
      | dispatched => exact induction hlawful.2 hinstalled
      | changed change =>
          unfold installed at hinstalled
          split at hinstalled
          · rcases sends_to_collector hlawful.1 hinstalled with hshared | ⟨rfl, hmade⟩
            · exact Nat.lt_of_lt_of_le (shared_lt hshared) hgrows
            · obtain ⟨collecting, hcollecting⟩ := Option.isSome_iff_exists.mp hmade
              simp [made, hcollecting]
          · exact Nat.lt_of_lt_of_le (induction hlawful.2 hinstalled) hgrows

theorem own_lt_made :
    (made older).length <
      (made (newer ++ .changed (.registerCollector own status reaction) :: older)).length := by
  induction newer with
  | nil => simp [made, Change.collecting?]
  | cons entry newer induction =>
      exact Nat.lt_of_lt_of_le induction (made_length_cons entry _)

theorem own_not_shared :
    (made older).length ∉
      shared (newer ++ .changed (.registerCollector own status reaction) :: older) := by
  induction newer with
  | nil => exact fun hshared => Nat.lt_irrefl _ (shared_lt hshared)
  | cons entry newer induction =>
      intro hshared
      rcases shared_cons hshared with hbefore | ⟨heq, -⟩
      · exact induction hbefore
      · exact Nat.ne_of_lt own_lt_made heq

/-- Packets go to a collector that was made for a service only under this service, and only as long
as the service has got no other handler. -/
theorem own_installed
    (hlawful :
      Lawful (newer ++ .changed (.registerCollector own status reaction) :: older))
    (hinstalled :
      installed service (newer ++ .changed (.registerCollector own status reaction) :: older) =
        some (.collect (made older).length)) :
    service = own ∧ ∀ change, .changed change ∈ newer → change.service? ≠ some own := by
  induction newer with
  | nil =>
      refine ⟨?_, nofun⟩
      simp only [List.nil_append, installed, Change.service?, Option.some.injEq] at hinstalled
      split at hinstalled
      · rename_i hown
        exact hown.symm
      · exact absurd (installed_lt hlawful.2 hinstalled) (Nat.lt_irrefl _)
  | cons entry newer induction =>
      cases entry with
      | dispatched =>
          obtain ⟨hown, hnewer⟩ := induction hlawful.2 hinstalled
          exact ⟨hown, fun change hmem => hnewer change (by simpa using hmem)⟩
      | changed last =>
          simp only [List.cons_append, installed] at hinstalled
          split at hinstalled
          · rcases sends_to_collector hlawful.1 hinstalled with hshared | ⟨heq, -⟩
            · exact absurd hshared own_not_shared
            · exact absurd heq (Nat.ne_of_lt own_lt_made)
          · rename_i hlast
            obtain ⟨rfl, hnewer⟩ := induction hlawful.2 hinstalled
            refine ⟨rfl, fun change hmem => ?_⟩
            rcases List.mem_cons.mp hmem with heq | hmem
            · cases heq
              exact hlast
            · exact hnewer change hmem

end Lawful

theorem bind_collector? {handler : Option (Handler ρ)} {number : Nat} :
    handler.bind Handler.collector? = some number ↔ handler = some (.collect number) := by
  rcases handler with - | (reaction | collector | -) <;> simp [Handler.collector?]

theorem reached_of_unmade {history : List (Entry ρ)} (hlawful : Lawful history) {number : Nat}
    (hunmade : (made history).length ≤ number) : reached number history = [] := by
  induction history with
  | nil => rfl
  | cons entry earlier induction =>
      have hearlier := Nat.le_trans (made_length_cons entry earlier) hunmade
      cases entry with
      | changed change => exact induction hlawful.2 hearlier
      | dispatched offering answer =>
          rw [reached, if_neg, induction hlawful.2 hearlier]
          intro hsent
          exact absurd (installed_lt hlawful.2 (bind_collector?.mp hsent)) (Nat.not_lt.mpr hearlier)

theorem collecting?_idle {change : Change ρ} {collecting : Collecting ρ}
    (hmade : change.collecting? = some collecting) : collecting.holding [] = collecting := by
  cases change <;> cases hmade <;> rfl

theorem offer_frame (registry : Registry ρ) (number : Nat) (packet : Packet) :
    (registry.offer number packet).2.handlers = registry.handlers ∧
      (registry.offer number packet).2.collectors.length = registry.collectors.length := by
  unfold offer
  split
  · exact ⟨rfl, rfl⟩
  · dsimp only
    split <;> exact ⟨rfl, List.length_set⟩

theorem dispatch_changes (registry : Registry ρ) (offering : Offering ρ) :
    (registry.dispatch offering.respond offering.packet).2 =
      (offering.changes (registry.dispatch offering.respond offering.packet).1).foldl apply
        (registry.route offering.packet).2 := by
  unfold dispatch
  rcases registry.route offering.packet with ⟨route, next⟩
  cases route <;> rfl

/-- What a collector holds after another packet, if it has held what has come since its last
cycle. -/
theorem offer_next {registry : Registry ρ} {number : Nat} {collecting : Collecting ρ}
    {items held : List (Offering ρ)} {cycles : List (Cycle (Offering ρ))}
    (hcut : Cycle.Cut collecting.closes items cycles held)
    (hholds : registry.collectors[number]? = some (collecting.holding (held.map Offering.packet)))
    (offering : Offering ρ) :
    ∃ later next, Cycle.Cut collecting.closes (items ++ [offering]) later next ∧
      (registry.offer number offering.packet).2.collectors =
        registry.collectors.set number (collecting.holding (next.map Offering.packet)) := by
  cases hcloses : collecting.closes offering with
  | false =>
      refine ⟨cycles, held ++ [offering], hcut.snoc_open hcloses, ?_⟩
      rw [Collecting.offer_of_open hholds hcloses]
  | true =>
      refine ⟨cycles ++ [⟨held, offering⟩], [], hcut.snoc_closing hcloses, ?_⟩
      rw [Collecting.offer_of_closing hholds hcloses]
      rfl

structure Tracks (registry : Registry ρ) (history : List (Entry ρ)) : Prop where
  handlers : ∀ service, registry.handlers.find? service = installed service history
  count : registry.collectors.length = (made history).length
  holds : Lawful history → ∀ number collecting, (made history)[number]? = some collecting →
    ∃ cycles held, Cycle.Cut collecting.closes (reached number history) cycles held ∧
      registry.collectors[number]? = some (collecting.holding (held.map Offering.packet))

namespace Tracks

variable {registry : Registry ρ} {history : List (Entry ρ)}

theorem start : Tracks ({} : Registry ρ) [] :=
  ⟨fun _ => rfl, rfl, fun _ _ _ hmade => nomatch hmade⟩

theorem change (h : Tracks registry history) (change : Change ρ) :
    Tracks (registry.apply change) (.changed change :: history) where
  handlers service := by
    rw [find?_apply, h.handlers, h.count]
    rfl
  count := by
    rw [collectors_apply, List.length_append, h.count, made, List.length_append]
  holds hlawful number collecting hmade := by
    rw [collectors_apply]
    rw [made] at hmade
    by_cases hlt : number < (made history).length
    · rw [List.getElem?_append_left hlt] at hmade
      rw [List.getElem?_append_left (h.count ▸ hlt)]
      exact h.holds hlawful.2 number collecting hmade
    · have hle := Nat.not_lt.mp hlt
      rw [List.getElem?_append_right hle] at hmade
      rw [List.getElem?_append_right (h.count ▸ hle), h.count, reached,
        reached_of_unmade hlawful.2 hle]
      refine ⟨[], [], .nil, ?_⟩
      have hnew := Option.mem_toList.mp (List.mem_of_getElem? hmade)
      rw [hmade, List.map_nil, collecting?_idle hnew]

theorem changes (h : Tracks registry history) (changes : List (Change ρ)) :
    Tracks (changes.foldl apply registry) (changes.reverse.map .changed ++ history) := by
  induction changes generalizing registry history with
  | nil => exact h
  | cons change rest induction =>
      rw [List.foldl_cons, List.reverse_cons, List.map_append, List.append_assoc]
      exact induction (h.change change)

/-- The collector that a packet is sent to, and what it holds. -/
theorem collector (h : Tracks registry history) (hlawful : Lawful history) {service : Service}
    {number : Nat} (hcollects : installed service history = some (.collect number)) :
    ∃ collecting cycles held, (made history)[number]? = some collecting ∧
      Cycle.Cut collecting.closes (reached number history) cycles held ∧
      registry.collectors[number]? = some (collecting.holding (held.map Offering.packet)) := by
  have hmade := List.getElem?_eq_getElem (installed_lt hlawful hcollects)
  obtain ⟨cycles, held, hcut, hholds⟩ := h.holds hlawful number _ hmade
  exact ⟨_, cycles, held, hmade, hcut, hholds⟩

theorem answered (h : Tracks registry history) (hlawful : Lawful history) (offering : Offering ρ) :
    Answered history offering (registry.dispatch offering.respond offering.packet).1 := by
  unfold dispatch route
  rw [h.handlers]
  match hinstalled : installed offering.packet.service history with
  | none => exact .unregistered hinstalled
  | some .passthrough => exact .passthrough hinstalled
  | some (.single reaction) => exact .handled hinstalled
  | some (.collect number) =>
      obtain ⟨collecting, cycles, held, hmade, hcut, hholds⟩ := h.collector hlawful hinstalled
      cases hcloses : collecting.closes offering with
      | false =>
          simp only [Collecting.offer_of_open hholds hcloses]
          exact .collected hinstalled hmade hcloses
      | true =>
          simp only [Collecting.offer_of_closing hholds hcloses]
          exact .delivered hinstalled hmade hcut hcloses

/-- A packet that is sent on changes at most what one collector holds. -/
theorem routed (h : Tracks registry history) (offering : Offering ρ) (answer : Dispatched ρ) :
    Tracks (registry.route offering.packet).2 (.dispatched offering answer :: history) := by
  unfold route
  rw [h.handlers]
  match hinstalled : installed offering.packet.service history with
  | none | some .passthrough | some (.single reaction) =>
      refine ⟨h.handlers, h.count, fun hlawful number collecting hmade => ?_⟩
      rw [reached, hinstalled]
      exact h.holds hlawful.2 number collecting hmade
  | some (.collect number) =>
      obtain ⟨hhandlers, hlength⟩ := registry.offer_frame number offering.packet
      refine ⟨fun service => hhandlers ▸ h.handlers service, hlength.trans h.count,
        fun hlawful other collecting hmade => ?_⟩
      obtain ⟨own, cycles, held, hown, hcut, hholds⟩ := h.collector hlawful.2 hinstalled
      obtain ⟨later, next, hnext, hcollectors⟩ := offer_next hcut hholds offering
      rw [hcollectors, reached, hinstalled]
      by_cases heq : other = number
      · subst heq
        cases hown.symm.trans hmade
        refine ⟨later, next, ?_, List.getElem?_set_self (List.getElem?_eq_some_iff.mp hholds).1⟩
        rwa [if_pos (bind_collector?.mpr rfl)]
      · rw [List.getElem?_set_ne (Ne.symm heq), if_neg (by simp [Handler.collector?, Ne.symm heq])]
        exact h.holds hlawful.2 other collecting hmade

theorem dispatched (h : Tracks registry history) (offering : Offering ρ) :
    let dispatched := registry.dispatch offering.respond offering.packet
    Tracks dispatched.2 ((offering.changes dispatched.1).reverse.map .changed ++
      .dispatched offering dispatched.1 :: history) := by
  dsimp only
  rw [dispatch_changes]
  exact (h.routed offering _).changes _

theorem step {state : List (Entry ρ) × Registry ρ} (h : Tracks state.2 state.1)
    (step : Step ρ) : Tracks (Registry.step state step).2 (Registry.step state step).1 := by
  cases step with
  | change change => exact h.change change
  | dispatch offering => exact h.dispatched offering

end Tracks

theorem tracks_run (steps : List (Step ρ)) : Tracks (run steps).2 (run steps).1 := by
  suffices hfold : ∀ state : List (Entry ρ) × Registry ρ, Tracks state.2 state.1 →
      Tracks (steps.foldl step state).2 (steps.foldl step state).1 from hfold _ .start
  induction steps with
  | nil => exact fun _ h => h
  | cons step rest induction => exact fun state h => induction _ (h.step step)

/-- A packet gets its answer from the handler installed last for its service, and from no other.
What that handler changes is changed after it, even if it fails. To a collector that was made for
one service no packet goes any more when the service has got another handler, or none. -/
theorem dispatched_of_run (steps : List (Step ρ)) (hlawful : Lawful (run steps).1)
    (offering : Offering ρ) :
    let history := (run steps).1
    let dispatched := (run steps).2.dispatch offering.respond offering.packet
    Answered history offering dispatched.1 ∧
      (∀ service, dispatched.2.handlers.find? service =
        installed service ((offering.changes dispatched.1).reverse.map .changed ++
          .dispatched offering dispatched.1 :: history)) ∧
      ∀ newer own status reaction older change,
        history = newer ++ .changed (.registerCollector own status reaction) :: older →
        .changed change ∈ newer → change.service? = some own →
          installed offering.packet.service history ≠ some (.collect (made older).length) := by
  have htracks := tracks_run steps
  refine ⟨htracks.answered hlawful offering, (htracks.dispatched offering).handlers, ?_⟩
  intro newer own status reaction older change hhistory hmem hchange hinstalled
  rw [hhistory] at hlawful hinstalled
  exact (own_installed hlawful hinstalled).2 change hmem hchange

/-- One collector for two services, and one of its own for a third, which is replaced while it holds
a packet. A handler that fails takes itself out. -/
theorem dispatched_of_run_collectors :
    let packet (service : Service) (status : UInt32) (user : String) : Packet :=
      { service, status, body := ⟨[("7", user)]⟩ }
    let respond (reaction : String) (_ : Packet) : Response String :=
      if reaction = "once" then ⟨[.unregister .message], some .sessionGone⟩ else {}
    let dispatch (service : Service) (status : UInt32) (user : String) : Step String :=
      .dispatch ⟨packet service status user, respond⟩
    let steps : List (Step String) :=
      [.change (.addCollector 0 {} "both"), .change (.insert .logon (.collect 0)),
        .change (.insert .list (.collect 0)), .change (.registerCollector .notify 0 "own"),
        .change (.insert .message (.single "once")), dispatch .logon 1 "ann",
        dispatch .notify 1 "bob", .change (.insert .notify .passthrough),
        dispatch .message 0 "carol"]
    let history := (run steps).1
    let answer (offering : Offering String) : Dispatched String :=
      ((run steps).2.dispatch offering.respond offering.packet).1
    Lawful history ∧
      (Answered history ⟨packet .list 0 "dave", respond⟩ (answer ⟨packet .list 0 "dave", respond⟩) ∧
        (answer ⟨packet .list 0 "dave", respond⟩).call =
          some ("both", ⟨12, .logon, 1, 0, ⟨[("7", "ann"), ("7", "dave")]⟩⟩)) ∧
      (Answered history ⟨packet .message 0 "eve", respond⟩
          (answer ⟨packet .message 0 "eve", respond⟩) ∧
        (answer ⟨packet .message 0 "eve", respond⟩).outcome = .ok .unregistered) ∧
      installed .notify history ≠ some (.collect 1) := by
  intro packet respond dispatch steps history answer
  have hshared : 0 ∈ [0] := List.mem_singleton_self 0
  have hlawful : Lawful history :=
    ⟨trivial, trivial, trivial, trivial, trivial, trivial, trivial, hshared, hshared, trivial,
      trivial⟩
  have hlist := (dispatched_of_run steps hlawful ⟨packet .list 0 "dave", respond⟩).1
  have hmessage := (dispatched_of_run steps hlawful ⟨packet .message 0 "eve", respond⟩).1
  have hnotify := (dispatched_of_run steps hlawful ⟨packet .notify 0 "fay", respond⟩).2.2
  refine ⟨hlawful, ⟨hlist, by rfl⟩, ⟨hmessage, by rfl⟩, ?_⟩
  exact hnotify [_, _, _, _, _, _] .notify 0 "own" _ (.insert .notify .passthrough) rfl
    (by simp) rfl

end Registry

end Messenger
