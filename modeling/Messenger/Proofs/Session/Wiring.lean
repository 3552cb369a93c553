import Messenger.Proofs.Session.Standing

/-!
Which packets reach the handlers of a login, with the handlers a session is built with and those of
its rooms.
-/

namespace Messenger

open Conference (Store)

/-- The handlers a session is built with, and those of its rooms. -/
structure Wired (handlers : Table Service (Handler Reaction))
    (collectors : List (Collecting Reaction)) : Prop where
  handlers : ∀ service,
    handlers.find? service = defaultRegistry.handlers.find? service ∨
      (service ∈ Store.services ∧
        ∃ store, handlers.find? service = some (.single (.conference store)))
  collectors : collectors = defaultRegistry.collectors

namespace Registry

variable {ρ : Type}

theorem find?_registerAll (services : List Service) (reaction : ρ) (registry : Registry ρ)
    (service : Service) :
    (services.foldl (fun registry service => registry.register service reaction)
      registry).handlers.find? service =
        if service ∈ services then some (.single reaction)
        else registry.handlers.find? service := by
  induction services generalizing registry with
  | nil => simp
  | cons head rest induction =>
      rw [List.foldl_cons, induction]
      by_cases hrest : service ∈ rest
      · simp [hrest]
      · by_cases heq : service = head
        · subst heq
          simp [hrest, register, insert]
        · simp [hrest, heq, register, insert, Table.find?_insert_of_ne _ heq]

end Registry

theorem wired_build (config : SessionConfig) (listeners : List String)
    (outcomes : List ConnectOutcome) :
    Wired (Session.build config listeners outcomes).standing.handlers
      (Session.build config listeners outcomes).standing.collectors :=
  ⟨fun _ => .inl rfl, rfl⟩

theorem wired_attachStore {session : Session}
    (h : Wired session.standing.handlers session.standing.collectors)
    (policy : Conference.BufferPolicy) :
    Wired (session.attachStore policy).standing.handlers
      (session.attachStore policy).standing.collectors := by
  refine ⟨?_, h.collectors⟩
  intro service
  have hfound := Registry.find?_registerAll Store.services
    (Reaction.conference session.stores.length) session.registry service
  have hhandlers : (session.attachStore policy).standing.handlers =
      (Store.services.foldl (fun registry service =>
        registry.register service (Reaction.conference session.stores.length))
          session.registry).handlers := rfl
  rw [hhandlers, hfound]
  by_cases hservice : service ∈ Store.services
  · exact .inr ⟨hservice, session.stores.length, if_pos hservice⟩
  · rw [if_neg hservice]
    exact h.handlers service

/-- The handler of a service that can end a login. -/
def Service.loginReaction? : Service → Option Reaction
  | auth => some .challenge
  | authResp => some .authResponse
  | logoff => some .logoff
  | _ => none

namespace Registry

theorem offer_reaction {registry : Registry Reaction}
    (hcollectors : registry.collectors.map Collecting.emptied = defaultRegistry.collectors)
    {collector : Nat} {packet joined : Packet} {reaction : Reaction}
    (hoffer : (registry.offer collector packet).1 = .react reaction joined) :
    reaction = .logon := by
  unfold offer at hoffer
  cases hcollecting : registry.collectors[collector]? with
  | none => simp [hcollecting] at hoffer
  | some collecting =>
      have hmem : collecting.emptied ∈ registry.collectors.map Collecting.emptied :=
        List.mem_map_of_mem (List.mem_of_getElem? hcollecting)
      rw [hcollectors] at hmem
      have hlogon : collecting.reaction = .logon :=
        congrArg Collecting.reaction (List.mem_singleton.mp hmem)
      simp only [hcollecting] at hoffer
      split at hoffer
      · simp only [Route.react.injEq] at hoffer
        rw [← hoffer.1, hlogon]
      · cases hoffer

theorem find?_eq_default {registry : Registry Reaction} {collectors : List (Collecting Reaction)}
    (h : Wired registry.handlers collectors) {service : Service}
    (hservice : service ∉ Store.services) :
    registry.handlers.find? service = defaultRegistry.handlers.find? service :=
  (h.handlers service).resolve_right fun hroom => hservice hroom.1

/-- A packet that no room is for goes to the handler the session was built with. -/
theorem route_single {registry : Registry Reaction} {collectors : List (Collecting Reaction)}
    (h : Wired registry.handlers collectors) {packet : Packet} {reaction : Reaction}
    (hservice : packet.service ∉ Store.services)
    (hdefault : defaultRegistry.handlers.find? packet.service = some (.single reaction)) :
    (registry.route packet).1 = .react reaction packet := by
  unfold route
  rw [find?_eq_default h hservice, hdefault]

theorem route_login {registry : Registry Reaction} {collectors : List (Collecting Reaction)}
    (h : Wired registry.handlers collectors) {packet : Packet} {service : Service}
    (hservice : packet.service = service) {reaction : Reaction}
    (hreaction : service.loginReaction? = some reaction) :
    (registry.route packet).1 = .react reaction packet := by
  cases service <;> cases hreaction
  all_goals
    apply route_single h <;> rw [hservice]
    · decide
    · rfl

theorem reaction_of_login {registry : Registry Reaction} {collectors : List (Collecting Reaction)}
    (h : Wired registry.handlers collectors) {packet joined : Packet} {service : Service}
    (hservice : packet.service = service) {reaction own : Reaction}
    (hown : service.loginReaction? = some own)
    (hroute : (registry.route packet).1 = .react reaction joined) :
    reaction = own ∧ joined = packet := by
  rw [route_login h hservice hown, Route.react.injEq] at hroute
  exact ⟨hroute.1.symm, hroute.2.symm⟩

/-- A packet that reaches a handler the session was built with is taken as it is, but for those
that complete a login. -/
theorem route_default {registry : Registry Reaction}
    (h : Wired registry.handlers (registry.collectors.map Collecting.emptied))
    {packet joined : Packet} {reaction : Reaction} (hlogon : reaction ≠ .logon)
    (hroom : ∀ store, reaction ≠ .conference store)
    (hroute : (registry.route packet).1 = .react reaction joined) :
    defaultRegistry.handlers.find? packet.service = some (.single reaction) ∧ joined = packet := by
  unfold route at hroute
  cases hhandler : registry.handlers.find? packet.service with
  | none => simp [hhandler] at hroute
  | some handler =>
      cases handler with
      | single taken =>
          simp only [hhandler, Route.react.injEq] at hroute
          obtain ⟨rfl, rfl⟩ := hroute
          rcases h.handlers packet.service with hdefault | ⟨-, store, hfound⟩
          · exact ⟨hdefault.symm.trans hhandler, rfl⟩
          · rw [hhandler, Option.some.injEq, Handler.single.injEq] at hfound
            exact absurd hfound (hroom store)
      | collect collector =>
          simp only [hhandler] at hroute
          exact absurd (offer_reaction h.collectors hroute) hlogon
      | passthrough => simp [hhandler] at hroute

/-- Such a handler is that of one service only. -/
theorem service_of_login {registry : Registry Reaction}
    (h : Wired registry.handlers (registry.collectors.map Collecting.emptied)) (service : Service)
    {packet joined : Packet} {reaction : Reaction}
    (hreaction : service.loginReaction? = some reaction)
    (hroute : (registry.route packet).1 = .react reaction joined) :
    packet.service = service ∧ joined = packet := by
  cases service <;> cases hreaction
  all_goals
    obtain ⟨hfound, hjoined⟩ := route_default h (by decide) (by simp) hroute
    refine ⟨?_, hjoined⟩
    cases hservice : packet.service <;> rw [hservice] at hfound <;> first | rfl | cases hfound

theorem route_welcome {registry : Registry Reaction}
    (h : Wired registry.handlers (registry.collectors.map Collecting.emptied))
    {packet joined : Packet} {reaction : Reaction}
    (hservice : packet.service = .logon ∨ packet.service = .list)
    (hroute : (registry.route packet).1 = .react reaction joined) :
    reaction = .logon ∨ reaction = .roster := by
  unfold route at hroute
  rcases hservice with hlogon | hlist
  · have hhandler : registry.handlers.find? packet.service = some (.collect 0) := by
      rw [hlogon, find?_eq_default h (by decide)]
      rfl
    rw [hhandler] at hroute
    exact .inl (offer_reaction h.collectors hroute)
  · have hhandler : registry.handlers.find? packet.service = some (.single .roster) := by
      rw [hlist, find?_eq_default h (by decide)]
      rfl
    rw [hhandler] at hroute
    simp only [Route.react.injEq] at hroute
    exact .inr hroute.1.symm

end Registry

end Messenger
