import Messenger.Proofs.Session.Sequential

/-!
What a session reports of the packets it takes in. Two sessions that agree on little more than
their states, and on the parts of responses they hold, report the same of the same packet.
-/

namespace Messenger

/-- Whether an event is one of those by which a login tells of presence, the roster, the errors of
the server and its own end. -/
def Event.isWatched : Event → Bool
  | .statusUpdate .. => true
  | .error .. => true
  | .listReceived .. => true
  | .loggedOn .. => true
  | _ => false

theorem Event.isWatched_of_isOfRoom {event : Event} (h : event.isOfRoom = true) :
    event.isWatched = false := by
  cases event with
  | statusUpdate user status message online => cases h
  | error service message => cases h
  | listReceived list => cases h
  | loggedOn username => cases h
  | _ => rfl

def Happening.isTold : Happening → Bool
  | .reported report => report.event.isWatched
  | _ => false

def latest (journal : List Happening) : List Happening :=
  journal.foldl
    (fun sofar happening =>
      if happening = .entered .connecting then [] else sofar ++ [happening]) []

def told (journal : List Happening) : List Happening :=
  (latest journal).filter Happening.isTold

theorem latest_append {journal noted : List Happening} (hsame : .entered .connecting ∉ noted) :
    latest (journal ++ noted) = latest journal ++ noted := by
  unfold latest
  rw [List.foldl_append]
  generalize journal.foldl _ [] = sofar
  induction noted generalizing sofar with
  | nil => simp
  | cons happening rest induction =>
      rw [List.mem_cons, not_or] at hsame
      rw [List.foldl_cons, if_neg (Ne.symm hsame.1), induction hsame.2]
      simp

theorem latest_begin {journal attempt : List Happening}
    (hsame : .entered .connecting ∉ attempt) :
    latest (journal ++ .entered .connecting :: attempt) = attempt := by
  have hbegun : latest (journal ++ [.entered .connecting]) = [] := by
    simp [latest, List.foldl_append]
  rw [List.append_cons, latest_append hsame, hbegun, List.nil_append]

theorem begin_not_mem_latest (journal : List Happening) :
    .entered .connecting ∉ latest journal := by
  unfold latest
  have hgrows : ∀ sofar : List Happening, .entered .connecting ∉ sofar →
      .entered .connecting ∉ journal.foldl (fun sofar happening =>
        if happening = .entered .connecting then [] else sofar ++ [happening]) sofar := by
    induction journal with
    | nil => exact fun _ => id
    | cons happening rest induction =>
        intro sofar hsofar
        rw [List.foldl_cons]
        refine induction _ ?_
        split
        · simp
        · rename_i hne
          simp [hsofar, Ne.symm hne]
  exact hgrows [] (by simp)

theorem told_append {journal noted : List Happening} (hsame : .entered .connecting ∉ noted) :
    told (journal ++ noted) = told journal ++ noted.filter Happening.isTold := by
  rw [told, latest_append hsame, List.filter_append]
  rfl

theorem told_append_of_untold {journal noted : List Happening}
    (hsame : .entered .connecting ∉ noted) (huntold : ∀ happening ∈ noted, happening.isTold = false) :
    told (journal ++ noted) = told journal := by
  have hnone : noted.filter Happening.isTold = [] := by
    apply List.filter_eq_nil_iff.mpr
    intro happening hmem
    simp [huntold happening hmem]
  rw [told_append hsame, hnone, List.append_nil]

namespace Session

/-- Two sessions agree on all that reports on a login depend on, and on those made since it
began. -/
structure Alike (first second : Session) : Prop where
  config : first.config = second.config
  state : first.state = second.state
  username : first.username = second.username
  password : first.state = .connecting → first.password = second.password
  collectors : first.registry.collectors = second.registry.collectors
  fragments : first.fragments = second.fragments
  running : first.events.running = second.events.running
  told : told first.journal = told second.journal

namespace Alike

theorem refl (session : Session) : Alike session session :=
  ⟨rfl, rfl, rfl, fun _ => rfl, rfl, rfl, rfl, rfl⟩

theorem symm {first second : Session} (h : Alike first second) : Alike second first where
  config := h.config.symm
  state := h.state.symm
  username := h.username.symm
  password hstate := (h.password (h.state.trans hstate)).symm
  collectors := h.collectors.symm
  fragments := h.fragments.symm
  running := h.running.symm
  told := h.told.symm

theorem trans {first second third : Session} (h : Alike first second)
    (hnext : Alike second third) :
    Alike first third where
  config := h.config.trans hnext.config
  state := h.state.trans hnext.state
  username := h.username.trans hnext.username
  password hstate := (h.password hstate).trans (hnext.password (h.state.symm.trans hstate))
  collectors := h.collectors.trans hnext.collectors
  fragments := h.fragments.trans hnext.fragments
  running := h.running.trans hnext.running
  told := h.told.trans hnext.told

theorem user {first second : Session} (h : Alike first second) : first.user = second.user :=
  congrArg (fun username => username.getD "") h.username

end Alike

theorem told_report (session : Session) (service : Option Service) (event : Event) :
    told (session.report service event).journal =
      told session.journal ++
        if session.events.running && event.isWatched then [.reported ⟨service, event⟩] else [] := by
  cases hrunning : session.events.running with
  | false => simp [report, hrunning]
  | true =>
      have hsame : Happening.entered .connecting ∉ [.reported ⟨service, event⟩] := by simp
      simp only [report, hrunning, if_true, told_append hsame]
      cases hwatched : event.isWatched <;> simp [Happening.isTold, hwatched]

theorem Alike.report {first second : Session} (h : Alike first second) (service : Option Service)
    (event : Event) :
    Alike (first.report service event) (second.report service event) :=
  { h with
    running := by
      show (first.events.append _).running = (second.events.append _).running
      rw [EventQueue.running_append, EventQueue.running_append, h.running]
    told := by rw [told_report, told_report, h.told, h.running] }

theorem Alike.reportEvents {first second : Session} (h : Alike first second) (service : Service)
    (events : List Event) :
    Alike (first.reportEvents service events) (second.reportEvents service events) := by
  unfold Session.reportEvents
  induction events generalizing first second with
  | nil => exact h
  | cons event rest induction => exact induction (h.report (some service) event)

theorem alike_report (session : Session) (service : Option Service) {event : Event}
    (hunwatched : event.isWatched = false) :
    Alike (session.report service event) session :=
  { Alike.refl session with
    running := EventQueue.running_append _ _
    told := by simp [told_report, hunwatched] }

theorem alike_reportAll (session : Session) {reports : List Report}
    (hunwatched : ∀ report ∈ reports, report.event.isWatched = false) :
    Alike (session.reportAll reports) session := by
  unfold reportAll
  induction reports generalizing session with
  | nil => exact .refl session
  | cons entry rest induction =>
      have hrest := fun other hother => hunwatched other (List.mem_cons_of_mem entry hother)
      exact (induction (session.report entry.service entry.event) hrest).trans
        (alike_report session entry.service (hunwatched entry List.mem_cons_self))

theorem told_enter (session : Session) {state : SessionState} (hstate : state ≠ .connecting) :
    told (session.enter state).journal = told session.journal := by
  unfold enter
  dsimp only
  split
  · rfl
  · exact told_append_of_untold (by simpa using Ne.symm hstate) (by simp [Happening.isTold])

theorem Alike.enter {first second : Session} (h : Alike first second) {state : SessionState}
    (hstate : state ≠ .connecting) :
    Alike (first.enter state) (second.enter state) :=
  { h with
    state := rfl
    password := fun hconnecting => absurd hconnecting hstate
    told := by rw [told_enter _ hstate, told_enter _ hstate, h.told] }

theorem Alike.fail {first second : Session} (h : Alike first second) (error : SessionError) :
    Alike (first.fail error) (second.fail error) := by
  have hmarked : Alike { first with failure := some error } { second with failure := some error } :=
    { h with }
  exact hmarked.enter (by decide)

theorem alike_enqueue (session : Session) (outgoing : Outgoing Sending) :
    Alike (session.enqueue outgoing) session := by
  refine { Alike.refl session with told := told_append_of_untold ?_ ?_ }
  · simp
  · simp [Happening.isTold]

theorem alike_submit (session : Session) (packet : Packet) :
    Alike (session.submit packet).2 session := by
  unfold submit
  dsimp only
  split
  · refine (alike_enqueue _ _).trans ?_
    exact { Alike.refl session with }
  · exact { Alike.refl session with }

theorem Alike.teardown {first second : Session} (h : Alike first second) :
    Alike first.teardown second.teardown :=
  { h with
    fragments := congrArg FragmentBuffer.clear h.fragments
    running := rfl }

namespace Alike

variable {first second : Session}

theorem markLoggedOn (h : Alike first second) :
    Alike first.markLoggedOn second.markLoggedOn := by
  unfold Session.markLoggedOn
  rw [h.state, h.user]
  split
  · exact (h.enter (by decide)).report _ _
  · exact h

theorem onChallenge (h : Alike first second) (packet : Packet) :
    Alike (first.onChallenge packet) (second.onChallenge packet) := by
  unfold Session.onChallenge
  rw [h.state]
  split
  · exact h
  · rename_i hstate
    rw [Decidable.not_not, ← h.state] at hstate
    rw [h.user, h.password hstate]
    split
    · exact h.fail _
    · dsimp only
      split
      · exact h.fail _
      · have hentered : Alike (first.enter .connected) (second.enter .connected) :=
          h.enter (by decide)
        exact (alike_enqueue _ _).trans (hentered.trans (alike_enqueue _ _).symm)

theorem onAuthResponse (h : Alike first second) (packet : Packet) :
    Alike (first.onAuthResponse packet) (second.onAuthResponse packet) := by
  unfold Session.onAuthResponse
  rw [h.state]
  split
  · exact h
  · dsimp only
    split
    · exact h
    · exact h.fail _

theorem onLogon (h : Alike first second) (packet : Packet) :
    Alike (first.onLogon packet) (second.onLogon packet) :=
  (h.reportEvents packet.service _).markLoggedOn

theorem onRoster (h : Alike first second) (packet : Packet) :
    Alike (first.onRoster packet) (second.onRoster packet) := by
  have hbuffered : Alike
      { first with fragments := (second.fragments.offer packet).2 }
      { second with fragments := (second.fragments.offer packet).2 } :=
    { h with fragments := rfl }
  unfold Session.onRoster
  rw [h.fragments]
  dsimp only
  split
  · exact hbuffered
  · exact (hbuffered.report _ _).markLoggedOn

theorem onLogoff (h : Alike first second) (packet : Packet) :
    Alike (first.onLogoff packet) (second.onLogoff packet) := by
  unfold Session.onLogoff
  rw [h.state]
  split
  · exact h.reportEvents _ _
  · split
    · exact ((h.enter (by decide)).report _ _).teardown
    · exact h.fail _
    · exact h.fail _
    · exact h

theorem reportResult (h : Alike first second) (service : Service)
    (events : Except HandlerError (List Event)) :
    Alike (first.reportResult service events).1 (second.reportResult service events).1 := by
  cases events with
  | error error => exact h
  | ok events => exact h.reportEvents service events

theorem reportFriend (h : Alike first second) (packet : Packet)
    (event : String → Option String → Event) :
    Alike (first.reportFriend packet event).1 (second.reportFriend packet event).1 :=
  (h.reportEvents packet.service packet.serverError).reportResult packet.service _

end Alike

theorem alike_onConference (session : Session) (store : Nat) (packet : Packet) :
    Alike (session.onConference store packet).1 session := by
  unfold onConference
  split
  · exact .refl session
  · rename_i rooms hrooms
    cases hreceive : rooms.receive packet with
    | mk next result =>
        have hstored : Alike { session with stores := session.stores.set store next } session :=
          { Alike.refl session with }
        cases result with
        | error error => exact hstored
        | ok reports =>
            refine (alike_reportAll _ fun report hmem => ?_).trans hstored
            exact Event.isWatched_of_isOfRoom
              (Conference.Store.receive_areOfRooms hreceive report hmem)

theorem Alike.react {first second : Session} (h : Alike first second)
    (hfirst : first.alive = true) (hsecond : second.alive = true) (reaction : Reaction)
    (packet : Packet) :
    Alike (first.react reaction packet).1 (second.react reaction packet).1 := by
  unfold Session.react
  rw [hfirst, hsecond]
  cases reaction with
  | conference store =>
      exact (alike_onConference first store packet).trans
        (h.trans (alike_onConference second store packet).symm)
  | challenge => exact h.onChallenge packet
  | authResponse => exact h.onAuthResponse packet
  | logon => exact h.onLogon packet
  | roster => exact h.onRoster packet
  | logoff => exact h.onLogoff packet
  | message => exact h.reportEvents _ _
  | notify => exact h.reportResult _ _
  | newMail => exact h.reportResult _ _
  | friendAdded => exact h.reportFriend packet _
  | friendRemoved => exact h.reportFriend packet _
  | groupRenamed => exact h.reportResult .gotGroupRename (.ok (groupRenamedEvents packet))
  | contactNew => exact h.reportResult _ _
  | fileTransfer => exact h.reportResult .fileTransfer (.ok (fileTransferEvents packet))
  | statusChange => exact h.reportEvents _ _

theorem alike_note (session : Session) {happening : Happening}
    (huntold : happening.isTold = false) (hsame : happening ≠ .entered .connecting) :
    Alike (session.note happening) session := by
  refine { Alike.refl session with told := told_append_of_untold ?_ ?_ }
  · simpa using Ne.symm hsame
  · simpa using huntold

theorem alike_adopt (session : Session) (sessionId : UInt32) :
    Alike (session.adopt sessionId) session := by
  unfold adopt
  split
  · exact { Alike.refl session with }
  · exact .refl session

theorem alive_adopt (session : Session) (sessionId : UInt32) :
    (session.adopt sessionId).alive = session.alive := by
  unfold adopt
  split <;> rfl

theorem alike_handle (session : Session) (packet : Packet) :
    (∃ reaction joined, (session.registry.route packet).1 = .react reaction joined ∧
      Alike (session.handle packet)
        (({ session with registry := (session.registry.route packet).2 } : Session).react
          reaction joined).1) ∨
    ((∀ reaction joined, (session.registry.route packet).1 ≠ .react reaction joined) ∧
      Alike (session.handle packet)
        { session with registry := (session.registry.route packet).2 }) := by
  unfold handle dispatch
  cases hroute : session.registry.route packet with
  | mk route registry =>
      cases route with
      | react reaction joined =>
          refine .inl ⟨reaction, joined, rfl, ?_⟩
          dsimp only
          cases hreact : ({ session with registry } : Session).react reaction joined with
          | mk after result =>
              cases result with
              | ok done => exact .refl after
              | error error => exact alike_report after (some packet.service) rfl
      | collected => exact .inr ⟨by simp, .refl _⟩
      | passthrough => exact .inr ⟨by simp, .refl _⟩
      | unregistered => exact .inr ⟨by simp, .refl _⟩

end Session

namespace Registry

variable {ρ : Type}

theorem offer_of_collectors {first second : Registry ρ}
    (hcollectors : first.collectors = second.collectors) (collector : Nat) (packet : Packet) :
    (first.offer collector packet).1 = (second.offer collector packet).1 ∧
      (first.offer collector packet).2.collectors =
        (second.offer collector packet).2.collectors := by
  unfold offer
  rw [hcollectors]
  cases second.collectors[collector]? with
  | none => exact ⟨rfl, hcollectors⟩
  | some collecting =>
      dsimp only
      cases (collecting.collector.offer packet).1 <;> exact ⟨rfl, rfl⟩

/-- Packets that are not for a room go the same way in two sessions. -/
theorem route_of_collectors {first second : Registry Reaction}
    {collectors others : List (Collecting Reaction)} (hfirst : Wired first.handlers collectors)
    (hsecond : Wired second.handlers others) (hcollectors : first.collectors = second.collectors)
    {packet : Packet} (hservice : packet.service ∉ Conference.Store.services) :
    (first.route packet).1 = (second.route packet).1 ∧
      (first.route packet).2.collectors = (second.route packet).2.collectors := by
  unfold route
  rw [find?_eq_default hfirst hservice, find?_eq_default hsecond hservice]
  split
  · exact ⟨rfl, hcollectors⟩
  · exact offer_of_collectors hcollectors _ packet
  · exact ⟨rfl, hcollectors⟩
  · exact ⟨rfl, hcollectors⟩

/-- A packet for a room goes to the rooms or nowhere. -/
theorem route_room {registry : Registry Reaction} {collectors : List (Collecting Reaction)}
    (h : Wired registry.handlers collectors) {packet : Packet}
    (hservice : packet.service ∈ Conference.Store.services) :
    (registry.route packet).2 = registry ∧
      ∀ reaction joined, (registry.route packet).1 = .react reaction joined →
        ∃ store, reaction = .conference store := by
  have hdefault : defaultRegistry.handlers.find? packet.service = none := by
    have hnone : ∀ service ∈ Conference.Store.services,
        (defaultRegistry.handlers.find? service).isNone = true := by
      decide
    exact Option.isNone_iff_eq_none.mp (hnone _ hservice)
  unfold route
  rcases h.handlers packet.service with hnone | ⟨-, store, hroom⟩
  · rw [hnone, hdefault]
    exact ⟨rfl, fun _ _ hroute => nomatch hroute⟩
  · rw [hroom]
    refine ⟨rfl, fun reaction joined hroute => ⟨store, ?_⟩⟩
    simp only [Route.react.injEq] at hroute
    exact hroute.1.symm

end Registry

namespace Session

theorem alike_handle_room {session : Session} {collectors : List (Collecting Reaction)}
    (h : Wired session.registry.handlers collectors) {packet : Packet}
    (hservice : packet.service ∈ Conference.Store.services) :
    Alike (session.handle packet) session := by
  obtain ⟨hregistry, hroom⟩ := Registry.route_room h hservice
  rcases alike_handle session packet with ⟨reaction, joined, hroute, hhandled⟩ | ⟨-, hhandled⟩
  · obtain ⟨store, rfl⟩ := hroom reaction joined hroute
    rw [hregistry] at hhandled
    exact hhandled.trans (alike_onConference session store joined)
  · rwa [hregistry] at hhandled

section

variable {first second : Session} {collectors others : List (Collecting Reaction)}
  (hfirst : Wired first.registry.handlers collectors)
  (hsecond : Wired second.registry.handlers others)
  (hlives : first.alive = true) (hlivesToo : second.alive = true)

include hfirst hsecond hlives hlivesToo

theorem Alike.handle (h : Alike first second) (packet : Packet) :
    Alike (first.handle packet) (second.handle packet) := by
  by_cases hservice : packet.service ∈ Conference.Store.services
  · exact (alike_handle_room hfirst hservice).trans
      (h.trans (alike_handle_room hsecond hservice).symm)
  · obtain ⟨hroute, hcollectors⟩ :=
      Registry.route_of_collectors hfirst hsecond h.collectors hservice
    have hrouted : Alike { first with registry := (first.registry.route packet).2 }
        { second with registry := (second.registry.route packet).2 } :=
      { h with collectors := hcollectors }
    rcases alike_handle first packet with ⟨reaction, joined, hreacts, hhandled⟩ |
      ⟨hnone, hhandled⟩
    · rcases alike_handle second packet with ⟨other, taken, hother, hhandledToo⟩ | ⟨hnone, -⟩
      · rw [hreacts, hother, Route.react.injEq] at hroute
        obtain ⟨rfl, rfl⟩ := hroute
        refine hhandled.trans ((hrouted.react ?_ ?_ reaction joined).trans hhandledToo.symm)
        · exact hlives
        · exact hlivesToo
      · exact absurd (hroute.symm.trans hreacts) (hnone reaction joined)
    · rcases alike_handle second packet with ⟨other, taken, hother, -⟩ | ⟨-, hhandledToo⟩
      · exact absurd (hroute.trans hother) (hnone other taken)
      · exact hhandled.trans (hrouted.trans hhandledToo.symm)

/-- Whatever connection it comes on, a packet has two such sessions report the same. -/
theorem Alike.receive (h : Alike first second) (connection other : Nat) (packet : Packet) :
    Alike (first.receive connection packet) (second.receive other packet) := by
  have hadopted : ∀ (session : Session) (index : Nat),
      Alike ((session.note (.received index packet)).adopt packet.sessionId) session :=
    fun session index => (alike_adopt _ _).trans (alike_note session rfl (by simp))
  have hnoted : ∀ session : Session, Alike (session.note .handled) session :=
    fun session => alike_note session rfl (by simp)
  have hhandled := Alike.handle
    (by rw [registry_adopt]; exact hfirst) (by rw [registry_adopt]; exact hsecond)
    (by rw [alive_adopt]; exact hlives) (by rw [alive_adopt]; exact hlivesToo)
    ((hadopted first connection).trans (h.trans (hadopted second other).symm)) packet
  exact (hnoted _).trans (hhandled.trans (hnoted _).symm)

end

end Session

end Messenger
