import Messenger.Proofs.Session.Standing

/-!
What a received packet can do to a session. Whatever handler it reaches, the packet answers the
challenge of a login, ends a login or a session, completes a login, or leaves the session where it
stands, with nothing but reports to show for it.
-/

namespace Messenger

namespace Event

/-- Whether an event announces the end of a login. -/
def isLoggedOn : Event → Bool
  | .loggedOn _ => true
  | _ => false

/-- Whether an event announces the end of a session that was logged on. -/
def isClosed : Event → Bool
  | .connectionClosed _ => true
  | _ => false

def isMilestone (event : Event) : Bool :=
  event.isLoggedOn || event.isClosed

/-- Whether an event tells of a room. -/
def isOfRoom : Event → Bool
  | .conferenceInvite .. => true
  | .conferenceLogon .. => true
  | .conferenceLogoff .. => true
  | .conferenceDecline .. => true
  | .conferenceMessage .. => true
  | _ => false

theorem isMilestone_of_isOfRoom {event : Event} (h : event.isOfRoom = true) :
    event.isMilestone = false := by
  cases event with
  | loggedOn username => cases h
  | connectionClosed reason => cases h
  | _ => rfl

end Event

namespace Happening

/-- A report that announces neither a login nor the end of a session. -/
def isNews : Happening → Bool
  | .reported report => !report.event.isMilestone
  | _ => false

def report? : Happening → Option Report
  | .reported report => some report
  | _ => none

end Happening

/-- The reports a journal tells of. -/
def reportsOf (journal : List Happening) : List Report :=
  journal.filterMap Happening.report?

@[simp] theorem reportsOf_append (early late : List Happening) :
    reportsOf (early ++ late) = reportsOf early ++ reportsOf late :=
  List.filterMap_append

def AreOfRooms (reports : List Report) : Prop :=
  ∀ report ∈ reports, report.event.isOfRoom = true

theorem AreOfRooms.append {first second : List Report} (hfirst : AreOfRooms first)
    (hsecond : AreOfRooms second) :
    AreOfRooms (first ++ second) := by
  intro report hmem
  rcases List.mem_append.mp hmem with hmem | hmem
  · exact hfirst report hmem
  · exact hsecond report hmem

theorem AreOfRooms.ofEvent {event : Option Event} (service : Service)
    (hevent : ∀ shown ∈ event.toList, shown.isOfRoom = true) :
    AreOfRooms (event.toList.map fun event => ⟨some service, event⟩) := by
  intro report hmem
  obtain ⟨shown, hshown, rfl⟩ := List.mem_map.mp hmem
  exact hevent shown hshown

namespace Session

/-- What has been reported between two sessions waits in the queue, if the queue runs. -/
structure Voices (before after : Session) : Prop where
  delivered : after.delivered = before.delivered
  events : ∃ noted, after.journal = before.journal ++ noted ∧
    after.events = (reportsOf noted).foldl EventQueue.append before.events ∧
    (before.events.running = false → reportsOf noted = [])

namespace Voices

theorem of_same {before after : Session} (hjournal : after.journal = before.journal)
    (hevents : after.events = before.events) (hdelivered : after.delivered = before.delivered) :
    Voices before after :=
  ⟨hdelivered, [], by simpa using hjournal, hevents, fun _ => rfl⟩

theorem running_eq {queue : EventQueue String} (reports : List Report) :
    (reports.foldl EventQueue.append queue).running = queue.running := by
  induction reports generalizing queue with
  | nil => rfl
  | cons report rest induction => exact induction.trans (queue.running_append report)

theorem trans {first second third : Session} (hfirst : Voices first second)
    (hsecond : Voices second third) :
    Voices first third := by
  obtain ⟨early, hearly, hqueue, hmute⟩ := hfirst.events
  obtain ⟨late, hlate, hqueueLater, hmuteLater⟩ := hsecond.events
  refine ⟨hsecond.delivered.trans hfirst.delivered, early ++ late, ?_, ?_, fun hstopped => ?_⟩
  · rw [hlate, hearly, List.append_assoc]
  · rw [hqueueLater, hqueue, reportsOf_append, List.foldl_append]
  · have hstill : second.events.running = false := by
      rw [hqueue, running_eq]
      exact hstopped
    rw [reportsOf_append, hmute hstopped, hmuteLater hstill, List.append_nil]

theorem report (session : Session) (service : Option Service) (event : Event) :
    Voices session (session.report service event) := by
  refine ⟨rfl, ?_⟩
  cases hrunning : session.events.running with
  | true =>
      refine ⟨[.reported ⟨service, event⟩], ?_, rfl, fun hstopped => nomatch hstopped⟩
      simp [Session.report, hrunning]
  | false =>
      refine ⟨[], ?_, ?_, fun _ => rfl⟩
      · simp [Session.report, hrunning]
      · simp [Session.report, EventQueue.append, hrunning, reportsOf]

end Voices

/-- Nothing has happened between two sessions but that news was reported. -/
structure Undisturbed (before after : Session) : Prop where
  standing : after.standing = before.standing
  schedule : after.schedule = before.schedule
  voices : Voices before after
  journal : ∃ noted, after.journal = before.journal ++ noted ∧
    ∀ happening ∈ noted, happening.isNews = true

namespace Undisturbed

theorem of_same {before after : Session} (hstanding : after.standing = before.standing)
    (hschedule : after.schedule = before.schedule) (hjournal : after.journal = before.journal)
    (hevents : after.events = before.events := by rfl)
    (hdelivered : after.delivered = before.delivered := by rfl) :
    Undisturbed before after :=
  ⟨hstanding, hschedule, .of_same hjournal hevents hdelivered, [], by simpa using hjournal,
    by simp⟩

theorem refl (session : Session) : Undisturbed session session :=
  of_same rfl rfl rfl

theorem trans {first second third : Session} (hfirst : Undisturbed first second)
    (hsecond : Undisturbed second third) :
    Undisturbed first third := by
  obtain ⟨early, hearly, hearlyNews⟩ := hfirst.journal
  obtain ⟨late, hlate, hlateNews⟩ := hsecond.journal
  refine ⟨hsecond.standing.trans hfirst.standing, hsecond.schedule.trans hfirst.schedule,
    hfirst.voices.trans hsecond.voices, early ++ late, ?_, ?_⟩
  · rw [hlate, hearly, List.append_assoc]
  · intro happening hmem
    rcases List.mem_append.mp hmem with hmem | hmem
    · exact hearlyNews happening hmem
    · exact hlateNews happening hmem

theorem state_eq {before after : Session} (h : Undisturbed before after) :
    after.state = before.state :=
  congrArg Standing.state h.standing

end Undisturbed

theorem undisturbed_report (session : Session) (service : Option Service) {event : Event}
    (hevent : event.isMilestone = false) :
    Undisturbed session (session.report service event) := by
  refine ⟨standing_report session service event, rfl, .report session service event, ?_⟩
  by_cases hrunning : session.events.running = true
  · exact ⟨[.reported ⟨service, event⟩], by simp [report, hrunning],
      by simp [Happening.isNews, hevent]⟩
  · exact ⟨[], by simp [report, hrunning], by simp⟩

theorem undisturbed_reportEvents (session : Session) (service : Service) {events : List Event}
    (hevents : ∀ event ∈ events, event.isMilestone = false) :
    Undisturbed session (session.reportEvents service events) := by
  unfold reportEvents
  induction events generalizing session with
  | nil => exact .refl session
  | cons event rest induction =>
      have hhead := undisturbed_report session (some service)
        (hevents event (List.mem_cons_self ..))
      have htail := fun other hother => hevents other (List.mem_cons_of_mem event hother)
      exact hhead.trans (induction _ htail)

theorem undisturbed_reportAll (session : Session) {reports : List Report}
    (hreports : ∀ report ∈ reports, report.event.isMilestone = false) :
    Undisturbed session (session.reportAll reports) := by
  unfold reportAll
  induction reports generalizing session with
  | nil => exact .refl session
  | cons entry rest induction =>
      have hhead := undisturbed_report session entry.service
        (hreports entry (List.mem_cons_self ..))
      have htail := fun other hother => hreports other (List.mem_cons_of_mem entry hother)
      exact hhead.trans (induction _ htail)

end Session

namespace Packet

theorem serverError_isMilestone (packet : Packet) :
    ∀ event ∈ packet.serverError, event.isMilestone = false := by
  unfold serverError
  cases packet.value? "16" <;> simp [Event.isMilestone, Event.isLoggedOn, Event.isClosed]

theorem friendStatuses_isMilestone (packet : Packet) (online : Bool) :
    ∀ event ∈ packet.friendStatuses online, event.isMilestone = false := by
  intro event hmem
  obtain ⟨index, hindex, rfl⟩ := List.mem_mapIdx.mp hmem
  rfl

theorem presence_isMilestone (packet : Packet) (online : Bool) :
    ∀ event ∈ packet.serverError ++ packet.friendStatuses online,
      event.isMilestone = false := by
  intro event hmem
  rcases List.mem_append.mp hmem with hmem | hmem
  · exact packet.serverError_isMilestone event hmem
  · exact packet.friendStatuses_isMilestone online event hmem

end Packet

namespace Session

theorem messageEvents_isMilestone (packet : Packet) :
    ∀ event ∈ packet.serverError ++ messageEvents packet, event.isMilestone = false := by
  intro event hmem
  rcases List.mem_append.mp hmem with hmem | hmem
  · exact packet.serverError_isMilestone event hmem
  · obtain ⟨index, hindex, rfl⟩ := List.mem_mapIdx.mp hmem
    rfl

theorem groupRenamedEvents_isMilestone (packet : Packet) :
    ∀ event ∈ groupRenamedEvents packet, event.isMilestone = false := by
  unfold groupRenamedEvents
  split <;> simp [Event.isMilestone, Event.isLoggedOn, Event.isClosed]

theorem fileTransferEvents_isMilestone (packet : Packet) :
    ∀ event ∈ fileTransferEvents packet, event.isMilestone = false := by
  unfold fileTransferEvents
  dsimp only
  split <;> simp [Event.isMilestone, Event.isLoggedOn, Event.isClosed]

theorem notifyEvents_isMilestone {packet : Packet} {events : List Event}
    (hevents : notifyEvents packet = .ok events) :
    ∀ event ∈ events, event.isMilestone = false := by
  unfold notifyEvents at hevents
  split at hevents
  · cases hsender : packet.require "4" with
    | error error => simp [hsender, Except.map] at hevents
    | ok sender =>
        simp only [hsender, Except.map, Except.ok.injEq] at hevents
        simp [← hevents, Event.isMilestone, Event.isLoggedOn, Event.isClosed]
  · cases hevents
    simp

theorem newMailEvents_isMilestone {packet : Packet} {events : List Event}
    (hevents : newMailEvents packet = .ok events) :
    ∀ event ∈ events, event.isMilestone = false := by
  unfold newMailEvents at hevents
  split at hevents
  · cases hevents
    simp [Event.isMilestone, Event.isLoggedOn, Event.isClosed]
  · split at hevents
    · cases hevents
      simp [Event.isMilestone, Event.isLoggedOn, Event.isClosed]
    · cases hevents

theorem contactEvents_isMilestone {packet : Packet} {events : List Event}
    (hevents : contactEvents packet = .ok events) :
    ∀ event ∈ events, event.isMilestone = false := by
  unfold contactEvents at hevents
  split at hevents
  · cases hevents
    simp
  · split at hevents
    · cases hevents
      exact packet.friendStatuses_isMilestone true
    · cases hsender : packet.require "3" with
      | error error => simp [hsender, Except.map] at hevents
      | ok sender =>
          simp only [hsender, Except.map, Except.ok.injEq] at hevents
          simp [← hevents, Event.isMilestone, Event.isLoggedOn, Event.isClosed]

end Session

namespace Conference

theorem Room.update_isOfRoom {room next : Room} {name : String} {packet : Packet}
    {event : Option Event} (hupdate : room.update name packet = .ok (next, event)) :
    ∀ shown ∈ event.toList, shown.isOfRoom = true := by
  unfold Room.update at hupdate
  split at hupdate
  case h_5 =>
      cases hupdate
      simp
  all_goals
    simp only [Except.map] at hupdate
    split at hupdate
    · cases hupdate
    · simp only [Except.ok.injEq, Prod.mk.injEq] at hupdate
      rw [← hupdate.2]
      split <;> simp [Event.isOfRoom]

theorem Room.replay_areOfRooms {name : String} {state : Room × List Report} (packet : Packet)
    (hstate : AreOfRooms state.2) :
    AreOfRooms (Room.replay name state packet).2 := by
  unfold Room.replay
  split
  · exact hstate
  · rename_i room event hupdate
    exact hstate.append (.ofEvent packet.service (Room.update_isOfRoom hupdate))

theorem Room.replayAll_areOfRooms {name : String} {state : Room × List Report} (pending : List Packet)
    (hstate : AreOfRooms state.2) :
    AreOfRooms (pending.foldl (Room.replay name) state).2 := by
  induction pending generalizing state with
  | nil => exact hstate
  | cons packet rest induction => exact induction (Room.replay_areOfRooms packet hstate)

theorem Room.invite_areOfRooms (room : Room) (name : String) (packet : Packet) :
    AreOfRooms (room.invite name packet).2 := by
  unfold Room.invite
  apply Room.replayAll_areOfRooms
  simp [AreOfRooms, Event.isOfRoom]

theorem Store.receiveUpdate_areOfRooms {store next : Store} {name : String} {packet : Packet}
    {reports : List Report} (hreceive : store.receiveUpdate name packet = (next, .ok reports)) :
    AreOfRooms reports := by
  unfold Store.receiveUpdate at hreceive
  split at hreceive
  · simp only [Prod.mk.injEq, Except.ok.injEq] at hreceive
    simp [← hreceive.2, AreOfRooms]
  · split at hreceive
    · split at hreceive <;>
      · simp only [Prod.mk.injEq, Except.ok.injEq] at hreceive
        simp [← hreceive.2, AreOfRooms]
    · split at hreceive
      · split at hreceive
        · simp at hreceive
        · rename_i updated event hupdate
          simp only [Prod.mk.injEq, Except.ok.injEq] at hreceive
          rw [← hreceive.2]
          exact .ofEvent packet.service (Room.update_isOfRoom hupdate)
      · split at hreceive <;>
        · simp only [Prod.mk.injEq, Except.ok.injEq] at hreceive
          simp [← hreceive.2, AreOfRooms]

theorem Store.receive_areOfRooms {store next : Store} {packet : Packet} {reports : List Report}
    (hreceive : store.receive packet = (next, .ok reports)) :
    AreOfRooms reports := by
  unfold Store.receive at hreceive
  split at hreceive
  · simp at hreceive
  · rename_i name hname
    split at hreceive
    · simp only [Prod.mk.injEq, Except.ok.injEq] at hreceive
      rw [← hreceive.2]
      exact Room.invite_areOfRooms _ name packet
    · exact Store.receiveUpdate_areOfRooms hreceive

end Conference

namespace Session

theorem undisturbed_reportResult (session : Session) (service : Service)
    {events : Except HandlerError (List Event)}
    (hevents : ∀ listed, events = .ok listed → ∀ event ∈ listed, event.isMilestone = false) :
    Undisturbed session (session.reportResult service events).1 := by
  cases events with
  | error error => exact .refl session
  | ok listed => exact undisturbed_reportEvents session service (hevents listed rfl)

theorem undisturbed_reportFriend (session : Session) (packet : Packet)
    {event : String → Option String → Event}
    (hevent : ∀ friend group, (event friend group).isMilestone = false) :
    Undisturbed session (session.reportFriend packet event).1 := by
  have hfirst := undisturbed_reportEvents session packet.service packet.serverError_isMilestone
  refine hfirst.trans (undisturbed_reportResult _ _ ?_)
  intro listed hlisted shown hshown
  cases hfriend : packet.require "7" with
  | error error => simp [hfriend, Except.map] at hlisted
  | ok friend =>
      simp only [hfriend, Except.map, Except.ok.injEq] at hlisted
      rw [← hlisted, List.mem_singleton] at hshown
      rw [hshown]
      exact hevent friend _

theorem undisturbed_onConference (session : Session) (store : Nat) (packet : Packet) :
    Undisturbed session (session.onConference store packet).1 := by
  unfold onConference
  split
  · exact .refl session
  · rename_i rooms hrooms
    cases hreceive : rooms.receive packet with
    | mk next result =>
        dsimp only
        cases result with
        | error error => exact .of_same rfl rfl rfl
        | ok reports =>
            have hrooms := Conference.Store.receive_areOfRooms hreceive
            refine Undisturbed.trans ?_ (undisturbed_reportAll _ ?_)
            · exact .of_same rfl rfl rfl
            · exact fun report hmem => Event.isMilestone_of_isOfRoom (hrooms report hmem)

/-- When a handler ends a login: a challenge that is missing or empty, a refusal, or the server's
goodbye. -/
inductive Fault : SessionState → Reaction → Packet → SessionError → Prop
  | unasked {packet : Packet} (hvalue : packet.value? "94" = none) :
      Fault .connecting .challenge packet (.malformed "AUTH challenge without field 94")
  | emptyChallenge {packet : Packet} (hvalue : packet.value? "94" = some "") :
      Fault .connecting .challenge packet (.challenge .empty)
  | refused {state : SessionState} {packet : Packet} {text : String} {code : Int}
      (hstate : state.isLoggingIn = true)
      (hvalue : packet.value? "66" = some text)
      (hcode : code = (Text.int64? (Text.trim text)).getD (-1))
      (hrefused : code ≠ 0) :
      Fault state .authResponse packet (.rejected (.ofCode code (packet.value? "20")))
  | loggedOff {state : SessionState} {packet : Packet}
      (hstate : state.isLoggingIn = true) (hbody : packet.has "7" = false) :
      Fault state .logoff packet .connectionClosed

theorem Fault.isLoggingIn {state : SessionState} {reaction : Reaction} {packet : Packet}
    {error : SessionError} (h : Fault state reaction packet error) :
    state.isLoggingIn = true := by
  cases h with
  | unasked hvalue => rfl
  | emptyChallenge hvalue => rfl
  | refused hstate hvalue hcode hrefused => exact hstate
  | loggedOff hstate hbody => exact hstate

/-- What a handler makes of a session, and how it ends. -/
inductive Reacted (before : Session) (reaction : Reaction) (packet : Packet) :
    Session × Except HandlerError Unit → Prop
  /-- Only reports. A challenge is not passed over while a login waits for it. -/
  | aside {after : Session} {result : Except HandlerError Unit} (hafter : Undisturbed before after)
      (hchallenge : reaction = .challenge → before.alive = true → before.state ≠ .connecting) :
      Reacted before reaction packet (after, result)
  | answered {challenge : String} {response : Auth.Response} (hreaction : reaction = .challenge)
      (hstate : before.state = .connecting)
      (hvalue : packet.value? "94" = some challenge)
      (hresponse : Auth.respond (.ofFlag (packet.value? "13")) before.user
        (before.password.getD "") challenge = .ok response) :
      Reacted before reaction packet
        ((before.enter .connected).execute (.packet (before.authResponse response))
          (before.authResponse response), .ok ())
  | refused {error : SessionError} (hfault : Fault before.state reaction packet error) :
      Reacted before reaction packet (before.fail error, .ok ())
  | welcomed {told : Session} (hreaction : reaction = .logon ∨ reaction = .roster)
      (htold : Undisturbed before told) (hstate : before.state = .connected) :
      Reacted before reaction packet
        ((told.enter .loggedOn).report (some .logon) (.loggedOn told.user), .ok ())
  | evicted (hreaction : reaction = .logoff) (hstate : before.state = .loggedOn)
      (hbody : packet.has "7" = false) :
      Reacted before reaction packet
        (((before.enter .unstarted).report (some .logoff)
          (.connectionClosed "session ended by server")).teardown, .ok ())

theorem Reacted.only_reports {before after : Session} {reaction : Reaction} {packet : Packet}
    {result : Except HandlerError Unit} (hreaction : reaction ≠ .challenge)
    (hafter : Undisturbed before after) :
    Reacted before reaction packet (after, result) :=
  .aside hafter fun hchallenge => absurd hchallenge hreaction

theorem onChallenge_reacted (session : Session) (packet : Packet) :
    Reacted session .challenge packet (session.onChallenge packet, .ok ()) := by
  unfold onChallenge
  by_cases hstate : session.state = .connecting
  · rw [if_neg (not_not_intro hstate)]
    cases hvalue : packet.value? "94" with
    | none =>
        apply Reacted.refused
        rw [hstate]
        exact .unasked hvalue
    | some challenge =>
        dsimp only
        by_cases hempty : challenge = ""
        · subst hempty
          apply Reacted.refused
          rw [hstate]
          exact .emptyChallenge hvalue
        · cases hresponse : Auth.respond (.ofFlag (packet.value? "13")) session.user
              (session.password.getD "") challenge with
          | error error => simp [Auth.respond, hempty] at hresponse
          | ok response => exact .answered rfl hstate hvalue hresponse
  · rw [if_pos hstate]
    exact .aside (.refl session) fun _ _ => hstate

theorem onAuthResponse_reacted (session : Session) (packet : Packet) :
    Reacted session .authResponse packet (session.onAuthResponse packet, .ok ()) := by
  unfold onAuthResponse
  cases hvalue : packet.value? "66" with
  | none => exact .only_reports (by decide) (.refl session)
  | some text =>
      dsimp only
      split
      · exact .only_reports (by decide) (.refl session)
      · rename_i hrefused
        simp only [Bool.or_eq_true, decide_eq_true_eq, Bool.not_eq_true', not_or,
          Bool.not_eq_false] at hrefused
        exact .refused (.refused hrefused.2 hvalue rfl hrefused.1)

theorem markLoggedOn_reacted {before told : Session} {reaction : Reaction} {packet : Packet}
    (hreaction : reaction = .logon ∨ reaction = .roster) (htold : Undisturbed before told) :
    Reacted before reaction packet (told.markLoggedOn, .ok ()) := by
  unfold markLoggedOn
  split
  · rename_i hstate
    exact .welcomed hreaction htold (htold.state_eq.symm.trans hstate)
  · refine .only_reports ?_ htold
    rintro rfl
    simp at hreaction

theorem onLogon_reacted (session : Session) (packet : Packet) :
    Reacted session .logon packet (session.onLogon packet, .ok ()) :=
  markLoggedOn_reacted (.inl rfl)
    (undisturbed_reportEvents session packet.service (packet.presence_isMilestone true))

theorem onRoster_reacted (session : Session) (packet : Packet) :
    Reacted session .roster packet (session.onRoster packet, .ok ()) := by
  have hbuffered : Undisturbed session
      { session with fragments := (session.fragments.offer packet).2 } := by
    refine .of_same ?_ rfl rfl
    simp [standing, FragmentBuffer.clear_offer]
  unfold onRoster
  dsimp only
  split
  · exact .only_reports (by decide) hbuffered
  · apply markLoggedOn_reacted (.inr rfl)
    exact hbuffered.trans (undisturbed_report _ _ rfl)

theorem onLogoff_reacted (session : Session) (packet : Packet) :
    Reacted session .logoff packet (session.onLogoff packet, .ok ()) := by
  unfold onLogoff
  cases hbody : packet.has "7" with
  | true =>
      exact .only_reports (by decide)
        (undisturbed_reportEvents session packet.service (packet.friendStatuses_isMilestone false))
  | false =>
      rw [if_neg (by decide)]
      cases hstate : session.state with
      | loggedOn => exact .evicted rfl hstate hbody
      | connecting => exact .refused (.loggedOff (by rw [hstate]; rfl) hbody)
      | connected => exact .refused (.loggedOff (by rw [hstate]; rfl) hbody)
      | unstarted => exact .only_reports (by decide) (.refl session)
      | failed => exact .only_reports (by decide) (.refl session)

theorem reportResult_reacted (session : Session) {reaction : Reaction} (packet : Packet)
    (service : Service) {events : Except HandlerError (List Event)}
    (hreaction : reaction ≠ .challenge)
    (hevents : ∀ listed, events = .ok listed → ∀ event ∈ listed, event.isMilestone = false) :
    Reacted session reaction packet (session.reportResult service events) :=
  .only_reports hreaction (undisturbed_reportResult session service hevents)

theorem reportEvents_reacted (session : Session) {reaction : Reaction} (packet : Packet)
    {events : List Event} (hreaction : reaction ≠ .challenge)
    (hevents : ∀ event ∈ events, event.isMilestone = false) :
    Reacted session reaction packet (session.reportEvents packet.service events, .ok ()) :=
  .only_reports hreaction (undisturbed_reportEvents session packet.service hevents)

theorem react_reacted (session : Session) (reaction : Reaction) (packet : Packet) :
    Reacted session reaction packet (session.react reaction packet) := by
  unfold react
  cases halive : session.alive with
  | false =>
      have hgone : Reacted session reaction packet (session, .error .sessionGone) :=
        .aside (.refl session) fun _ h => absurd h (by simp [halive])
      cases reaction with
      | conference store =>
          exact .only_reports (by simp) (undisturbed_onConference session store packet)
      | _ => exact hgone
  | true =>
      cases reaction with
      | conference store =>
          exact .only_reports (by simp) (undisturbed_onConference session store packet)
      | challenge => exact onChallenge_reacted session packet
      | authResponse => exact onAuthResponse_reacted session packet
      | logon => exact onLogon_reacted session packet
      | roster => exact onRoster_reacted session packet
      | logoff => exact onLogoff_reacted session packet
      | message =>
          exact reportEvents_reacted session packet (by decide) (messageEvents_isMilestone packet)
      | notify =>
          exact reportResult_reacted session packet .notify (by decide)
            fun _ => notifyEvents_isMilestone
      | newMail =>
          exact reportResult_reacted session packet .newMail (by decide)
            fun _ => newMailEvents_isMilestone
      | friendAdded =>
          exact .only_reports (by decide) (undisturbed_reportFriend session packet fun _ _ => rfl)
      | friendRemoved =>
          exact .only_reports (by decide) (undisturbed_reportFriend session packet fun _ _ => rfl)
      | groupRenamed =>
          exact reportResult_reacted session packet .gotGroupRename (by decide)
            fun _ hlisted => Except.ok.inj hlisted ▸ groupRenamedEvents_isMilestone packet
      | contactNew =>
          exact reportResult_reacted session packet packet.service (by decide)
            fun _ => contactEvents_isMilestone
      | fileTransfer =>
          exact reportResult_reacted session packet .fileTransfer (by decide)
            fun _ hlisted => Except.ok.inj hlisted ▸ fileTransferEvents_isMilestone packet
      | statusChange =>
          exact reportEvents_reacted session packet (by decide) (packet.presence_isMilestone true)

end Session

namespace Registry

variable {ρ : Type}

theorem offer_keeps (registry : Registry ρ) (collector : Nat) (packet : Packet) :
    (registry.offer collector packet).2.handlers = registry.handlers ∧
      (registry.offer collector packet).2.collectors.map Collecting.emptied =
        registry.collectors.map Collecting.emptied := by
  unfold offer
  cases hcollecting : registry.collectors[collector]? with
  | none => exact ⟨rfl, rfl⟩
  | some collecting =>
      dsimp only
      have hkept : (registry.collectors.set collector
          { collecting with collector := (collecting.collector.offer packet).2 }).map
            Collecting.emptied = registry.collectors.map Collecting.emptied := by
        apply List.ext_getElem?
        intro position
        by_cases heq : collector = position
        · subst heq
          simp [List.getElem?_set', hcollecting, Collecting.emptied, Collector.emptied_offer]
        · simp [heq]
      cases (collecting.collector.offer packet).1 <;> exact ⟨rfl, hkept⟩

theorem route_keeps (registry : Registry ρ) (packet : Packet) :
    (registry.route packet).2.handlers = registry.handlers ∧
      (registry.route packet).2.collectors.map Collecting.emptied =
        registry.collectors.map Collecting.emptied := by
  unfold route
  split
  · exact ⟨rfl, rfl⟩
  · exact registry.offer_keeps _ packet
  · exact ⟨rfl, rfl⟩
  · exact ⟨rfl, rfl⟩

end Registry

namespace Session

theorem standing_route (session : Session) (packet : Packet) :
    ({ session with registry := (session.registry.route packet).2 } : Session).standing =
      session.standing := by
  obtain ⟨hhandlers, hcollectors⟩ := session.registry.route_keeps packet
  simp [standing, hhandlers, hcollectors]

theorem standing_adopt (session : Session) (sessionId : UInt32) :
    (session.adopt sessionId).standing = session.standing := by
  unfold adopt
  split <;> rfl

theorem registry_adopt (session : Session) (sessionId : UInt32) :
    (session.adopt sessionId).registry = session.registry := by
  unfold adopt
  split <;> rfl

theorem schedule_adopt (session : Session) (sessionId : UInt32) :
    (session.adopt sessionId).schedule = session.schedule := by
  unfold adopt
  split <;> rfl

theorem journal_adopt (session : Session) (sessionId : UInt32) :
    (session.adopt sessionId).journal = session.journal := by
  unfold adopt
  split <;> rfl

theorem queue_adopt (session : Session) (sessionId : UInt32) :
    (session.adopt sessionId).events = session.events ∧
      (session.adopt sessionId).delivered = session.delivered := by
  unfold adopt
  split <;> exact ⟨rfl, rfl⟩

/-- What becomes of a session that takes in a packet: a handler reacts to it, or there is none for
it. -/
inductive Handled (before : Session) (connection : Nat) (packet : Packet) : Session → Prop
  | unrouted {after : Session}
      (hroute : ∀ reaction joined, (before.registry.route packet).1 ≠ .react reaction joined)
      (hstanding : after.standing = before.standing)
      (hschedule : after.schedule = before.schedule)
      (hjournal : after.journal = before.journal ++ [.received connection packet])
      (hqueue : after.events = before.events ∧ after.delivered = before.delivered) :
      Handled before connection packet (after.note .handled)
  | reacted {routed after : Session} {reaction : Reaction} {joined : Packet}
      {result : Except HandlerError Unit}
      (hroute : (before.registry.route packet).1 = .react reaction joined)
      (hstanding : routed.standing = before.standing)
      (hschedule : routed.schedule = before.schedule)
      (hjournal : routed.journal = before.journal ++ [.received connection packet])
      (hreacted : Reacted routed reaction joined (after, result))
      (hqueue : routed.events = before.events ∧ routed.delivered = before.delivered) :
      Handled before connection packet (after.note .handled)

theorem Reacted.reported {before after : Session} {reaction : Reaction} {packet : Packet}
    {error : HandlerError} (service : Service)
    (h : Reacted before reaction packet (after, .error error)) :
    Reacted before reaction packet
      (after.report (some service) (.exception error.message), .error error) := by
  cases h with
  | aside hafter hchallenge =>
      exact .aside (hafter.trans (undisturbed_report after (some service) rfl)) hchallenge

theorem handle_cases (session : Session) (packet : Packet) :
    (∃ reaction joined routed result, (session.registry.route packet).1 = .react reaction joined ∧
      routed.standing = session.standing ∧ routed.schedule = session.schedule ∧
      routed.journal = session.journal ∧
      (routed.events = session.events ∧ routed.delivered = session.delivered) ∧
      Reacted routed reaction joined (session.handle packet, result)) ∨
    ((∀ reaction joined, (session.registry.route packet).1 ≠ .react reaction joined) ∧
      (session.handle packet).standing = session.standing ∧
      (session.handle packet).schedule = session.schedule ∧
      (session.handle packet).journal = session.journal ∧
      (session.handle packet).events = session.events ∧
      (session.handle packet).delivered = session.delivered) := by
  have hrouted := standing_route session packet
  unfold handle dispatch
  cases hroute : session.registry.route packet with
  | mk route registry =>
      rw [hroute] at hrouted
      cases route with
      | react reaction joined =>
          have hreacted := react_reacted { session with registry } reaction joined
          refine .inl ⟨reaction, joined, { session with registry }, ?_⟩
          dsimp only
          cases hreact : ({ session with registry } : Session).react reaction joined with
          | mk after result =>
              rw [hreact] at hreacted
              cases result with
              | ok done => exact ⟨.ok done, rfl, hrouted, rfl, rfl, ⟨rfl, rfl⟩, hreacted⟩
              | error error =>
                  exact ⟨.error error, rfl, hrouted, rfl, rfl, ⟨rfl, rfl⟩, hreacted.reported _⟩
      | collected => exact .inr ⟨by simp, hrouted, rfl, rfl, rfl, rfl⟩
      | passthrough => exact .inr ⟨by simp, hrouted, rfl, rfl, rfl, rfl⟩
      | unregistered => exact .inr ⟨by simp, hrouted, rfl, rfl, rfl, rfl⟩

theorem receive_handled (session : Session) (connection : Nat) (packet : Packet) :
    Handled session connection packet (session.receive connection packet) := by
  have hstanding := standing_adopt (session.note (.received connection packet)) packet.sessionId
  have hregistry := registry_adopt (session.note (.received connection packet)) packet.sessionId
  have hschedule := schedule_adopt (session.note (.received connection packet)) packet.sessionId
  have hjournal := journal_adopt (session.note (.received connection packet)) packet.sessionId
  obtain ⟨hevents, hdelivered⟩ :=
    queue_adopt (session.note (.received connection packet)) packet.sessionId
  rcases handle_cases
      ((session.note (.received connection packet)).adopt packet.sessionId) packet with
    ⟨reaction, joined, routed, result, hroute, hrouted, hkept, hsame, hqueue, hreacted⟩ |
    ⟨hroute, hrouted, hkept, hsame, hqueue⟩
  · rw [hregistry] at hroute
    exact .reacted hroute (hrouted.trans hstanding) (hkept.trans hschedule)
      (hsame.trans hjournal) hreacted
      ⟨hqueue.1.trans hevents, hqueue.2.trans hdelivered⟩
  · rw [hregistry] at hroute
    exact .unrouted hroute (hrouted.trans hstanding) (hkept.trans hschedule)
      (hsame.trans hjournal) ⟨hqueue.1.trans hevents, hqueue.2.trans hdelivered⟩

end Session

end Messenger
