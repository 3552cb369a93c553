import Messenger.Proofs.Session.Wiring

/-!
What a packet tells while a session is logged on. Its handler draws on what the handlers hold on to,
and on nothing else of the session; the session itself stays where it is, unless the packet is the
server's goodbye.
-/

namespace Messenger

namespace Packet

/-- The server ends the session. With a name in it, the packet only tells of a friend who leaves. -/
def isGoodbye (packet : Packet) : Bool :=
  packet.service = .logoff && !packet.has "7"

end Packet

/-- What handlers hold on to from one packet to the next. -/
structure Holding where
  registry : Registry Reaction
  fragments : FragmentBuffer
  stores : List Conference.Store

/-- What a handler makes of a packet: its reports, and the error that it ends with. -/
structure Tidings where
  reports : List Report := []
  error : Option HandlerError := none

namespace Tidings

def events (service : Service) (events : List Event) : Tidings where
  reports := events.map fun event => ⟨some service, event⟩

def result (service : Service) : Except HandlerError (List Event) → Tidings
  | .ok events => .events service events
  | .error error => { error }

/-- A friend's name is missing only after the server's error has been told. -/
def friend (packet : Packet) (event : String → Option String → Event) : Tidings where
  reports := (events packet.service packet.serverError).reports ++
    (result packet.service
      ((packet.require "7").map fun friend => [event friend (packet.value? "65")])).reports
  error := (result packet.service
    ((packet.require "7").map fun friend => [event friend (packet.value? "65")])).error

def outcome (tidings : Tidings) : Except HandlerError Unit :=
  match tidings.error with
  | none => .ok ()
  | some error => .error error

/-- All that is reported of a packet: where its handler fails, the error comes last. -/
def account (tidings : Tidings) (packet : Packet) : List Report :=
  tidings.reports ++
    tidings.error.toList.map fun error => ⟨some packet.service, .exception error.message⟩

end Tidings

namespace Holding

def react (holding : Holding) (packet : Packet) : Reaction → Holding × Tidings
  | .challenge => (holding, {})
  | .authResponse => (holding, {})
  | .logon =>
      (holding, .events packet.service (packet.serverError ++ packet.friendStatuses true))
  | .roster =>
      let (complete, fragments) := holding.fragments.offer packet
      ({ holding with fragments }, .events .list (complete.toList.map .listReceived))
  | .logoff => (holding, .events packet.service (packet.friendStatuses false))
  | .message =>
      (holding, .events packet.service (packet.serverError ++ Session.messageEvents packet))
  | .notify => (holding, .result .notify (Session.notifyEvents packet))
  | .newMail => (holding, .result .newMail (Session.newMailEvents packet))
  | .friendAdded => (holding, .friend packet .friendAdded)
  | .friendRemoved => (holding, .friend packet .friendRemoved)
  | .groupRenamed => (holding, .events .gotGroupRename (Session.groupRenamedEvents packet))
  | .contactNew => (holding, .result packet.service (Session.contactEvents packet))
  | .fileTransfer => (holding, .events .fileTransfer (Session.fileTransferEvents packet))
  | .statusChange =>
      (holding, .events packet.service (packet.serverError ++ packet.friendStatuses true))
  | .conference store =>
      match holding.stores[store]? with
      | none => (holding, {})
      | some rooms =>
          let (rooms, result) := rooms.receive packet
          ({ holding with stores := holding.stores.set store rooms },
            match result with
            | .ok reports => { reports }
            | .error error => { error })

/-- A packet that belongs to a longer response tells nothing before the last one is there. -/
def take (holding : Holding) (packet : Packet) : Holding × List Report :=
  let (route, registry) := holding.registry.route packet
  match route with
  | .react reaction joined =>
      let (next, tidings) := { holding with registry : Holding }.react joined reaction
      (next, tidings.account packet)
  | _ => ({ holding with registry }, [])

def takeAll : Holding → List Packet → Holding × List Report
  | holding, [] => (holding, [])
  | holding, packet :: rest =>
      let (next, reports) := holding.take packet
      let (last, later) := next.takeAll rest
      (last, reports ++ later)

theorem takeAll_append (holding : Holding) (first second : List Packet) :
    holding.takeAll (first ++ second) =
      (((holding.takeAll first).1.takeAll second).1,
        (holding.takeAll first).2 ++ ((holding.takeAll first).1.takeAll second).2) := by
  induction first generalizing holding with
  | nil => simp [takeAll]
  | cons packet rest induction => simp [takeAll, induction]

end Holding

/-- A session id of zero is none. -/
def Link.adopt {ρ : Type} (link : Link ρ) (sessionId : UInt32) : Link ρ :=
  if sessionId ≠ 0 then { link with sessionId } else link

namespace Session

def holding (session : Session) : Holding :=
  ⟨session.registry, session.fragments, session.stores⟩

def keep (session : Session) (holding : Holding) : Session :=
  { session with
    registry := holding.registry
    fragments := holding.fragments
    stores := holding.stores }

theorem adopt_eq (session : Session) (sessionId : UInt32) :
    session.adopt sessionId = { session with link := session.link.adopt sessionId } := by
  unfold adopt Link.adopt
  split <;> rfl

theorem reportAll_eq (session : Session) (reports : List Report) :
    session.reportAll reports =
      { session with
        events := reports.foldl EventQueue.append session.events
        journal := session.journal ++
          if session.events.running then reports.map .reported else [] } := by
  induction reports generalizing session with
  | nil => simp [reportAll]
  | cons entry rest induction =>
      rw [reportAll, List.foldl_cons, ← reportAll, induction]
      cases hrunning : session.events.running <;> simp [report, hrunning]

theorem reportEvents_eq (session : Session) (service : Service) (events : List Event) :
    session.reportEvents service events =
      session.reportAll (Tidings.events service events).reports := by
  simp [reportEvents, reportAll, Tidings.events, List.foldl_map]

theorem reportAll_append (session : Session) (first second : List Report) :
    session.reportAll (first ++ second) = (session.reportAll first).reportAll second :=
  List.foldl_append

theorem reportResult_eq (session : Session) (service : Service)
    (events : Except HandlerError (List Event)) :
    session.reportResult service events =
      (session.reportAll (Tidings.result service events).reports,
        (Tidings.result service events).outcome) := by
  cases events with
  | ok events => exact congrArg (·, _) (session.reportEvents_eq service events)
  | error error => rfl

theorem reportFriend_eq (session : Session) (packet : Packet)
    (event : String → Option String → Event) :
    session.reportFriend packet event =
      (session.reportAll (Tidings.friend packet event).reports,
        (Tidings.friend packet event).outcome) := by
  simp only [reportFriend, reportEvents_eq, reportResult_eq, Tidings.friend, reportAll_append]
  rfl

theorem markLoggedOn_eq {session : Session} (hstate : session.state ≠ .connected) :
    session.markLoggedOn = session := by
  unfold markLoggedOn
  exact if_neg hstate

section LoggedOn

variable (session : Session) (hstate : session.state = .loggedOn) (halive : session.alive = true)

include hstate halive

/-- A handler of a session that is logged on reports, and holds on to what it has to. -/
theorem react_loggedOn {reaction : Reaction} {packet : Packet}
    (hstays : reaction = .logoff → packet.has "7" = true) :
    session.react reaction packet =
      ((session.keep (session.holding.react packet reaction).1).reportAll
          (session.holding.react packet reaction).2.reports,
        (session.holding.react packet reaction).2.outcome) := by
  have hsettled (changed : Session) (hchanged : changed.state = .loggedOn) :
      changed.markLoggedOn = changed :=
    markLoggedOn_eq (by simp [hchanged])
  cases reaction with
  | challenge =>
      simp only [react, halive, onChallenge, hstate]
      rfl
  | authResponse =>
      have hno : session.state.isLoggingIn = false := by rw [hstate]; rfl
      have hignored : session.onAuthResponse packet = session := by
        unfold onAuthResponse
        split
        · rfl
        · simp [hno]
      simp only [react, halive, hignored]
      rfl
  | logon =>
      have hquiet : session.onLogon packet = session.reportEvents packet.service
          (packet.serverError ++ packet.friendStatuses true) := by
        refine hsettled _ ?_
        rw [reportEvents_eq, reportAll_eq]
        exact hstate
      simp only [react, halive, hquiet, reportEvents_eq]
      rfl
  | roster =>
      have hquiet : session.onRoster packet =
          ({ session with fragments := (session.fragments.offer packet).2 } : Session).reportAll
            (Tidings.events .list
              ((session.fragments.offer packet).1.toList.map .listReceived)).reports := by
        unfold onRoster
        cases hoffer : session.fragments.offer packet with
        | mk complete fragments =>
            cases complete with
            | none => rfl
            | some list => exact hsettled _ hstate
      simp only [react, halive, hquiet]
      rfl
  | logoff =>
      simp only [react, halive, onLogoff, hstays rfl, if_true, reportEvents_eq]
      rfl
  | message | statusChange =>
      simp only [react, halive, reportEvents_eq]
      rfl
  | notify | newMail | groupRenamed | contactNew | fileTransfer =>
      simp only [react, halive, reportResult_eq]
      rfl
  | friendAdded | friendRemoved =>
      simp only [react, halive, reportFriend_eq]
      rfl
  | conference store =>
      simp only [react, onConference, Holding.react, holding]
      cases session.stores[store]? with
      | none => rfl
      | some rooms =>
          dsimp only
          cases hreceive : rooms.receive packet with
          | mk next result => cases result <;> rfl

variable (hwired : Wired session.standing.handlers session.standing.collectors)

include hwired

theorem handle_loggedOn {packet : Packet} (hstays : packet.isGoodbye = false) :
    session.handle packet =
      (session.keep (session.holding.take packet).1).reportAll (session.holding.take packet).2 := by
  unfold handle dispatch Holding.take
  cases hroute : session.registry.route packet with
  | mk route registry =>
      simp only [holding, hroute]
      cases route with
      | react reaction joined =>
          have hjoined : reaction = .logoff → joined.has "7" = true := by
            rintro rfl
            obtain ⟨hservice, rfl⟩ :=
              Registry.service_of_login hwired .logoff rfl (congrArg Prod.fst hroute)
            simpa [Packet.isGoodbye, hservice] using hstays
          have hreact := react_loggedOn { session with registry } hstate halive hjoined
          simp only [hreact, Tidings.outcome, Tidings.account, holding]
          cases herror : (Holding.react ⟨registry, session.fragments, session.stores⟩ joined
            reaction).2.error with
          | none => simp [Except.map, keep]
          | some error =>
              simp only [Except.map, Option.toList_some, List.map_cons, List.map_nil,
                reportAll_append]
              rfl
      | collected => rfl
      | passthrough => rfl
      | unregistered => rfl

/-- A packet that is no goodbye leaves a session that is logged on where it stands. It may bring a
session id, it tells what its handler tells, and nothing is sent. -/
theorem receive_loggedOn (connection : Nat) {packet : Packet} (hstays : packet.isGoodbye = false) :
    session.receive connection packet =
      { session with
        link := session.link.adopt packet.sessionId
        registry := (session.holding.take packet).1.registry
        fragments := (session.holding.take packet).1.fragments
        stores := (session.holding.take packet).1.stores
        events := (session.holding.take packet).2.foldl EventQueue.append session.events
        journal := session.journal ++ [.received connection packet] ++
          (if session.events.running then (session.holding.take packet).2.map .reported else []) ++
          [.handled] } := by
  have hadopted : ((session.note (.received connection packet)).adopt packet.sessionId) =
      { session with
        link := session.link.adopt packet.sessionId
        journal := session.journal ++ [.received connection packet] } :=
    adopt_eq _ _
  have hhandled := handle_loggedOn { session with
    link := session.link.adopt packet.sessionId
    journal := session.journal ++ [.received connection packet] } hstate halive ?_ hstays
  · unfold receive
    rw [hadopted, hhandled, reportAll_eq]
    rfl
  · exact hwired

end LoggedOn

end Session

end Messenger
