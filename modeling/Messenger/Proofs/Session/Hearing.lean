import Messenger.Proofs.Session.Sequential
import Messenger.Proofs.Session.Tidings

/-!
What the reader of a session that is logged on makes of the bytes it finds. A run comes to the same
as the packets that are taken in and the moves beside them; frames that are malformed have no part
in it.
-/

namespace Messenger

open Text (Bytes)

namespace Connection

variable {ρ : Type}

/-- The same connection, open, and with other bytes that nobody has read. -/
def unreading (connection : Connection ρ) (bytes : Bytes) : Connection ρ :=
  { connection with inbound := bytes, inboundEnd := none }

theorem write_unreading (connection : Connection ρ) (bytes : Bytes) (sessionId : UInt32)
    (packet : Packet) :
    (connection.unreading bytes).write sessionId packet =
      ((connection.write sessionId packet).1,
        (connection.write sessionId packet).2.unreading bytes) := by
  have herror : (connection.unreading bytes).writeError? = connection.writeError? := rfl
  unfold write
  rw [herror]
  cases Frame.encode { packet with sessionId } with
  | error error => rfl
  | ok encoded => cases connection.writeError? <;> rfl

end Connection

namespace Link

variable {ρ : Type}

def unreading (link : Link ρ) (index : Nat) (bytes : Bytes) : Link ρ :=
  link.modify index fun connection => connection.unreading bytes

theorem getElem?_unreading (link : Link ρ) (index other : Nat) (bytes : Bytes) :
    (link.unreading index bytes).connections[other]? =
      link.connections[other]?.map fun connection =>
        if index = other then connection.unreading bytes else connection := by
  simp only [unreading, modify, List.getElem?_modify]
  by_cases heq : index = other <;> simp [heq]

/-- What is unread on one connection does not matter to a change of another, or of something
else. -/
theorem modify_unreading (link : Link ρ) {index other : Nat} {bytes : Bytes}
    {first second : Connection ρ → Connection ρ}
    (hchange : index = other → ∀ connection : Connection ρ,
      first (connection.unreading bytes) = (second connection).unreading bytes)
    (hsame : index ≠ other → first = second) :
    (link.unreading index bytes).modify other first =
      (link.modify other second).unreading index bytes := by
  have hconnections : ((link.unreading index bytes).modify other first).connections =
      ((link.modify other second).unreading index bytes).connections := by
    apply List.ext_getElem?
    intro position
    simp only [unreading, modify, List.getElem?_modify]
    cases link.connections[position]? with
    | none => simp
    | some connection =>
        by_cases hindex : index = position
        · by_cases hother : other = position
          · simp [hindex, hother, hchange (hindex.trans hother.symm)]
          · simp [hindex, hother]
        · by_cases hother : other = position
          · simp [hindex, hother, hsame fun heq => hindex (heq.trans hother)]
          · simp [hindex, hother]
  exact congrArg (fun connections => { link with connections }) hconnections

theorem enqueue?_unreading (link : Link ρ) (index : Nat) (bytes : Bytes) (outgoing : Outgoing ρ) :
    ((link.unreading index bytes).enqueue? outgoing).getD (link.unreading index bytes) =
      ((link.enqueue? outgoing).getD link).unreading index bytes := by
  have hwriter : (link.unreading index bytes).writer = link.writer := rfl
  unfold enqueue?
  rw [hwriter]
  cases link.writer with
  | none => rfl
  | some writer => exact link.modify_unreading (fun _ _ => rfl) fun _ => rfl

theorem writeNext?_unreading (link : Link ρ) (index other : Nat) (bytes : Bytes) :
    (link.unreading index bytes).writeNext? other =
      (link.writeNext? other).map fun (written, next) => (written, next.unreading index bytes) := by
  have hsession : (link.unreading index bytes).sessionId = link.sessionId := rfl
  unfold writeNext?
  rw [getElem?_unreading, hsession]
  cases link.connections[other]? with
  | none => rfl
  | some connection =>
      by_cases heq : index = other
      · simp only [heq, if_true, Option.map_some]
        cases hqueue : connection.queue with
        | nil => simp [Connection.unreading, hqueue]
        | cons outgoing rest =>
            have hwritten := { connection with queue := rest }.write_unreading bytes link.sessionId
              outgoing.packet
            simp only [Connection.unreading, hqueue, Option.map_some] at hwritten ⊢
            rw [hwritten]
            exact congrArg some (congrArg _
              (link.modify_unreading (fun _ _ => rfl) fun hne => absurd rfl hne))
      · simp only [heq, if_false, Option.map_some]
        cases hqueue : connection.queue with
        | nil => rfl
        | cons outgoing rest =>
            exact congrArg some (congrArg _
              (link.modify_unreading (fun hindex => absurd hindex heq) fun _ => rfl))

theorem canClose_unreading (link : Link ρ) (index other : Nat) (bytes : Bytes) :
    (link.unreading index bytes).canClose other = link.canClose other := by
  have hwriter : (link.unreading index bytes).writer = link.writer := rfl
  unfold canClose
  rw [getElem?_unreading, hwriter]
  cases link.connections[other]? with
  | none => rfl
  | some connection => by_cases heq : index = other <;> simp [heq, Connection.unreading]

theorem close_unreading (link : Link ρ) (index other : Nat) (bytes : Bytes) :
    (link.unreading index bytes).close other = (link.close other).unreading index bytes := by
  unfold close
  rw [canClose_unreading]
  split
  · exact link.modify_unreading (fun _ _ => rfl) fun _ => rfl
  · rfl

theorem unreading_unreading (link : Link ρ) (index : Nat) (first second : Bytes) :
    (link.unreading index first).unreading index second = link.unreading index second := by
  simp only [unreading, modify, List.modify_modify_eq]
  rfl

theorem sessionId_writeNext? {link next : Link ρ} {index : Nat} {written : Written ρ}
    (hnext : link.writeNext? index = some (written, next)) : next.sessionId = link.sessionId := by
  obtain ⟨-, -, -, -, -, rfl⟩ := writeNext?_cases hnext
  rfl

theorem sessionId_close (link : Link ρ) (index : Nat) :
    (link.close index).sessionId = link.sessionId := by
  unfold close
  split <;> rfl

theorem sessionId_enqueue? (link : Link ρ) (outgoing : Outgoing ρ) :
    ((link.enqueue? outgoing).getD link).sessionId = link.sessionId := by
  unfold enqueue?
  cases link.writer <;> rfl

theorem connections_adopt (link : Link ρ) (sessionId : UInt32) :
    (link.adopt sessionId).connections = link.connections := by
  unfold adopt
  split <;> rfl

theorem adopt_unreading (link : Link ρ) (index : Nat) (bytes : Bytes) (sessionId : UInt32) :
    (link.unreading index bytes).adopt sessionId =
      (link.adopt sessionId).unreading index bytes := by
  unfold adopt
  split <;> rfl

end Link

namespace Session

def unreading (session : Session) (index : Nat) (bytes : Bytes) : Session :=
  { session with link := session.link.unreading index bytes }

/-- The bytes that have arrived on a connection and that nobody has read yet. -/
def unread (session : Session) (index : Nat) : Bytes :=
  (session.link.connections[index]?.map Connection.inbound).getD []

namespace Move

/-- Whether a move brings bytes to a connection, or has them read. -/
def feeds (index : Nat) : Move → Bool
  | .arrive connection _ => connection = index
  | .read connection => connection = index
  | _ => false

/-- What goes on beside a reader: writing, time and the requests that recur, deliveries, and bytes
for others. -/
def isAside (index : Nat) : Move → Bool
  | .arrive connection _ => connection ≠ index
  | .faultWrites .. => true
  | .elapseTo _ => true
  | .write _ => true
  | .close _ => true
  | .tick => true
  | .deliver _ => true
  | _ => false

end Move

theorem unreading_unreading (session : Session) (index : Nat) (first second : Bytes) :
    (session.unreading index first).unreading index second = session.unreading index second :=
  congrArg (fun link => { session with link })
    (session.link.unreading_unreading index first second)

theorem unread_unreading {session : Session} {index : Nat} {reader : Reader}
    (hreader : session.standing.readers[index]? = some reader) (bytes : Bytes) :
    (session.unreading index bytes).unread index = bytes := by
  have hfound := (session.link.getElem?_readers index).symm.trans hreader
  obtain ⟨connection, hconnection, -⟩ := Option.map_eq_some_iff.mp hfound
  simp [unread, unreading, Link.getElem?_unreading, hconnection, Connection.unreading]

/-- A session that is logged on, whose reader on a connection is at work. -/
structure Listening (index : Nat) (session : Session) : Prop where
  state : session.state = .loggedOn
  alive : session.alive = true
  idle : session.working = none
  wired : Wired session.standing.handlers session.standing.collectors
  reader : session.standing.readers[index]? = some .running
  opened : session.unreading index (session.unread index) = session

section Aside

variable {index : Nat} {move : Move}

theorem aside_unreading (session : Session) (haside : move.isAside index = true) (bytes : Bytes) :
    (session.unreading index bytes).step move = (session.step move).unreading index bytes := by
  cases move with
  | arrive connection arrived =>
      have hne : connection ≠ index := by simpa [Move.isAside] using haside
      exact congrArg (fun link => { session with link })
        (session.link.modify_unreading (fun heq => absurd heq.symm hne) fun _ => rfl)
  | faultWrites connection writeFault =>
      have hlink : (session.link.unreading index bytes).modify connection
            (fun connection => { connection with writeFault }) =
          (session.link.modify connection fun connection =>
            { connection with writeFault }).unreading index bytes :=
        session.link.modify_unreading (fun _ _ => rfl) fun _ => rfl
      exact congrArg (fun link => { session with link }) hlink
  | elapseTo time => rfl
  | write connection =>
      simp only [step, write?, unreading, Link.writeNext?_unreading]
      cases session.link.writeNext? connection with
      | none => rfl
      | some result =>
          obtain ⟨⟨outgoing, outcome⟩, next⟩ := result
          obtain ⟨packet, reply⟩ := outgoing
          cases reply <;> rfl
  | close connection =>
      exact congrArg (fun link => { session with link })
        (session.link.close_unreading index connection bytes)
  | tick =>
      have hexecute (armed : Session) (sending : Sending) (packet : Packet) :
          (armed.unreading index bytes).execute sending packet =
            (armed.execute sending packet).unreading index bytes :=
        congrArg (fun link => { armed.execute sending packet with link })
          (armed.link.enqueue?_unreading index bytes _)
      unfold step tick?
      have hschedule : (session.unreading index bytes).schedule = session.schedule := rfl
      rw [hschedule]
      cases session.schedule.ripe? with
      | none => rfl
      | some task =>
          simp only [Option.map_some, Option.getD_some]
          have halive : (session.unreading index bytes).alive = session.alive := rfl
          rw [halive]
          split
          · rfl
          · generalize task.request = request
            cases request <;>
              exact hexecute { session with schedule := session.schedule.rearm task.number } _ _
  | deliver course => rfl
  | _ => cases haside

theorem carries_of_aside (session : Session) (haside : move.isAside index = true) :
    Carries session (session.step move) := by
  have hstep := step_stepped session move
  generalize session.step move = after at hstep ⊢
  cases hstep with
  | carried hcarried => exact hcarried
  | _ => cases haside

/-- What goes on beside the reader touches no handler, brings no session id, and sends nothing but
the requests that recur. -/
theorem aside_keeps (session : Session) (haside : move.isAside index = true) :
    (session.step move).holding = session.holding ∧
      (session.step move).link.sessionId = session.link.sessionId ∧
      ((session.step move).journal = session.journal ∨ move = .tick) := by
  have hcarries := carries_of_aside session haside
  suffices hkept : (session.step move).stores = session.stores ∧
      (session.step move).link.sessionId = session.link.sessionId ∧
      ((session.step move).journal = session.journal ∨ move = .tick) from
    ⟨by simp only [holding, hcarries.registry, hcarries.fragments, hkept.1], hkept.2⟩
  cases move with
  | arrive connection arrived => exact ⟨rfl, rfl, .inl rfl⟩
  | faultWrites connection writeFault => exact ⟨rfl, rfl, .inl rfl⟩
  | elapseTo time => exact ⟨rfl, rfl, .inl rfl⟩
  | write connection =>
      simp only [step, write?]
      cases hwrite : session.link.writeNext? connection with
      | none => exact ⟨rfl, rfl, .inl rfl⟩
      | some result =>
          obtain ⟨⟨outgoing, outcome⟩, next⟩ := result
          have hsession := Link.sessionId_writeNext? hwrite
          obtain ⟨packet, reply⟩ := outgoing
          cases reply <;> exact ⟨rfl, hsession, .inl rfl⟩
  | close connection => exact ⟨rfl, session.link.sessionId_close connection, .inl rfl⟩
  | tick =>
      simp only [step, tick?]
      cases session.schedule.ripe? with
      | none => exact ⟨rfl, rfl, .inl rfl⟩
      | some task =>
          simp only [Option.map_some, Option.getD_some]
          split
          · exact ⟨rfl, rfl, .inl rfl⟩
          · generalize task.request = request
            cases request <;> exact ⟨rfl, session.link.sessionId_enqueue? _, .inr trivial⟩
  | deliver course => exact ⟨rfl, rfl, .inl rfl⟩
  | _ => cases haside

theorem Listening.aside {session : Session} (h : Listening index session)
    (haside : move.isAside index = true) :
    Listening index (session.step move) ∧
      (session.step move).unread index = session.unread index := by
  have hstanding := (carries_of_aside session haside).standing
  have hsame : (session.step move).unreading index (session.unread index) = session.step move := by
    rw [← aside_unreading session haside, h.opened]
  have hreader : (session.step move).standing.readers[index]? = some .running :=
    hstanding ▸ h.reader
  have hunread : (session.step move).unread index = session.unread index := by
    rw [← hsame]
    exact unread_unreading hreader _
  refine ⟨⟨?_, ?_, ?_, hstanding ▸ h.wired, hreader, by rw [hunread, hsame]⟩, hunread⟩
  · exact (congrArg Standing.state hstanding).trans h.state
  · exact (congrArg Standing.alive hstanding).trans h.alive
  · exact (congrArg Standing.working hstanding).trans h.idle

end Aside

section Frames

variable {session : Session} {index : Nat}

theorem Listening.connection (h : Listening index session) :
    ∃ connection, session.link.connections[index]? = some connection ∧
      connection.reader = .running ∧ connection.inbound = session.unread index ∧
      connection.inboundEnd = none := by
  have hfound := (session.link.getElem?_readers index).symm.trans h.reader
  obtain ⟨connection, hconnection, hrunning⟩ := Option.map_eq_some_iff.mp hfound
  refine ⟨connection, hconnection, hrunning, by simp [unread, hconnection], ?_⟩
  have hopened := congrArg (fun session : Session => session.link.connections[index]?) h.opened
  simp only [unreading, Link.getElem?_unreading, hconnection, Option.map_some, if_true,
    Option.some.injEq] at hopened
  rw [← hopened]
  rfl

/-- What arrives on the connection stands behind what is there. -/
theorem Listening.arrive (h : Listening index session) (bytes : Bytes) :
    session.arrive index bytes = session.unreading index (session.unread index ++ bytes) := by
  have hlink : session.link = session.link.unreading index (session.unread index) :=
    congrArg Session.link h.opened.symm
  have harrived : session.link.modify index
      (fun connection => { connection with inbound := connection.inbound ++ bytes }) =
        session.link.unreading index (session.unread index ++ bytes) := by
    rw [hlink]
    simp only [Link.unreading, Link.modify, List.modify_modify_eq]
    rfl
  exact congrArg (fun link => { session with link }) harrived

theorem Listening.startReading (h : Listening index session) (rest : Bytes) :
    session.startReading index rest =
      { session.unreading index rest with working := some index } := by
  have hlink : session.link = session.link.unreading index (session.unread index) :=
    congrArg Session.link h.opened.symm
  have hrest : session.link.modify index (fun connection => { connection with inbound := rest }) =
      session.link.unreading index rest := by
    rw [hlink]
    simp only [Link.unreading, Link.modify, List.modify_modify_eq]
    rfl
  exact congrArg (fun link => { session with working := some index, link }) hrest

theorem Listening.unreading (h : Listening index session) (bytes : Bytes) :
    Listening index (session.unreading index bytes) := by
  have hreader : (session.unreading index bytes).standing.readers[index]? = some .running := by
    have hreaders : (session.unreading index bytes).standing.readers = session.standing.readers :=
      session.link.readers_modify index fun _ _ => rfl
    rw [hreaders, h.reader]
  refine ⟨h.state, h.alive, h.idle, h.wired, hreader, ?_⟩
  rw [unread_unreading h.reader, unreading_unreading]

theorem receive_unreading (h : Listening index session) {packet : Packet}
    (hstays : packet.isGoodbye = false) (bytes : Bytes) :
    (session.unreading index bytes).receive index packet =
      (session.receive index packet).unreading index bytes := by
  have hlink := session.link.adopt_unreading index bytes packet.sessionId
  rw [receive_loggedOn (session.unreading index bytes) h.state h.alive h.wired index hstays,
    receive_loggedOn session h.state h.alive h.wired index hstays]
  simp only [Session.unreading, hlink]
  rfl

theorem Listening.receive (h : Listening index session) {packet : Packet}
    (hstays : packet.isGoodbye = false) : Listening index (session.receive index packet) := by
  have hreceive := receive_loggedOn session h.state h.alive h.wired index hstays
  have hwired : Wired (session.receive index packet).standing.handlers
      (session.receive index packet).standing.collectors := by
    obtain ⟨hhandlers, hcollectors⟩ := (receive_handled session index packet).wiring
    rw [hhandlers, hcollectors]
    exact h.wired
  have hconnections :
      (session.receive index packet).link.connections = session.link.connections := by
    rw [hreceive]
    exact session.link.connections_adopt packet.sessionId
  have hunread : (session.receive index packet).unread index = session.unread index := by
    simp only [unread, hconnections]
  have hreaders : (session.receive index packet).standing.readers = session.standing.readers :=
    congrArg (List.map Connection.reader) hconnections
  refine ⟨?_, ?_, ?_, hwired, hreaders ▸ h.reader, ?_⟩
  · rw [hreceive]
    exact h.state
  · rw [hreceive]
    exact h.alive
  · rw [hreceive]
    exact h.idle
  · rw [hunread, ← receive_unreading h hstays, h.opened]

/-- A frame that is no packet leaves nothing but the bytes behind it. -/
theorem Listening.takeFrame_error (h : Listening index session) (error : FrameError)
    (rest : Bytes) :
    session.takeFrame index (.error error) rest = session.unreading index rest := by
  have hpast : session.state.isLoggingIn = false := by
    rw [h.state]
    rfl
  unfold takeFrame readResult
  rw [h.startReading]
  simp only [Session.unreading, hpast, Bool.false_eq_true, if_false]
  rw [← h.idle]

theorem Listening.takeFrame_packet (h : Listening index session) {packet : Packet}
    (hstays : packet.isGoodbye = false) (rest : Bytes) :
    session.takeFrame index (.ok packet) rest =
      (session.receive index packet).unreading index rest := by
  have hreceive := receive_loggedOn { session.unreading index rest with working := some index }
    h.state h.alive h.wired index hstays
  unfold takeFrame readResult
  rw [h.startReading]
  dsimp only
  rw [hreceive, ← receive_unreading h hstays,
    receive_loggedOn (session.unreading index rest) h.state h.alive h.wired index hstays]
  simp only [Session.unreading]
  rw [h.idle]
  rfl

theorem Listening.read? (h : Listening index session)
    (hstays : ∀ packet rest, Frame.readPacket? (session.unread index) = some (.ok packet, rest) →
      packet.isGoodbye = false) :
    session.read? index = (Frame.readPacket? (session.unread index)).map fun (result, rest) =>
      session.takeFrame index result rest := by
  obtain ⟨connection, hconnection, hrunning, hinbound, hopen⟩ := h.connection
  have hnext : session.readNext? index =
      (Frame.readPacket? (session.unread index)).map fun (result, rest) =>
        session.takeFrame index result rest := by
    simp only [readNext?, hconnection, hrunning, hinbound, hopen]
    cases Frame.readPacket? (session.unread index) <;> rfl
  have hgoing : ∀ next, session.readNext? index = some next → next.isStopping index = false := by
    intro next hread
    rw [hnext] at hread
    obtain ⟨⟨result, rest⟩, hframe, rfl⟩ := Option.map_eq_some_iff.mp hread
    have hlistening : Listening index (session.takeFrame index result rest) := by
      cases result with
      | error error =>
          rw [h.takeFrame_error]
          exact h.unreading rest
      | ok packet =>
          have hpacket := hstays packet rest hframe
          rw [h.takeFrame_packet hpacket]
          exact (h.receive hpacket).unreading rest
    rw [← Bool.not_eq_true, isStopping_iff, hlistening.reader]
    nofun
  rw [Session.read?, ← hnext]
  cases hread : session.readNext? index with
  | none => rfl
  | some next => simp [hgoing next hread]

end Frames

/-- A packet that is taken in, or a move beside the reader. -/
inductive Deed where
  | hear (packet : Packet)
  | make (move : Move)

def Deed.act (index : Nat) (session : Session) : Deed → Session
  | hear packet => session.receive index packet
  | make move => session.step move

/-- What a move makes of the bytes that are unread, and what it comes to. -/
def Move.feed (index : Nat) (unread : Bytes) (move : Move) : Bytes × List Deed :=
  if move.feeds index then
    match move with
    | .arrive _ bytes => (unread ++ bytes, [])
    | _ =>
        match Frame.readPacket? unread with
        | some (.ok packet, rest) => (rest, [.hear packet])
        | some (.error _, rest) => (rest, [])
        | none => (unread, [])
  else (unread, [.make move])

theorem Move.feed_aside {index : Nat} {move : Move} (hfeeds : move.feeds index = false)
    (unread : Bytes) : move.feed index unread = (unread, [.make move]) :=
  if_neg (by simp [hfeeds])

@[simp] theorem Move.feed_arrive (index : Nat) (bytes unread : Bytes) :
    (Move.arrive index bytes).feed index unread = (unread ++ bytes, []) :=
  if_pos (by simp [Move.feeds])

/-- What moves leave unread, and what they come to. -/
def deeds (index : Nat) : Bytes → List Move → Bytes × List Deed
  | unread, [] => (unread, [])
  | unread, move :: rest =>
      let (left, first) := move.feed index unread
      let (last, later) := deeds index left rest
      (last, first ++ later)

theorem deeds_cons (index : Nat) (unread : Bytes) (move : Move) (rest : List Move) :
    deeds index unread (move :: rest) =
      ((deeds index (move.feed index unread).1 rest).1,
        (move.feed index unread).2 ++ (deeds index (move.feed index unread).1 rest).2) := rfl

/-- A deed that leaves a session where it stands. -/
def Deed.stays (index : Nat) : Deed → Prop
  | hear packet => packet.isGoodbye = false
  | make move => move.isAside index = true

section Deeds

variable {session : Session} {index : Nat}

theorem Listening.act (h : Listening index session) {deed : Deed} (hstays : deed.stays index) :
    Listening index (deed.act index session) := by
  cases deed with
  | hear packet => exact h.receive hstays
  | make move => exact (h.aside hstays).1

theorem Listening.acts (h : Listening index session) {deeds : List Deed}
    (hstays : ∀ deed ∈ deeds, deed.stays index) :
    Listening index (deeds.foldl (Deed.act index) session) := by
  induction deeds generalizing session with
  | nil => exact h
  | cons deed rest induction =>
      obtain ⟨hfirst, hrest⟩ := List.forall_mem_cons.mp hstays
      exact induction (h.act hfirst) hrest

theorem acts_unreading (h : Listening index session) {deeds : List Deed}
    (hstays : ∀ deed ∈ deeds, deed.stays index) (bytes : Bytes) :
    deeds.foldl (Deed.act index) (session.unreading index bytes) =
      (deeds.foldl (Deed.act index) session).unreading index bytes := by
  induction deeds generalizing session with
  | nil => rfl
  | cons deed rest induction =>
      obtain ⟨hfirst, hrest⟩ := List.forall_mem_cons.mp hstays
      have hdeed : deed.act index (session.unreading index bytes) =
          (deed.act index session).unreading index bytes := by
        cases deed with
        | hear packet => exact receive_unreading h hfirst bytes
        | make move => exact aside_unreading session hfirst bytes
      rw [List.foldl_cons, List.foldl_cons, hdeed, induction (h.act hfirst) hrest]

theorem step_deeds (h : Listening index session) {move : Move}
    (hstays : ∀ deed ∈ (move.feed index (session.unread index)).2, deed.stays index) :
    session.step move =
      ((move.feed index (session.unread index)).2.foldl (Deed.act index) session).unreading index
        (move.feed index (session.unread index)).1 := by
  unfold Move.feed at hstays ⊢
  cases hfeeds : move.feeds index with
  | false =>
      rw [hfeeds] at hstays
      obtain ⟨haside, hunread⟩ := h.aside (hstays (.make move) (List.mem_singleton_self _))
      have hopened := haside.opened
      rw [hunread] at hopened
      exact hopened.symm
  | true =>
      cases move with
      | arrive connection bytes =>
          obtain rfl : connection = index := by simpa [Move.feeds] using hfeeds
          exact h.arrive bytes
      | read connection =>
          obtain rfl : connection = index := by simpa [Move.feeds] using hfeeds
          have hread := h.read? fun packet rest hframe =>
            hstays (.hear packet) (by simp [hfeeds, hframe])
          simp only [step, hread, if_true]
          cases hframe : Frame.readPacket? (session.unread connection) with
          | none => exact h.opened.symm
          | some entry =>
              obtain ⟨result, rest⟩ := entry
              cases result with
              | error error => exact h.takeFrame_error error rest
              | ok packet =>
                  exact h.takeFrame_packet (hstays (.hear packet) (by simp [hfeeds, hframe])) rest
      | _ => cases hfeeds

/-- A run of a session that listens comes to its deeds, and to the bytes that it leaves unread. -/
theorem run_deeds (h : Listening index session) {moves : List Move}
    (hstays : ∀ deed ∈ (deeds index (session.unread index) moves).2, deed.stays index) :
    session.run moves =
      ((deeds index (session.unread index) moves).2.foldl (Deed.act index) session).unreading index
        (deeds index (session.unread index) moves).1 := by
  induction moves generalizing session with
  | nil => exact h.opened.symm
  | cons move rest induction =>
      have hfirst : ∀ deed ∈ (move.feed index (session.unread index)).2, deed.stays index :=
        fun deed hmem => hstays deed (List.mem_append_left _ hmem)
      have hmiddle := h.acts hfirst
      have hstep := step_deeds h hfirst
      have hunread :
          (session.step move).unread index = (move.feed index (session.unread index)).1 := by
        rw [hstep]
        exact unread_unreading hmiddle.reader _
      have hnext : Listening index (session.step move) := by
        rw [hstep]
        exact hmiddle.unreading _
      have hlater : ∀ deed ∈ (deeds index (move.feed index (session.unread index)).1 rest).2,
          deed.stays index :=
        fun deed hmem => hstays deed (List.mem_append_right _ hmem)
      have hrest := induction hnext (by rwa [hunread])
      rw [hunread] at hrest
      rw [run, List.foldl_cons, ← run, hrest, hstep, acts_unreading hmiddle hlater,
        unreading_unreading]
      simp only [deeds, List.foldl_append]

end Deeds

end Session

end Messenger
