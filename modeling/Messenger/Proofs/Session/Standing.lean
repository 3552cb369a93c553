import Messenger.Proofs.Outbound.Wire
import Messenger.Session.Run

/-!
Where a session stands: its state, its connection and its calls, without the packets and bytes that
are on their way, the rooms and the clock. Most of what a session does leaves its standing alone;
each lemma here says what one operation changes of it.
-/

namespace Messenger

theorem Connection.reader_write {ρ : Type} (connection : Connection ρ) (sessionId : UInt32)
    (packet : Packet) :
    (connection.write sessionId packet).2.reader = connection.reader := by
  rw [write_eq]

namespace Link

variable {ρ : Type}

def readers (link : Link ρ) : List Reader :=
  link.connections.map Connection.reader

@[simp] theorem writer_modify (link : Link ρ) (index : Nat)
    (change : Connection ρ → Connection ρ) :
    (link.modify index change).writer = link.writer := rfl

theorem readers_modify (link : Link ρ) (index : Nat) {change : Connection ρ → Connection ρ}
    (hreader : ∀ connection, link.connections[index]? = some connection →
      (change connection).reader = connection.reader) :
    (link.modify index change).readers = link.readers := by
  unfold readers modify
  apply List.ext_getElem?
  intro position
  by_cases heq : index = position
  · subst heq
    cases hconnection : link.connections[index]? with
    | none => simp [hconnection]
    | some connection => simp [hconnection, hreader connection hconnection]
  · simp [heq]

theorem readers_modify_reader (link : Link ρ) (index : Nat) (reader : Reader) :
    (link.modify index fun connection => { connection with reader }).readers =
      link.readers.set index reader := by
  unfold readers modify
  apply List.ext_getElem?
  intro position
  by_cases heq : index = position
  · subst heq
    cases hconnection : link.connections[index]? <;>
      simp [List.getElem?_set', hconnection]
  · simp [heq]

theorem getElem?_readers (link : Link ρ) (index : Nat) :
    link.readers[index]? = link.connections[index]?.map Connection.reader := by
  simp [readers]

@[simp] theorem readers_enqueue (link : Link ρ) (outgoing : Outgoing ρ) :
    ((link.enqueue? outgoing).getD link).readers = link.readers := by
  unfold enqueue?
  cases link.writer with
  | none => rfl
  | some index => exact readers_modify link index fun _ _ => rfl

@[simp] theorem writer_enqueue (link : Link ρ) (outgoing : Outgoing ρ) :
    ((link.enqueue? outgoing).getD link).writer = link.writer := by
  unfold enqueue?
  cases hwriter : link.writer with
  | none => exact hwriter
  | some index => exact hwriter

theorem writeNext?_keeps (link : Link ρ) (index : Nat) {written : Written ρ} {next : Link ρ}
    (hnext : link.writeNext? index = some (written, next)) :
    next.readers = link.readers ∧ next.writer = link.writer := by
  obtain ⟨connection, rest, hconnection, -, -, rfl⟩ := writeNext?_cases hnext
  refine ⟨readers_modify _ _ fun other hother => ?_, rfl⟩
  rw [hconnection] at hother
  cases hother
  exact Connection.reader_write _ _ _

@[simp] theorem readers_close (link : Link ρ) (index : Nat) :
    (link.close index).readers = link.readers := by
  unfold close
  split
  · exact readers_modify link index fun _ _ => rfl
  · rfl

@[simp] theorem writer_close (link : Link ρ) (index : Nat) :
    (link.close index).writer = link.writer := by
  unfold close
  split <;> rfl

end Link

namespace EventQueue

variable {ι : Type}

theorem running_start (queue : EventQueue ι) : queue.start.running = true := by
  unfold start
  split
  · assumption
  · rfl

@[simp] theorem running_append (queue : EventQueue ι) (report : Report) :
    (queue.append report).running = queue.running := by
  unfold append
  split <;> rfl

@[simp] theorem running_deliver [Listens ι] (queue : EventQueue ι) (course : Nat) :
    (queue.deliver course).2.running = queue.running := by
  unfold deliver
  split <;> rfl

end EventQueue

namespace Schedule

variable {ρ : Type}

def requests (schedule : Schedule ρ) : List ρ :=
  schedule.tasks.map Task.request

@[simp] theorem requests_rearm (schedule : Schedule ρ) (number : Nat) :
    (schedule.rearm number).requests = schedule.requests := by
  simp only [requests, rearm, List.map_map]
  apply List.map_congr_left
  intro task _
  dsimp only [Function.comp]
  split <;> rfl

@[simp] theorem requests_finish (schedule : Schedule ρ) (number : Nat) :
    (schedule.finish number).requests = schedule.requests := by
  simp only [requests, finish, List.map_map]
  apply List.map_congr_left
  intro task _
  dsimp only [Function.comp]
  split <;> rfl

@[simp] theorem requests_add (schedule : Schedule ρ) (request : ρ) (period : Nat) :
    (schedule.add request period).requests = schedule.requests ++ [request] := by
  simp [requests, add]

/-- The tasks, without the times they are due. -/
def timetable (schedule : Schedule ρ) : List (ρ × Nat × Bool) :=
  schedule.tasks.map fun task => (task.request, task.period, task.finished)

@[simp] theorem timetable_rearm (schedule : Schedule ρ) (number : Nat) :
    (schedule.rearm number).timetable = schedule.timetable := by
  simp only [timetable, rearm, List.map_map]
  apply List.map_congr_left
  intro task _
  dsimp only [Function.comp]
  split <;> rfl

@[simp] theorem timetable_add (schedule : Schedule ρ) (request : ρ) (period : Nat) :
    (schedule.add request period).timetable =
      schedule.timetable ++ [(request, max period shortestPeriod, false)] := by
  simp [timetable, add]

theorem ripe?_mem_requests {schedule : Schedule ρ} {task : Task ρ}
    (hripe : schedule.ripe? = some task) :
    task.request ∈ schedule.requests :=
  List.mem_map_of_mem (List.mem_of_find?_eq_some hripe)

end Schedule

/-- An offer changes nothing of a buffer but what it holds. -/
theorem FragmentBuffer.clear_offer (buffer : FragmentBuffer) (packet : Packet) :
    (buffer.offer packet).2.clear = buffer.clear := by
  unfold offer
  dsimp only
  split <;> rfl

theorem Collector.emptied_offer (collector : Collector) (packet : Packet) :
    { (collector.offer packet).2 with pending := [] } = { collector with pending := [] } := by
  unfold offer
  dsimp only
  split <;> rfl

/-- The collector without the packets it holds. -/
def Collecting.emptied {ρ : Type} (collecting : Collecting ρ) : Collecting ρ :=
  { collecting with collector := { collecting.collector with pending := [] } }

structure Standing where
  config : SessionConfig
  state : SessionState
  failure : Option SessionError
  username : Option String
  password : Option String
  handlers : Table Service (Handler Reaction)
  /-- The collectors of the registry and the buffer of the roster, without what they hold. -/
  collectors : List (Collecting Reaction)
  fragments : FragmentBuffer
  writer : Option Nat
  readers : List Reader
  reader : Option Nat
  working : Option Nat
  running : Bool
  recurring : List Sending
  calls : List Call
  callCount : Nat
  results : List CallResult
  held : Bool

namespace Standing

def alive (standing : Standing) : Bool :=
  standing.held || !standing.calls.isEmpty

def stopReader (standing : Standing) : Standing :=
  { standing with
    reader := none
    readers :=
      match standing.reader with
      | none => standing.readers
      | some index =>
          standing.readers.set index
            (if standing.working = some index then .stopping else .stopped) }

def teardown (standing : Standing) : Standing :=
  { standing with writer := none, running := false, recurring := [] }.stopReader

def release (standing : Standing) : Standing :=
  { standing with running := false }.stopReader

def otherCalls (standing : Standing) (number : Nat) : List Call :=
  standing.calls.filter fun call => call.number != number

def finish (standing : Standing) (number : Nat) (result : Except SessionError Unit) : Standing :=
  let ended := { standing with
    calls := standing.otherCalls number
    results := standing.results ++ [⟨number, result⟩] }
  if ended.alive then ended else ended.release

def await (standing : Standing) (number : Nat) (phase : Phase) : Standing :=
  { standing with calls := standing.otherCalls number ++ [⟨number, phase⟩] }

/-- A new connection takes the place of the one before. -/
def attach (standing : Standing) : Standing :=
  let added : Standing := { standing with
    writer := some standing.readers.length
    readers := standing.readers ++ [Reader.running] }
  { added.stopReader with
    reader := some standing.readers.length
    recurring := standing.recurring ++ [Sending.ping, Sending.keepAlive] }

def abandonLogin (standing : Standing) (number : Nat) (error : SessionError) : Standing :=
  { standing with password := none }.teardown.finish number (.error error)

def failLogin (standing : Standing) (number : Nat) (error : SessionError) : Standing :=
  { standing with state := .failed, failure := some error }.abandonLogin number error

def beginCall (standing : Standing) : Standing :=
  { standing with callCount := standing.callCount + 1 }

end Standing

namespace Session

def standing (session : Session) : Standing where
  config := session.config
  state := session.state
  failure := session.failure
  username := session.username
  password := session.password
  handlers := session.registry.handlers
  collectors := session.registry.collectors.map Collecting.emptied
  fragments := session.fragments.clear
  writer := session.link.writer
  readers := session.link.readers
  reader := session.reader
  working := session.working
  running := session.events.running
  recurring := session.schedule.requests
  calls := session.calls
  callCount := session.callCount
  results := session.results
  held := session.held

@[simp] theorem standing_note (session : Session) (happening : Happening) :
    (session.note happening).standing = session.standing := rfl

@[simp] theorem standing_report (session : Session) (service : Option Service) (event : Event) :
    (session.report service event).standing = session.standing := by
  unfold report standing
  rw [EventQueue.running_append]

@[simp] theorem standing_enqueue (session : Session) (outgoing : Outgoing Sending) :
    (session.enqueue outgoing).standing = session.standing := by
  simp [standing, enqueue]

@[simp] theorem standing_execute (session : Session) (sending : Sending) (packet : Packet) :
    (session.execute sending packet).standing = session.standing :=
  standing_enqueue session _

@[simp] theorem standing_submit (session : Session) (packet : Packet) :
    (session.submit packet).2.standing = session.standing := by
  unfold submit
  dsimp only
  split
  · exact standing_enqueue _ _
  · rfl

@[simp] theorem standing_enter (session : Session) (state : SessionState) :
    (session.enter state).standing = { session.standing with state } := rfl

@[simp] theorem standing_fail (session : Session) (error : SessionError) :
    (session.fail error).standing =
      { session.standing with state := .failed, failure := some error } := rfl

@[simp] theorem standing_stopReader (session : Session) :
    session.stopReader.standing = session.standing.stopReader := by
  unfold stopReader Standing.stopReader standing
  cases session.reader with
  | none => rfl
  | some index => simp [Link.readers_modify_reader]

@[simp] theorem standing_teardown (session : Session) :
    session.teardown.standing = session.standing.teardown := by
  unfold teardown
  rw [standing_stopReader]
  rfl

@[simp] theorem standing_release (session : Session) :
    session.release.standing = session.standing.release := by
  unfold release
  rw [standing_stopReader]
  rfl

@[simp] theorem standing_drop (session : Session) :
    session.drop.standing =
      let dropped := { session.standing with held := false }
      if dropped.alive then dropped else dropped.release := by
  unfold drop
  dsimp only
  split
  · rename_i halive
    exact (if_pos halive).symm
  · rename_i halive
    rw [standing_release]
    exact (if_neg halive).symm

@[simp] theorem standing_finish (session : Session) (number : Nat)
    (result : Except SessionError Unit) :
    (session.finish number result).standing = session.standing.finish number result := by
  unfold finish Standing.finish
  dsimp only
  split
  · rename_i halive
    exact (if_pos halive).symm
  · rename_i halive
    rw [standing_release]
    exact (if_neg halive).symm

@[simp] theorem standing_await (session : Session) (number : Nat) (phase : Phase) :
    (session.await number phase).standing = session.standing.await number phase := rfl

@[simp] theorem standing_abandonLogin (session : Session) (number : Nat) (error : SessionError) :
    (session.abandonLogin number error).standing = session.standing.abandonLogin number error := by
  unfold abandonLogin
  rw [standing_finish, standing_teardown]
  rfl

@[simp] theorem standing_failLogin (session : Session) (number : Nat) (error : SessionError) :
    (session.failLogin number error).standing = session.standing.failLogin number error := by
  unfold failLogin
  rw [standing_abandonLogin, standing_fail]
  rfl

@[simp] theorem schedule_stopReader (session : Session) :
    session.stopReader.schedule = session.schedule := rfl

@[simp] theorem standing_attach (session : Session) (writeFault : Option String) :
    (session.attach writeFault).standing = session.standing.attach := by
  have hadded : ({ session with
      link := session.link.attach { writeFault } } : Session).stopReader.standing =
        { session.standing with
          writer := some session.standing.readers.length
          readers := session.standing.readers ++ [Reader.running] : Standing }.stopReader := by
    rw [standing_stopReader]
    congr 1
    simp [standing, Link.attach, Link.readers]
  have hlength : session.standing.readers.length = session.link.connections.length :=
    List.length_map _
  unfold Standing.attach
  dsimp only
  rw [← hadded, hlength]
  simp [attach, standing, List.append_assoc]

theorem ticket_submit (session : Session) (packet : Packet) :
    (session.submit packet).1 = session.tickets := by
  unfold submit
  dsimp only
  split <;> rfl

@[simp] theorem standing_openChannel (session : Session) (number : Nat) (username : String)
    (writeFault : Option String) :
    (session.openChannel number username writeFault).standing =
      session.standing.attach.await number (.announcing session.tickets) := by
  unfold openChannel
  rw [standing_await, standing_submit, standing_attach, ticket_submit]
  rfl

theorem standing_onConnection (session : Session) (index : Nat)
    {change : Connection Sending → Connection Sending}
    (hreader : ∀ connection, (change connection).reader = connection.reader) :
    (session.onConnection index change).standing = session.standing := by
  simp [standing, onConnection, Link.readers_modify session.link index fun c _ => hreader c]

@[simp] theorem standing_endInbound (session : Session) (index : Nat) (finish : StreamEnd) :
    (session.endInbound index finish).standing = session.standing :=
  standing_onConnection session index fun _ => rfl

@[simp] theorem standing_finishServer (session : Session) (index : Nat) :
    (session.finishServer index).standing = session.standing := by
  unfold finishServer
  refine Eq.trans (standing_onConnection _ index ?_) (standing_endInbound session index .closed)
  exact fun _ => rfl

@[simp] theorem standing_dropServer (session : Session) (index : Nat) :
    (session.dropServer index).standing = session.standing := by
  unfold dropServer
  refine Eq.trans (standing_onConnection _ index ?_) (standing_finishServer session index)
  exact fun _ => rfl

theorem standing_write? (session : Session) (index : Nat) {next : Session}
    (hnext : session.write? index = some next) :
    next.standing = session.standing := by
  unfold write? at hnext
  cases hwritten : session.link.writeNext? index with
  | none => simp [hwritten] at hnext
  | some entry =>
      obtain ⟨written, link⟩ := entry
      obtain ⟨hreaders, hwriter⟩ := session.link.writeNext?_keeps index hwritten
      simp only [hwritten, Option.map_some, Option.some.injEq] at hnext
      subst hnext
      cases written.outgoing.reply <;> simp [standing, hreaders, hwriter]

/-- The session when the packet that is next at a connection has come out of it, or has been lost.
What remains does not depend on its frame, so a run can be followed past a costly one. -/
def afterWrite (session : Session) (index : Nat) : Session :=
  match session.link.connections[index]? with
  | none => session
  | some connection =>
      match connection.queue with
      | [] => session
      | outgoing :: rest =>
          let frame := connection.transmit session.link.sessionId outgoing.packet
          let session := session.onConnection index fun _ =>
            { connection with
              queue := rest
              written := connection.written ++ frame.toOption.toList }
          match outgoing.reply with
          | .ticket ticket =>
              { session with
                acknowledged := session.acknowledged.insert ticket (frame.map fun _ => ()) }
          | .request _ => session

theorem step_write (session : Session) (index : Nat) :
    session.step (.write index) = session.afterWrite index := by
  show (session.write? index).getD session = session.afterWrite index
  unfold write? Link.writeNext? afterWrite
  cases session.link.connections[index]? with
  | none => rfl
  | some connection =>
      dsimp only
      rcases connection.queue with _ | ⟨⟨packet, reply⟩, rest⟩
      · rfl
      · simp only [Connection.write_eq, Option.map_some, Option.getD_some]
        cases reply <;> rfl

@[simp] theorem standing_closeWriter (session : Session) (index : Nat) :
    (session.closeWriter index).standing = session.standing := by
  simp [standing, closeWriter]

@[simp] theorem standing_deliver (session : Session) (course : Nat) :
    (session.deliver course).standing = session.standing := by
  unfold deliver standing
  simp only [EventQueue.running_deliver]

end Session

end Messenger
