import Messenger.Outbound.Link
import Messenger.Outbound.Schedule
import Messenger.Table

/-!
Sending requests. A request builds a packet for each attempt and is told of every failure; it may
then send itself again. Failures never reach the one who asked for the sending.
-/

namespace Messenger

inductive Attempt where
  | packet
  /-- The request has no more to send; a recurring one ends. -/
  | stop
  | failed (error : SendError)
deriving DecidableEq, Repr, Inhabited

def Attempt.fail (text : String) : Attempt :=
  .failed (.build text)

/-- A request that builds by a script, whose last entry repeats, and that sends itself again after
a failure as often as it has retries. -/
structure Request where
  name : String
  packet : Packet
  script : List Attempt := [.packet]
  position : Nat := 0
  retries : Nat := 0
  reported : Bool := true
deriving DecidableEq, Repr, Inhabited

namespace Request

def attemptAt (request : Request) (position : Nat) : Attempt :=
  (request.script[min position (request.script.length - 1)]?).getD .packet

def attempt (request : Request) : Attempt :=
  request.attemptAt request.position

end Request

structure Failure where
  request : String
  error : SendError
deriving DecidableEq, Repr, Inhabited

/-- What may be asked of an outbox. -/
inductive Command where
  | attach
  | detach
  | identify (sessionId : UInt32)
  | execute (request : Request)
  | submit (packet : Packet)
deriving DecidableEq, Repr, Inhabited

/-- An attempt at a request that is made because a task is due. -/
structure Firing where
  request : Nat
  time : Nat
  attempt : Attempt
deriving DecidableEq, Repr, Inhabited

/-- Something that happens at an outbox. -/
inductive Posting where
  | asked (command : Command)
  | fired (task : Nat) (firing : Firing)
  /-- An attempt at a request finds that it has no more to send. -/
  | stopped (request : Nat)
  | unbuilt (request : Nat) (error : SendError)
  | refused (outgoing : Outgoing Nat)
  | accepted (connection : Nat) (outgoing : Outgoing Nat)
  /-- The writer is done with a packet. -/
  | finished (connection : Nat) (outgoing : Outgoing Nat) (sessionId : UInt32)
      (result : Except SendError Unit)
  /-- A request is told of a failure. -/
  | told (request : Nat) (error : SendError)
  | answered (ticket : Nat) (result : Except SendError Unit)

structure Outbox where
  link : Link Nat := {}
  schedule : Schedule Nat := {}
  /-- All requests so far; links and tasks name them by their place here. -/
  requests : List Request := []
  failures : List Failure := []
  results : Table Nat (Except SendError Unit) := ∅
  tickets : Nat := 0
  /-- All that has happened, the latest at the end. -/
  journal : List Posting := []
deriving Inhabited

namespace Outbox

def note (outbox : Outbox) (posting : Posting) : Outbox :=
  { outbox with journal := outbox.journal ++ [posting] }

def addRequest (outbox : Outbox) (request : Request) : Nat × Outbox :=
  (outbox.requests.length, { outbox with requests := outbox.requests ++ [request] })

def modifyRequest (outbox : Outbox) (index : Nat) (change : Request → Request) : Outbox :=
  { outbox with requests := outbox.requests.modify index change }

def retriesOf (outbox : Outbox) (index : Nat) : Nat :=
  ((outbox.requests[index]?).map (·.retries)).getD 0

def attemptOf (outbox : Outbox) (index : Nat) : Attempt :=
  ((outbox.requests[index]?).map Request.attempt).getD .packet

/-- Puts a packet in line. The flag says that a connection has taken it. -/
def accept (outbox : Outbox) (outgoing : Outgoing Nat) : Bool × Outbox :=
  match outbox.link.writer with
  | none => (false, outbox.note (.refused outgoing))
  | some connection =>
      (true, { outbox with link := outbox.link.enqueue connection outgoing }.note
        (.accepted connection outgoing))

/-- Tells a request of a failure. The flag says that it sends itself again. -/
def fail (outbox : Outbox) (index : Nat) (error : SendError) : Bool × Outbox :=
  match outbox.requests[index]? with
  | none => (false, outbox)
  | some request =>
      let told :=
        if request.reported then
          { outbox with failures := outbox.failures ++ [⟨request.name, error⟩] }
        else outbox
      let told := told.note (.told index error)
      if request.retries = 0 then (false, told)
      else (true, told.modifyRequest index fun request =>
        { request with retries := request.retries - 1 })

/-- What an attempt at a request comes to at once. -/
inductive Made where
  | ended
  | underway
  | failed (error : SendError)

def attempt (outbox : Outbox) (index : Nat) (request : Request) : Made × Outbox :=
  let built := outbox.modifyRequest index fun request =>
    { request with position := request.position + 1 }
  match request.attempt with
  | .stop => (.ended, built.note (.stopped index))
  | .failed error => (.failed error, built.note (.unbuilt index error))
  | .packet =>
      match built.accept ⟨request.packet, .request index⟩ with
      | (true, accepted) => (.underway, accepted)
      | (false, refused) => (.failed .notConnected, refused)

/-- Builds and sends a request, again after each failure that is met at once while retries last.
The flag says that the first attempt found the request to be over. -/
def sendWithin : Nat → Outbox → Nat → Bool × Outbox
  | 0, outbox, _ => (false, outbox)
  | fuel + 1, outbox, index =>
      match outbox.requests[index]? with
      | none => (false, outbox)
      | some request =>
          match outbox.attempt index request with
          | (.ended, next) => (true, next)
          | (.underway, next) => (false, next)
          | (.failed error, next) =>
              let (again, failed) := next.fail index error
              (false, if again then (sendWithin fuel failed index).2 else failed)

def send (outbox : Outbox) (index : Nat) : Bool × Outbox :=
  sendWithin (outbox.retriesOf index + 1) outbox index

def execute (outbox : Outbox) (request : Request) : Outbox :=
  let (index, outbox) := outbox.addRequest request
  (outbox.send index).2

def scheduleRequest (outbox : Outbox) (request : Request) (period : Nat) : Outbox :=
  let (index, outbox) := outbox.addRequest request
  { outbox with schedule := outbox.schedule.add index period }

def answer (outbox : Outbox) (ticket : Nat) (result : Except SendError Unit) : Outbox :=
  { outbox with results := outbox.results.insert ticket result }.note (.answered ticket result)

def submit (outbox : Outbox) (packet : Packet) : Nat × Outbox :=
  let ticket := outbox.tickets
  let (taken, next) := { outbox with tickets := ticket + 1 }.accept ⟨packet, .ticket ticket⟩
  (ticket, if taken then next else next.answer ticket (.error .notConnected))

def attach (outbox : Outbox) : Outbox :=
  { outbox with link := outbox.link.attach { reader := .stopped } }

def detach (outbox : Outbox) : Outbox :=
  { outbox with link := outbox.link.detach }

def identify (outbox : Outbox) (sessionId : UInt32) : Outbox :=
  { outbox with link := { outbox.link with sessionId } }

def ask (outbox : Outbox) (command : Command) : Outbox :=
  let outbox := outbox.note (.asked command)
  match command with
  | .attach => outbox.attach
  | .detach => outbox.detach
  | .identify sessionId => outbox.identify sessionId
  | .execute request => outbox.execute request
  | .submit packet => (outbox.submit packet).2

def resolve (outbox : Outbox) (written : Link.Written Nat) : Outbox :=
  match written.outgoing.reply with
  | .ticket ticket => outbox.answer ticket written.result
  | .request index =>
      match written.result with
      | .ok () => outbox
      | .error error =>
          let (again, failed) := outbox.fail index error
          if again then (failed.send index).2 else failed

def tick? (outbox : Outbox) : Option Outbox :=
  outbox.schedule.ripe?.map fun task =>
    let fired := outbox.note
      (.fired task.number ⟨task.request, outbox.schedule.now, outbox.attemptOf task.request⟩)
    let armed := { fired with schedule := fired.schedule.rearm task.number }
    let (ended, sent) := armed.send task.request
    if ended then { sent with schedule := sent.schedule.finish task.number } else sent

def finish (outbox : Outbox) (index : Nat) (written : Link.Written Nat) (link : Link Nat) :
    Outbox :=
  { outbox with link }.note (.finished index written.outgoing link.sessionId written.result)

def writeAt? (outbox : Outbox) (index : Nat) : Option Outbox :=
  (outbox.link.writeNext? index).map fun (written, link) =>
    (outbox.finish index written link).resolve written

def write? (outbox : Outbox) : Option Outbox :=
  outbox.link.writable?.bind outbox.writeAt?

def closeAt (outbox : Outbox) (index : Nat) : Outbox :=
  { outbox with link := outbox.link.close index }

def close? (outbox : Outbox) : Option Outbox :=
  outbox.link.closable?.map outbox.closeAt

def step? (outbox : Outbox) : Option Outbox :=
  outbox.tick?.orElse fun () => outbox.write?.orElse fun () => outbox.close?

def stepBound (outbox : Outbox) : Nat :=
  (outbox.link.connections.flatMap (·.queue)).length + outbox.link.connections.length +
    outbox.requests.foldl (fun total request => total + request.retries) 0 +
    2 * outbox.schedule.tasks.length

def settleWithin : Nat → Outbox → Outbox
  | 0, outbox => outbox
  | fuel + 1, outbox =>
      match outbox.step? with
      | none => outbox
      | some next => settleWithin fuel next

def settle (outbox : Outbox) : Outbox :=
  settleWithin outbox.stepBound outbox

def elapseTo (outbox : Outbox) (time : Nat) : Outbox :=
  { outbox with schedule := outbox.schedule.elapseTo time }

def advanceWithin : Nat → Nat → Outbox → Outbox
  | 0, target, outbox => (outbox.elapseTo target).settle
  | fuel + 1, target, outbox =>
      match Schedule.earliest? target outbox.schedule.dueTimes with
      | some time => advanceWithin fuel target (outbox.elapseTo time).settle
      | none => outbox.elapseTo target

def advance (outbox : Outbox) (span : Nat) : Outbox :=
  let outbox := outbox.settle
  advanceWithin (outbox.schedule.dueBound span) (outbox.schedule.now + span) outbox

end Outbox

end Messenger
