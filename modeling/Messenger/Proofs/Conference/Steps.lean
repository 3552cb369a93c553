import Messenger.Conference.Requests
import Messenger.Proofs.Conference.EarlyTraffic

/-!
What happens to the rooms of a session, step by step: a packet comes in, or the user asks for
something. A step has to do with one room at most, and leaves all others as they are.
-/

namespace Messenger

namespace Table

variable {κ : Type u} {α : Type v} [DecidableEq κ]

@[simp] theorem erase_insert (table : Table κ α) (key : κ) (value : α) :
    (table.insert key value).erase key = table.erase key := by
  simp [insert, erase]

theorem mem_keys_iff (table : Table κ α) (key : κ) :
    key ∈ table.keys ↔ (table.find? key).isSome = true := by
  simp [keys, find?, List.find?_isSome]

end Table

/-- The room an event tells of. -/
def Event.room? : Event → Option String
  | .conferenceInvite room .. => some room
  | .conferenceLogon room _ => some room
  | .conferenceLogoff room _ => some room
  | .conferenceDecline room .. => some room
  | .conferenceMessage room .. => some room
  | _ => none

/-- All that is reported is about one room. -/
def AreAbout (room : String) (reports : List Report) : Prop :=
  ∀ report ∈ reports, report.event.room? = some room

namespace Conference

namespace Request

/-- The room a request is about. One that is created has no name before. -/
def room? : Request → Option String
  | create .. => none
  | invite room .. => some room
  | accept room => some room
  | decline room _ => some room
  | leave room => some room
  | say room _ => some room

def isCreate : Request → Bool
  | create .. => true
  | _ => false

/-- Whether the room of the request is forgotten after it. -/
def isDeparture : Request → Bool
  | decline .. => true
  | leave _ => true
  | _ => false

end Request

inductive Step where
  | receive (packet : Packet)
  | ask (user : String) (request : Request)
deriving DecidableEq, Repr

namespace Step

/-- The room a step is about; a packet may name none. -/
def room? : Step → Option String
  | receive packet => packet.value? "57"
  | ask _ request => request.room?

/-- The room that a packet names. -/
def named? : Step → Option String
  | receive packet => packet.value? "57"
  | ask .. => none

/-- The room that the user takes leave of. -/
def left? : Step → Option String
  | receive _ => none
  | ask _ request => if request.isDeparture then request.room? else none

def isCreate : Step → Bool
  | receive _ => false
  | ask _ request => request.isCreate

end Step

namespace Room

theorem addMember_members (room : Room) (user : String) :
    ∃ members, room.addMember user = { room with members } := by
  unfold addMember
  split
  · exact ⟨room.members, rfl⟩
  · exact ⟨_, rfl⟩

theorem addMembers_members (room : Room) (users : List String) :
    ∃ members, room.addMembers users = { room with members } := by
  induction users generalizing room with
  | nil => exact ⟨room.members, rfl⟩
  | cons user rest induction =>
      obtain ⟨first, hfirst⟩ := room.addMember_members user
      obtain ⟨members, hrest⟩ := induction { room with members := first }
      refine ⟨members, ?_⟩
      rw [addMembers, List.foldl_cons, hfirst]
      exact hrest

/-- An update changes who is in a room, and tells of this room only. -/
theorem update_members {room next : Room} {name : String} {packet : Packet} {event : Option Event}
    (hupdate : room.update name packet = .ok (next, event)) :
    (∃ members, next = { room with members }) ∧
      ∀ shown ∈ event.toList, shown.room? = some name := by
  unfold update at hupdate
  split at hupdate
  case h_5 =>
    cases hupdate
    exact ⟨⟨room.members, rfl⟩, by simp⟩
  all_goals
    simp only [Except.map] at hupdate
    split at hupdate
    · cases hupdate
    · simp only [Except.ok.injEq, Prod.mk.injEq] at hupdate
      obtain ⟨rfl, rfl⟩ := hupdate
      constructor
      · first
          | exact addMember_members room _
          | exact ⟨_, rfl⟩
      · split <;> simp [Event.room?]

theorem replay_members (name : String) (state : Room × List Report) (packet : Packet) :
    (∃ members, (replay name state packet).1 = { state.1 with members }) ∧
      (AreAbout name state.2 → AreAbout name (replay name state packet).2) := by
  unfold replay
  split
  · exact ⟨⟨state.1.members, rfl⟩, id⟩
  · rename_i next event hupdate
    obtain ⟨hmembers, hshown⟩ := update_members hupdate
    refine ⟨hmembers, fun hstate report hmem => ?_⟩
    rcases List.mem_append.mp hmem with hmem | hmem
    · exact hstate report hmem
    · obtain ⟨shown, hevent, rfl⟩ := List.mem_map.mp hmem
      exact hshown shown hevent

theorem replayAll_members (name : String) (state : Room × List Report) (packets : List Packet) :
    (∃ members, (packets.foldl (replay name) state).1 = { state.1 with members }) ∧
      (AreAbout name state.2 → AreAbout name (packets.foldl (replay name) state).2) := by
  induction packets generalizing state with
  | nil => exact ⟨⟨state.1.members, rfl⟩, id⟩
  | cons packet rest induction =>
      obtain ⟨⟨first, hfirst⟩, habout⟩ := replay_members name state packet
      obtain ⟨⟨members, hmembers⟩, hrest⟩ := induction (replay name state packet)
      refine ⟨⟨members, ?_⟩, fun hstate => hrest (habout hstate)⟩
      rw [List.foldl_cons, hmembers, hfirst]

/-- Who has sent an invitation; a sender without a name is none. -/
def inviterOf (packet : Packet) : Option String :=
  if (packet.value? "50").getD "" = "" then none else packet.value? "50"

theorem seated_members (room : Room) (packet : Packet) :
    ∃ members, room.seated packet =
      { room with
        invited := true
        inviter := (inviterOf packet).or room.inviter
        members } := by
  unfold seated
  dsimp only
  by_cases hinviter : (packet.value? "50").getD "" = ""
  · obtain ⟨members, hmembers⟩ :=
      addMembers_members { room with invited := true } (packet.body.getAll "52")
    exact ⟨members, by simp [inviterOf, hinviter, hmembers]⟩
  · obtain ⟨first, hfirst⟩ := addMembers_members
      { room with inviter := some ((packet.value? "50").getD "") }
      [(packet.value? "50").getD ""]
    obtain ⟨members, hmembers⟩ := addMembers_members
      { room with
        invited := true
        inviter := some ((packet.value? "50").getD "")
        members := first } (packet.body.getAll "52")
    refine ⟨members, ?_⟩
    rw [if_neg hinviter, hfirst, hmembers]
    cases hvalue : packet.value? "50" with
    | none => simp [hvalue] at hinviter
    | some inviter =>
        rw [hvalue] at hinviter
        simp [inviterOf, hvalue, show inviter ≠ "" from hinviter]

theorem invite_members (room : Room) (name : String) (packet : Packet) :
    (∃ members, (room.invite name packet).1 =
      { room with
        invited := true
        inviter := (inviterOf packet).or room.inviter
        members
        pending := [] }) ∧
      AreAbout name (room.invite name packet).2 := by
  rw [invite_eq]
  obtain ⟨first, hfirst⟩ := seated_members room packet
  obtain ⟨⟨members, hmembers⟩, habout⟩ := replayAll_members name
    ({ room.seated packet with pending := [] }, [invitation name packet]) room.pending
  refine ⟨⟨members, by rw [hmembers, hfirst]⟩, habout ?_⟩
  simp [AreAbout, invitation, Event.room?]

end Room

/-- The name of a room of our own. -/
def numbered (user : String) (number : UInt64) : String :=
  user ++ "-" ++ toString number

namespace Store

/-- What a request comes to: the packet that goes out, and the rooms after it. -/
def ask (store : Store) (user : String) : Request → Except ConferenceError (Packet × Store)
  | .create users message => .ok (store.create user users message).2
  | .invite room invited message => store.invite user room invited message
  | .accept room => store.accept user room
  | .decline room message => store.decline user room message
  | .leave room => store.leave user room
  | .say room text => store.say user room text

/-- The name of the room that the user would create next. -/
def nextName (store : Store) (user : String) : String :=
  numbered user store.created

theorem create_eq (store : Store) (user : String) (users : List String) (message : String) :
    ∃ packet members, store.create user users message =
      (store.nextName user, packet,
        { store with created := store.created + 1 }.setRoom (store.nextName user)
          { invited := true, inviter := some user, members }) := by
  obtain ⟨members, hmembers⟩ :=
    Room.addMembers_members { invited := true, inviter := some user } users
  refine ⟨(store.create user users message).2.1, members, ?_⟩
  rw [← hmembers]
  rfl

theorem close_eq_forget (store : Store) (name : String) (room : Room) :
    store.close name room = store.forget name := by
  simp [close, setRoom, forget]

/-- A request that is about a room needs to know it; it forgets the room, or changes nothing. -/
theorem ask_about (store : Store) (user : String) {request : Request} {name : String}
    (hname : request.room? = some name) :
    (store.rooms.find? name = none ∧
      store.ask user request = .error (.unknownConference name)) ∨
    (∃ room, store.rooms.find? name = some room) ∧ ∃ packet,
      store.ask user request =
        .ok (packet, if request.isDeparture then store.forget name else store) := by
  cases hroom : store.rooms.find? name with
  | none =>
      refine .inl ⟨rfl, ?_⟩
      cases request <;> cases hname <;>
        simp [ask, invite, accept, decline, leave, say, known, hroom, bind, Except.bind]
  | some room =>
      refine .inr ⟨⟨room, rfl⟩, ?_⟩
      cases request <;> cases hname <;>
        simp [ask, invite, accept, decline, leave, say, known, hroom, bind, Except.bind, pure,
          Except.pure, Request.isDeparture, close_eq_forget]

/-- One step, with what is reported in it. What is turned down changes nothing. -/
def step (store : Store) : Step → Store × List Report
  | .receive packet => ((store.receive packet).1, (store.receive packet).2.toOption.getD [])
  | .ask user request => (((store.ask user request).toOption.map Prod.snd).getD store, [])

def run : Store → List Step → Store × List Report
  | store, [] => (store, [])
  | store, step :: rest =>
      let (next, reports) := store.step step
      let (last, later) := next.run rest
      (last, reports ++ later)

theorem run_append (store : Store) (first second : List Step) :
    store.run (first ++ second) =
      (((store.run first).1.run second).1,
        (store.run first).2 ++ ((store.run first).1.run second).2) := by
  induction first generalizing store with
  | nil => simp [run]
  | cons step rest induction => simp [run, induction]

@[simp] theorem step_create (store : Store) (user : String) (users : List String)
    (message : String) :
    store.step (.ask user (.create users message)) =
      ((store.create user users message).2.2, []) := rfl

theorem step_about (store : Store) (user : String) {request : Request} {name : String}
    (hname : request.room? = some name) :
    store.step (.ask user request) =
      (if request.isDeparture ∧ (store.rooms.find? name).isSome then store.forget name else store,
        []) := by
  unfold step
  rcases store.ask_about user hname with ⟨hroom, hask⟩ | ⟨⟨room, hroom⟩, packet, hask⟩
  · simp [hask, hroom, Except.toOption]
  · simp [hask, hroom, Except.toOption]

structure Agree (room : String) (first second : Store) : Prop where
  policy : first.policy = second.policy
  entry : first.rooms.find? room = second.rooms.find? room
  left : room ∈ first.left ↔ room ∈ second.left

namespace Agree

variable {room : String} {first second third : Store}

theorem refl (room : String) (store : Store) : Agree room store store :=
  ⟨rfl, rfl, .rfl⟩

theorem symm (h : Agree room first second) : Agree room second first :=
  ⟨h.policy.symm, h.entry.symm, h.left.symm⟩

theorem trans (h : Agree room first second) (hnext : Agree room second third) :
    Agree room first third :=
  ⟨h.policy.trans hnext.policy, h.entry.trans hnext.entry, h.left.trans hnext.left⟩

end Agree

section Aside

variable {room name : String} (store : Store) (hne : room ≠ name)

include hne

theorem agree_setRoom (state : Room) : Agree room (store.setRoom name state) store :=
  ⟨rfl, store.rooms.find?_insert_of_ne hne state, .rfl⟩

theorem agree_forget : Agree room (store.forget name) store :=
  ⟨rfl, store.rooms.find?_erase_of_ne hne, by simp [forget, hne]⟩

theorem agree_receiveInvite (packet : Packet) :
    Agree room (store.receiveInvite name packet).1 store := by
  have hleft : Agree room { store with left := store.left.filter (· != name) } store :=
    ⟨rfl, rfl, by simp [hne]⟩
  exact (agree_setRoom _ hne _).trans hleft

theorem agree_receiveUpdate (packet : Packet) :
    Agree room (store.receiveUpdate name packet).1 store := by
  unfold receiveUpdate
  repeat' split
  all_goals first
    | exact .refl room store
    | exact agree_setRoom store hne _

end Aside

theorem receiveUpdate_frame (store : Store) (name : String) (packet : Packet) :
    (store.receiveUpdate name packet).1.left = store.left ∧
      (store.receiveUpdate name packet).1.created = store.created := by
  unfold receiveUpdate
  repeat' split
  all_goals exact ⟨rfl, rfl⟩

theorem receiveUpdate_areAbout (store : Store) (name : String) (packet : Packet) :
    AreAbout name ((store.receiveUpdate name packet).2.toOption.getD []) := by
  have hnone : AreAbout name [] := fun _ hmem => nomatch hmem
  unfold receiveUpdate
  split
  · exact hnone
  · split
    · split <;> exact hnone
    · split
      · split
        · exact hnone
        · rename_i next event hupdate
          intro report hmem
          obtain ⟨shown, hshown, rfl⟩ := List.mem_map.mp hmem
          exact (Room.update_members hupdate).2 shown hshown
      · split <;> exact hnone

theorem receive_of_not_invitation (store : Store) {name : String} {packet : Packet}
    (hname : packet.value? "57" = some name) (hinvitation : packet.isInvitation = false) :
    store.receive packet = store.receiveUpdate name packet := by
  have hservice : ¬ (packet.service = .confInvite ∨ packet.service = .confAddInvite) := by
    simpa [Packet.isInvitation] using hinvitation
  simp only [receive, (packet.require_eq_ok_iff "57" name).mpr hname, if_neg hservice]

/-- A packet is about the room it names; without one it is turned down. -/
theorem receive_cases (store : Store) (packet : Packet) :
    (packet.value? "57" = none ∧ (store.receive packet).1 = store ∧
      (store.receive packet).2.toOption = none) ∨
    ∃ name, packet.value? "57" = some name ∧
      ((packet.isInvitation = true ∧ store.receive packet =
          ((store.receiveInvite name packet).1, .ok (store.receiveInvite name packet).2)) ∨
        (packet.isInvitation = false ∧
          store.receive packet = store.receiveUpdate name packet)) := by
  cases hname : packet.value? "57" with
  | none =>
      refine .inl ⟨rfl, ?_⟩
      have herror : packet.require "57" = .error (.missingField packet.service "57") := by
        simp [Packet.require, hname]
      simp [receive, herror, Except.toOption]
  | some name =>
      refine .inr ⟨name, rfl, ?_⟩
      cases hinvitation : packet.isInvitation with
      | true => exact .inl ⟨rfl, receive_invitation hname hinvitation⟩
      | false => exact .inr ⟨rfl, store.receive_of_not_invitation hname hinvitation⟩

/-- Only a room that is created takes a number. -/
theorem step_created (store : Store) (step : Step) :
    (store.step step).1.created = if step.isCreate then store.created + 1 else store.created := by
  cases step with
  | receive packet =>
      rcases store.receive_cases packet with ⟨-, hstore, -⟩ |
        ⟨name, -, ⟨-, hreceive⟩ | ⟨-, hreceive⟩⟩
      · simp [Store.step, hstore, Step.isCreate]
      · simp [Store.step, hreceive, Step.isCreate, receiveInvite, setRoom]
      · simp [Store.step, hreceive, Step.isCreate, (store.receiveUpdate_frame name packet).2]
  | ask user request =>
      cases hname : request.room? with
      | none =>
          cases request with
          | create users message => rfl
          | _ => cases hname
      | some name =>
          have hcreate : request.isCreate = false := by
            cases request <;> first | rfl | cases hname
          rw [step_about store user hname]
          dsimp only
          split <;> simp [Step.isCreate, hcreate, forget]

/-- What is reported in a step is about the room of the step. -/
theorem step_areAbout (store : Store) {step : Step} {room : String}
    (hroom : step.room? = some room) :
    AreAbout room (store.step step).2 := by
  cases step with
  | receive packet =>
      rcases store.receive_cases packet with ⟨hnone, -⟩ |
        ⟨name, hname, ⟨-, hreceive⟩ | ⟨-, hreceive⟩⟩
      · cases hnone.symm.trans hroom
      · cases hname.symm.trans hroom
        simp only [Store.step, hreceive]
        exact (Room.invite_members _ room packet).2
      · cases hname.symm.trans hroom
        simp only [Store.step, hreceive]
        exact receiveUpdate_areAbout store room packet
  | ask user request => exact fun _ hmem => nomatch hmem

theorem step_silent (store : Store) {step : Step} (hroom : step.room? = none) :
    (store.step step).2 = [] := by
  cases step with
  | receive packet =>
      rcases store.receive_cases packet with ⟨-, -, houtcome⟩ | ⟨name, hname, -⟩
      · simp [Store.step, houtcome]
      · cases hname.symm.trans hroom
  | ask user request => rfl

/-- A step that is not about a room tells nothing of it. -/
theorem step_elsewhere (store : Store) {step : Step} {room : String}
    (hroom : step.room? ≠ some room) :
    ∀ report ∈ (store.step step).2, report.event.room? ≠ some room := by
  intro report hreport
  cases hname : step.room? with
  | none =>
      rw [step_silent store hname] at hreport
      cases hreport
  | some name =>
      rw [step_areAbout store hname report hreport, ← hname]
      exact hroom

/-- The room that a step creates. -/
def created? (store : Store) : Step → Option String
  | .ask user (.create ..) => some (store.nextName user)
  | _ => none

theorem created?_eq_none (store : Store) {step : Step} (hcreate : step.isCreate = false) :
    store.created? step = none := by
  cases step with
  | receive packet => rfl
  | ask user request =>
      cases request with
      | create users message => cases hcreate
      | _ => rfl

/-- A room stays as it is in a step that is not about it and does not create it. -/
theorem agree_step (store : Store) {step : Step} {room : String} (hroom : step.room? ≠ some room)
    (hcreated : store.created? step ≠ some room) :
    Agree room (store.step step).1 store := by
  cases step with
  | receive packet =>
      rcases store.receive_cases packet with ⟨-, hstore, -⟩ |
        ⟨name, hname, ⟨-, hreceive⟩ | ⟨-, hreceive⟩⟩
      · simp only [Store.step, hstore]
        exact .refl room store
      · have hne : room ≠ name := fun heq => hroom (heq ▸ hname)
        simp only [Store.step, hreceive]
        exact agree_receiveInvite store hne packet
      · have hne : room ≠ name := fun heq => hroom (heq ▸ hname)
        simp only [Store.step, hreceive]
        exact agree_receiveUpdate store hne packet
  | ask user request =>
      cases hname : request.room? with
      | none =>
          cases request with
          | create users message =>
              obtain ⟨packet, members, hcreate⟩ := store.create_eq user users message
              have hne : room ≠ store.nextName user := fun heq => hcreated (congrArg some heq.symm)
              have hcounted : Agree room { store with created := store.created + 1 } store :=
                ⟨rfl, rfl, .rfl⟩
              rw [step_create, hcreate]
              exact (agree_setRoom _ hne _).trans hcounted
          | _ => cases hname
      | some name =>
          have hne : room ≠ name := fun heq => hroom (heq ▸ hname)
          rw [step_about store user hname]
          dsimp only
          split
          · exact agree_forget store hne
          · exact .refl room store

end Store

end Conference

end Messenger
