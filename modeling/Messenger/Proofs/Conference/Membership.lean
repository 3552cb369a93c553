import Mathlib.Data.List.Induction
import Messenger.Proofs.Conference.Rejection

/-!
Who is in a room. What a room has taken in since it got its entry is known from the steps alone:
packets held for the invitation, and the changes of its members, in the order in which they took
effect. A user is in a room if the last change that names the user let the user in.
-/

namespace Messenger.Conference

/-- Somebody comes into a room or goes out of it. -/
inductive Change where
  | joined (user : String)
  | gone (user : String)
deriving DecidableEq, Repr

def Change.user : Change → String
  | joined user => user
  | gone user => user

/-- The last of the changes that name the user lets the user in. -/
def LastJoined (changes : List Change) (user : String) : Prop :=
  ∃ before after, changes = before ++ .joined user :: after ∧
    ∀ change ∈ after, change.user ≠ user

end Conference

/-- Whom a packet lets into its room or takes out of it. An invitation lets in the one who sent it,
unless that name is empty, and those it lists. -/
def Packet.changes (packet : Packet) : List Conference.Change :=
  let named (key : String) := (packet.value? key).toList
  match packet.service with
  | .confInvite | .confAddInvite =>
      ((Conference.Room.inviterOf packet).toList ++ packet.body.getAll "52").map .joined
  | .confLogon => (named "53").map .joined
  | .confLogoff => (named "56").map .gone
  | .confDecline => (named "54").map .gone
  | _ => []

namespace Conference

section LastJoined

variable {changes : List Change} {user other : String}

theorem not_lastJoined_nil : ¬ LastJoined [] user := by
  rintro ⟨before, after, hnil, -⟩
  simp at hnil

theorem lastJoined_append (change : Change) :
    LastJoined (changes ++ [change]) user ↔
      change = .joined user ∨ change.user ≠ user ∧ LastJoined changes user := by
  constructor
  · rintro ⟨before, after, hchanges, hafter⟩
    rcases List.eq_nil_or_concat after with rfl | ⟨later, last, rfl⟩
    · exact .inl (List.cons.inj (List.append_inj' hchanges rfl).2).1
    · rw [List.concat_eq_append] at hchanges hafter
      rw [← List.cons_append, ← List.append_assoc] at hchanges
      obtain ⟨rfl, hlast⟩ := List.append_inj' hchanges rfl
      cases hlast
      exact .inr ⟨hafter change (by simp), before, later, rfl,
        fun other hmem => hafter other (List.mem_append_left _ hmem)⟩
  · rintro (rfl | ⟨hne, before, after, rfl, hafter⟩)
    · exact ⟨changes, [], rfl, nofun⟩
    · refine ⟨before, after ++ [change], by simp, fun other hmem => ?_⟩
      rcases List.mem_append.mp hmem with hmem | hmem
      · exact hafter other hmem
      · rw [List.mem_singleton.mp hmem]
        exact hne

end LastJoined

theorem Packet.changes_of_lacks {packet : Packet} {key : String} (hlacks : packet.Lacks key) :
    packet.changes = [] := by
  obtain ⟨hrequired, hmissing⟩ := hlacks
  unfold Packet.updateKey? at hrequired
  split at hrequired
  case h_5 => cases hrequired
  all_goals
    rename_i hservice
    cases hrequired
    simp [Packet.changes, hservice, hmissing]

namespace Room

def change (room : Room) : Change → Room
  | .joined user => room.addMember user
  | .gone user => room.removeMember user

theorem addMembers_eq (room : Room) (users : List String) :
    room.addMembers users = (users.map Change.joined).foldl change room := by
  rw [addMembers, List.foldl_map]
  rfl

/-- An update makes the change that its packet names. -/
theorem update_changes {room next : Room} {name : String} {packet : Packet} {event : Option Event}
    (hinvitation : packet.isInvitation = false)
    (hupdate : room.update name packet = .ok (next, event)) :
    next = packet.changes.foldl change room := by
  unfold update at hupdate
  split at hupdate
  case h_5 hlogon hlogoff hdecline hmsg =>
    have hnone : packet.changes = [] := by
      unfold Packet.changes
      split <;> simp_all [Packet.isInvitation]
    cases hupdate
    rw [hnone]
    rfl
  all_goals
    rename_i hservice
    simp only [Except.map] at hupdate
    split at hupdate
    · cases hupdate
    · rename_i user huser
      obtain ⟨rfl, -⟩ := Prod.mk.inj (Except.ok.inj hupdate)
      have hvalue := (packet.require_eq_ok_iff _ _).mp huser
      simp [Packet.changes, hservice, hvalue, change]

theorem replay_changes {name : String} {state : Room × List Report} {packet : Packet}
    (hinvitation : packet.isInvitation = false) :
    (replay name state packet).1 = packet.changes.foldl change state.1 := by
  unfold replay
  split
  · rename_i error herror
    obtain ⟨key, hlacks, -⟩ := (state.1.update_eq_error_iff name packet error).mp herror
    rw [Packet.changes_of_lacks hlacks]
    rfl
  · rename_i next event hupdate
    exact update_changes hinvitation hupdate

theorem replayAll_changes {name : String} {state : Room × List Report} {packets : List Packet}
    (hpackets : ∀ packet ∈ packets, packet.isInvitation = false) :
    (packets.foldl (replay name) state).1 =
      (packets.flatMap Packet.changes).foldl change state.1 := by
  induction packets generalizing state with
  | nil => rfl
  | cons packet rest induction =>
      obtain ⟨hfirst, hrest⟩ := List.forall_mem_cons.mp hpackets
      rw [List.foldl_cons, induction hrest, List.flatMap_cons, List.foldl_append,
        replay_changes hfirst]

end Room

structure Room.Peopled (room : Room) (changes : List Change) : Prop where
  nodup : room.members.Nodup
  mem_iff : ∀ user, user ∈ room.members ↔ LastJoined changes user

namespace Room.Peopled

variable {room : Room} {changes : List Change}

theorem of_members (h : room.Peopled changes) (other : Room)
    (hmembers : other.members = room.members) : other.Peopled changes :=
  ⟨hmembers ▸ h.nodup, hmembers ▸ h.mem_iff⟩

theorem new : ({} : Room).Peopled [] :=
  ⟨List.nodup_nil, fun _ => by simp [not_lastJoined_nil]⟩

theorem joined (h : room.Peopled changes) (user : String) :
    (room.addMember user).Peopled (changes ++ [.joined user]) := by
  have hjoined (other : String) : LastJoined (changes ++ [.joined user]) other ↔
      other = user ∨ other ∈ room.members := by
    rw [lastJoined_append, h.mem_iff]
    by_cases hother : other = user
    · simp [hother]
    · simp [Change.user, hother, Ne.symm hother]
  unfold Room.addMember
  by_cases hmem : user ∈ room.members
  · rw [if_pos hmem]
    refine ⟨h.nodup, fun other => ?_⟩
    rw [hjoined, iff_or_self]
    rintro rfl
    exact hmem
  · rw [if_neg hmem]
    refine ⟨List.nodup_append.mpr ⟨h.nodup, by simp, ?_⟩, fun other => ?_⟩
    · rintro other hother _ hlast rfl
      exact hmem (List.mem_singleton.mp hlast ▸ hother)
    · rw [hjoined, List.mem_append, List.mem_singleton, or_comm]

theorem gone (h : room.Peopled changes) (user : String) :
    (room.removeMember user).Peopled (changes ++ [.gone user]) := by
  refine ⟨h.nodup.filter _, fun other => ?_⟩
  rw [lastJoined_append, ← h.mem_iff]
  simp only [Room.removeMember, List.mem_filter, bne_iff_ne, Change.user, reduceCtorEq, false_or]
  rw [and_comm, ne_comm]

theorem change (h : room.Peopled changes) (more : List Change) :
    (more.foldl Room.change room).Peopled (changes ++ more) := by
  induction more generalizing room changes with
  | nil => simpa using h
  | cons change rest induction =>
      rw [List.foldl_cons, List.append_cons]
      cases change with
      | joined user => exact induction (h.joined user)
      | gone user => exact induction (h.gone user)

theorem addMembers (h : room.Peopled changes) (users : List String) :
    (room.addMembers users).Peopled (changes ++ users.map .joined) := by
  rw [addMembers_eq]
  exact h.change _

theorem seated (h : room.Peopled changes) {packet : Packet}
    (hinvitation : packet.isInvitation = true) :
    (room.seated packet).Peopled (changes ++ packet.changes) := by
  have hchanges : packet.changes =
      (inviterOf packet).toList.map .joined ++ (packet.body.getAll "52").map .joined := by
    have hservice : packet.service = .confInvite ∨ packet.service = .confAddInvite := by
      simpa [Packet.isInvitation] using hinvitation
    rcases hservice with hservice | hservice <;> simp [Packet.changes, hservice]
  rw [hchanges, ← List.append_assoc]
  unfold Room.seated inviterOf
  dsimp only
  cases hinviter : packet.value? "50" with
  | none => simpa using (h.of_members { room with invited := true } rfl).addMembers _
  | some inviter =>
      by_cases hempty : inviter = ""
      · simpa [hempty] using (h.of_members { room with invited := true } rfl).addMembers _
      · simp only [Option.getD_some, hempty, if_false]
        let known := ({ room with inviter := some inviter } : Room).addMembers [inviter]
        have hknown : known.Peopled (changes ++ [inviter].map .joined) :=
          (h.of_members { room with inviter := some inviter } rfl).addMembers [inviter]
        exact (hknown.of_members { known with invited := true } rfl).addMembers _

end Room.Peopled

/-- What a room has taken in since it got its entry: whether we are in it, the packets that it holds
for the invitation, and the changes of its members in the order in which they took effect. -/
structure Record where
  invited : Bool := false
  held : List Packet := []
  changes : List Change := []
deriving DecidableEq, Repr

/-- An invitation takes effect before the packets that were held for it. -/
def Record.take (record : Record) (packet : Packet) : Record :=
  if packet.isInvitation then
    { invited := true
      changes := record.changes ++ packet.changes ++ record.held.flatMap Packet.changes }
  else if record.invited then { record with changes := record.changes ++ packet.changes }
  else { record with held := record.held ++ [packet] }

section Take

variable {record : Record} {packet : Packet}

theorem Record.take_invitation (hinvitation : packet.isInvitation = true) :
    record.take packet =
      { invited := true
        changes := record.changes ++ packet.changes ++ record.held.flatMap Packet.changes } :=
  if_pos hinvitation

theorem Record.take_update (hinvitation : packet.isInvitation = false)
    (hinvited : record.invited = true) :
    record.take packet = { record with changes := record.changes ++ packet.changes } := by
  rw [take, if_neg (by simp [hinvitation]), if_pos hinvited]

theorem Record.take_early (hinvitation : packet.isInvitation = false)
    (hinvited : record.invited = false) :
    record.take packet = { record with held := record.held ++ [packet] } := by
  rw [take, if_neg (by simp [hinvitation]), if_neg (by simp [hinvited])]

end Take

/-- What the steps of a user and of the server come to for one room: how many rooms the user has
created, whether the name of the room is one that was left, and what the room has taken in. -/
structure Chronicle where
  created : UInt64 := 0
  silent : Bool := false
  record : Option Record := none
deriving DecidableEq, Repr

namespace Chronicle

/-- An invitation is always taken in. Anything else is dropped, and changes nothing, if the name was
left, and also before the invitation unless the policy keeps it. -/
def receive (policy : BufferPolicy) (chronicle : Chronicle) (packet : Packet) : Chronicle :=
  let taken := some ((chronicle.record.getD {}).take packet)
  if packet.isInvitation then { chronicle with silent := false, record := taken }
  else if chronicle.silent then chronicle
  else if chronicle.record.any Record.invited || policy.buffers packet.service then
    { chronicle with record := taken }
  else chronicle

/-- A room that the user creates gets a new entry, and one that the user leaves loses its entry. -/
def ask (room : String) (chronicle : Chronicle) (user : String) : Request → Chronicle
  | .create users _ =>
      { chronicle with
        created := chronicle.created + 1
        record :=
          if numbered user chronicle.created = room then
            some { invited := true, changes := users.map .joined }
          else chronicle.record }
  | request =>
      if request.isDeparture ∧ request.room? = some room ∧ chronicle.record.isSome then
        { chronicle with silent := true, record := none }
      else chronicle

def step (policy : BufferPolicy) (room : String) (chronicle : Chronicle) : Step → Chronicle
  | .receive packet =>
      if packet.value? "57" = some room then chronicle.receive policy packet else chronicle
  | .ask user request => chronicle.ask room user request

def ofSteps (policy : BufferPolicy) (room : String) (steps : List Step) : Chronicle :=
  steps.foldl (step policy room) {}

theorem ask_about (room : String) (chronicle : Chronicle) (user : String) {request : Request}
    {name : String} (hname : request.room? = some name) :
    chronicle.ask room user request =
      if request.isDeparture ∧ name = room ∧ chronicle.record.isSome then
        { chronicle with silent := true, record := none }
      else chronicle := by
  cases request <;> cases hname <;> simp [ask, Request.room?]

end Chronicle

/-- The entry of a room is what its record makes of it. -/
structure Room.Bears (policy : BufferPolicy) (name : String) (room : Room) (record : Record) :
    Prop where
  opened : room.closed = false
  invited : room.invited = record.invited
  pending : room.pending = record.held
  peopled : room.Peopled record.changes
  settled : record.invited = true → record.held = []
  waiting : record.invited = false → record.changes = [] ∧ room.inviter = none
  kept : ∀ packet ∈ record.held,
    policy.buffers packet.service = true ∧ packet.value? "57" = some name

namespace Room.Bears

variable {policy : BufferPolicy} {name : String} {room : Room} {record : Record} {packet : Packet}

theorem new : Bears policy name {} {} where
  opened := rfl
  invited := rfl
  pending := rfl
  peopled := .new
  settled _ := rfl
  waiting _ := ⟨rfl, rfl⟩
  kept _ hmem := nomatch hmem

theorem held_updates (h : room.Bears policy name record) :
    ∀ packet ∈ record.held, packet.isInvitation = false := by
  intro packet hmem
  have hbuffers := (h.kept packet hmem).1
  cases hservice : packet.service <;>
    simp_all [BufferPolicy.buffers, Packet.isInvitation]

theorem invite (h : room.Bears policy name record) (hinvitation : packet.isInvitation = true) :
    (room.invite name packet).1.Bears policy name (record.take packet) := by
  obtain ⟨⟨members, hmembers⟩, -⟩ := room.invite_members name packet
  have hpeopled : (room.invite name packet).1.Peopled
      (record.changes ++ packet.changes ++ record.held.flatMap Packet.changes) := by
    have hseated := h.peopled.seated hinvitation
    rw [invite_eq, replayAll_changes (h.pending ▸ h.held_updates), h.pending]
    exact (hseated.of_members { room.seated packet with pending := [] } rfl).change _
  rw [Record.take_invitation hinvitation]
  exact
    { opened := by rw [hmembers]; exact h.opened
      invited := by rw [hmembers]
      pending := by rw [hmembers]
      peopled := hpeopled
      settled := fun _ => rfl
      waiting := nofun
      kept := nofun }

theorem update (h : room.Bears policy name record) (hinvited : record.invited = true)
    (hinvitation : packet.isInvitation = false) {next : Room} {event : Option Event}
    (hupdate : room.update name packet = .ok (next, event)) :
    next.Bears policy name (record.take packet) := by
  obtain ⟨⟨members, hmembers⟩, -⟩ := update_members hupdate
  have hpeopled := h.peopled.change packet.changes
  rw [← update_changes hinvitation hupdate] at hpeopled
  rw [Record.take_update hinvitation hinvited]
  subst hmembers
  exact
    { h with
      peopled := hpeopled
      waiting := by simp [hinvited] }

theorem take_refused (hinvited : record.invited = true)
    {error : HandlerError} (hupdate : room.update name packet = .error error) :
    record.take packet = record := by
  obtain ⟨key, hlacks, -⟩ := (room.update_eq_error_iff name packet error).mp hupdate
  rw [Record.take_update (Packet.isInvitation_of_updateKey? hlacks.required) hinvited,
    Packet.changes_of_lacks hlacks, List.append_nil]

theorem hold (h : room.Bears policy name record) (hinvited : record.invited = false)
    (hinvitation : packet.isInvitation = false) (hname : packet.value? "57" = some name)
    (hbuffers : policy.buffers packet.service = true) :
    { room with pending := room.pending ++ [packet] }.Bears policy name (record.take packet) := by
  rw [Record.take_early hinvitation hinvited]
  exact
    { h with
      pending := by rw [h.pending]
      peopled := h.peopled.of_members _ rfl
      settled := by simp [hinvited]
      waiting := h.waiting
      kept := by
        intro other hmem
        rcases List.mem_append.mp hmem with hmem | hmem
        · exact h.kept other hmem
        · rw [List.mem_singleton.mp hmem]
          exact ⟨hbuffers, hname⟩ }

theorem create (user : String) (users : List String) :
    (({ invited := true, inviter := some user } : Room).addMembers users).Bears policy name
      { invited := true, changes := users.map .joined } := by
  have hempty : ({ invited := true, inviter := some user } : Room).Peopled [] :=
    Peopled.new.of_members _ rfl
  obtain ⟨members, hmembers⟩ := addMembers_members { invited := true, inviter := some user } users
  exact
    { opened := by rw [hmembers]
      invited := by rw [hmembers]
      pending := by rw [hmembers]
      peopled := hempty.addMembers users
      settled := fun _ => rfl
      waiting := nofun
      kept := nofun }

end Room.Bears

namespace Store

/-- The store knows of a room what the chronicle does. -/
structure Follows (policy : BufferPolicy) (room : String) (store : Store) (chronicle : Chronicle) :
    Prop where
  policy_eq : store.policy = policy
  created : store.created = chronicle.created
  silent : room ∈ store.left ↔ chronicle.silent = true
  entry : Option.Rel (Room.Bears policy room) (store.rooms.find? room) chronicle.record
  heard : ∀ record, chronicle.record = some record → record.invited = false → record.held ≠ []

namespace Follows

variable {policy : BufferPolicy} {room : String} {store other : Store} {chronicle : Chronicle}

theorem start (policy : BufferPolicy) (room : String) : Follows policy room { policy } {} where
  policy_eq := rfl
  created := rfl
  silent := by simp
  entry := .none
  heard := nofun

theorem of_agree (h : Follows policy room store chronicle) (hagree : Agree room other store)
    (hcreated : other.created = store.created) : Follows policy room other chronicle where
  policy_eq := hagree.policy.trans h.policy_eq
  created := hcreated.trans h.created
  silent := hagree.left.trans h.silent
  entry := hagree.entry ▸ h.entry
  heard := h.heard

theorem entry_cases (h : Follows policy room store chronicle) :
    (store.rooms.find? room = none ∧ chronicle.record = none) ∨
      ∃ state record, store.rooms.find? room = some state ∧ chronicle.record = some record ∧
        state.Bears policy room record := by
  have hentry := h.entry
  cases hroom : store.rooms.find? room <;> cases hrecord : chronicle.record <;>
    simp_all

/-- The entry of the room, or the one that an invitation or an early packet begins with. -/
theorem bears (h : Follows policy room store chronicle) :
    ((store.rooms.find? room).getD {}).Bears policy room (chronicle.record.getD {}) := by
  rcases h.entry_cases with ⟨hroom, hrecord⟩ | ⟨state, record, hroom, hrecord, hbears⟩
  · rw [hroom, hrecord]
    exact .new
  · rw [hroom, hrecord]
    exact hbears

theorem enter (h : Follows policy room store chronicle) {state : Room} {record : Record}
    (hbears : state.Bears policy room record) (hheard : record.invited = false → record.held ≠ []) :
    Follows policy room (store.setRoom room state) { chronicle with record := some record } where
  policy_eq := h.policy_eq
  created := h.created
  silent := h.silent
  entry := by
    rw [find?_setRoom]
    exact .some hbears
  heard := by
    rintro other hother
    cases hother
    exact hheard

theorem receiveInvite (h : Follows policy room store chronicle) {packet : Packet}
    (hinvitation : packet.isInvitation = true) :
    Follows policy room (store.receiveInvite room packet).1 (chronicle.receive policy packet) := by
  have hback : Follows policy room { store with left := store.left.filter (· != room) }
      { chronicle with silent := false } :=
    { h with silent := by simp }
  rw [Chronicle.receive, if_pos hinvitation]
  refine hback.enter (h.bears.invite hinvitation) ?_
  simp [Record.take_invitation hinvitation]

theorem receiveUpdate (h : Follows policy room store chronicle) {packet : Packet}
    (hinvitation : packet.isInvitation = false) (hname : packet.value? "57" = some room) :
    Follows policy room (store.receiveUpdate room packet).1 (chronicle.receive policy packet) := by
  have hheld {record : Record} (hinvited : record.invited = false) :
      (record.take packet).held ≠ [] := by
    simp [Record.take_early hinvitation hinvited]
  rw [Chronicle.receive, if_neg (by simp [hinvitation])]
  unfold Store.receiveUpdate
  by_cases hleft : room ∈ store.left
  · rw [if_pos hleft, if_pos (h.silent.mp hleft)]
    exact h
  rw [if_neg hleft, if_neg (mt h.silent.mpr hleft), h.policy_eq]
  rcases h.entry_cases with ⟨hroom, hrecord⟩ | ⟨state, record, hroom, hrecord, hbears⟩
  · simp only [hroom, hrecord, Option.any_none, Option.getD_none, Bool.false_or]
    split
    · rename_i hbuffers
      exact h.enter (Room.Bears.new.hold rfl hinvitation hname hbuffers) fun _ => hheld rfl
    · exact h
  simp only [hroom, hrecord, Option.any_some, Option.getD_some]
  cases hinvited : record.invited with
  | true =>
      have hmember : (record.take packet).invited = false → (record.take packet).held ≠ [] := by
        simp [Record.take_update hinvitation hinvited, hinvited]
      rw [if_pos (hbears.invited.trans hinvited), Bool.true_or, if_pos rfl]
      cases hupdate : state.update room packet with
      | ok result => exact h.enter (hbears.update hinvited hinvitation hupdate) hmember
      | error error =>
          rw [Room.Bears.take_refused hinvited hupdate, ← hrecord]
          exact h
  | false =>
      have hstate : state.invited = false := hbears.invited.trans hinvited
      rw [if_neg (by simp [hstate]), Bool.false_or]
      split
      · rename_i hbuffers
        exact h.enter (hbears.hold hinvited hinvitation hname hbuffers) fun _ => hheld hinvited
      · exact h

theorem receive (h : Follows policy room store chronicle) {packet : Packet}
    (hname : packet.value? "57" = some room) :
    Follows policy room (store.receive packet).1 (chronicle.receive policy packet) := by
  cases hinvitation : packet.isInvitation with
  | true =>
      rw [receive_invitation hname hinvitation]
      exact h.receiveInvite hinvitation
  | false =>
      rw [store.receive_of_not_invitation hname hinvitation]
      exact h.receiveUpdate hinvitation hname

theorem leave (h : Follows policy room store chronicle) :
    Follows policy room (store.forget room) { chronicle with silent := true, record := none } where
  policy_eq := h.policy_eq
  created := h.created
  silent := by simp [forget]
  entry := by simp [forget]
  heard := nofun

theorem create (h : Follows policy room store chronicle) (user : String) (users : List String)
    (message : String) :
    Follows policy room (store.create user users message).2.2
      (chronicle.ask room user (.create users message)) := by
  have hcounted : Follows policy room { store with created := store.created + 1 }
      { chronicle with created := chronicle.created + 1 } :=
    { h with created := congrArg (· + 1) h.created }
  by_cases hname : numbered user chronicle.created = room
  · have hnext : store.nextName user = room := by rw [nextName, h.created, hname]
    have hstore : (store.create user users message).2.2 =
        { store with created := store.created + 1 }.setRoom (store.nextName user)
          (({ invited := true, inviter := some user } : Room).addMembers users) := rfl
    rw [hstore, hnext, Chronicle.ask, if_pos hname]
    exact hcounted.enter (.create user users) nofun
  · have hne : room ≠ store.nextName user := by rwa [nextName, h.created, ne_comm]
    obtain ⟨packet, members, hcreate⟩ := store.create_eq user users message
    rw [hcreate, Chronicle.ask, if_neg hname]
    exact hcounted.of_agree (agree_setRoom _ hne _) rfl

theorem step (h : Follows policy room store chronicle) (step : Step) :
    Follows policy room (store.step step).1 (chronicle.step policy room step) := by
  cases step with
  | receive packet =>
      by_cases hname : packet.value? "57" = some room
      · rw [Chronicle.step, if_pos hname]
        exact h.receive hname
      · rw [Chronicle.step, if_neg hname]
        exact h.of_agree (store.agree_step hname nofun) (store.step_created _)
  | ask user request =>
      cases hname : request.room? with
      | none =>
          cases request with
          | create users message => exact h.create user users message
          | _ => cases hname
      | some name =>
          rw [Chronicle.step, chronicle.ask_about room user hname, step_about store user hname]
          by_cases heq : name = room
          · subst heq
            have hknown : (store.rooms.find? name).isSome = chronicle.record.isSome := by
              rcases h.entry_cases with ⟨hroom, hrecord⟩ | ⟨state, record, hroom, hrecord, -⟩ <;>
                simp [hroom, hrecord]
            simp only [hknown, true_and]
            split
            · exact h.leave
            · exact h
          · simp only [heq, false_and, and_false, if_false]
            split
            · exact h.of_agree (store.agree_forget (Ne.symm heq)) rfl
            · exact h

theorem run (h : Follows policy room store chronicle) (steps : List Step) :
    Follows policy room (store.run steps).1
      (steps.foldl (Chronicle.step policy room) chronicle) := by
  induction steps generalizing store chronicle with
  | nil => exact h
  | cons step rest induction => exact induction (h.step step)

end Follows

/-- In every run no room is closed and none lists a user twice. A room we are in holds nothing back,
and its members are those whom the last change that named them let in, of the changes that have
taken effect since the room got its entry. Any other room is empty and holds packets that came too
early. -/
theorem rooms_of_run (policy : BufferPolicy) (steps : List Step) {name : String} {room : Room}
    (hroom : (({ policy } : Store).run steps).1.rooms.find? name = some room) :
    room.closed = false ∧ room.members.Nodup ∧
      ∃ record, (Chronicle.ofSteps policy name steps).record = some record ∧
        room.invited = record.invited ∧
        (room.invited = true →
          room.pending = [] ∧ ∀ user, user ∈ room.members ↔ LastJoined record.changes user) ∧
        (room.invited = false →
          room.members = [] ∧ room.inviter = none ∧ room.pending ≠ [] ∧
            ∀ packet ∈ room.pending,
              policy.buffers packet.service = true ∧ packet.value? "57" = some name) := by
  have hfollows := (Follows.start policy name).run steps
  rcases hfollows.entry_cases with ⟨hnone, -⟩ | ⟨state, record, hstate, hrecord, hbears⟩
  · cases hnone.symm.trans hroom
  cases hstate.symm.trans hroom
  refine ⟨hbears.opened, hbears.peopled.nodup, record, hrecord, hbears.invited,
    fun hinvited => ?_, fun hinvited => ?_⟩
  · rw [hbears.invited] at hinvited
    exact ⟨hbears.pending.trans (hbears.settled hinvited), hbears.peopled.mem_iff⟩
  · rw [hbears.invited] at hinvited
    obtain ⟨hchanges, hinviter⟩ := hbears.waiting hinvited
    have hempty : ∀ user, user ∉ room.members := fun user hmem =>
      not_lastJoined_nil (hchanges ▸ (hbears.peopled.mem_iff user).mp hmem)
    refine ⟨List.eq_nil_iff_forall_not_mem.mpr hempty, hinviter, ?_, ?_⟩
    · rw [hbears.pending]
      exact hfollows.heard record hrecord hinvited
    · rw [hbears.pending]
      exact hbears.kept

/-- The one who invites has gone out of the room before the invitation comes, but is seated by it
and goes out in the replay; others come in by the invitation and after it. -/
theorem rooms_of_run_replayed :
    let packet (service : Service) (fields : List (String × String)) : Step :=
      .receive (.request service (("57", "den") :: fields))
    let steps :=
      [packet .confLogoff [("56", "bob")], packet .confDecline [("54", "carol")],
        packet .confInvite [("50", "bob"), ("52", "carol"), ("52", "dave")],
        packet .confLogon [("53", "bob")], packet .confLogoff [("56", "dave")],
        packet .confLogon [("53", "carol")], packet .confLogoff [("56", "bob")]]
    ∃ room, ((({} : Store).run steps).1.rooms.find? "den" = some room) ∧
      room.members = ["carol"] ∧ room.pending = [] ∧
      ∀ user, user ∈ room.members ↔
        LastJoined
          [.joined "bob", .joined "carol", .joined "dave", .gone "bob", .joined "bob",
            .gone "dave", .joined "carol", .gone "bob"] user := by
  intro packet steps
  have hroom : (({} : Store).run steps).1.rooms.find? "den" =
      some { invited := true, inviter := some "bob", members := ["carol"] } := rfl
  refine ⟨_, hroom, rfl, rfl, ?_⟩
  obtain ⟨-, -, record, hrecord, -, hinvited, -⟩ := rooms_of_run {} steps hroom
  have hchanges : (Chronicle.ofSteps {} "den" steps).record = some
      { invited := true
        changes :=
          [.joined "bob", .joined "carol", .joined "dave", .gone "bob", .joined "bob",
            .gone "dave", .joined "carol", .gone "bob"] } := rfl
  cases hchanges.symm.trans hrecord
  exact (hinvited rfl).2

end Store

end Messenger.Conference
