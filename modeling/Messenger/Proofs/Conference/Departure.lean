import Messenger.Proofs.Conference.Steps

/-!
A room the user has left. Until it is opened anew nothing is heard of it, whatever else comes in,
and the invitation that brings it back finds nothing of what there was before.
-/

namespace Messenger.Conference

namespace Room

/-- Everyone is in a room once, in the order in which they came. -/
theorem members_addMembers {room : Room} (seen : List String)
    (hseen : room.members = seen.eraseDups) (users : List String) :
    (room.addMembers users).members = (seen ++ users).eraseDups := by
  induction users generalizing room seen with
  | nil => simpa [addMembers] using hseen
  | cons user rest induction =>
      have hfirst : (room.addMember user).members = (seen ++ [user]).eraseDups := by
        rw [List.eraseDups_append, ← hseen]
        by_cases hmem : user ∈ seen
        · simp [addMember, hseen, hmem, List.removeAll]
        · simp [addMember, hseen, hmem, List.removeAll, List.eraseDups_cons]
      rw [addMembers, List.foldl_cons, List.append_cons]
      exact induction (seen ++ [user]) hfirst

/-- Whom an invitation names, the inviter before the members. -/
def invitees (packet : Packet) : List String :=
  ((inviterOf packet).toList ++ packet.body.getAll "52").eraseDups

theorem seated_empty (packet : Packet) :
    ({} : Room).seated packet =
      { invited := true, inviter := inviterOf packet, members := invitees packet } := by
  obtain ⟨members, hmembers⟩ := seated_members {} packet
  have hseated : (({} : Room).seated packet).members = invitees packet := by
    unfold seated invitees inviterOf
    dsimp only
    by_cases hinviter : (packet.value? "50").getD "" = ""
    · rw [if_pos hinviter, if_pos hinviter]
      exact members_addMembers [] rfl _
    · obtain ⟨inviter, hvalue⟩ : ∃ inviter, packet.value? "50" = some inviter := by
        cases hvalue : packet.value? "50" with
        | none => simp [hvalue] at hinviter
        | some inviter => exact ⟨inviter, rfl⟩
      rw [if_neg hinviter, if_neg hinviter, hvalue]
      exact members_addMembers [inviter] rfl _
  rw [hmembers] at hseated ⊢
  simp [← hseated]

end Room

namespace Store

/-- The room that a step opens: one the user is invited to, or one the user creates. -/
def opened? (store : Store) : Step → Option String
  | .receive packet => if packet.isInvitation then packet.value? "57" else none
  | step => store.created? step

/-- No step of a run opens the room. -/
def Unopened (room : String) : Store → List Step → Prop
  | _, [] => True
  | store, step :: rest => store.opened? step ≠ some room ∧ Unopened room (store.step step).1 rest

instance decidableUnopened (room : String) :
    (store : Store) → (steps : List Step) → Decidable (Unopened room store steps)
  | _, [] => isTrue trivial
  | store, step :: rest =>
      have := decidableUnopened room (store.step step).1 rest
      inferInstanceAs (Decidable (store.opened? step ≠ some room ∧ _))

structure Gone (room : String) (store : Store) : Prop where
  absent : store.rooms.find? room = none
  left : room ∈ store.left

section Gone

variable {room : String} {store : Store}

theorem Agree.gone {other : Store} (hagree : Agree room other store) (hgone : Gone room store) :
    Gone room other :=
  ⟨hagree.entry.trans hgone.absent, hagree.left.mpr hgone.left⟩

theorem gone_forget (room : String) (store : Store) : Gone room (store.forget room) :=
  ⟨store.rooms.find?_erase_self room, List.mem_cons_self⟩

/-- An update to a room that was left is dropped. -/
theorem receiveUpdate_gone (hgone : Gone room store) (packet : Packet) :
    store.receiveUpdate room packet = (store, .ok []) := by
  simp [receiveUpdate, hgone.left]

theorem gone_step (hgone : Gone room store) {step : Step}
    (hopened : store.opened? step ≠ some room) :
    Gone room (store.step step).1 ∧
      ∀ report ∈ (store.step step).2, report.event.room? ≠ some room := by
  by_cases hroom : step.room? = some room
  · -- the step is about the room itself
    suffices hstep : store.step step = (store, []) by
      rw [hstep]
      exact ⟨hgone, fun _ hmem => absurd hmem List.not_mem_nil⟩
    cases step with
    | receive packet =>
        rcases store.receive_cases packet with ⟨hnone, -⟩ |
          ⟨name, hname, ⟨hinvitation, -⟩ | ⟨-, hreceive⟩⟩
        · cases hnone.symm.trans hroom
        · simp only [opened?, hinvitation, if_true] at hopened
          exact absurd hroom hopened
        · cases hname.symm.trans hroom
          simp [Store.step, hreceive, receiveUpdate_gone hgone, Except.toOption]
    | ask user request => simp [step_about store user hroom, hgone.absent]
  · have hcreated : store.created? step ≠ some room := by
      cases step with
      | receive packet => exact (Option.some_ne_none room).symm
      | ask user request => exact hopened
    exact ⟨(agree_step store hroom hcreated).gone hgone, step_elsewhere store hroom⟩

theorem gone_run (hgone : Gone room store) {steps : List Step}
    (hunopened : Unopened room store steps) :
    Gone room (store.run steps).1 ∧
      ∀ report ∈ (store.run steps).2, report.event.room? ≠ some room := by
  induction steps generalizing store with
  | nil => exact ⟨hgone, fun _ hmem => absurd hmem List.not_mem_nil⟩
  | cons step rest induction =>
      obtain ⟨hopened, hrest⟩ := hunopened
      obtain ⟨hnext, hfirst⟩ := gone_step hgone hopened
      obtain ⟨hlast, hlater⟩ := induction hnext hrest
      exact ⟨hlast, fun report hmem =>
        (List.mem_append.mp hmem).elim (hfirst report) (hlater report)⟩

/-- A room that was left comes back with what the invitation says, and with nothing else. -/
theorem gone_invited (hgone : Gone room store) {packet : Packet}
    (hinvitation : packet.isInvitation = true) (hroom : packet.value? "57" = some room) :
    ∃ next, store.receive packet = (next, .ok [Room.invitation room packet]) ∧
      next.rooms.find? room = some
        { invited := true, inviter := Room.inviterOf packet, members := Room.invitees packet } ∧
      room ∉ next.left := by
  have hinvite : ({} : Room).invite room packet =
      ({ invited := true, inviter := Room.inviterOf packet, members := Room.invitees packet },
        [Room.invitation room packet]) := by
    rw [Room.invite_eq, Room.seated_empty]
    rfl
  have hreceive : store.receiveInvite room packet =
      ({ store with left := store.left.filter (· != room) }.setRoom room
          { invited := true, inviter := Room.inviterOf packet, members := Room.invitees packet },
        [Room.invitation room packet]) := by
    rw [receiveInvite, hgone.absent, Option.getD_none, hinvite]
  refine ⟨_, by rw [receive_invitation hroom hinvitation, hreceive], find?_setRoom _ _ _, ?_⟩
  simp [setRoom]

end Gone

/-- Once the user has declined a room or left it, nothing is reported of it, it is not among the
rooms, and nothing is held for it, until it is opened anew. An invitation then seats those it names
in an empty room. -/
theorem left_room_silent (store : Store) {user room : String} {request : Request}
    (hroom : request.room? = some room) (hdeparture : request.isDeparture = true) {sent : Packet}
    {left : Store} (hask : store.ask user request = .ok (sent, left)) {quiet : List Step}
    (hquiet : Unopened room left quiet) :
    (∀ report ∈ (left.run quiet).2, report.event.room? ≠ some room) ∧
      room ∉ (left.run quiet).1.roomNames ∧
      (left.run quiet).1.snapshot? room = none ∧
      (left.run quiet).1.rooms.find? room = none ∧
      ∀ packet : Packet, packet.isInvitation = true → packet.value? "57" = some room →
        ∃ back, (left.run quiet).1.receive packet = (back, .ok [Room.invitation room packet]) ∧
          back.rooms.find? room = some
            { invited := true
              inviter := Room.inviterOf packet
              members := Room.invitees packet
              closed := false
              pending := [] } ∧
          room ∉ back.left := by
  have hleft : Gone room left := by
    rcases store.ask_about user hroom with ⟨-, herror⟩ | ⟨-, packet, hok⟩
    · cases herror.symm.trans hask
    · rw [hok, if_pos hdeparture] at hask
      cases hask
      exact gone_forget room store
  obtain ⟨hgone, hsilent⟩ := gone_run hleft hquiet
  refine ⟨hsilent, ?_, ?_, hgone.absent, fun packet => gone_invited hgone⟩
  · simp [roomNames, List.mem_mergeSort, Table.mem_keys_iff, hgone.absent]
  · simp [snapshot?, hgone.absent]

/-- A room known from a message that came too early, left before any invitation, and then told of
by a late message and passed by an invitation to another room. -/
theorem left_room_silent_early :
    let message (sender text : String) : Packet :=
      .request .confMsg [("57", "den"), ("3", sender), ("14", text)]
    let invitation (room : String) : Packet :=
      .request .confInvite [("57", room), ("50", "bob"), ("52", "carol"), ("52", "bob")]
    let early := (({} : Store).run [.receive (message "bob" "soon")]).1
    let left := early.forget "den"
    let quiet := [.receive (message "bob" "late"), .receive (invitation "attic")]
    (early.snapshot? "den").isSome = true ∧ Unopened "den" left quiet ∧
      (∀ report ∈ (left.run quiet).2, report.event.room? ≠ some "den") ∧
      ∃ back, (left.run quiet).1.receive (invitation "den") =
          (back, .ok [Room.invitation "den" (invitation "den")]) ∧
        back.snapshot? "den" = some ⟨"den", true, some "bob", ["bob", "carol"], 0⟩ := by
  intro message invitation early left quiet
  have hask : early.ask "ann" (.leave "den") =
      .ok (.request .confLogoff [("1", "ann"), ("57", "den")], left) := by
    rfl
  have hquiet : Unopened "den" left quiet := by decide
  obtain ⟨hsilent, -, -, -, hback⟩ := left_room_silent early rfl rfl hask hquiet
  obtain ⟨back, hreceive, hroom, -⟩ := hback (invitation "den") (by decide) (by decide)
  refine ⟨by decide, hquiet, hsilent, back, hreceive, ?_⟩
  simp only [snapshot?, hroom, Option.map_some, Room.snapshot]
  decide

end Store

end Messenger.Conference
