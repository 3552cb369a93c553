import Messenger.Proofs.Conference.Steps

/-!
Conference packets that are turned down. What a packet must say is looked for before it is acted on,
so one that does not say it leaves the rooms as they were. If such a packet was held back for an
invitation, the replay passes over it.
-/

namespace Messenger

namespace Packet

/-- The field, besides the room's, that an update of a room cannot do without. -/
def updateKey? (packet : Packet) : Option String :=
  match packet.service with
  | .confLogon => some "53"
  | .confLogoff => some "56"
  | .confDecline => some "54"
  | .confMsg => some "3"
  | _ => none

/-- A packet does not say what an update of its kind must say. -/
structure Lacks (packet : Packet) (key : String) : Prop where
  required : packet.updateKey? = some key
  missing : packet.value? key = none

theorem require_eq_error_iff (packet : Packet) (key : String) (error : HandlerError) :
    packet.require key = .error error ↔
      packet.value? key = none ∧ error = .missingField packet.service key := by
  unfold require
  cases packet.value? key <;> simp [eq_comm]

theorem isInvitation_of_updateKey? {packet : Packet} {key : String}
    (hkey : packet.updateKey? = some key) : packet.isInvitation = false := by
  unfold updateKey? at hkey
  split at hkey
  case h_5 => cases hkey
  all_goals
    rename_i hservice
    simp [isInvitation, hservice]

end Packet

namespace Conference

namespace Room

theorem update_eq_error_iff (room : Room) (name : String) (packet : Packet) (error : HandlerError) :
    room.update name packet = .error error ↔
      ∃ key, packet.Lacks key ∧ error = .missingField packet.service key := by
  have herror {key : String} (hkey : packet.updateKey? = some key) :
      packet.require key = .error error ↔
        ∃ key, packet.Lacks key ∧ error = .missingField packet.service key := by
    rw [packet.require_eq_error_iff]
    constructor
    · rintro ⟨hmissing, rfl⟩
      exact ⟨key, ⟨hkey, hmissing⟩, rfl⟩
    · rintro ⟨other, ⟨hother, hmissing⟩, rfl⟩
      cases hkey.symm.trans hother
      exact ⟨hmissing, rfl⟩
  have hmap {key : String} (change : String → Room × Option Event) :
      (packet.require key).map change = .error error ↔ packet.require key = .error error := by
    cases packet.require key <;> simp [Except.map]
  unfold update
  split
  case h_5 hlogon hlogoff hdecline hmsg =>
    have hnone : packet.updateKey? = none := by
      unfold Packet.updateKey?
      split <;> first | rfl | contradiction
    simp only [reduceCtorEq, false_iff]
    rintro ⟨key, ⟨hkey, -⟩, -⟩
    cases hnone.symm.trans hkey
  all_goals
    rename_i hservice
    rw [hmap, herror (by simp [Packet.updateKey?, hservice])]

/-- In a replay, a packet that lacks its field might as well not be there. -/
theorem replayAll_lacking (name : String) (state : Room × List Report) (before after : List Packet)
    {packet : Packet} {key : String} (hlacks : packet.Lacks key) :
    (before ++ packet :: after).foldl (replay name) state =
      (before ++ after).foldl (replay name) state := by
  have hpasses (state : Room × List Report) : replay name state packet = state := by
    have herror := (update_eq_error_iff state.1 name packet _).mpr ⟨key, hlacks, rfl⟩
    simp only [replay, herror]
  rw [List.foldl_append, List.foldl_cons, hpasses, ← List.foldl_append]

theorem invite_lacking (room : Room) (name : String) (before after : List Packet)
    {packet : Packet} {key : String} (hlacks : packet.Lacks key) (invitation : Packet) :
    { room with pending := before ++ packet :: after }.invite name invitation =
      { room with pending := before ++ after }.invite name invitation := by
  rw [invite_holding room (before ++ packet :: after), invite_holding room (before ++ after)]
  exact replayAll_lacking name _ before after hlacks

end Room

namespace Store

/-- Why a store turns a packet down: it names no room, or it is for a room the user is in and does
not say what it must say. -/
inductive Refuses (store : Store) (packet : Packet) : HandlerError → Prop
  | nameless (hname : packet.value? "57" = none) :
      Refuses store packet (.missingField packet.service "57")
  | lacking {name key : String} {room : Room} (hname : packet.value? "57" = some name)
      (hleft : name ∉ store.left) (hroom : store.rooms.find? name = some room)
      (hinvited : room.invited = true) (hlacks : packet.Lacks key) :
      Refuses store packet (.missingField packet.service key)

theorem receiveUpdate_error {store : Store} {name : String} {packet : Packet}
    {error : HandlerError} (herror : (store.receiveUpdate name packet).2 = .error error) :
    name ∉ store.left ∧ ∃ room, store.rooms.find? name = some room ∧ room.invited = true ∧
      room.update name packet = .error error := by
  unfold receiveUpdate at herror
  by_cases hleft : name ∈ store.left
  · rw [if_pos hleft] at herror
    cases herror
  rw [if_neg hleft] at herror
  refine ⟨hleft, ?_⟩
  cases hroom : store.rooms.find? name with
  | none =>
      simp only [hroom] at herror
      split at herror <;> cases herror
  | some room =>
      simp only [hroom] at herror
      cases hinvited : room.invited with
      | false =>
          simp only [hinvited, Bool.false_eq_true, if_false] at herror
          split at herror <;> cases herror
      | true =>
          simp only [hinvited, if_true] at herror
          cases hupdate : room.update name packet with
          | ok result =>
              simp only [hupdate] at herror
              cases herror
          | error fault =>
              simp only [hupdate] at herror
              cases herror
              exact ⟨room, rfl, hinvited, hupdate⟩

/-- A packet is turned down before anything has been changed. -/
theorem receive_of_refuses {store : Store} {packet : Packet} {error : HandlerError}
    (hrefuses : store.Refuses packet error) : store.receive packet = (store, .error error) := by
  cases hrefuses with
  | nameless hname =>
      simp only [receive, (packet.require_eq_error_iff "57" _).mpr ⟨hname, rfl⟩]
  | lacking hname hleft hroom hinvited hlacks =>
      rw [store.receive_of_not_invitation hname
        (Packet.isInvitation_of_updateKey? hlacks.required)]
      simp only [receiveUpdate, if_neg hleft, hroom, hinvited, if_true,
        (Room.update_eq_error_iff _ _ packet _).mpr ⟨_, hlacks, rfl⟩]

theorem receive_error_iff (store : Store) (packet : Packet) (error : HandlerError) :
    (store.receive packet).2 = .error error ↔ store.Refuses packet error := by
  constructor
  · intro herror
    cases hname : packet.value? "57" with
    | none =>
        have hrefuses : store.Refuses packet (.missingField packet.service "57") := .nameless hname
        rw [receive_of_refuses hrefuses] at herror
        cases herror
        exact hrefuses
    | some name =>
        cases hinvitation : packet.isInvitation with
        | true =>
            rw [receive_invitation hname hinvitation] at herror
            cases herror
        | false =>
            rw [store.receive_of_not_invitation hname hinvitation] at herror
            obtain ⟨hleft, room, hroom, hinvited, hupdate⟩ := receiveUpdate_error herror
            obtain ⟨key, hlacks, rfl⟩ := (room.update_eq_error_iff name packet error).mp hupdate
            exact .lacking hname hleft hroom hinvited hlacks
  · intro hrefuses
    rw [receive_of_refuses hrefuses]

/-- For the invitation it does not matter whether the room holds a packet that lacks its field. -/
theorem receive_lacking (store : Store) (name : String) (room : Room) (before after : List Packet)
    {packet : Packet} {key : String} (hlacks : packet.Lacks key) {invitation : Packet}
    (hinvitation : invitation.isInvitation = true) (hname : invitation.value? "57" = some name) :
    (store.setRoom name { room with pending := before ++ packet :: after }).receive invitation =
      (store.setRoom name { room with pending := before ++ after }).receive invitation := by
  rw [receive_invitation hname hinvitation, receive_invitation hname hinvitation]
  simp only [receiveInvite, find?_setRoom, Option.getD_some,
    Room.invite_lacking room name before after hlacks invitation]
  simp [setRoom]

end Store

end Conference

end Messenger
