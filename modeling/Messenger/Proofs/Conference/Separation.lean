import Messenger.Proofs.Conference.Steps

/-!
Rooms do not interfere. What becomes of one is the same when steps that are about others are left
out, although all of them share one map, one list of rooms that were left and one row of events.
-/

namespace Messenger.Conference.Store

section Alike

variable {room : String} {first second : Store}

namespace Agree

theorem setRoom (hagree : Agree room first second) (state : Room) :
    Agree room (first.setRoom room state) (second.setRoom room state) :=
  ⟨hagree.policy, by simp, hagree.left⟩

theorem forget (hagree : Agree room first second) :
    Agree room (first.forget room) (second.forget room) :=
  ⟨hagree.policy, by simp [Store.forget], by simp [Store.forget]⟩

theorem receiveInvite (hagree : Agree room first second) (packet : Packet) :
    Agree room (first.receiveInvite room packet).1 (second.receiveInvite room packet).1 ∧
      (first.receiveInvite room packet).2 = (second.receiveInvite room packet).2 := by
  have hback : Agree room { first with left := first.left.filter (· != room) }
      { second with left := second.left.filter (· != room) } :=
    ⟨hagree.policy, hagree.entry, by simp⟩
  simp only [Store.receiveInvite, hagree.entry, and_true]
  exact hback.setRoom _

theorem receiveUpdate (hagree : Agree room first second) (packet : Packet) :
    Agree room (first.receiveUpdate room packet).1 (second.receiveUpdate room packet).1 ∧
      (first.receiveUpdate room packet).2 = (second.receiveUpdate room packet).2 := by
  simp only [Store.receiveUpdate, hagree.left, hagree.entry, hagree.policy]
  by_cases hleft : room ∈ second.left
  · simp only [if_pos hleft, and_true]
    exact hagree
  simp only [if_neg hleft]
  cases second.rooms.find? room with
  | none =>
      dsimp only
      split
      · exact ⟨hagree.setRoom _, rfl⟩
      · exact ⟨hagree, rfl⟩
  | some state =>
      dsimp only
      split
      · cases state.update room packet with
        | error error => exact ⟨hagree, rfl⟩
        | ok result => exact ⟨hagree.setRoom _, rfl⟩
      · split
        · exact ⟨hagree.setRoom _, rfl⟩
        · exact ⟨hagree, rfl⟩

/-- A step that is about a room looks at nothing but this room. -/
theorem step (hagree : Agree room first second) {step : Step} (hroom : step.room? = some room) :
    Agree room (first.step step).1 (second.step step).1 ∧
      (first.step step).2 = (second.step step).2 := by
  cases step with
  | receive packet =>
      have hname : packet.value? "57" = some room := hroom
      cases hinvitation : packet.isInvitation with
      | true =>
          obtain ⟨hnext, hreports⟩ := hagree.receiveInvite packet
          simp only [Store.step, receive_invitation hname hinvitation, hreports]
          exact ⟨hnext, trivial⟩
      | false =>
          obtain ⟨hnext, hreports⟩ := hagree.receiveUpdate packet
          simp only [Store.step, receive_of_not_invitation _ hname hinvitation, hreports]
          exact ⟨hnext, trivial⟩
  | ask user request =>
      rw [step_about first user hroom, step_about second user hroom, hagree.entry]
      dsimp only
      split
      · exact ⟨hagree.forget, rfl⟩
      · exact ⟨hagree, rfl⟩

end Agree

end Alike

/-- The reports that name a room. -/
def told (room : String) (reports : List Report) : List Report :=
  reports.filter fun report => report.event.room? = some room

theorem told_append (room : String) (first second : List Report) :
    told room (first ++ second) = told room first ++ told room second :=
  List.filter_append ..

theorem told_elsewhere (store : Store) {step : Step} {room : String}
    (hroom : step.room? ≠ some room) : told room (store.step step).2 = [] := by
  simpa [told] using store.step_elsewhere hroom

section Apart

variable {room : String} {first second : Store} {steps : List Step} {keep : Step → Bool}

/-- All steps about the room are kept; of the others it does not matter which. -/
theorem agree_run (hagree : Agree room first second)
    (hcreate : ∀ step ∈ steps, step.isCreate = false)
    (hkeep : ∀ step ∈ steps, step.room? = some room → keep step = true) :
    Agree room (first.run steps).1 (second.run (steps.filter keep)).1 ∧
      told room (first.run steps).2 = told room (second.run (steps.filter keep)).2 := by
  induction steps generalizing first second with
  | nil => exact ⟨hagree, rfl⟩
  | cons step rest induction =>
      obtain ⟨hfirst, hcreates⟩ := List.forall_mem_cons.mp hcreate
      obtain ⟨hkept, hkeeps⟩ := List.forall_mem_cons.mp hkeep
      by_cases hroom : step.room? = some room
      · obtain ⟨hnext, hreports⟩ := hagree.step hroom
        obtain ⟨hlast, hlater⟩ := induction hnext hcreates hkeeps
        simp only [List.filter_cons, hkept hroom, if_true, run, told_append, hreports, hlater]
        exact ⟨hlast, trivial⟩
      · have hcreated (store : Store) : store.created? step ≠ some room := by
          rw [store.created?_eq_none hfirst]
          exact (Option.some_ne_none room).symm
        have hstill : Agree room (first.step step).1 second :=
          (agree_step first hroom (hcreated first)).trans hagree
        cases hstep : keep step with
        | true =>
            have hboth : Agree room (first.step step).1 (second.step step).1 :=
              hstill.trans (agree_step second hroom (hcreated second)).symm
            obtain ⟨hlast, hlater⟩ := induction hboth hcreates hkeeps
            simp only [List.filter_cons, hstep, if_true, run, told_append, hlater,
              told_elsewhere _ hroom]
            exact ⟨hlast, trivial⟩
        | false =>
            obtain ⟨hlast, hlater⟩ := induction hstill hcreates hkeeps
            simp only [List.filter_cons, hstep, Bool.false_eq_true, if_false, run, told_append,
              hlater, told_elsewhere _ hroom, List.nil_append]
            exact ⟨hlast, trivial⟩

/-- After every step of a run, a room looks as it does in the run that lacks steps on other rooms,
and as much has been told of it. -/
theorem rooms_apart (store : Store) (room : String)
    (hcreate : ∀ step ∈ steps, step.isCreate = false)
    (hkeep : ∀ step ∈ steps, step.room? = some room → keep step = true) (count : Nat) :
    let whole := store.run (steps.take count)
    let alone := store.run ((steps.take count).filter keep)
    whole.1.snapshot? room = alone.1.snapshot? room ∧ told room whole.2 = told room alone.2 := by
  intro whole alone
  obtain ⟨hagree, htold⟩ := agree_run (.refl room store)
    (fun step hmem => hcreate step (List.mem_of_mem_take hmem))
    (fun step hmem => hkeep step (List.mem_of_mem_take hmem))
  exact ⟨by simp only [snapshot?, hagree.entry, whole, alone], htold⟩

/-- Two rooms: the one that is left and entered again does not show in the other. -/
theorem rooms_apart_two :
    let about (service : Service) (room key user : String) : Step :=
      .receive (.request service [("57", room), (key, user)])
    let steps : List Step :=
      [about .confMsg "den" "3" "bob", about .confInvite "attic" "50" "eve",
        about .confInvite "den" "50" "bob", .ask "ann" (.leave "attic"),
        about .confLogon "attic" "53" "eve", about .confLogoff "den" "56" "bob",
        about .confInvite "attic" "50" "carol"]
    let whole := ({} : Store).run steps
    let alone := ({} : Store).run (steps.filter fun step => step.room? = some "den")
    whole.1.snapshot? "den" = alone.1.snapshot? "den" ∧
      told "den" whole.2 = told "den" alone.2 ∧
      told "den" whole.2 =
        [⟨some .confInvite, .conferenceInvite "den" "bob" [] none⟩,
          ⟨some .confMsg, .conferenceMessage "den" "bob" ""⟩,
          ⟨some .confLogoff, .conferenceLogoff "den" "bob"⟩] := by
  intro about steps whole alone
  have hcreate : ∀ step ∈ steps, step.isCreate = false := by decide
  obtain ⟨hsnapshot, htold⟩ := rooms_apart {} "den" hcreate
    (fun step _ hroom => decide_eq_true (p := step.room? = some "den") hroom) steps.length
  exact ⟨hsnapshot, htold, by decide⟩

end Apart

end Messenger.Conference.Store
