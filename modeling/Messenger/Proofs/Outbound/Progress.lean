import Messenger.Outbound.Outbox
import Messenger.Proofs.Outbound.Wire

/-!
What writers have to do comes to an end: each packet that is written and each connection that is let
go of leaves less of it, also when a request that failed sends itself again.
-/

namespace Messenger

def total {α : Type} (weight : α → Nat) : List α → Nat
  | [] => 0
  | value :: rest => weight value + total weight rest

theorem total_modify {α : Type} (weight : α → Nat) {list : List α} {index : Nat} {value : α}
    (h : list[index]? = some value) (change : α → α) :
    total weight (list.modify index change) + weight value =
      total weight list + weight (change value) := by
  induction list generalizing index with
  | nil => simp at h
  | cons first rest induction =>
      cases index with
      | zero =>
          simp only [List.getElem?_cons_zero, Option.some.injEq] at h
          subst h
          simp only [List.modify_zero_cons, total]
          omega
      | succ index =>
          have hrest := induction (by simpa using h)
          simp only [List.modify_succ_cons, total]
          omega

theorem total_eq_zero_iff {α : Type} {weight : α → Nat} {list : List α} :
    total weight list = 0 ↔ ∀ value ∈ list, weight value = 0 := by
  induction list with
  | nil => simp [total]
  | cons first rest induction => simp [total, induction]

theorem total_le {α : Type} {weight : α → Nat} {list : List α} {bound : Nat}
    (hbound : ∀ value ∈ list, weight value ≤ bound) : total weight list ≤ list.length * bound := by
  induction list with
  | nil => exact Nat.zero_le _
  | cons first rest induction =>
      obtain ⟨hfirst, hrest⟩ := List.forall_mem_cons.mp hbound
      have hless := induction hrest
      rw [total, List.length_cons, Nat.succ_mul]
      omega

theorem total_map_le {α : Type} {weight : α → Nat} {change : α → α}
    (hchange : ∀ value, weight (change value) ≤ weight value) (list : List α) :
    total weight (list.map change) ≤ total weight list := by
  induction list with
  | nil => exact Nat.le_refl _
  | cons first rest induction => exact Nat.add_le_add (hchange first) induction

theorem total_map_lt {α : Type} {weight : α → Nat} {change : α → α} {list : List α} {value : α}
    (hchange : ∀ value, weight (change value) ≤ weight value) (hmem : value ∈ list)
    (hless : weight (change value) < weight value) :
    total weight (list.map change) < total weight list := by
  induction list with
  | nil => cases hmem
  | cons first rest induction =>
      rcases List.mem_cons.mp hmem with rfl | hmem
      · exact Nat.add_lt_add_of_lt_of_le hless (total_map_le hchange rest)
      · exact Nat.add_lt_add_of_le_of_lt (hchange first) (induction hmem)

def Connection.load {ρ : Type} (connection : Connection ρ) : Nat :=
  connection.queue.length + if connection.closed then 0 else 1

theorem Connection.load_write {ρ : Type} (connection : Connection ρ) (sessionId : UInt32)
    (packet : Packet) : (connection.write sessionId packet).2.load = connection.load := by
  rw [write_eq]
  rfl

namespace Outbox

/-- What writers have to do, and what requests can still make them do. -/
def load (outbox : Outbox) : Nat :=
  total Connection.load outbox.link.connections + total Request.retries outbox.requests

@[simp] theorem load_note (outbox : Outbox) (posting : Posting) :
    (outbox.note posting).load = outbox.load := rfl

/-- A packet that is taken is one thing more to do. -/
theorem load_enqueue {ρ : Type} (link : Link ρ) (index : Nat) (outgoing : Outgoing ρ) :
    total Connection.load (link.enqueue index outgoing).connections ≤
      total Connection.load link.connections + 1 := by
  cases hconnection : link.connections[index]? with
  | none =>
      have hlength := List.getElem?_eq_none_iff.mp hconnection
      simp [Link.enqueue, Link.modify, List.modify_eq_self hlength]
  | some connection =>
      have hmodify := total_modify Connection.load hconnection fun connection =>
        { connection with queue := connection.queue ++ [outgoing] }
      have hload : Connection.load { connection with queue := connection.queue ++ [outgoing] } =
          connection.load + 1 := by
        simp only [Connection.load, List.length_append, List.length_singleton]
        omega
      rw [hload] at hmodify
      simp only [Link.enqueue, Link.modify]
      omega

theorem load_accept (outbox : Outbox) (outgoing : Outgoing Nat) :
    (outbox.accept outgoing).2.load ≤ outbox.load + 1 ∧
      ((outbox.accept outgoing).1 = false → (outbox.accept outgoing).2.load = outbox.load) := by
  unfold accept
  cases outbox.link.writer with
  | none => simp
  | some connection =>
      have henqueue := load_enqueue outbox.link connection outgoing
      simp only [note, load, reduceCtorEq, false_implies, and_true]
      omega

theorem load_modifyRequest (outbox : Outbox) {index : Nat} {request : Request}
    (hrequest : outbox.requests[index]? = some request) (change : Request → Request) :
    (outbox.modifyRequest index change).load + request.retries =
      outbox.load + (change request).retries := by
  have hmodify := total_modify Request.retries hrequest change
  simp only [load, modifyRequest]
  omega

theorem load_attempt (outbox : Outbox) {index : Nat} {request : Request}
    (hrequest : outbox.requests[index]? = some request) {made : Made} {next : Outbox}
    (hattempt : outbox.attempt index request = (made, next)) :
    next.load ≤ outbox.load + 1 ∧ ∀ error, made = .failed error → next.load = outbox.load := by
  let built := outbox.modifyRequest index fun request =>
    { request with position := request.position + 1 }
  have hbuilt : built.load = outbox.load :=
    Nat.add_right_cancel (outbox.load_modifyRequest hrequest _)
  have haccept := built.load_accept ⟨request.packet, .request index⟩
  unfold attempt at hattempt
  split at hattempt
  · cases hattempt
    exact ⟨Nat.le_succ_of_le (Nat.le_of_eq hbuilt), nofun⟩
  · cases hattempt
    exact ⟨Nat.le_succ_of_le (Nat.le_of_eq hbuilt), fun _ _ => hbuilt⟩
  · simp only [] at hattempt
    split at hattempt
    · rename_i accepted hflag
      cases hattempt
      rw [hflag, hbuilt] at haccept
      exact ⟨haccept.1, nofun⟩
    · rename_i refused hflag
      cases hattempt
      rw [hflag, hbuilt] at haccept
      exact ⟨haccept.1, fun _ _ => haccept.2 rfl⟩

theorem load_fail (outbox : Outbox) (index : Nat) (error : SendError) {again : Bool}
    {failed : Outbox} (hfail : outbox.fail index error = (again, failed)) :
    failed.load + again.toNat = outbox.load := by
  unfold fail at hfail
  split at hfail
  · cases hfail
    rfl
  · rename_i request hrequest
    simp only [] at hfail
    generalize htold : (if request.reported = true then
      { outbox with failures := outbox.failures ++ [⟨request.name, error⟩] } else outbox) = told
      at hfail
    have hsame : told.requests = outbox.requests ∧ told.load = outbox.load := by
      rw [← htold]
      split <;> exact ⟨rfl, rfl⟩
    split at hfail
    · cases hfail
      simpa using hsame.2
    · rename_i hpositive
      cases hfail
      have hrequest' : (told.note (.told index error)).requests[index]? = some request :=
        hsame.1 ▸ hrequest
      have hmodify := load_modifyRequest _ hrequest' fun request =>
        { request with retries := request.retries - 1 }
      simp only [load_note, hsame.2, Bool.toNat_true] at hmodify ⊢
      omega

/-- A request that is sent leaves at most its packet to be written. -/
theorem load_sendWithin (fuel : Nat) (outbox : Outbox) (index : Nat) :
    (sendWithin fuel outbox index).2.load ≤ outbox.load + 1 := by
  induction fuel generalizing outbox with
  | zero => exact Nat.le_succ _
  | succ fuel induction =>
      unfold sendWithin
      split
      · exact Nat.le_succ _
      · rename_i request hrequest
        cases hattempt : outbox.attempt index request with
        | mk made next =>
          have hnext := outbox.load_attempt hrequest hattempt
          cases made with
          | ended => exact hnext.1
          | underway => exact hnext.1
          | failed error =>
              cases hfail : next.fail index error with
              | mk again failed =>
                have hfailed := next.load_fail index error hfail
                have hsame := hnext.2 error rfl
                cases again with
                | false =>
                    simp only [hfail, Bool.false_eq_true, if_false]
                    simp only [Bool.toNat_false] at hfailed
                    omega
                | true =>
                    have hrest := induction failed
                    simp only [hfail, if_true]
                    simp only [Bool.toNat_true] at hfailed
                    omega

theorem load_resolve (outbox : Outbox) (written : Link.Written Nat) :
    (outbox.resolve written).load ≤ outbox.load := by
  unfold resolve
  split
  · exact Nat.le_refl _
  · rename_i index _
    split
    · exact Nat.le_refl _
    · rename_i error _
      cases hfail : outbox.fail index error with
      | mk again failed =>
        have hfailed := outbox.load_fail index error hfail
        cases again with
        | false =>
            simp only [Bool.toNat_false] at hfailed
            simp only [Bool.false_eq_true, if_false]
            omega
        | true =>
            have hsent := load_sendWithin (failed.retriesOf index + 1) failed index
            simp only [Bool.toNat_true] at hfailed
            simp only [if_true, send]
            omega

theorem load_writeAt? {outbox after : Outbox} {index : Nat}
    (hafter : outbox.writeAt? index = some after) : after.load < outbox.load := by
  obtain ⟨⟨written, next⟩, hnext, rfl⟩ := Option.map_eq_some_iff.mp hafter
  have hresolve := (outbox.finish index written next).load_resolve written
  refine Nat.lt_of_le_of_lt hresolve ?_
  obtain ⟨connection, rest, hconnection, hqueue, -, rfl⟩ := Link.writeNext?_cases hnext
  have hmodify := total_modify Connection.load hconnection fun _ =>
    ({ connection with queue := rest }.write outbox.link.sessionId written.outgoing.packet).2
  have hload : connection.load = Connection.load { connection with queue := rest } + 1 := by
    simp only [Connection.load, hqueue, List.length_cons]
    omega
  rw [Connection.load_write, hload] at hmodify
  simp only [finish, note, load, Link.modify]
  omega

theorem load_closeAt {outbox : Outbox} {index : Nat}
    (hcan : outbox.link.canClose index = true) : (outbox.closeAt index).load < outbox.load := by
  simp only [closeAt, Link.close, hcan, if_true, load, Link.modify]
  unfold Link.canClose at hcan
  cases hconnection : outbox.link.connections[index]? with
  | none => simp [hconnection] at hcan
  | some connection =>
      have hmodify := total_modify Connection.load hconnection fun connection =>
        { connection with closed := true }
      have hopen : connection.closed = false := by
        simp only [hconnection, Bool.and_eq_true, Bool.not_eq_true'] at hcan
        exact hcan.1.1
      simp only [Connection.load, hopen, if_true, Bool.false_eq_true, if_false] at hmodify ⊢
      omega

/-- A command from outside, or a step of the writer of a connection. -/
inductive Move where
  | ask (command : Command)
  | write (connection : Nat)
  | close (connection : Nat)

def Move.command? : Move → Option Command
  | .ask command => some command
  | _ => none

def step (outbox : Outbox) : Move → Outbox
  | .ask command => outbox.ask command
  | .write connection => (outbox.writeAt? connection).getD outbox
  | .close connection => outbox.closeAt connection

def run (outbox : Outbox) (moves : List Move) : Outbox :=
  moves.foldl step outbox

/-- Whether a writer has this to do. -/
def Due (outbox : Outbox) : Move → Prop
  | .ask _ => False
  | .write connection => (outbox.writeAt? connection).isSome
  | .close connection => outbox.link.canClose connection = true

/-- Writers do nothing but what they have to. -/
def Works : Outbox → List Move → Prop
  | _, [] => True
  | outbox, move :: rest => outbox.Due move ∧ (outbox.step move).Works rest

def Quiet (outbox : Outbox) : Prop :=
  ∀ move, ¬ outbox.Due move

theorem load_step {outbox : Outbox} {move : Move} (hdue : outbox.Due move) :
    (outbox.step move).load < outbox.load := by
  cases move with
  | ask command => cases hdue
  | write connection =>
      obtain ⟨after, hafter⟩ := Option.isSome_iff_exists.mp hdue
      simp only [step, hafter, Option.getD_some]
      exact load_writeAt? hafter
  | close connection => exact load_closeAt hdue

theorem length_of_works {outbox : Outbox} {work : List Move} (h : outbox.Works work) :
    work.length ≤ outbox.load := by
  induction work generalizing outbox with
  | nil => exact Nat.zero_le _
  | cons move rest induction =>
      have hless := load_step h.1
      have hrest := induction h.2
      simp only [List.length_cons]
      omega

theorem exists_quiet (outbox : Outbox) :
    ∃ work, outbox.Works work ∧ (outbox.run work).Quiet := by
  induction hload : outbox.load using Nat.strongRecOn generalizing outbox with
  | ind load induction =>
      by_cases hdue : ∃ move, outbox.Due move
      · obtain ⟨move, hmove⟩ := hdue
        obtain ⟨work, hwork, hquiet⟩ :=
          induction _ (hload ▸ load_step hmove) (outbox.step move) rfl
        exact ⟨move :: work, ⟨hmove, hwork⟩, hquiet⟩
      · exact ⟨[], trivial, fun move hmove => hdue ⟨move, hmove⟩⟩

end Outbox

end Messenger
