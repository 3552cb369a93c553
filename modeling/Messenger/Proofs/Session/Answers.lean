import Mathlib.Data.List.Nodup
import Messenger.Proofs.Session.Lifecycle

/-!
The answers of calls. A call is answered once at most, and not while it still runs.
-/

namespace Messenger

namespace Standing

/-- Every answer is that of a call that has begun, and runs no more. -/
structure Answering (standing : Standing) : Prop where
  begun : ∀ entry ∈ standing.results, entry.number < standing.callCount
  running : ∀ entry ∈ standing.results, ∀ call ∈ standing.calls, call.number ≠ entry.number
  once : (standing.results.map CallResult.number).Nodup

/-- A number that belongs to a call without an answer yet. -/
structure Open (standing : Standing) (number : Nat) : Prop where
  begun : number < standing.callCount
  unanswered : ∀ entry ∈ standing.results, number ≠ entry.number

@[simp] theorem results_finish (standing : Standing) (number : Nat)
    (result : Except SessionError Unit) :
    (standing.finish number result).results = standing.results ++ [⟨number, result⟩] := by
  unfold finish
  dsimp only
  split <;> rfl

@[simp] theorem state_finish (standing : Standing) (number : Nat)
    (result : Except SessionError Unit) :
    (standing.finish number result).state = standing.state := by
  unfold finish
  dsimp only
  split <;> rfl

@[simp] theorem failure_finish (standing : Standing) (number : Nat)
    (result : Except SessionError Unit) :
    (standing.finish number result).failure = standing.failure := by
  unfold finish
  dsimp only
  split <;> rfl

namespace Answering

variable {standing : Standing}

theorem finish (h : standing.Answering) {number : Nat} (hnumber : standing.Open number)
    (result : Except SessionError Unit) :
    (standing.finish number result).Answering where
  begun entry hmem := by
    rw [results_finish] at hmem
    rw [callCount_finish]
    rcases List.mem_append.mp hmem with hearlier | hown
    · exact h.begun entry hearlier
    · rw [List.mem_singleton.mp hown]
      exact hnumber.begun
  running entry hmem call hcall := by
    rw [results_finish] at hmem
    rw [calls_finish] at hcall
    rcases List.mem_append.mp hmem with hearlier | hown
    · exact h.running entry hearlier call (standing.otherCalls_subset number call hcall)
    · rw [List.mem_singleton.mp hown]
      simpa using (List.mem_filter.mp hcall).2
  once := by
    rw [results_finish, List.map_append]
    refine List.nodup_append.mpr ⟨h.once, List.nodup_singleton _, ?_⟩
    intro earlier hearlier own hown
    obtain ⟨entry, hmem, rfl⟩ := List.mem_map.mp hearlier
    rw [List.mem_singleton.mp hown]
    exact (hnumber.unanswered entry hmem).symm

theorem await (h : standing.Answering) {number : Nat} (hnumber : standing.Open number)
    (phase : Phase) :
    (standing.await number phase).Answering :=
  { h with
    running := fun entry hmem call hcall => by
      rcases List.mem_append.mp hcall with hother | hown
      · exact h.running entry hmem call (standing.otherCalls_subset number call hother)
      · rw [List.mem_singleton.mp hown]
        exact hnumber.unanswered entry hmem }

theorem beginCall (h : standing.Answering) :
    standing.beginCall.Answering ∧ standing.beginCall.Open standing.callCount :=
  ⟨{ h with begun := fun entry hmem => Nat.lt_succ_of_lt (h.begun entry hmem) },
    Nat.lt_succ_self _, fun entry hmem => (Nat.ne_of_lt (h.begun entry hmem)).symm⟩

theorem open_of_mem (h : standing.Answering) (hnumbered : standing.Numbered) {call : Call}
    (hcall : call ∈ standing.calls) :
    standing.Open call.number :=
  ⟨hnumbered call hcall, fun entry hmem => h.running entry hmem call hcall⟩

theorem abandonLogin (h : standing.Answering) {number : Nat} (hnumber : standing.Open number)
    (error : SessionError) :
    (standing.abandonLogin number error).Answering := by
  refine finish ?_ ?_ _
  · exact { h with }
  · exact { hnumber with }

theorem failLogin (h : standing.Answering) {number : Nat} (hnumber : standing.Open number)
    (error : SessionError) :
    (standing.failLogin number error).Answering := by
  refine abandonLogin ?_ ?_ error
  · exact { h with }
  · exact { hnumber with }

end Answering

end Standing

namespace Session

section

variable {session : Session} (h : session.standing.Answering) {number : Nat}
  (hnumber : session.standing.Open number)
include h hnumber

theorem answering_awaitHandshake (deadline : Nat) :
    (session.awaitHandshake number deadline).standing.Answering := by
  unfold awaitHandshake
  split
  · split
    · rw [standing_finish]
      refine .finish ?_ ?_ _
      · exact { h with }
      · exact { hnumber with }
    · rw [standing_abandonLogin]
      exact h.abandonLogin hnumber _
  · split
    · rw [standing_failLogin]
      exact h.failLogin hnumber _
    · rw [standing_await]
      exact h.await hnumber _

theorem answering_connect (username : String) (outcome : ConnectOutcome) :
    (session.connect number username outcome).standing.Answering := by
  cases outcome with
  | opened writeFault =>
      dsimp only [connect]
      rw [standing_openChannel]
      have hattached : session.standing.attach.Answering := { h with }
      exact hattached.await { hnumber with } _
  | refused text =>
      dsimp only [connect]
      rw [standing_failLogin]
      exact h.failLogin hnumber _
  | pending =>
      dsimp only [connect]
      rw [standing_await]
      exact h.await hnumber _

end

section

variable {session : Session} (h : session.standing.Answering)
include h

theorem answering_login (username password : String) :
    (session.login username password).standing.Answering := by
  obtain ⟨hbegun, hnumber⟩ := h.beginCall
  unfold login
  dsimp only
  split
  · rw [standing_finish]
    exact hbegun.finish hnumber _
  · split
    · rw [standing_finish, standing_fail]
      refine .finish ?_ ?_ _
      · exact { hbegun with }
      · exact { hnumber with }
    · refine answering_connect ?_ ?_ _ _
      · exact { hbegun with }
      · exact { hnumber with }

theorem answering_logout : session.logout.standing.Answering := by
  obtain ⟨hbegun, hnumber⟩ := h.beginCall
  unfold logout
  dsimp only
  split
  · rw [standing_finish]
    exact hbegun.finish hnumber _
  · rw [standing_await, standing_submit, standing_enter]
    refine .await ?_ ?_ _
    · exact { hbegun with }
    · exact { hnumber with }

theorem answering_reset : session.reset.standing.Answering := by
  obtain ⟨hbegun, hnumber⟩ := h.beginCall
  unfold reset
  dsimp only
  split
  · rw [standing_finish]
    refine .finish ?_ ?_ _
    · exact { hbegun with }
    · exact { hnumber with }
  · rw [standing_finish]
    exact hbegun.finish hnumber _

theorem answering_drop : session.drop.standing.Answering := by
  rw [standing_drop]
  dsimp only
  split <;> exact { h with }

variable (hnumbered : session.standing.Numbered)
include hnumbered

theorem answering_resume (number : Nat) : (session.resume number).standing.Answering := by
  unfold resume
  split
  · rename_i call hcall
    have hnumber := h.open_of_mem hnumbered (callNumbered?_mem hcall).1
    split
    · unfold goOn
      split
      · exact h
      · split
        · exact h
        · exact answering_awaitHandshake h hnumber _
        · rw [standing_failLogin]
          exact h.failLogin hnumber _
      · exact answering_awaitHandshake h hnumber _
      · split
        · exact h
        · rw [standing_finish, standing_teardown]
          refine .finish ?_ ?_ _
          · exact { h with }
          · exact { hnumber with }
    · exact h
  · exact h

theorem answering_resolveConnect (number : Nat) (outcome : ConnectOutcome) :
    (session.resolveConnect number outcome).standing.Answering := by
  unfold resolveConnect
  split
  · rename_i called username hcall
    obtain ⟨hmem, rfl⟩ := callNumbered?_mem hcall
    exact answering_connect h (h.open_of_mem hnumbered hmem) username outcome
  · exact h

end

theorem Reacted.results_eq {before after : Session} {reaction : Reaction} {packet : Packet}
    {result : Except HandlerError Unit} (h : Reacted before reaction packet (after, result)) :
    after.results = before.results := by
  cases h with
  | aside hafter hchallenge => exact congrArg Standing.results hafter.standing
  | welcomed hreaction htold hstate => exact congrArg Standing.results htold.standing
  | answered hreaction hstate hvalue hresponse => rfl
  | refused hfault => rfl
  | evicted hreaction hstate hbody => rfl

theorem Handled.results_eq {before after : Session} {connection : Nat} {packet : Packet}
    (h : Handled before connection packet after) :
    after.results = before.results := by
  cases h with
  | unrouted hroute hstanding hschedule hjournal => exact congrArg Standing.results hstanding
  | reacted hroute hstanding hschedule hjournal hreacted =>
      exact hreacted.results_eq.trans (congrArg Standing.results hstanding)

theorem ReadStep.results_eq {before after : Session} {index : Nat}
    (h : ReadStep before index after) :
    after.results = before.results := by
  cases h with
  | packet hhandled => exact hhandled.results_eq
  | malformed hstate => rfl
  | passedOver hstate => rfl
  | cutOff hstate => rfl
  | lost hstate htold => exact congrArg Standing.results htold.standing
  | ended hstate => rfl

theorem answering_read? {session next : Session} {index : Nat} (h : session.standing.Answering)
    (hread : session.read? index = some next) :
    next.standing.Answering := by
  refine read?_induction (motive := fun session => session.standing.Answering) ?_ ?_ h hread
  · intro before after hbefore hnext
    have hstep := (readNext?_step hnext).2
    obtain ⟨hcalls, hcount, -⟩ := hstep.calls_eq
    have hresults := hstep.results_eq
    constructor
    · show ∀ entry ∈ after.results, entry.number < after.callCount
      rw [hresults, hcount]
      exact hbefore.begun
    · show ∀ entry ∈ after.results, ∀ call ∈ after.calls, call.number ≠ entry.number
      rw [hresults, hcalls]
      exact hbefore.running
    · show (after.results.map CallResult.number).Nodup
      rw [hresults]
      exact hbefore.once
  · intro before hbefore
    exact { hbefore with }

theorem Stepped.answering {before after : Session} {move : Move} (h : Stepped before move after)
    (hnumbered : before.standing.Numbered) (hbefore : before.standing.Answering) :
    after.standing.Answering := by
  cases h with
  | carried hcarried =>
      rw [hcarried.standing]
      exact hbefore
  | login username password hheld => exact answering_login hbefore username password
  | resolveConnect call outcome => exact answering_resolveConnect hbefore hnumbered call outcome
  | logout hheld => exact answering_logout hbefore
  | reset hheld => exact answering_reset hbefore
  | drop => exact answering_drop hbefore
  | read hread => exact answering_read? hbefore hread
  | resume call => exact answering_resume hbefore hnumbered call
  | attachStore policy => exact { hbefore with }

theorem answering_run {session : Session} (hnumbered : session.standing.Numbered)
    (h : session.standing.Answering) (moves : List Move) :
    (session.run moves).standing.Answering := by
  refine (run_keeps (motive := fun session => session.standing.Numbered ∧
    session.standing.Answering) (fun between move hbetween => ?_) ⟨hnumbered, h⟩ moves).2
  obtain ⟨hnumbered, h⟩ := hbetween
  have hstep := step_stepped between move
  exact ⟨hstep.numbered hnumbered, hstep.answering hnumbered h⟩

theorem answering_build (config : SessionConfig) (listeners : List String)
    (outcomes : List ConnectOutcome) :
    (build config listeners outcomes).standing.Answering where
  begun _ hmem := nomatch hmem
  running _ hmem := nomatch hmem
  once := .nil

/-- The answer of a call is the only one there is with its number. -/
theorem resultOf?_of_mem {session : Session} (h : session.standing.Answering) {entry : CallResult}
    (hmem : entry ∈ session.results) :
    session.resultOf? entry.number = some entry.result := by
  unfold resultOf?
  cases hfound : session.results.find? (·.number == entry.number) with
  | none =>
      have hnone := List.find?_eq_none.mp hfound entry hmem
      simp at hnone
  | some found =>
      have hsame : found.number = entry.number := by simpa using List.find?_some hfound
      have heq := List.inj_on_of_nodup_map h.once (List.mem_of_find?_eq_some hfound) hmem hsame
      rw [heq]
      rfl

end Session

end Messenger
