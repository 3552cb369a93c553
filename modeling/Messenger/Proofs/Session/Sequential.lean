import Messenger.Proofs.Session.Order

/-!
Runs in which no call is made before the last one has returned: they stay in order, and between two
moves no reader is half way through its work.
-/

namespace Messenger

namespace Standing.Orderly

variable {standing : Standing}

/-- A login goes on to a further state, or ends. -/
theorem leaveLogin (h : Orderly standing) (hstate : standing.state.isLoggingIn = true)
    (state : SessionState) (failure : Option SessionError) :
    Orderly { standing with state, failure } := by
  refine { h with stopping := ?_, settled := ?_, leaving := ?_ }
  · intro index hfound
    rcases h.stopping index hfound with hunstarted | hfailed
    · rw [hunstarted] at hstate
      cases hstate
    · rw [hfailed] at hstate
      cases hstate
  · intro hcalls
    have hover := (h.settled hcalls).1
    rw [hstate] at hover
    cases hover
  · intro call hmem ticket hphase
    have hunstarted := h.leaving call hmem ticket hphase
    rw [hunstarted] at hstate
    cases hstate

theorem leaveLoggedOn (h : Orderly standing) (hstate : standing.state = .loggedOn)
    {state : SessionState} (hends : state = .unstarted ∨ state = .failed)
    (failure : Option SessionError) :
    Orderly { standing with state, failure : Standing }.teardown where
  wired := h.wired
  buffered := h.buffered
  recurring _ hmem := nomatch hmem
  running index hfound := by
    refine absurd hfound (not_running_stopReader ?_ index)
    exact fun other hother => (h.running other hother).1
  stopping _ _ := hends
  alone := h.alone
  settled _ := by
    refine ⟨?_, fun _ => ⟨rfl, rfl⟩⟩
    show state.isLoggingIn = false
    rcases hends with rfl | rfl <;> rfl
  leaving call hmem ticket hphase := by
    have hunstarted := h.leaving call hmem ticket hphase
    rw [hstate] at hunstarted
    cases hunstarted
  connecting call hmem username hphase := ⟨(h.connecting call hmem username hphase).1, rfl⟩

theorem stopReading (h : Orderly standing) (index : Nat) :
    Orderly { standing with readers := standing.readers.set index .stopped } :=
  { h with
    running := fun other hfound =>
      h.running other (readers_set_ne (by decide) hfound).2
    stopping := fun other hfound =>
      h.stopping other (readers_set_ne (by decide) hfound).2 }

end Standing.Orderly

namespace Session

open Standing (Orderly AtRest Clear)

theorem Reacted.orderly {before after : Session} {reaction : Reaction} {packet : Packet}
    {result : Except HandlerError Unit} (h : Reacted before reaction packet (after, result))
    (hbefore : Orderly before.standing) :
    Orderly after.standing := by
  cases h with
  | aside hafter hchallenge =>
      rw [hafter.standing]
      exact hbefore
  | answered hreaction hstate hvalue hresponse =>
      rw [standing_execute, standing_enter]
      refine hbefore.leaveLogin ?_ .connected before.failure
      show before.state.isLoggingIn = true
      rw [hstate]
      rfl
  | refused hfault =>
      rw [standing_fail]
      exact hbefore.leaveLogin hfault.isLoggingIn .failed _
  | welcomed hreaction htold hstate =>
      rw [standing_report, standing_enter, htold.standing]
      refine hbefore.leaveLogin ?_ .loggedOn before.failure
      show before.state.isLoggingIn = true
      rw [hstate]
      rfl
  | evicted hreaction hstate hbody =>
      rw [standing_teardown, standing_report, standing_enter]
      exact hbefore.leaveLoggedOn hstate (.inl rfl) before.failure

theorem Handled.orderly {before after : Session} {connection : Nat} {packet : Packet}
    (h : Handled before connection packet after) (hbefore : Orderly before.standing) :
    Orderly after.standing := by
  cases h with
  | unrouted hroute hstanding hschedule hjournal =>
      rw [standing_note, hstanding]
      exact hbefore
  | reacted hroute hstanding hschedule hjournal hreacted =>
      apply hreacted.orderly
      rw [hstanding]
      exact hbefore

theorem orderly_startReading {session : Session} (h : Orderly session.standing) (index : Nat)
    (rest : Text.Bytes) :
    Orderly (session.startReading index rest).standing := by
  rw [standing_startReading]
  exact { h with }

theorem ReadStep.orderly {before after : Session} {index : Nat}
    (h : ReadStep before index after) (hbefore : Orderly before.standing) :
    Orderly after.standing := by
  cases h with
  | @packet rest packet after hhandled =>
      exact { hhandled.orderly (orderly_startReading hbefore index rest) with }
  | @malformed rest error hstate =>
      have htaken := orderly_startReading hbefore index rest
      have hstopped : Orderly
          (((before.startReading index rest).fail error).stopReading index).standing := by
        rw [standing_stopReading, standing_fail]
        exact (htaken.leaveLogin hstate .failed _).stopReading index
      exact { hstopped with }
  | @passedOver rest hstate => exact { orderly_startReading hbefore index rest with }
  | @cutOff error hstate =>
      rw [standing_stopReading]
      have hfailed := hbefore.leaveLogin hstate .failed (some error)
      refine Orderly.stopReading ?_ index
      exact { hfailed with }
  | @lost told finish hstate htold =>
      rw [standing_stopReading]
      refine Orderly.stopReading ?_ index
      have hlost : Orderly (told.fail (.transport finish.error.message)).teardown.standing := by
        rw [standing_teardown, standing_fail, htold.standing]
        refine Orderly.leaveLoggedOn ?_ hstate (.inr rfl) _
        exact { hbefore with }
      exact { hlost with }
  | ended hstate =>
      rw [standing_stopReading]
      refine Orderly.stopReading ?_ index
      exact { hbefore with }

/-- No reader is set going by the end of a session; only the one at work is left to finish what it
has begun. -/
theorem going_stopReader {standing : Standing} {index : Nat} {reader : Reader}
    (hgoing : reader ≠ .stopped) (hfound : standing.stopReader.readers[index]? = some reader) :
    standing.readers[index]? = some reader ∨ standing.working = some index := by
  unfold Standing.stopReader at hfound
  cases hreader : standing.reader with
  | none =>
      simp only [hreader] at hfound
      exact .inl hfound
  | some own =>
      simp only [hreader] at hfound
      by_cases hworking : standing.working = some own
      · rw [if_pos hworking] at hfound
        by_cases hown : own = index
        · exact .inr (hown ▸ hworking)
        · rw [List.getElem?_set_ne hown] at hfound
          exact .inl hfound
      · rw [if_neg hworking] at hfound
        exact .inl (Standing.readers_set_ne (Ne.symm hgoing) hfound).2

theorem Reacted.going {before after : Session} {reaction : Reaction} {packet : Packet}
    {result : Except HandlerError Unit} (h : Reacted before reaction packet (after, result))
    {index : Nat} {reader : Reader} (hgoing : reader ≠ .stopped)
    (hfound : after.standing.readers[index]? = some reader) :
    before.standing.readers[index]? = some reader ∨ before.working = some index := by
  cases h with
  | aside hafter hchallenge =>
      rw [hafter.standing] at hfound
      exact .inl hfound
  | answered hreaction hstate hvalue hresponse =>
      rw [standing_execute, standing_enter] at hfound
      exact .inl hfound
  | refused hfault =>
      rw [standing_fail] at hfound
      exact .inl hfound
  | welcomed hreaction htold hstate =>
      rw [standing_report, standing_enter, htold.standing] at hfound
      exact .inl hfound
  | evicted hreaction hstate hbody =>
      rw [standing_teardown, standing_report, standing_enter] at hfound
      exact going_stopReader hgoing hfound

theorem Handled.going {before after : Session} {connection : Nat} {packet : Packet}
    (h : Handled before connection packet after) {index : Nat} {reader : Reader}
    (hgoing : reader ≠ .stopped) (hfound : after.standing.readers[index]? = some reader) :
    before.standing.readers[index]? = some reader ∨ before.working = some index := by
  cases h with
  | unrouted hroute hstanding hschedule hjournal =>
      rw [standing_note, hstanding] at hfound
      exact .inl hfound
  | reacted hroute hstanding hschedule hjournal hreacted =>
      have hreads := hreacted.going hgoing hfound
      rw [hstanding] at hreads
      have hworking := congrArg Standing.working hstanding
      rcases hreads with hold | hown
      · exact .inl hold
      · exact .inr (hworking.symm.trans hown)

theorem Reacted.state_of_ended {before after : Session} {reaction : Reaction} {packet : Packet}
    {result : Except HandlerError Unit} (h : Reacted before reaction packet (after, result))
    (hended : before.state = .unstarted ∨ before.state = .failed) :
    after.state = before.state := by
  cases h with
  | aside hafter hchallenge => exact hafter.state_eq
  | answered hreaction hstate hvalue hresponse => simp [hstate] at hended
  | refused hfault =>
      have hstate := hfault.isLoggingIn
      rcases hended with hcase | hcase <;> simp [hcase, SessionState.isLoggingIn] at hstate
  | welcomed hreaction htold hstate => simp [hstate] at hended
  | evicted hreaction hstate hbody => simp [hstate] at hended

theorem Handled.state_of_ended {before after : Session} {connection : Nat} {packet : Packet}
    (h : Handled before connection packet after)
    (hended : before.state = .unstarted ∨ before.state = .failed) :
    after.state = before.state := by
  cases h with
  | unrouted hroute hstanding hschedule hjournal => exact congrArg Standing.state hstanding
  | @reacted routed _ _ _ _ hroute hstanding hschedule hjournal hreacted =>
      have hstate : routed.state = before.state := congrArg Standing.state hstanding
      exact (hreacted.state_of_ended (hstate ▸ hended)).trans hstate

theorem ReadStep.going {before after : Session} {index : Nat}
    (h : ReadStep before index after) {other : Nat} {reader : Reader}
    (hgoing : reader ≠ .stopped) (hfound : after.standing.readers[other]? = some reader) :
    before.standing.readers[other]? = some reader ∨ other = index := by
  cases h with
  | @packet rest packet after hhandled =>
      rcases hhandled.going hgoing hfound with hold | hown
      · rw [standing_startReading] at hold
        exact .inl hold
      · exact .inr (Option.some.inj hown).symm
  | @malformed rest error hstate =>
      have hset : (((before.startReading index rest).fail error).stopReading
          index).standing.readers[other]? = some reader := hfound
      rw [standing_stopReading, standing_fail, standing_startReading] at hset
      exact .inl (Standing.readers_set_ne (Ne.symm hgoing) hset).2
  | @passedOver rest hstate =>
      have hold : (before.startReading index rest).standing.readers[other]? =
          some reader := hfound
      rw [standing_startReading] at hold
      exact .inl hold
  | cutOff hstate =>
      rw [standing_stopReading] at hfound
      exact .inl (Standing.readers_set_ne (Ne.symm hgoing) hfound).2
  | @lost told finish hstate htold =>
      rw [standing_stopReading] at hfound
      have hset : (told.fail (.transport finish.error.message)).teardown.standing.readers[other]? =
          some reader :=
        (Standing.readers_set_ne (Ne.symm hgoing) hfound).2
      rw [standing_teardown, standing_fail, htold.standing] at hset
      rcases going_stopReader hgoing hset with hold | hown
      · exact .inl hold
      · exact .inr (Option.some.inj hown).symm
  | ended hstate =>
      rw [standing_stopReading] at hfound
      exact .inl (Standing.readers_set_ne (Ne.symm hgoing) hfound).2

/-- A session that has ended is not moved by what is still read. -/
theorem ReadStep.state_of_ended {before after : Session} {index : Nat}
    (h : ReadStep before index after)
    (hended : before.state = .unstarted ∨ before.state = .failed) :
    after.state = before.state := by
  have hover : before.state.isLoggingIn = false := by
    rcases hended with hstate | hstate <;> rw [hstate] <;> rfl
  cases h with
  | packet hhandled => exact hhandled.state_of_ended hended
  | malformed hstate =>
      rw [hover] at hstate
      cases hstate
  | passedOver hstate => rfl
  | cutOff hstate =>
      rw [hover] at hstate
      cases hstate
  | lost hstate htold => simp [hstate] at hended
  | ended hstate => rfl

theorem ReadStep.idle {before after : Session} {index : Nat} (h : ReadStep before index after) :
    after.working = none := by
  cases h <;> rfl

theorem isStopping_stopReading (session : Session) (index : Nat) :
    (session.stopReading index).isStopping index = false := by
  unfold isStopping stopReading Link.modify
  cases hconnection : session.link.connections[index]? <;> simp [hconnection]

theorem isStopping_readOut (fuel : Nat) (session : Session) (index : Nat) :
    (readOut fuel session index).isStopping index = false := by
  induction fuel generalizing session with
  | zero => exact isStopping_stopReading session index
  | succ fuel induction =>
      unfold readOut
      split
      · split
        · exact induction _
        · exact isStopping_stopReading session index
      · rename_i hgoing
        simpa using hgoing

theorem isStopping_read? {session next : Session} {index : Nat}
    (hread : session.read? index = some next) :
    next.isStopping index = false := by
  obtain ⟨first, -, rfl⟩ := Option.map_eq_some_iff.mp hread
  split
  · exact isStopping_readOut _ _ index
  · rename_i hgoing
    simpa using hgoing

theorem isStopping_iff (session : Session) (index : Nat) :
    session.isStopping index = true ↔ session.standing.readers[index]? = some .stopping := by
  have hreaders : session.standing.readers[index]? =
      session.link.connections[index]?.map Connection.reader :=
    session.link.getElem?_readers index
  rw [hreaders]
  unfold isStopping
  cases session.link.connections[index]? <;> simp

/-- When a reader has had its turn, none is at work or has stopped half way. -/
theorem stayed_read? {session next : Session} {index : Nat} (hidle : session.working = none)
    (hstayed : ∀ other : Nat, session.standing.readers[other]? ≠ some .stopping)
    (hread : session.read? index = some next) :
    next.working = none ∧ ∀ other : Nat, next.standing.readers[other]? ≠ some .stopping := by
  have hown : next.working = none ∧
      ∀ other : Nat, next.standing.readers[other]? = some .stopping → other = index := by
    refine read?_induction (motive := fun session => session.working = none ∧
      ∀ other : Nat, session.standing.readers[other]? = some .stopping → other = index)
      ?_ ?_ ⟨hidle, fun other hfound => absurd hfound (hstayed other)⟩ hread
    · rintro before after ⟨-, hstopping⟩ hnext
      have hstep := (readNext?_step hnext).2
      refine ⟨hstep.idle, fun other hfound => ?_⟩
      rcases hstep.going (by decide) hfound with hold | hown
      · exact hstopping other hold
      · exact hown
    · rintro before ⟨hidle, hstopping⟩
      refine ⟨hidle, fun other hfound => ?_⟩
      rw [standing_stopReading] at hfound
      exact hstopping other (Standing.readers_set_ne (by decide) hfound).2
  refine ⟨hown.1, fun other hfound => ?_⟩
  have hindex := hown.2 other hfound
  subst hindex
  have hread := isStopping_read? hread
  rw [(isStopping_iff next other).mpr hfound] at hread
  cases hread

theorem atRest_read? {session next : Session} {index : Nat} (h : AtRest session.standing)
    (hread : session.read? index = some next) :
    AtRest next.standing := by
  have hkept : Orderly next.standing := by
    refine read?_induction (motive := fun session => Orderly session.standing)
      ?_ ?_ h.toOrderly hread
    · exact fun before after horderly hnext => (readNext?_step hnext).2.orderly horderly
    · intro before horderly
      rw [standing_stopReading]
      exact horderly.stopReading index
  obtain ⟨hidle, hstayed⟩ := stayed_read? h.idle h.stayed hread
  exact { hkept with idle := hidle, stayed := hstayed }

def Move.isCall : Move → Bool
  | .login .. | .logout | .reset => true
  | _ => false

/-- No call is made while another one runs. -/
def Sequential (session : Session) : List Move → Prop
  | [] => True
  | move :: rest =>
      (move.isCall = true → session.calls = []) ∧ Sequential (session.step move) rest

instance decidableSequential :
    (session : Session) → (moves : List Move) → Decidable (Sequential session moves)
  | _, [] => isTrue trivial
  | session, move :: rest =>
      have := decidableSequential (session.step move) rest
      inferInstanceAs (Decidable ((move.isCall = true → session.calls = []) ∧ _))

theorem sequential_append {session : Session} {early late : List Move} :
    Sequential session (early ++ late) ↔
      Sequential session early ∧ Sequential (session.run early) late := by
  induction early generalizing session with
  | nil => simp [Sequential, run]
  | cons move rest induction =>
      simp only [List.cons_append, Sequential, induction, and_assoc]
      rfl

theorem Stepped.atRest {before after : Session} {move : Move} (h : Stepped before move after)
    (hbefore : AtRest before.standing) (hcalls : move.isCall = true → before.calls = []) :
    AtRest after.standing := by
  cases h with
  | carried hcarried =>
      rw [hcarried.standing]
      exact hbefore
  | login username password hheld => exact atRest_login hbefore (hcalls rfl) username password
  | resolveConnect call outcome => exact atRest_resolveConnect hbefore call outcome
  | logout hheld => exact atRest_logout hbefore (hcalls rfl)
  | reset hheld => exact atRest_reset hbefore (hcalls rfl)
  | drop => exact atRest_drop hbefore
  | read hread => exact atRest_read? hbefore hread
  | resume call => exact atRest_resume hbefore call
  | attachStore policy => exact { hbefore with wired := wired_attachStore hbefore.wired policy }

/-- What no move takes from a session in order, no run takes in which no call is made while another
one runs. -/
theorem Sequential.keeps {motive : Session → Prop}
    (hstep : ∀ (session : Session) (move : Move), AtRest session.standing →
      (move.isCall = true → session.calls = []) → motive session → motive (session.step move))
    {session : Session} (hrest : AtRest session.standing) (h : motive session) {moves : List Move}
    (hsequential : Sequential session moves) :
    AtRest (session.run moves).standing ∧ motive (session.run moves) := by
  unfold run
  induction moves generalizing session with
  | nil => exact ⟨hrest, h⟩
  | cons move rest induction =>
      obtain ⟨hcalls, hlater⟩ := hsequential
      exact induction ((step_stepped session move).atRest hrest hcalls)
        (hstep session move hrest hcalls h) hlater

theorem atRest_run {session : Session} (h : AtRest session.standing) {moves : List Move}
    (hsequential : Sequential session moves) :
    AtRest (session.run moves).standing :=
  (hsequential.keeps (motive := fun _ => True) (fun _ _ _ _ => id) h trivial).1

theorem atRest_build (config : SessionConfig) (listeners : List String)
    (outcomes : List ConnectOutcome) :
    AtRest (build config listeners outcomes).standing := by
  refine Clear.atRest_of_no_calls ?_ rfl rfl fun _ => ⟨rfl, rfl⟩
  refine ⟨wired_build config listeners outcomes, rfl, ?_, ?_, rfl, ?_⟩
  · exact fun _ hmem => nomatch hmem
  · exact fun _ hfound => nomatch hfound
  · exact fun _ hfound => nomatch hfound

end Session

end Messenger
