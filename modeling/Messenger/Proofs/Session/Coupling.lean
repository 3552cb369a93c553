import Messenger.Proofs.Session.Holdings
import Messenger.Proofs.Session.Sequential

/-!
Readers and writers go together: whatever calls are made, and however they overlap, a reader that
runs is the session's own, and its connection is the one that takes packets.
-/

namespace Messenger

namespace Standing

/-- What holds at any time between two frames. -/
structure Coupled (standing : Standing) : Prop where
  running : ∀ index : Nat, standing.readers[index]? = some .running →
    standing.reader = some index ∧ standing.writer = some index
  /-- A reader that stops by its own doing has ended the session. -/
  stopping : ∀ index : Nat, standing.readers[index]? = some .stopping →
    standing.state = .unstarted ∨ standing.state = .failed
  manned : ∀ index : Nat, standing.writer = some index → index < standing.readers.length

/-- What holds besides between two moves, whatever state the session is in. -/
structure Joined (standing : Standing) : Prop where
  running : ∀ index : Nat, standing.readers[index]? = some .running →
    standing.reader = some index ∧ standing.writer = some index
  manned : ∀ index : Nat, standing.writer = some index → index < standing.readers.length
  idle : standing.working = none
  stayed : ∀ index : Nat, standing.readers[index]? ≠ some .stopping

/-- A session that stops its reader leaves those of others. -/
theorem running_stopReader {standing : Standing} {index : Nat}
    (hfound : standing.stopReader.readers[index]? = some .running) :
    standing.readers[index]? = some .running ∧ standing.reader ≠ some index := by
  unfold stopReader at hfound
  cases hreader : standing.reader with
  | none =>
      simp only [hreader] at hfound
      exact ⟨hfound, nofun⟩
  | some own =>
      simp only [hreader] at hfound
      have hstopped : (if standing.working = some own then Reader.stopping else .stopped) ≠
          .running := by
        split <;> decide
      obtain ⟨hne, hold⟩ := readers_set_ne hstopped hfound
      exact ⟨hold, fun hown => hne (Option.some.inj hown)⟩

namespace Coupled

variable {standing : Standing}

/-- A login goes on to a further state, or ends. -/
theorem leaveLogin (h : Coupled standing) (hlogin : standing.state.isLoggingIn = true)
    (state : SessionState) (failure : Option SessionError) :
    Coupled { standing with state, failure } :=
  { h with
    stopping := fun index hfound => by
      rcases h.stopping index hfound with hended | hended <;>
        · rw [hended] at hlogin
          cases hlogin }

theorem leaveLoggedOn (h : Coupled standing) {state : SessionState}
    (hends : state = .unstarted ∨ state = .failed) (failure : Option SessionError) :
    Coupled { standing with state, failure : Standing }.teardown where
  running index hfound := by
    obtain ⟨hread, hother⟩ := running_stopReader hfound
    exact absurd (h.running index hread).1 hother
  stopping _ _ := hends
  manned _ hwriter := nomatch hwriter

theorem stopReading (h : Coupled standing) (index : Nat) :
    Coupled { standing with readers := standing.readers.set index .stopped } where
  running other hfound := h.running other (readers_set_ne (by decide) hfound).2
  stopping other hfound := h.stopping other (readers_set_ne (by decide) hfound).2
  manned other hwriter := by
    rw [List.length_set]
    exact h.manned other hwriter

end Coupled

namespace Joined

variable {standing : Standing}

theorem coupled (h : Joined standing) : Coupled standing :=
  ⟨h.running, fun index hfound => absurd hfound (h.stayed index), h.manned⟩

/-- The session's own reader is stopped, and its connection may go on taking packets. -/
theorem release (h : Joined standing) : Joined standing.release where
  running index hfound := by
    obtain ⟨hread, hother⟩ := running_stopReader hfound
    exact absurd (h.running index hread).1 hother
  manned index hwriter := by
    rw [Standing.release, Session.length_stopReader]
    exact h.manned index hwriter
  idle := h.idle
  stayed index := stayed_stopReader h.idle h.stayed index

theorem teardown (h : Joined standing) : Joined standing.teardown where
  running index hfound := by
    obtain ⟨hread, hother⟩ := running_stopReader hfound
    exact absurd (h.running index hread).1 hother
  manned _ hwriter := nomatch hwriter
  idle := h.idle
  stayed index := stayed_stopReader h.idle h.stayed index

theorem finish (h : Joined standing) (number : Nat) (result : Except SessionError Unit) :
    Joined (standing.finish number result) := by
  have hended : Joined { standing with
      calls := standing.otherCalls number
      results := standing.results ++ [⟨number, result⟩] } := { h with }
  unfold Standing.finish
  dsimp only
  split
  · exact hended
  · exact hended.release

theorem await (h : Joined standing) (number : Nat) (phase : Phase) :
    Joined (standing.await number phase) :=
  { h with }

theorem abandonLogin (h : Joined standing) (number : Nat) (error : SessionError) :
    Joined (standing.abandonLogin number error) := by
  have hforgot : Joined { standing with password := none } := { h with }
  exact hforgot.teardown.finish number _

theorem failLogin (h : Joined standing) (number : Nat) (error : SessionError) :
    Joined (standing.failLogin number error) := by
  have hfailed : Joined { standing with state := .failed, failure := some error } := { h with }
  exact hfailed.abandonLogin number error

/-- A new connection takes the place of the one before, which is not read any more. -/
theorem attach (h : Joined standing) : Joined standing.attach where
  running index hfound := by
    obtain ⟨hread, hother⟩ := running_stopReader hfound
    have hnew : standing.readers.length = index := by
      rcases Nat.lt_or_ge index standing.readers.length with hlt | hge
      · rw [List.getElem?_append_left hlt] at hread
        exact absurd (h.running index hread).1 hother
      · have hlast := (List.getElem?_eq_some_iff.mp hread).1
        rw [List.length_append, List.length_singleton] at hlast
        omega
    exact ⟨congrArg some hnew, congrArg some hnew⟩
  manned index hwriter := by
    have hlast : standing.readers.length = index := Option.some.inj hwriter
    rw [Standing.attach]
    dsimp only
    rw [Session.length_stopReader, ← hlast]
    simp
  idle := h.idle
  stayed := stayed_stopReader h.idle fun index hfound => by
    rcases List.mem_append.mp (List.mem_of_getElem? hfound) with hold | hnew
    · obtain ⟨other, hother⟩ := List.getElem?_of_mem hold
      exact h.stayed other hother
    · simp at hnew

end Joined

end Standing

namespace Session

open Standing (Coupled Joined)

section

variable {session : Session} (h : Joined session.standing)
include h

theorem joined_awaitHandshake (number deadline : Nat) :
    Joined (session.awaitHandshake number deadline).standing := by
  unfold awaitHandshake
  split
  · split
    · rw [standing_finish]
      have hforgot : Joined ({ session with password := none } : Session).standing := { h with }
      exact hforgot.finish number _
    · rw [standing_abandonLogin]
      exact h.abandonLogin number _
  · split
    · rw [standing_failLogin]
      exact h.failLogin number _
    · rw [standing_await]
      exact h.await number _

theorem joined_connect (number : Nat) (username : String) (outcome : ConnectOutcome) :
    Joined (session.connect number username outcome).standing := by
  cases outcome with
  | opened writeFault =>
      dsimp only [connect]
      rw [standing_openChannel]
      exact h.attach.await number _
  | refused text =>
      dsimp only [connect]
      rw [standing_failLogin]
      exact h.failLogin number _
  | pending =>
      dsimp only [connect]
      rw [standing_await]
      exact h.await number _

theorem joined_login (username password : String) :
    Joined (session.login username password).standing := by
  have hbegun : Joined session.beginCall.2.standing := { h with }
  unfold login
  dsimp only
  split
  · rw [standing_finish]
    exact hbegun.finish _ _
  · split
    · rw [standing_finish, standing_fail]
      refine Joined.finish ?_ _ _
      exact { hbegun with }
    · refine joined_connect ?_ _ _ _
      exact { hbegun with }

theorem joined_logout : Joined session.logout.standing := by
  have hbegun : Joined session.beginCall.2.standing := { h with }
  unfold logout
  dsimp only
  split
  · rw [standing_finish]
    exact hbegun.finish _ _
  · rw [standing_await, standing_submit, standing_enter]
    refine Joined.await ?_ _ _
    exact { hbegun with }

theorem joined_reset : Joined session.reset.standing := by
  have hbegun : Joined session.beginCall.2.standing := { h with }
  unfold reset
  dsimp only
  split
  · have hleft : Joined { session.beginCall.2.standing with state := .unstarted } :=
      { hbegun with }
    have hstanding : ({ (session.beginCall.2.enter .unstarted).teardown with
        failure := none } : Session).standing =
          { (session.beginCall.2.enter .unstarted).teardown.standing with failure := none } := rfl
    rw [standing_finish, hstanding, standing_teardown]
    refine Joined.finish ?_ _ _
    exact { hleft.teardown with }
  · rw [standing_finish]
    exact hbegun.finish _ _

theorem joined_resume (number : Nat) : Joined (session.resume number).standing := by
  unfold resume
  split
  · split
    · unfold goOn
      split
      · exact h
      · split
        · exact h
        · exact joined_awaitHandshake h _ _
        · rw [standing_failLogin]
          exact h.failLogin _ _
      · exact joined_awaitHandshake h _ _
      · split
        · exact h
        · rw [standing_finish, standing_teardown]
          exact h.teardown.finish _ _
    · exact h
  · exact h

theorem joined_resolveConnect (number : Nat) (outcome : ConnectOutcome) :
    Joined (session.resolveConnect number outcome).standing := by
  unfold resolveConnect
  split
  · exact joined_connect h _ _ _
  · exact h

theorem joined_drop : Joined session.drop.standing := by
  have hdropped : Joined { session.standing with held := false } := { h with }
  rw [standing_drop]
  dsimp only
  split
  · exact hdropped
  · exact hdropped.release

end

section

variable {before after : Session} (h : Coupled before.standing)
include h

theorem Reacted.coupled {reaction : Reaction} {packet : Packet} {result : Except HandlerError Unit}
    (hreacted : Reacted before reaction packet (after, result)) :
    Coupled after.standing := by
  cases hreacted with
  | aside hafter hchallenge =>
      rw [hafter.standing]
      exact h
  | answered hreaction hstate hvalue hresponse =>
      rw [standing_execute, standing_enter]
      refine h.leaveLogin ?_ .connected before.failure
      rw [show before.standing.state = .connecting from hstate]
      rfl
  | refused hfault =>
      rw [standing_fail]
      exact h.leaveLogin hfault.isLoggingIn .failed _
  | welcomed hreaction htold hstate =>
      rw [standing_report, standing_enter, htold.standing]
      refine h.leaveLogin ?_ .loggedOn before.failure
      rw [show before.standing.state = .connected from hstate]
      rfl
  | evicted hreaction hstate hbody =>
      rw [standing_teardown, standing_report, standing_enter]
      exact h.leaveLoggedOn (.inl rfl) before.failure

theorem Handled.coupled {connection : Nat} {packet : Packet}
    (hhandled : Handled before connection packet after) :
    Coupled after.standing := by
  cases hhandled with
  | unrouted hroute hstanding hschedule hjournal =>
      rw [standing_note, hstanding]
      exact h
  | @reacted routed _ _ _ _ hroute hstanding hschedule hjournal hreacted =>
      have hrouted : Coupled routed.standing := by
        rw [hstanding]
        exact h
      have hafter := hreacted.coupled hrouted
      exact hafter

theorem ReadStep.coupled {index : Nat} (hstep : ReadStep before index after) :
    Coupled after.standing := by
  have htaken (rest : Text.Bytes) : Coupled (before.startReading index rest).standing := by
    rw [standing_startReading]
    exact { h with }
  cases hstep with
  | @packet rest packet after hhandled =>
      have hafter := hhandled.coupled (htaken rest)
      exact { hafter with }
  | @malformed rest error hstate =>
      have hstopped : Coupled
          (((before.startReading index rest).fail error).stopReading index).standing := by
        rw [standing_stopReading, standing_fail]
        exact ((htaken rest).leaveLogin hstate .failed _).stopReading index
      exact { hstopped with }
  | @passedOver rest hstate => exact { htaken rest with }
  | @cutOff error hstate =>
      rw [standing_stopReading]
      have hfailed := h.leaveLogin hstate .failed (some error)
      refine Coupled.stopReading ?_ index
      exact { hfailed with }
  | @lost told finish hstate htold =>
      rw [standing_stopReading]
      refine Coupled.stopReading ?_ index
      have hlost : Coupled (told.fail (.transport finish.error.message)).teardown.standing := by
        rw [standing_teardown, standing_fail, htold.standing]
        refine Coupled.leaveLoggedOn ?_ (.inr rfl) _
        exact { h with }
      exact { hlost with }
  | ended hstate =>
      rw [standing_stopReading]
      refine Coupled.stopReading ?_ index
      exact { h with }

end

theorem joined_read? {session next : Session} {index : Nat} (h : Joined session.standing)
    (hread : session.read? index = some next) :
    Joined next.standing := by
  have hcoupled : Coupled next.standing := by
    refine read?_induction (motive := fun session => Coupled session.standing)
      ?_ ?_ h.coupled hread
    · exact fun before after hbefore hnext => (readNext?_step hnext).2.coupled hbefore
    · intro before hbefore
      rw [standing_stopReading]
      exact hbefore.stopReading index
  obtain ⟨hidle, hstayed⟩ := stayed_read? h.idle h.stayed hread
  exact ⟨hcoupled.running, hcoupled.manned, hidle, hstayed⟩

theorem Stepped.joined {before after : Session} {move : Move} (h : Stepped before move after)
    (hbefore : Joined before.standing) :
    Joined after.standing := by
  cases h with
  | carried hcarried =>
      rw [hcarried.standing]
      exact hbefore
  | login username password hheld => exact joined_login hbefore username password
  | resolveConnect call outcome => exact joined_resolveConnect hbefore call outcome
  | logout hheld => exact joined_logout hbefore
  | reset hheld => exact joined_reset hbefore
  | drop => exact joined_drop hbefore
  | read hread => exact joined_read? hbefore hread
  | resume call => exact joined_resume hbefore call
  | attachStore policy => exact { hbefore with }

theorem joined_build (config : SessionConfig) (listeners : List String)
    (outcomes : List ConnectOutcome) :
    Joined (build config listeners outcomes).standing where
  running _ hfound := nomatch hfound
  manned _ hwriter := nomatch hwriter
  idle := rfl
  stayed _ hfound := nomatch hfound

end Session

end Messenger
