import Messenger.Proofs.Session.Life
import Messenger.Proofs.Session.Sequential

/-!
Whatever happens to a session, its journal tells the life of a login attempt: from one move to the
next, and from one frame to the next, each chapter is left as it can be left.
-/

namespace Messenger

/-! What holds between two moves, even where calls overlap. -/

namespace Standing

/-- The default handlers are in place, and no reader is at work or has stopped half way. -/
structure Poised (standing : Standing) : Prop where
  wired : Wired standing.handlers standing.collectors
  idle : standing.working = none
  stayed : ∀ index : Nat, standing.readers[index]? ≠ some .stopping

namespace Poised

variable {standing : Standing}

theorem stopReader (h : Poised standing) : Poised standing.stopReader :=
  ⟨h.wired, h.idle, stayed_stopReader h.idle h.stayed⟩

theorem teardown (h : Poised standing) : Poised standing.teardown :=
  stopReader ⟨h.wired, h.idle, h.stayed⟩

theorem release (h : Poised standing) : Poised standing.release :=
  stopReader ⟨h.wired, h.idle, h.stayed⟩

theorem attach (h : Poised standing) : Poised standing.attach := by
  have hadded : Poised { standing with
      writer := some standing.readers.length
      readers := standing.readers ++ [Reader.running] } := by
    refine ⟨h.wired, h.idle, fun index hfound => ?_⟩
    rw [List.getElem?_append] at hfound
    split at hfound
    · exact h.stayed index hfound
    · exact absurd (List.mem_of_getElem? hfound) (by simp)
  have hstopped := hadded.stopReader
  exact ⟨hstopped.wired, hstopped.idle, hstopped.stayed⟩

end Poised

end Standing

open Standing (Poised)

/-- Whether a session is where an attempt has come to. -/
def Chapter.Fits (chapter : Chapter) (session : Session) : Prop :=
  match chapter with
  | .loggingIn => session.state.isLoggingIn = true
  | .within => session.state = .loggedOn
  | .past => session.state = .unstarted ∨ session.state = .failed
  | .silent =>
      session.events.running = false ∧ (session.state = .unstarted ∨ session.state = .failed)
  | .unheard => session.events.running = false ∧ session.state.isLoggingIn = false

namespace Chapter

variable {chapter : Chapter} {session : Session}

theorem Fits.keep {after : Session} (h : chapter.Fits session)
    (hstate : after.state = session.state)
    (hrunning : session.events.running = false → after.events.running = false) :
    chapter.Fits after := by
  cases chapter with
  | loggingIn => exact (congrArg SessionState.isLoggingIn hstate).trans h
  | within => exact hstate.trans h
  | past => exact h.imp hstate.trans hstate.trans
  | silent => exact ⟨hrunning h.1, h.2.imp hstate.trans hstate.trans⟩
  | unheard => exact ⟨hrunning h.1, (congrArg SessionState.isLoggingIn hstate).trans h.2⟩

theorem Fits.eq_loggingIn (h : chapter.Fits session) (hstate : session.state.isLoggingIn = true) :
    chapter = .loggingIn := by
  have hended : ¬ (session.state = .unstarted ∨ session.state = .failed) := by
    rintro (hover | hover) <;> rw [hover] at hstate <;> cases hstate
  cases chapter with
  | loggingIn => rfl
  | within =>
      rw [show session.state = .loggedOn from h] at hstate
      cases hstate
  | past => exact absurd h hended
  | silent => exact absurd h.2 hended
  | unheard => exact absurd hstate (by simp [h.2])

theorem Fits.cases_loggedOn (h : chapter.Fits session) (hstate : session.state = .loggedOn) :
    chapter = .within ∨ chapter = .unheard ∧ session.events.running = false := by
  cases chapter with
  | loggingIn =>
      have hlogin : session.state.isLoggingIn = true := h
      rw [hstate] at hlogin
      cases hlogin
  | within => exact .inl rfl
  | past => exact absurd h (by simp [Fits, hstate])
  | silent => exact absurd h.2 (by simp [hstate])
  | unheard => exact .inr ⟨rfl, h.1⟩

theorem Fits.ne_of_ended (h : chapter.Fits session)
    (hended : session.state = .unstarted ∨ session.state = .failed) :
    chapter ≠ .loggingIn ∧ chapter ≠ .within := by
  constructor
  · rintro rfl
    have hlogin : session.state.isLoggingIn = true := h
    rcases hended with hstate | hstate <;> rw [hstate] at hlogin <;> cases hlogin
  · rintro rfl
    have hloggedOn : session.state = .loggedOn := h
    rcases hended with hstate | hstate <;> rw [hstate] at hloggedOn <;> cases hloggedOn

end Chapter

namespace Session

section

variable (killed : Bool) (ends : StreamEnd → Prop)

/-- The journal between two sessions tells how an attempt went on, or another one has begun. -/
def Tells (before after : Session) : Prop :=
  ∃ noted, after.journal = before.journal ++ noted ∧
    (.entered .connecting ∉ noted → ∀ chapter : Chapter, chapter.Fits before →
      ∃ last : Chapter, Life killed ends chapter noted last ∧ last.Fits after)

structure Lives (before after : Session) : Prop where
  poised : before.standing.Poised → after.standing.Poised
  tells : Tells killed ends before after

end

variable {killed : Bool} {ends : StreamEnd → Prop}

namespace Tells

/-- What is told without a change of state or an announcement. A queue that has been killed takes
no reports. -/
theorem of_noted {before after : Session} {noted : List Happening}
    (hjournal : after.journal = before.journal ++ noted) (hstate : after.state = before.state)
    (hplain : ∀ happening ∈ noted, happening.state? = none ∧
      ∀ report, happening.report? = some report → report.event.isMilestone = false)
    (hmute : before.events.running = false → reportsOf noted = [])
    (hrunning : before.events.running = false → after.events.running = false) :
    Tells killed ends before after := by
  refine ⟨noted, hjournal, fun _ chapter hfits => ?_⟩
  refine ⟨chapter, .of_allowed ?_, hfits.keep hstate hrunning⟩
  intro happening hmem
  obtain ⟨hnone, hquiet⟩ := hplain happening hmem
  cases happening with
  | entered state => cases hnone
  | reported report =>
      have hheard : before.events.running ≠ false := by
        intro hstopped
        have hreport : report ∈ reportsOf noted := List.mem_filterMap.mpr ⟨_, hmem, rfl⟩
        rw [hmute hstopped] at hreport
        cases hreport
      refine decide_eq_true ⟨?_, ?_, hquiet report rfl⟩
      · rintro rfl
        exact hheard hfits.1
      · rintro rfl
        exact hheard hfits.1
  | received connection packet => rfl
  | submitted connection packet => rfl
  | handled => rfl

theorem of_same {before after : Session} (hjournal : after.journal = before.journal)
    (hstate : after.state = before.state)
    (hrunning : before.events.running = false → after.events.running = false) :
    Tells killed ends before after := by
  have hnothing : after.journal = before.journal ++ [] := by rw [hjournal, List.append_nil]
  exact of_noted hnothing hstate (by simp) (fun _ => rfl) hrunning

theorem trans {first second third : Session} (hfirst : Tells killed ends first second)
    (hsecond : Tells killed ends second third) :
    Tells killed ends first third := by
  obtain ⟨early, hearly, hlife⟩ := hfirst
  obtain ⟨late, hlate, hlater⟩ := hsecond
  refine ⟨early ++ late, by rw [hlate, hearly, List.append_assoc], fun hsame chapter hfits => ?_⟩
  rw [List.mem_append, not_or] at hsame
  obtain ⟨middle, hchapter, hmiddle⟩ := hlife hsame.1 chapter hfits
  obtain ⟨last, hrest, hlast⟩ := hlater hsame.2 middle hmiddle
  exact ⟨last, hchapter.append hrest, hlast⟩

/-- A state in which no attempt is left can be entered at any time. -/
theorem leave (session : Session) {state : SessionState}
    (hended : state = .unstarted ∨ state = .failed) :
    Tells killed ends session (session.enter state) := by
  by_cases hsame : session.state = state
  · exact of_same (by simp [enter, hsame]) hsame.symm id
  · refine ⟨[.entered state], by simp [enter, hsame], fun _ chapter hfits => ?_⟩
    have hover : state.isLoggingIn = false := by
      rcases hended with rfl | rfl <;> rfl
    cases chapter with
    | loggingIn => exact ⟨.past, .leave (.inl rfl) hended (.done .past), hended⟩
    | within => exact ⟨.past, .leave (.inr rfl) hended (.done .past), hended⟩
    | past => exact ⟨.past, .quiet (decide_eq_true hended) (.done .past), hended⟩
    | silent => exact ⟨.silent, .quiet (decide_eq_true hended) (.done .silent), hfits.1, hended⟩
    | unheard => exact ⟨.unheard, .quiet (decide_eq_true hended) (.done .unheard), hfits.1, hover⟩

theorem fail (session : Session) (error : SessionError) :
    Tells killed ends session (session.fail error) := by
  have hmarked : Tells killed ends session { session with failure := some error } :=
    of_same rfl rfl id
  exact hmarked.trans (leave _ (.inr rfl))

end Tells

theorem Undisturbed.tells {before after : Session} (h : Undisturbed before after) :
    Tells killed ends before after := by
  obtain ⟨noted, hjournal, hnews⟩ := h.journal
  obtain ⟨others, hothers, -, hmute⟩ := h.voices.events
  obtain rfl : others = noted := List.append_cancel_left (hothers.symm.trans hjournal)
  have hrunning : after.events.running = before.events.running :=
    congrArg Standing.running h.standing
  refine .of_noted hjournal h.state_eq (fun happening hmem => ?_) hmute (hrunning ▸ id)
  refine ⟨Happening.state?_of_isNews (hnews happening hmem), fun report hreport => ?_⟩
  have hhappening := hnews happening hmem
  cases happening with
  | reported other =>
      cases hreport
      simpa [Happening.isNews] using hhappening
  | _ => cases hreport

theorem tells_enqueue (session : Session) (outgoing : Outgoing Sending) :
    Tells killed ends session (session.enqueue outgoing) := by
  refine .of_noted rfl rfl (fun happening hmem => ?_) (fun _ => ?_) id
  · obtain ⟨index, -, rfl⟩ := List.mem_map.mp hmem
    exact ⟨rfl, fun report hreport => nomatch hreport⟩
  · simp only [reportsOf, List.filterMap_map, List.filterMap_eq_nil_iff]
    exact fun _ _ => rfl

theorem tells_note (session : Session) {happening : Happening} (hstate : happening.state? = none)
    (hmute : happening.report? = none) :
    Tells killed ends session (session.note happening) := by
  have hjournal : (session.note happening).journal = session.journal ++ [happening] := rfl
  exact .of_noted hjournal rfl (by simp [hstate, hmute]) (by simp [reportsOf, hmute]) id

theorem tells_connected {session : Session} (hstate : session.state = .connecting) :
    Tells killed ends session (session.enter .connected) := by
  refine ⟨[.entered .connected], by simp [enter, hstate], fun _ chapter hfits => ?_⟩
  obtain rfl := hfits.eq_loggingIn (by rw [hstate]; rfl)
  exact ⟨.loggingIn, .quiet rfl (.done .loggingIn), rfl⟩

/-- The announcement of a login. -/
theorem tells_welcome {session : Session} (hstate : session.state = .connected)
    (hheard : killed = false → session.events.running = true) (user : String) :
    Tells killed ends session
      ((session.enter .loggedOn).report (some .logon) (.loggedOn user)) := by
  have hlogin : session.state.isLoggingIn = true := by
    rw [hstate]
    rfl
  cases hrunning : session.events.running with
  | true =>
      refine ⟨greeting user, by simp [report, enter, hstate, hrunning, greeting],
        fun _ chapter hfits => ?_⟩
      obtain rfl := hfits.eq_loggingIn hlogin
      exact ⟨.within, .welcome (.done .within), rfl⟩
  | false =>
      have hkilled : killed = true := by
        refine Decidable.byContradiction fun hnot => ?_
        have hstill := hheard (Bool.eq_false_iff.mpr hnot)
        rw [hrunning] at hstill
        cases hstill
      refine ⟨[.entered .loggedOn], by simp [report, enter, hstate, hrunning],
        fun _ chapter hfits => ?_⟩
      obtain rfl := hfits.eq_loggingIn hlogin
      refine ⟨.unheard, .unheard hkilled (.done .unheard), ?_, rfl⟩
      simp [report, enter, hrunning, EventQueue.append]

/-- Whatever handler a packet reaches, the attempt goes on, but for the server's goodbye. -/
theorem Reacted.tells_or_evicted (ends : StreamEnd → Prop) {before after : Session}
    {reaction : Reaction} {packet : Packet} {result : Except HandlerError Unit}
    (h : Reacted before reaction packet (after, result))
    (hheard : killed = false → before.state.isLoggingIn = true → before.events.running = true) :
    Tells killed ends before after ∨
      reaction = .logoff ∧ before.state = .loggedOn ∧ packet.has "7" = false ∧
        after = ((before.enter .unstarted).report (some .logoff)
          (.connectionClosed "session ended by server")).teardown := by
  cases h with
  | aside hafter hchallenge => exact .inl hafter.tells
  | answered hreaction hstate hvalue hresponse =>
      exact .inl ((tells_connected hstate).trans (tells_enqueue _ _))
  | refused hfault => exact .inl (.fail before _)
  | @welcomed told hreaction htold hstate =>
      refine .inl (htold.tells.trans
        (tells_welcome (htold.state_eq.trans hstate) (fun hkilled => ?_) _))
      have hrunning : told.events.running = before.events.running :=
        congrArg Standing.running htold.standing
      rw [hrunning]
      exact hheard hkilled (by rw [hstate]; rfl)
  | evicted hreaction hstate hbody => exact .inr ⟨hreaction, hstate, hbody, rfl⟩

/-- The end of a session is announced, unless its queue has been killed, and nothing after it. -/
theorem tells_farewell {before after : Session} (front reports rest : List Happening)
    (hjournal : after.journal = before.journal ++
      (front ++ (if before.events.running then reports else []) ++ rest))
    (hbefore : before.state = .loggedOn) (hended : after.state = .unstarted ∨ after.state = .failed)
    (hstopped : after.events.running = false)
    (hfarewell : Life killed ends .within (front ++ reports ++ rest) .silent)
    (hleave : Life killed ends .within (front ++ rest) .past)
    (hunheard : Life killed ends .unheard (front ++ rest) .unheard) :
    Tells killed ends before after := by
  refine ⟨_, hjournal, fun _ chapter hfits => ?_⟩
  cases hrunning : before.events.running with
  | true =>
      rw [if_pos rfl]
      rcases hfits.cases_loggedOn hbefore with rfl | ⟨-, hkilled⟩
      · exact ⟨.silent, hfarewell, hstopped, hended⟩
      · rw [hrunning] at hkilled
        cases hkilled
  | false =>
      rw [if_neg (by decide), List.append_nil]
      rcases hfits.cases_loggedOn hbefore with rfl | ⟨rfl, -⟩
      · exact ⟨.past, hleave, hended⟩
      · refine ⟨.unheard, hunheard, hstopped, ?_⟩
        rcases hended with hstate | hstate <;> rw [hstate] <;> rfl

theorem Handled.tells {before after : Session} {connection : Nat} {packet : Packet}
    (h : Handled before connection packet after)
    (hwired : before.state = .loggedOn →
      Wired before.standing.handlers before.standing.collectors)
    (hheard : killed = false → before.state.isLoggingIn = true → before.events.running = true) :
    Tells killed ends before after := by
  have htaken {routed : Session} (hstanding : routed.standing = before.standing)
      (hjournal : routed.journal = before.journal ++ [.received connection packet]) :
      Tells killed ends before routed := by
    have hrunning : routed.events.running = before.events.running :=
      congrArg Standing.running hstanding
    exact .of_noted hjournal (congrArg Standing.state hstanding)
      (by simp [Happening.state?, Happening.report?]) (fun _ => rfl) (hrunning ▸ id)
  cases h with
  | unrouted hroute hstanding hschedule hjournal =>
      exact (htaken hstanding hjournal).trans (tells_note _ rfl rfl)
  | @reacted routed after reaction joined result hroute hstanding hschedule hjournal hreacted =>
      have hstate : routed.state = before.state := congrArg Standing.state hstanding
      have hrunning : routed.events.running = before.events.running :=
        congrArg Standing.running hstanding
      have hheardThere : killed = false → routed.state.isLoggingIn = true →
          routed.events.running = true := by
        rw [hstate, hrunning]
        exact hheard
      rcases hreacted.tells_or_evicted ends hheardThere with
        htells | ⟨rfl, hloggedOn, hbody, rfl⟩
      · exact ((htaken hstanding hjournal).trans htells).trans (tells_note _ rfl rfl)
      · rw [hstate] at hloggedOn
        obtain ⟨hservice, rfl⟩ :=
          Registry.service_of_login (hwired hloggedOn) .logoff rfl hroute
        refine tells_farewell [.received connection joined, .entered .unstarted]
          [.reported ⟨some .logoff, .connectionClosed "session ended by server"⟩] [.handled]
          ?_ hloggedOn (.inl rfl) rfl ?_ ?_ ?_
        · cases hkilled : before.events.running <;>
            simp [note, teardown, stopReader, report, enter, hstate, hloggedOn, hrunning, hkilled,
              hjournal]
        · exact .evicted hservice hbody (.quiet rfl (.done .silent))
        · exact .quiet rfl (.leave (.inr rfl) (.inl rfl) (.quiet rfl (.done .past)))
        · exact .quiet rfl (.quiet rfl (.quiet rfl (.done .unheard)))

theorem ReadStep.tells {before after : Session} {index : Nat} (h : ReadStep before index after)
    (hwired : before.state = .loggedOn →
      Wired before.standing.handlers before.standing.collectors)
    (hheard : killed = false → before.state.isLoggingIn = true → before.events.running = true)
    (hends : ∀ finish, before.state = .loggedOn →
      before.upcoming? index = some (.error finish) → ends finish) :
    Tells killed ends before after := by
  have htaken (rest : Text.Bytes) : Tells killed ends before (before.startReading index rest) :=
    .of_same rfl rfl id
  cases h with
  | @packet rest packet after hhandled =>
      have hstanding := standing_startReading before index rest
      refine ((htaken rest).trans (hhandled.tells (fun hstate => ?_) hheard)).trans ?_
      · rw [hstanding]
        exact hwired hstate
      · exact .of_same rfl rfl id
  | malformed hstate => exact ((htaken _).trans (.fail _ _)).trans (.of_same rfl rfl id)
  | passedOver hstate => exact .of_same rfl rfl id
  | cutOff hstate => exact (Tells.fail before _).trans (.of_same rfl rfl id)
  | @lost told finish hstate htold hend =>
      have htoldState : told.state = .loggedOn :=
        (congrArg Standing.state htold.standing).trans hstate
      refine tells_farewell []
        [.reported ⟨none, .exception finish.error.message⟩,
          .reported ⟨none, .connectionClosed finish.error.message⟩] [.entered .failed]
        ?_ hstate (.inr rfl) rfl ?_ ?_ ?_
      · have hjournal := htold.journal
        cases hrunning : before.events.running <;>
          simp [hrunning] at hjournal <;>
          simp [stopReading, teardown, stopReader, Session.fail, enter, htoldState, hjournal]
      · exact .lost (hends finish hstate hend) (.done .silent)
      · exact .leave (.inr rfl) (.inr rfl) (.done .past)
      · exact .quiet rfl (.done .unheard)
  | ended hstate => exact .of_same rfl rfl id

/-- Readers are stopped only where a session ends. -/
theorem Reacted.ended_or_readers {before after : Session} {reaction : Reaction} {packet : Packet}
    {result : Except HandlerError Unit} (h : Reacted before reaction packet (after, result)) :
    (after.state = .unstarted ∨ after.state = .failed) ∨
      after.standing.readers = before.standing.readers := by
  cases h with
  | aside hafter hchallenge => exact .inr (congrArg Standing.readers hafter.standing)
  | answered hreaction hstate hvalue hresponse =>
      rw [standing_execute, standing_enter]
      exact .inr rfl
  | refused hfault => exact .inl (.inr rfl)
  | welcomed hreaction htold hstate =>
      rw [standing_report, standing_enter, htold.standing]
      exact .inr rfl
  | evicted hreaction hstate hbody => exact .inl (.inl rfl)

theorem Handled.ended_or_readers {before after : Session} {connection : Nat} {packet : Packet}
    (h : Handled before connection packet after) :
    (after.state = .unstarted ∨ after.state = .failed) ∨
      after.standing.readers = before.standing.readers := by
  cases h with
  | unrouted hroute hstanding hschedule hjournal =>
      exact .inr (congrArg Standing.readers hstanding)
  | reacted hroute hstanding hschedule hjournal hreacted =>
      refine hreacted.ended_or_readers.imp id fun hreaders => ?_
      exact hreaders.trans (congrArg Standing.readers hstanding)

/-- A reader stops half way only where its session ends. -/
theorem ReadStep.ended_of_stopping {before after : Session} {index : Nat}
    (h : ReadStep before index after) (hstayed : before.standing.readers[index]? ≠ some .stopping)
    (hstopping : after.standing.readers[index]? = some .stopping) :
    after.state = .unstarted ∨ after.state = .failed := by
  have htaken (rest : Text.Bytes) :
      (before.startReading index rest).standing.readers = before.standing.readers := by
    rw [standing_startReading]
  have hnot {session : Session} :
      (session.stopReading index).standing.readers[index]? ≠ some .stopping := by
    intro hfound
    rw [standing_stopReading] at hfound
    exact (Standing.readers_set_ne (by decide) hfound).1 rfl
  cases h with
  | @packet rest packet after hhandled =>
      refine hhandled.ended_or_readers.resolve_right fun hreaders => hstayed ?_
      rw [← htaken rest, ← hreaders]
      exact hstopping
  | malformed hstate => exact absurd hstopping hnot
  | @passedOver rest hstate =>
      refine absurd ?_ hstayed
      rw [← htaken rest]
      exact hstopping
  | cutOff hstate => exact absurd hstopping hnot
  | lost hstate htold hend => exact absurd hstopping hnot
  | ended hstate => exact absurd hstopping hnot

/-- The state of a session matters to a reader only at its first step: it goes on after that only
where the session has ended. -/
theorem tells_read? {session next : Session} {index : Nat} (h : session.standing.Poised)
    (hread : session.read? index = some next)
    (hheard : killed = false → session.state.isLoggingIn = true → session.events.running = true)
    (hends : ∀ finish, session.state = .loggedOn →
      session.upcoming? index = some (.error finish) → ends finish) :
    Tells killed ends session next := by
  obtain ⟨first, hfirst, rfl⟩ := Option.map_eq_some_iff.mp hread
  have hstep := (readNext?_step hfirst).2
  have htells := hstep.tells (fun _ => h.wired) hheard hends
  split
  · rename_i hstopping
    rw [isStopping_iff] at hstopping
    have hended := hstep.ended_of_stopping (h.stayed index) hstopping
    have hall : (readOut (first.readBound index) first index).state = first.state ∧
        Tells killed ends session (readOut (first.readBound index) first index) := by
      refine readOut_induction
        (motive := fun later => later.state = first.state ∧ Tells killed ends session later)
        ?_ ?_ _ ⟨rfl, htells⟩
      · rintro before after ⟨hstate, hbefore⟩ hnext
        have hlater := (readNext?_step hnext).2
        rw [← hstate] at hended
        have hover : before.state ≠ .loggedOn ∧ before.state.isLoggingIn = false := by
          rcases hended with hcase | hcase <;> rw [hcase] <;> decide
        refine ⟨(hlater.state_of_ended hended).trans hstate, hbefore.trans (hlater.tells ?_ ?_ ?_)⟩
        · exact fun hloggedOn => absurd hloggedOn hover.1
        · intro _ hlogin
          rw [hover.2] at hlogin
          cases hlogin
        · exact fun _ hloggedOn => absurd hloggedOn hover.1
      · rintro before ⟨hstate, hbefore⟩
        exact ⟨hstate, hbefore.trans (.of_same rfl rfl id)⟩
    exact hall.2
  · exact htells

theorem wired_read? {session next : Session} {index : Nat}
    (h : Wired session.standing.handlers session.standing.collectors)
    (hread : session.read? index = some next) :
    Wired next.standing.handlers next.standing.collectors := by
  refine read?_induction (motive := fun later =>
    Wired later.standing.handlers later.standing.collectors) ?_ ?_ h hread
  · intro before after hbefore hnext
    obtain ⟨hhandlers, hcollectors⟩ := (readNext?_step hnext).2.wiring
    rw [hhandlers, hcollectors]
    exact hbefore
  · intro before hbefore
    rw [standing_stopReading]
    exact hbefore

theorem lives_read? {session next : Session} {index : Nat} (h : session.standing.Poised)
    (hread : session.read? index = some next)
    (hheard : killed = false → session.state.isLoggingIn = true → session.events.running = true)
    (hends : ∀ finish, session.state = .loggedOn →
      session.upcoming? index = some (.error finish) → ends finish) :
    Lives killed ends session next := by
  refine ⟨fun _ => ?_, tells_read? h hread hheard hends⟩
  obtain ⟨hidle, hstayed⟩ := stayed_read? h.idle h.stayed hread
  exact ⟨wired_read? h.wired hread, hidle, hstayed⟩

namespace Lives

theorem of_same {before after : Session} (hjournal : after.journal = before.journal)
    (hstate : after.state = before.state)
    (hrunning : before.events.running = false → after.events.running = false)
    (hpoised : before.standing.Poised → after.standing.Poised) :
    Lives killed ends before after :=
  ⟨hpoised, .of_same hjournal hstate hrunning⟩

theorem refl (session : Session) : Lives killed ends session session :=
  of_same rfl rfl id fun h => ⟨h.wired, h.idle, h.stayed⟩

theorem trans {first second third : Session} (hfirst : Lives killed ends first second)
    (hsecond : Lives killed ends second third) :
    Lives killed ends first third :=
  ⟨hsecond.poised ∘ hfirst.poised, hfirst.tells.trans hsecond.tells⟩

end Lives

theorem lives_leave (session : Session) {state : SessionState}
    (hended : state = .unstarted ∨ state = .failed) :
    Lives killed ends session (session.enter state) :=
  ⟨fun h => ⟨h.wired, h.idle, h.stayed⟩, .leave session hended⟩

theorem lives_fail (session : Session) (error : SessionError) :
    Lives killed ends session (session.fail error) :=
  ⟨fun h => ⟨h.wired, h.idle, h.stayed⟩, .fail session error⟩

theorem lives_submit (session : Session) (packet : Packet) :
    Lives killed ends session (session.submit packet).2 := by
  refine ⟨fun h => (standing_submit session packet).symm ▸ h, ?_⟩
  unfold submit
  dsimp only
  split
  · have hnumbered : Tells killed ends session { session with tickets := session.tickets + 1 } :=
      .of_same rfl rfl id
    exact hnumbered.trans (tells_enqueue _ _)
  · exact .of_same rfl rfl id

theorem lives_teardown (session : Session) : Lives killed ends session session.teardown :=
  .of_same rfl rfl (fun _ => rfl) fun h => (standing_teardown session).symm ▸ h.teardown

theorem lives_release (session : Session) : Lives killed ends session session.release :=
  .of_same rfl rfl (fun _ => rfl) fun h => (standing_release session).symm ▸ h.release

theorem lives_attach (session : Session) (writeFault : Option String) :
    Lives killed ends session (session.attach writeFault) :=
  .of_same rfl rfl id fun h => (standing_attach session writeFault).symm ▸ h.attach

theorem lives_await (session : Session) (number : Nat) (phase : Phase) :
    Lives killed ends session (session.await number phase) :=
  .of_same rfl rfl id fun h => ⟨h.wired, h.idle, h.stayed⟩

theorem lives_beginCall (session : Session) : Lives killed ends session session.beginCall.2 :=
  .of_same rfl rfl id fun h => ⟨h.wired, h.idle, h.stayed⟩

theorem lives_finish (session : Session) (number : Nat) (result : Except SessionError Unit) :
    Lives killed ends session (session.finish number result) := by
  have hanswered : Lives killed ends session { session with
      calls := session.calls.filter fun call => call.number != number
      results := session.results ++ [⟨number, result⟩] } :=
    .of_same rfl rfl id fun h => ⟨h.wired, h.idle, h.stayed⟩
  unfold finish
  dsimp only
  split
  · exact hanswered
  · exact hanswered.trans (lives_release _)

theorem lives_drop (session : Session) : Lives killed ends session session.drop := by
  have hdropped : Lives killed ends session { session with held := false } :=
    .of_same rfl rfl id fun h => ⟨h.wired, h.idle, h.stayed⟩
  unfold drop
  dsimp only
  split
  · exact hdropped
  · exact hdropped.trans (lives_release _)

theorem lives_forget (session : Session) :
    Lives killed ends session { session with password := none } :=
  .of_same rfl rfl id fun h => ⟨h.wired, h.idle, h.stayed⟩

theorem lives_abandonLogin (session : Session) (number : Nat) (error : SessionError) :
    Lives killed ends session (session.abandonLogin number error) := by
  exact ((lives_forget session).trans (lives_teardown _)).trans (lives_finish _ _ _)

theorem lives_failLogin (session : Session) (number : Nat) (error : SessionError) :
    Lives killed ends session (session.failLogin number error) :=
  (lives_fail session error).trans (lives_abandonLogin _ _ _)

theorem lives_awaitHandshake (session : Session) (number deadline : Nat) :
    Lives killed ends session (session.awaitHandshake number deadline) := by
  unfold awaitHandshake
  split
  · split
    · exact (lives_forget session).trans (lives_finish _ _ _)
    · exact lives_abandonLogin _ _ _
  · split
    · exact lives_failLogin _ _ _
    · exact lives_await _ _ _

theorem lives_connect (session : Session) (number : Nat) (username : String)
    (outcome : ConnectOutcome) :
    Lives killed ends session (session.connect number username outcome) := by
  cases outcome with
  | opened writeFault =>
      exact ((lives_attach session writeFault).trans (lives_submit _ _)).trans (lives_await _ _ _)
  | refused text => exact lives_failLogin session number _
  | pending => exact lives_await session number _

/-- A login that begins is the begin of another attempt. -/
theorem lives_startLogin {session : Session} (hstate : session.state = .unstarted)
    (username password : String) :
    Lives killed ends session (session.startLogin username password) := by
  refine ⟨fun h => ?_, [.entered .connecting], by simp [startLogin, enter, hstate], ?_⟩
  · exact ⟨h.wired, h.idle, h.stayed⟩
  · exact fun hsame => absurd (List.mem_singleton.mpr rfl) hsame

theorem lives_login (session : Session) (username password : String) :
    Lives killed ends session (session.login username password) := by
  unfold login
  refine (lives_beginCall session).trans ?_
  dsimp only
  split
  · exact lives_finish _ _ _
  · rename_i hstate
    rw [Decidable.not_not] at hstate
    split
    · exact (lives_fail _ _).trans (lives_finish _ _ _)
    · exact (lives_startLogin hstate _ _).trans (lives_connect _ _ _ _)

theorem lives_logout (session : Session) : Lives killed ends session session.logout := by
  unfold logout
  refine (lives_beginCall session).trans ?_
  dsimp only
  split
  · exact lives_finish _ _ _
  · exact ((lives_leave _ (.inl rfl)).trans (lives_submit _ _)).trans (lives_await _ _ _)

theorem lives_reset (session : Session) : Lives killed ends session session.reset := by
  unfold reset
  refine (lives_beginCall session).trans ?_
  dsimp only
  split
  · have htorn : Lives killed ends session.beginCall.2
        (session.beginCall.2.enter .unstarted).teardown :=
      (lives_leave _ (.inl rfl)).trans (lives_teardown _)
    refine htorn.trans (.trans ?_ (lives_finish _ _ _))
    exact .of_same rfl rfl id fun h => ⟨h.wired, h.idle, h.stayed⟩
  · exact lives_finish _ _ _

theorem lives_goOn (session : Session) (call : Call) :
    Lives killed ends session (session.goOn call) := by
  unfold goOn
  split
  · exact .refl session
  · split
    · exact .refl session
    · exact lives_awaitHandshake session _ _
    · exact lives_failLogin session _ _
  · exact lives_awaitHandshake session _ _
  · split
    · exact .refl session
    · exact (lives_teardown session).trans (lives_finish _ _ _)

theorem lives_resume (session : Session) (number : Nat) :
    Lives killed ends session (session.resume number) := by
  unfold resume
  split
  · split
    · exact lives_goOn session _
    · exact .refl session
  · exact .refl session

theorem lives_resolveConnect (session : Session) (number : Nat) (outcome : ConnectOutcome) :
    Lives killed ends session (session.resolveConnect number outcome) := by
  unfold resolveConnect
  split
  · exact lives_connect session number _ outcome
  · exact .refl session

theorem Carries.lives {before after : Session} (h : Carries before after) :
    Lives killed ends before after := by
  refine ⟨fun hpoised => h.standing.symm ▸ hpoised, ?_⟩
  obtain ⟨noted, hjournal, hsent⟩ := h.journal
  have hplain : ∀ happening ∈ noted, happening.state? = none ∧ happening.report? = none := by
    intro happening hmem
    obtain ⟨connection, packet, rfl, -⟩ := hsent happening hmem
    exact ⟨rfl, rfl⟩
  have hmute : reportsOf noted = [] :=
    List.filterMap_eq_nil_iff.mpr fun happening hmem => (hplain happening hmem).2
  have hrunning : after.events.running = before.events.running :=
    congrArg Standing.running h.standing
  refine .of_noted hjournal (congrArg Standing.state h.standing) (fun happening hmem => ?_)
    (fun _ => hmute) (hrunning ▸ id)
  obtain ⟨hnone, hsilent⟩ := hplain happening hmem
  refine ⟨hnone, fun report hreport => ?_⟩
  rw [hsilent] at hreport
  cases hreport

theorem Stepped.lives {before after : Session} {move : Move} (h : Stepped before move after)
    (hbefore : before.standing.Poised)
    (hheard : killed = false → before.state.isLoggingIn = true → before.events.running = true)
    (hends : ∀ index finish, move = .read index → before.state = .loggedOn →
      before.upcoming? index = some (.error finish) → ends finish) :
    Lives killed ends before after := by
  cases h with
  | carried hcarried => exact hcarried.lives
  | login username password hheld => exact lives_login before username password
  | resolveConnect call outcome => exact lives_resolveConnect before call outcome
  | logout hheld => exact lives_logout before
  | reset hheld => exact lives_reset before
  | drop => exact lives_drop before
  | read hread => exact lives_read? hbefore hread hheard fun finish => hends _ finish rfl
  | resume call => exact lives_resume before call
  | attachStore policy =>
      exact .of_same rfl rfl id fun h => ⟨wired_attachStore h.wired policy, h.idle, h.stayed⟩

theorem lives_run {session : Session} (h : session.standing.Poised) {moves : List Move}
    (hheard : killed = false → ∀ early late, moves = early ++ late →
      (session.run early).state.isLoggingIn = true → (session.run early).events.running = true)
    (hends : ∀ early index late finish, moves = early ++ .read index :: late →
      (session.run early).state = .loggedOn →
      (session.run early).upcoming? index = some (.error finish) → ends finish) :
    Lives killed ends session (session.run moves) := by
  induction moves generalizing session with
  | nil => exact .refl session
  | cons move rest induction =>
      have hstep : Lives killed ends session (session.step move) := by
        refine (step_stepped session move).lives h (fun hnot => hheard hnot [] _ rfl) ?_
        rintro index finish rfl
        exact hends [] index rest finish rfl
      refine hstep.trans (induction (hstep.poised h) ?_ ?_)
      · intro hnot early late heq
        exact hheard hnot (move :: early) late (congrArg (move :: ·) heq)
      · intro early index late finish heq
        exact hends (move :: early) index late finish (congrArg (move :: ·) heq)

theorem poised_build (config : SessionConfig) (listeners : List String)
    (outcomes : List ConnectOutcome) :
    (build config listeners outcomes).standing.Poised :=
  ⟨wired_build config listeners outcomes, rfl, fun _ hfound => nomatch hfound⟩

/-- The default handlers stay in place, whatever happens. -/
theorem poised_run {session : Session} (h : session.standing.Poised) (moves : List Move) :
    (session.run moves).standing.Poised := by
  have hlives : Lives true (fun _ => True) session (session.run moves) :=
    lives_run h (fun hnot => nomatch hnot) fun _ _ _ _ _ _ _ => trivial
  exact hlives.poised h

end Session

end Messenger
