import Messenger.Proofs.Event.Restarts
import Messenger.Proofs.Session.Underway

/-!
What a session holds in the background, and since when: whatever happens, what has been stopped is
not set going again, and the queue of events takes what the journal tells of.
-/

namespace Messenger

namespace EventQueue

/-- Whether a move leaves the listeners as they are. -/
def Move.isInner : Move String → Bool
  | .addListener _ => false
  | .removeListener _ => false
  | _ => true

theorem registered_of_inner (listeners : List String) {moves : List (Move String)}
    (hinner : ∀ move ∈ moves, move.isInner = true) :
    registered listeners moves = listeners := by
  induction moves with
  | nil => rfl
  | cons move rest induction =>
      have hmove := hinner move (List.mem_cons_self ..)
      have hrest := induction fun other hother => hinner other (List.mem_cons_of_mem move hother)
      cases move with
      | addListener listener => cases hmove
      | removeListener listener => cases hmove
      | _ => exact hrest

theorem run_appends (queue : EventQueue String) (reports : List Report) :
    (queue.run (reports.map .append)).1.flatten = [] ∧
      (queue.run (reports.map .append)).2 = reports.foldl append queue := by
  induction reports generalizing queue with
  | nil => exact ⟨rfl, rfl⟩
  | cons report rest induction => exact induction (queue.append report)

theorem accepted_appends (running : Bool) (reports : List Report) :
    accepted running (reports.map (Move.append (ι := String))) =
      if running then reports else [] := by
  induction reports with
  | nil => cases running <;> rfl
  | cons report rest induction =>
      cases running <;> simp_all [accepted, Move.arrival, Move.leaves]

/-- A queue that runs has run all the time, or opened a course since. -/
theorem running_run (queue : EventQueue String) {moves : List (Move String)}
    (hrunning : (queue.run moves).2.running = true) :
    queue.running = true ∨ queue.courses.length < (queue.run moves).2.courses.length := by
  induction moves generalizing queue with
  | nil => exact .inl hrunning
  | cons move rest induction =>
      have hnext : (queue.step move).2.running = true ∨
          queue.courses.length < ((queue.step move).2.run rest).2.courses.length := by
        refine (induction (queue.step move).2 hrunning).imp_right ?_
        rw [step_courses]
        omega
      rcases hnext with hstill | hopened
      · rw [step_running] at hstill
        cases hbefore : queue.running with
        | true => exact .inl rfl
        | false =>
            rw [hbefore] at hstill
            have hstart : move = .start := by
              cases move <;> first | rfl | cases hstill
            have hopened := run_courses_le (queue.step move).2 rest
            rw [step_courses, if_pos ⟨hstart, hbefore⟩] at hopened
            exact .inr hopened
      · exact .inr hopened

end EventQueue

namespace Session

/-- Some moves of its queue lead from one session to another, and the journal tells of the reports
they accept. -/
structure DrivenBy (before after : Session) (moves : List (EventQueue.Move String))
    (noted : List Happening) : Prop where
  journal : after.journal = before.journal ++ noted
  events : after.events = (before.events.run moves).2
  delivered : after.delivered = before.delivered ++ (before.events.run moves).1.flatten
  accepted : EventQueue.accepted before.events.running moves = reportsOf noted
  /-- The queue is started only for a login. -/
  began : .entered .connecting ∉ noted → .start ∉ moves
  inner : ∀ move ∈ moves, move.isInner = true

def Drives (before after : Session) : Prop :=
  ∃ moves noted, DrivenBy before after moves noted

namespace Drives

theorem of_noted {before after : Session} (noted : List Happening)
    (hjournal : after.journal = before.journal ++ noted) (hmute : reportsOf noted = [])
    (hevents : after.events = before.events) (hdelivered : after.delivered = before.delivered) :
    Drives before after :=
  ⟨[], noted, hjournal, hevents, by simpa [EventQueue.run] using hdelivered, hmute.symm, by simp,
    by simp⟩

theorem of_same {before after : Session} (hjournal : after.journal = before.journal)
    (hevents : after.events = before.events) (hdelivered : after.delivered = before.delivered) :
    Drives before after :=
  of_noted [] (by simpa using hjournal) rfl hevents hdelivered

theorem refl (session : Session) : Drives session session :=
  of_same rfl rfl rfl

theorem trans {first second third : Session} (hfirst : Drives first second)
    (hsecond : Drives second third) :
    Drives first third := by
  obtain ⟨moves, noted, hmoves⟩ := hfirst
  obtain ⟨later, notedLater, hlater⟩ := hsecond
  refine ⟨moves ++ later, noted ++ notedLater, ?_, ?_, ?_, ?_, ?_, ?_⟩
  · rw [hlater.journal, hmoves.journal, List.append_assoc]
  · rw [hlater.events, hmoves.events, EventQueue.run_append]
  · rw [hlater.delivered, hmoves.delivered, hmoves.events, EventQueue.run_append,
      List.flatten_append, List.append_assoc]
  · have hrunning := EventQueue.run_running first.events moves
    rw [← hmoves.events] at hrunning
    rw [EventQueue.accepted_append, ← hrunning, hmoves.accepted, hlater.accepted,
      reportsOf_append]
  · intro hsame
    rw [List.mem_append, not_or] at hsame ⊢
    exact ⟨hmoves.began hsame.1, hlater.began hsame.2⟩
  · intro move hmem
    rcases List.mem_append.mp hmem with hearly | hlate
    · exact hmoves.inner move hearly
    · exact hlater.inner move hlate

/-- A queue that is killed accepts nothing. -/
theorem kill {before after : Session} (hjournal : after.journal = before.journal)
    (hevents : after.events = before.events.kill)
    (hdelivered : after.delivered = before.delivered) :
    Drives before after :=
  ⟨[.kill], [], by simpa using hjournal, hevents,
    by simpa [EventQueue.run, EventQueue.step] using hdelivered,
    by cases before.events.running <;> rfl, by simp, by simp [EventQueue.Move.isInner]⟩

end Drives

theorem Voices.drives {before after : Session} (h : Voices before after) :
    Drives before after := by
  obtain ⟨noted, hjournal, hevents, hmute⟩ := h.events
  obtain ⟨hnothing, hqueue⟩ := before.events.run_appends (reportsOf noted)
  refine ⟨(reportsOf noted).map .append, noted, hjournal, hevents.trans hqueue.symm, ?_, ?_,
    by simp, by simp [EventQueue.Move.isInner]⟩
  · rw [hnothing, List.append_nil]
    exact h.delivered
  · rw [EventQueue.accepted_appends]
    cases hrunning : before.events.running with
    | true => rfl
    | false => exact (hmute hrunning).symm

theorem drives_note (session : Session) {happening : Happening}
    (hmute : happening.report? = none) :
    Drives session (session.note happening) :=
  .of_noted [happening] rfl (by simp [reportsOf, hmute]) rfl rfl

theorem drives_enter (session : Session) (state : SessionState) :
    Drives session (session.enter state) := by
  by_cases hsame : session.state = state
  · exact .of_same (by simp [enter, hsame]) rfl rfl
  · exact .of_noted [.entered state] (by simp [enter, hsame]) rfl rfl rfl

theorem drives_fail (session : Session) (error : SessionError) :
    Drives session (session.fail error) := by
  have hmarked : Drives session { session with failure := some error } := .of_same rfl rfl rfl
  exact hmarked.trans (drives_enter _ _)

theorem drives_enqueue (session : Session) (outgoing : Outgoing Sending) :
    Drives session (session.enqueue outgoing) := by
  refine .of_noted _ rfl ?_ rfl rfl
  simp only [reportsOf, List.filterMap_map, List.filterMap_eq_nil_iff]
  exact fun _ _ => rfl

theorem drives_submit (session : Session) (packet : Packet) :
    Drives session (session.submit packet).2 := by
  have hnumbered : Drives session { session with tickets := session.tickets + 1 } :=
    .of_same rfl rfl rfl
  unfold submit
  dsimp only
  split
  · exact hnumbered.trans (drives_enqueue _ _)
  · exact .of_same rfl rfl rfl

end Session

namespace Schedule

variable {ρ : Type}

/-- Every task of a later schedule is one of before, or has been added since. -/
structure Extends (before after : Schedule ρ) : Prop where
  count : before.count ≤ after.count
  tasks : ∀ task ∈ after.tasks, (∃ earlier ∈ before.tasks, earlier.number = task.number) ∨
    before.count ≤ task.number

namespace Extends

theorem refl (schedule : Schedule ρ) : Extends schedule schedule :=
  ⟨Nat.le_refl _, fun task hmem => .inl ⟨task, hmem, rfl⟩⟩

theorem trans {first second third : Schedule ρ} (hfirst : Extends first second)
    (hsecond : Extends second third) :
    Extends first third where
  count := Nat.le_trans hfirst.count hsecond.count
  tasks task hmem := by
    rcases hsecond.tasks task hmem with ⟨earlier, hearlier, hnumber⟩ | hadded
    · rw [← hnumber]
      exact hfirst.tasks earlier hearlier
    · exact .inr (Nat.le_trans hfirst.count hadded)

theorem add (schedule : Schedule ρ) (request : ρ) (period : Nat) :
    Extends schedule (schedule.add request period) where
  count := Nat.le_succ _
  tasks task hmem := by
    rcases List.mem_append.mp hmem with hold | hnew
    · exact .inl ⟨task, hold, rfl⟩
    · rw [List.mem_singleton.mp hnew]
      exact .inr (Nat.le_refl _)

theorem of_numbers {before after : Schedule ρ} (hcount : after.count = before.count)
    (hnumbers : ∀ task ∈ after.tasks, ∃ earlier ∈ before.tasks, earlier.number = task.number) :
    Extends before after :=
  ⟨Nat.le_of_eq hcount.symm, fun task hmem => .inl (hnumbers task hmem)⟩

/-- Tasks that are put off or come to an end keep their numbers. -/
theorem map (schedule : Schedule ρ) {change : Task ρ → Task ρ}
    (hnumber : ∀ task, (change task).number = task.number) :
    Extends schedule { schedule with tasks := schedule.tasks.map change } := by
  refine of_numbers rfl fun task hmem => ?_
  obtain ⟨earlier, hearlier, rfl⟩ := List.mem_map.mp hmem
  exact ⟨earlier, hearlier, (hnumber earlier).symm⟩

theorem rearm (schedule : Schedule ρ) (number : Nat) :
    Extends schedule (schedule.rearm number) :=
  map schedule fun task => by split <;> rfl

theorem finish (schedule : Schedule ρ) (number : Nat) :
    Extends schedule (schedule.finish number) :=
  map schedule fun task => by split <;> rfl

end Extends

end Schedule

namespace Session

/-- Whether a connection is read, or its reader is at work. -/
def IsRead (session : Session) (index : Nat) : Prop :=
  session.working = some index ∨
    ∃ reader : Reader, reader ≠ .stopped ∧ session.standing.readers[index]? = some reader

/-- Whatever runs in a later session has run before, or has been started since. -/
structure Proceeds (before after : Session) : Prop where
  read : ∀ index, after.IsRead index →
    before.IsRead index ∨ before.standing.readers.length ≤ index
  writer : ∀ index, after.link.writer = some index →
    before.link.writer = some index ∨ before.standing.readers.length ≤ index
  connections : before.standing.readers.length ≤ after.standing.readers.length
  schedule : before.schedule.Extends after.schedule
  queue : Drives before after

namespace Proceeds

theorem of_fewer {before after : Session}
    (hread : ∀ index, after.IsRead index → before.IsRead index)
    (hlength : after.standing.readers.length = before.standing.readers.length)
    (hwriter : after.link.writer = before.link.writer) (hqueue : Drives before after)
    (hschedule : before.schedule.Extends after.schedule) :
    Proceeds before after where
  read _ hfound := .inl (hread _ hfound)
  writer _ hfound := .inl (hwriter.symm.trans hfound)
  connections := Nat.le_of_eq hlength.symm
  schedule := hschedule
  queue := hqueue

theorem of_readers {before after : Session}
    (hreaders : after.standing.readers = before.standing.readers)
    (hworking : after.working = before.working) (hwriter : after.link.writer = before.link.writer)
    (hqueue : Drives before after) (hschedule : before.schedule.Extends after.schedule) :
    Proceeds before after := by
  refine of_fewer (fun _ hread => ?_) (congrArg List.length hreaders) hwriter hqueue hschedule
  unfold IsRead at hread
  rwa [hreaders, hworking] at hread

theorem of_standing {before after : Session} (hstanding : after.standing = before.standing)
    (hqueue : Drives before after) (hschedule : before.schedule.Extends after.schedule) :
    Proceeds before after :=
  of_readers (congrArg Standing.readers hstanding) (congrArg Standing.working hstanding)
    (congrArg Standing.writer hstanding) hqueue hschedule

theorem refl (session : Session) : Proceeds session session :=
  of_standing rfl (.refl session) (.refl _)

theorem trans {first second third : Session} (hfirst : Proceeds first second)
    (hsecond : Proceeds second third) :
    Proceeds first third where
  read index hread := by
    rcases hsecond.read index hread with hearlier | hnew
    · exact hfirst.read index hearlier
    · exact .inr (Nat.le_trans hfirst.connections hnew)
  writer index hwriter := by
    rcases hsecond.writer index hwriter with hearlier | hnew
    · exact hfirst.writer index hearlier
    · exact .inr (Nat.le_trans hfirst.connections hnew)
  connections := Nat.le_trans hfirst.connections hsecond.connections
  schedule := hfirst.schedule.trans hsecond.schedule
  queue := hfirst.queue.trans hsecond.queue

end Proceeds

theorem Undisturbed.proceeds {before after : Session} (h : Undisturbed before after) :
    Proceeds before after :=
  .of_standing h.standing h.voices.drives (h.schedule ▸ .refl _)

theorem Mourns.proceeds {before after : Session} {text : String} (h : Mourns before text after) :
    Proceeds before after :=
  .of_standing h.standing h.voices.drives (h.schedule ▸ .refl _)

theorem proceeds_note (session : Session) {happening : Happening}
    (hmute : happening.report? = none) :
    Proceeds session (session.note happening) :=
  .of_standing rfl (drives_note session hmute) (.refl _)

theorem proceeds_enter (session : Session) (state : SessionState) :
    Proceeds session (session.enter state) :=
  .of_readers rfl rfl rfl (drives_enter session state) (.refl _)

theorem proceeds_fail (session : Session) (error : SessionError) :
    Proceeds session (session.fail error) :=
  .of_readers rfl rfl rfl (drives_fail session error) (.refl _)

theorem proceeds_report (session : Session) (service : Option Service) (event : Event) :
    Proceeds session (session.report service event) :=
  .of_standing (standing_report session service event) (Voices.report session service event).drives
    (.refl _)

theorem proceeds_enqueue (session : Session) (outgoing : Outgoing Sending) :
    Proceeds session (session.enqueue outgoing) :=
  .of_standing (standing_enqueue session outgoing) (drives_enqueue session outgoing) (.refl _)

theorem proceeds_submit (session : Session) (packet : Packet) :
    Proceeds session (session.submit packet).2 := by
  refine .of_standing (standing_submit session packet) (drives_submit session packet) ?_
  unfold submit
  dsimp only
  split <;> exact .refl _

theorem proceeds_await (session : Session) (number : Nat) (phase : Phase) :
    Proceeds session (session.await number phase) :=
  .of_readers rfl rfl rfl (.of_same rfl rfl rfl) (.refl _)

theorem proceeds_beginCall (session : Session) : Proceeds session session.beginCall.2 :=
  .of_readers rfl rfl rfl (.of_same rfl rfl rfl) (.refl _)

/-- The reader that is stopped is left alone only while it is at work. -/
theorem isRead_of_stopReader {standing : Standing} {index : Nat} {reader : Reader}
    (hgoing : reader ≠ .stopped) (hfound : standing.stopReader.readers[index]? = some reader) :
    standing.working = some index ∨ standing.readers[index]? = some reader := by
  unfold Standing.stopReader at hfound
  cases hown : standing.reader with
  | none =>
      rw [hown] at hfound
      exact .inr hfound
  | some own =>
      simp only [hown] at hfound
      by_cases hindex : own = index
      · subst hindex
        by_cases hworking : standing.working = some own
        · exact .inl hworking
        · rw [if_neg hworking, List.getElem?_set_self'] at hfound
          cases hstood : standing.readers[own]? with
          | none => simp [hstood] at hfound
          | some stood =>
              rw [hstood] at hfound
              exact absurd (Option.some.inj hfound).symm hgoing
      · rw [List.getElem?_set_ne hindex] at hfound
        exact .inr hfound

theorem length_stopReader (standing : Standing) :
    standing.stopReader.readers.length = standing.readers.length := by
  unfold Standing.stopReader
  cases standing.reader <;> simp

theorem isRead_stopReader {before after : Session}
    (hreaders : after.standing.readers = before.standing.stopReader.readers)
    (hworking : after.working = before.working) {index : Nat} (hread : after.IsRead index) :
    before.IsRead index := by
  rcases hread with hown | ⟨reader, hgoing, hfound⟩
  · exact .inl (hworking.symm.trans hown)
  · rw [hreaders] at hfound
    rcases isRead_of_stopReader hgoing hfound with hown | hstood
    · exact .inl hown
    · exact .inr ⟨reader, hgoing, hstood⟩

theorem proceeds_teardown (session : Session) : Proceeds session session.teardown where
  read index hread := by
    refine .inl (isRead_stopReader ?_ ?_ hread)
    · rw [standing_teardown]
      rfl
    · rfl
  writer index hwriter := by
    have hnone := congrArg Standing.writer (standing_teardown session)
    rw [show session.teardown.link.writer = none from hnone] at hwriter
    cases hwriter
  connections := by
    rw [standing_teardown]
    exact Nat.le_of_eq (length_stopReader session.standing).symm
  schedule := ⟨Nat.le_refl _, fun task hmem => nomatch hmem⟩
  queue := .kill rfl rfl rfl

theorem proceeds_release (session : Session) : Proceeds session session.release where
  read index hread := by
    refine .inl (isRead_stopReader ?_ ?_ hread)
    · rw [standing_release]
      rfl
    · rfl
  writer index hwriter :=
    .inl ((congrArg Standing.writer (standing_release session)).symm.trans hwriter)
  connections := by
    rw [standing_release]
    exact Nat.le_of_eq (length_stopReader session.standing).symm
  schedule := .refl _
  queue := .kill rfl rfl rfl

theorem proceeds_finish (session : Session) (number : Nat) (result : Except SessionError Unit) :
    Proceeds session (session.finish number result) := by
  have hanswered : Proceeds session { session with
      calls := session.calls.filter fun call => call.number != number
      results := session.results ++ [⟨number, result⟩] } :=
    .of_readers rfl rfl rfl (.of_same rfl rfl rfl) (.refl _)
  unfold finish
  dsimp only
  split
  · exact hanswered
  · exact hanswered.trans (proceeds_release _)

theorem proceeds_drop (session : Session) : Proceeds session session.drop := by
  have hdropped : Proceeds session { session with held := false } :=
    .of_readers rfl rfl rfl (.of_same rfl rfl rfl) (.refl _)
  unfold drop
  dsimp only
  split
  · exact hdropped
  · exact hdropped.trans (proceeds_release _)

theorem proceeds_abandonLogin (session : Session) (number : Nat) (error : SessionError) :
    Proceeds session (session.abandonLogin number error) := by
  have hforgotten : Proceeds session { session with password := none } :=
    .of_readers rfl rfl rfl (.of_same rfl rfl rfl) (.refl _)
  exact (hforgotten.trans (proceeds_teardown _)).trans (proceeds_finish _ _ _)

theorem proceeds_failLogin (session : Session) (number : Nat) (error : SessionError) :
    Proceeds session (session.failLogin number error) :=
  (proceeds_fail session error).trans (proceeds_abandonLogin _ _ _)

theorem proceeds_awaitHandshake (session : Session) (number deadline : Nat) :
    Proceeds session (session.awaitHandshake number deadline) := by
  have hforgotten : Proceeds session { session with password := none } :=
    .of_readers rfl rfl rfl (.of_same rfl rfl rfl) (.refl _)
  unfold awaitHandshake
  split
  · split
    · exact hforgotten.trans (proceeds_finish _ _ _)
    · exact proceeds_abandonLogin _ _ _
  · split
    · exact proceeds_failLogin _ _ _
    · exact proceeds_await _ _ _

/-- The only connection that is taken up is a new one. -/
theorem proceeds_attach (session : Session) (writeFault : Option String) :
    Proceeds session (session.attach writeFault) where
  read index hread := by
    rcases hread with hown | ⟨reader, hgoing, hfound⟩
    · exact .inl (.inl hown)
    · rw [standing_attach] at hfound
      rcases isRead_of_stopReader hgoing hfound with hown | hstood
      · exact .inl (.inl hown)
      · rcases Nat.lt_or_ge index session.standing.readers.length with hold | hnew
        · rw [List.getElem?_append_left hold] at hstood
          exact .inl (.inr ⟨reader, hgoing, hstood⟩)
        · exact .inr hnew
  writer index hwriter := by
    have hnew := congrArg Standing.writer (standing_attach session writeFault)
    rw [show (session.attach writeFault).link.writer = some session.standing.readers.length from
      hnew] at hwriter
    exact .inr (Nat.le_of_eq (Option.some.inj hwriter))
  connections := by
    rw [standing_attach]
    refine Nat.le_trans ?_ (Nat.le_of_eq (length_stopReader _).symm)
    simp
  schedule := (Schedule.Extends.add _ _ _).trans (.add _ _ _)
  queue := .of_same rfl rfl rfl

theorem proceeds_openChannel (session : Session) (number : Nat) (username : String)
    (writeFault : Option String) :
    Proceeds session (session.openChannel number username writeFault) :=
  ((proceeds_attach session writeFault).trans (proceeds_submit _ _)).trans (proceeds_await _ _ _)

theorem proceeds_connect (session : Session) (number : Nat) (username : String)
    (outcome : ConnectOutcome) :
    Proceeds session (session.connect number username outcome) := by
  cases outcome with
  | opened writeFault => exact proceeds_openChannel session number username writeFault
  | refused text => exact proceeds_failLogin session number _
  | pending => exact proceeds_await session number _

/-- A login starts the queue and begins to connect. -/
theorem drives_startLogin {session : Session} (hstate : session.state = .unstarted)
    (username password : String) :
    DrivenBy session (session.startLogin username password) [.start] [.entered .connecting] where
  journal := journal_startLogin hstate username password
  events := rfl
  delivered := by simp [EventQueue.run, EventQueue.step, startLogin, enter]
  accepted := by cases session.events.running <;> rfl
  began hsame := absurd (List.mem_singleton.mpr rfl) hsame
  inner := by simp [EventQueue.Move.isInner]

theorem proceeds_startLogin {session : Session} (hstate : session.state = .unstarted)
    (username password : String) :
    Proceeds session (session.startLogin username password) :=
  .of_readers rfl rfl rfl ⟨_, _, drives_startLogin hstate username password⟩ (.refl _)

theorem proceeds_login (session : Session) (username password : String) :
    Proceeds session (session.login username password) := by
  unfold login
  refine (proceeds_beginCall session).trans ?_
  dsimp only
  split
  · exact proceeds_finish _ _ _
  · rename_i hstate
    rw [Decidable.not_not] at hstate
    split
    · exact (proceeds_fail _ _).trans (proceeds_finish _ _ _)
    · exact (proceeds_startLogin hstate _ _).trans (proceeds_connect _ _ _ _)

theorem proceeds_logout (session : Session) : Proceeds session session.logout := by
  unfold logout
  refine (proceeds_beginCall session).trans ?_
  dsimp only
  split
  · exact proceeds_finish _ _ _
  · exact ((proceeds_enter _ _).trans (proceeds_submit _ _)).trans (proceeds_await _ _ _)

theorem proceeds_reset (session : Session) : Proceeds session session.reset := by
  unfold reset
  refine (proceeds_beginCall session).trans ?_
  dsimp only
  split
  · have htorn := (proceeds_enter session.beginCall.2 .unstarted).trans (proceeds_teardown _)
    refine (htorn.trans ?_).trans (proceeds_finish _ _ _)
    exact .of_readers rfl rfl rfl (.of_same rfl rfl rfl) (.refl _)
  · exact proceeds_finish _ _ _

theorem proceeds_goOn (session : Session) (call : Call) :
    Proceeds session (session.goOn call) := by
  unfold goOn
  split
  · exact .refl session
  · split
    · exact .refl session
    · exact proceeds_awaitHandshake session _ _
    · exact proceeds_failLogin session _ _
  · exact proceeds_awaitHandshake session _ _
  · split
    · exact .refl session
    · exact (proceeds_teardown session).trans (proceeds_finish _ _ _)

theorem proceeds_resume (session : Session) (number : Nat) :
    Proceeds session (session.resume number) := by
  unfold resume
  split
  · split
    · exact proceeds_goOn session _
    · exact .refl session
  · exact .refl session

theorem proceeds_resolveConnect (session : Session) (number : Nat) (outcome : ConnectOutcome) :
    Proceeds session (session.resolveConnect number outcome) := by
  unfold resolveConnect
  split
  · exact proceeds_connect session number _ outcome
  · exact .refl session

theorem Reacted.proceeds {before after : Session} {reaction : Reaction} {packet : Packet}
    {result : Except HandlerError Unit} (h : Reacted before reaction packet (after, result)) :
    Proceeds before after := by
  cases h with
  | aside hafter hchallenge => exact hafter.proceeds
  | answered hreaction hstate hvalue hresponse =>
      exact (proceeds_enter before _).trans (proceeds_enqueue _ _)
  | refused hfault => exact proceeds_fail before _
  | welcomed hreaction htold hstate =>
      exact htold.proceeds.trans ((proceeds_enter _ _).trans (proceeds_report _ _ _))
  | evicted hreaction hstate hbody =>
      exact ((proceeds_enter before _).trans (proceeds_report _ _ _)).trans (proceeds_teardown _)

theorem Handled.proceeds {before after : Session} {connection : Nat} {packet : Packet}
    (h : Handled before connection packet after) :
    Proceeds before after := by
  have hnoted : reportsOf [.received connection packet] = [] := rfl
  cases h with
  | unrouted hroute hstanding hschedule hjournal hqueue =>
      refine Proceeds.trans ?_ (proceeds_note _ rfl)
      exact .of_standing hstanding (.of_noted _ hjournal hnoted hqueue.1 hqueue.2)
        (hschedule ▸ .refl _)
  | reacted hroute hstanding hschedule hjournal hreacted hqueue =>
      refine (Proceeds.trans ?_ hreacted.proceeds).trans (proceeds_note _ rfl)
      exact .of_standing hstanding (.of_noted _ hjournal hnoted hqueue.1 hqueue.2)
        (hschedule ▸ .refl _)

/-- A reader that is at work has not been stopped. -/
theorem proceeds_startReading {session : Session} {index : Nat} (hread : session.IsRead index)
    (rest : Text.Bytes) :
    Proceeds session (session.startReading index rest) := by
  have hstanding := standing_startReading session index rest
  refine .of_fewer (fun other hother => ?_) (by rw [hstanding]) rfl (.of_same rfl rfl rfl) (.refl _)
  rcases hother with hown | ⟨reader, hgoing, hfound⟩
  · cases hown
    exact hread
  · rw [hstanding] at hfound
    exact .inr ⟨reader, hgoing, hfound⟩

theorem proceeds_busy {session : Session} {index : Nat} (hread : session.IsRead index) :
    Proceeds session { session with working := some index } := by
  refine .of_fewer (fun other hother => ?_) rfl rfl (.of_same rfl rfl rfl) (.refl _)
  rcases hother with hown | hgoing
  · cases hown
    exact hread
  · exact .inr hgoing

theorem proceeds_idle (session : Session) : Proceeds session { session with working := none } :=
  .of_fewer (fun _ hread => .inr (hread.resolve_left nofun)) rfl rfl (.of_same rfl rfl rfl)
    (.refl _)

theorem proceeds_stopReading (session : Session) (index : Nat) :
    Proceeds session (session.stopReading index) := by
  have hstanding := standing_stopReading session index
  refine .of_fewer (fun other hother => ?_) (by simp [hstanding]) rfl (.of_same rfl rfl rfl)
    (.refl _)
  rcases hother with hown | ⟨reader, hgoing, hfound⟩
  · exact .inl hown
  · rw [hstanding] at hfound
    exact .inr ⟨reader, hgoing, (Standing.readers_set_ne hgoing.symm hfound).2⟩

theorem ReadStep.proceeds {before after : Session} {index : Nat} (h : ReadStep before index after)
    (hread : before.IsRead index) :
    Proceeds before after := by
  have hbusy := proceeds_busy hread
  have htaken := proceeds_startReading hread
  cases h with
  | packet hhandled => exact ((htaken _).trans hhandled.proceeds).trans (proceeds_idle _)
  | malformed hstate =>
      exact (((htaken _).trans (proceeds_fail _ _)).trans (proceeds_stopReading _ _)).trans
        (proceeds_idle _)
  | passedOver hstate => exact (htaken _).trans (proceeds_idle _)
  | cutOff hstate =>
      exact ((proceeds_fail before _).trans (proceeds_idle _)).trans (proceeds_stopReading _ _)
  | lost hstate htold =>
      exact ((((hbusy.trans htold.proceeds).trans (proceeds_fail _ _)).trans
        (proceeds_teardown _)).trans (proceeds_idle _)).trans (proceeds_stopReading _ _)
  | ended hstate => exact (proceeds_idle before).trans (proceeds_stopReading _ _)

theorem proceeds_read? {session next : Session} {index : Nat}
    (hread : session.read? index = some next) :
    Proceeds session next := by
  refine read?_induction (motive := Proceeds session) ?_ ?_ (.refl session) hread
  · intro before after hbefore hnext
    obtain ⟨hgoing, hstep⟩ := readNext?_step hnext
    obtain ⟨reader, hfound, hne⟩ := hgoing
    exact hbefore.trans (hstep.proceeds (.inr ⟨reader, hne, hfound⟩))
  · intro before hbefore
    exact hbefore.trans (proceeds_stopReading before index)

theorem Carries.mute {before after : Session} (h : Carries before after)
    (hevents : after.events = before.events) (hdelivered : after.delivered = before.delivered) :
    Drives before after := by
  obtain ⟨noted, hjournal, hsent⟩ := h.journal
  refine .of_noted noted hjournal ?_ hevents hdelivered
  refine List.filterMap_eq_nil_iff.mpr fun happening hmem => ?_
  obtain ⟨connection, packet, rfl, -⟩ := hsent happening hmem
  rfl

theorem Carries.proceeds {before after : Session} (h : Carries before after)
    (hevents : after.events = before.events) (hdelivered : after.delivered = before.delivered)
    (hschedule : before.schedule.Extends after.schedule) :
    Proceeds before after :=
  .of_standing h.standing (h.mute hevents hdelivered) hschedule

theorem proceeds_tick? {session next : Session} (htick : session.tick? = some next) :
    Proceeds session next := by
  have hcarries := tick?_carries htick
  obtain ⟨task, -, rfl⟩ := Option.map_eq_some_iff.mp htick
  have harmed := Schedule.Extends.rearm session.schedule task.number
  dsimp only at hcarries ⊢
  split
  · rename_i hgone
    rw [if_pos hgone] at hcarries
    exact hcarries.proceeds rfl rfl (harmed.trans (.finish _ _))
  · rename_i hgone
    rw [if_neg hgone] at hcarries
    cases hrequest : task.request <;>
      · rw [hrequest] at hcarries
        exact hcarries.proceeds rfl rfl harmed

theorem proceeds_write? {session next : Session} {index : Nat}
    (hwrite : session.write? index = some next) :
    Proceeds session next := by
  have hcarries := write?_carries hwrite
  obtain ⟨⟨written, link⟩, -, rfl⟩ := Option.map_eq_some_iff.mp hwrite
  dsimp only at hcarries ⊢
  cases hreply : written.outgoing.reply <;>
    · rw [hreply] at hcarries
      exact hcarries.proceeds rfl rfl (.refl _)

theorem queue_ask (session : Session) (store : Nat) (request : Conference.Request) :
    (session.ask store request).events = session.events ∧
      (session.ask store request).delivered = session.delivered ∧
      (session.ask store request).schedule = session.schedule := by
  cases request <;>
    simp only [ask, createRoom, inviteTo, acceptRoom, declineRoom, leaveRoom, sayIn, withStore] <;>
    (repeat' split) <;> exact ⟨rfl, rfl, rfl⟩

theorem proceeds_ask (session : Session) (store : Nat) (request : Conference.Request) :
    Proceeds session (session.ask store request) := by
  obtain ⟨hevents, hdelivered, hschedule⟩ := queue_ask session store request
  exact (ask_carries session store request).proceeds hevents hdelivered (hschedule ▸ .refl _)

theorem drives_deliver (session : Session) (course : Nat) :
    DrivenBy session (session.deliver course) [.deliver course] [] where
  journal := (List.append_nil _).symm
  events := rfl
  delivered := by simp [EventQueue.run, EventQueue.step, deliver]
  accepted := by cases session.events.running <;> rfl
  began _ := by simp
  inner := by simp [EventQueue.Move.isInner]

theorem proceeds_deliver (session : Session) (course : Nat) :
    Proceeds session (session.deliver course) :=
  .of_standing (standing_deliver session course) ⟨_, _, drives_deliver session course⟩ (.refl _)

theorem proceeds_step (session : Session) (move : Move) :
    Proceeds session (session.step move) := by
  cases move with
  | login username password =>
      dsimp only [step]
      split
      · exact proceeds_login session username password
      · exact .refl session
  | logout =>
      dsimp only [step]
      split
      · exact proceeds_logout session
      · exact .refl session
  | reset =>
      dsimp only [step]
      split
      · exact proceeds_reset session
      · exact .refl session
  | read connection =>
      dsimp only [step]
      cases hread : session.read? connection with
      | none => exact .refl session
      | some next => exact proceeds_read? hread
  | write connection =>
      dsimp only [step]
      cases hwrite : session.write? connection with
      | none => exact .refl session
      | some next => exact proceeds_write? hwrite
  | tick =>
      dsimp only [step]
      cases htick : session.tick? with
      | none => exact .refl session
      | some next => exact proceeds_tick? htick
  | arrive connection bytes =>
      exact .of_standing (standing_onConnection session connection fun _ => rfl)
        (.of_same rfl rfl rfl) (.refl _)
  | faultWrites connection writeFault =>
      exact .of_standing (standing_onConnection session connection fun _ => rfl)
        (.of_same rfl rfl rfl) (.refl _)
  | endInbound connection finish =>
      exact .of_standing (standing_endInbound session connection finish) (.of_same rfl rfl rfl)
        (.refl _)
  | finishServer connection =>
      exact .of_standing (standing_finishServer session connection) (.of_same rfl rfl rfl) (.refl _)
  | dropServer connection =>
      exact .of_standing (standing_dropServer session connection) (.of_same rfl rfl rfl) (.refl _)
  | close connection =>
      exact .of_standing (standing_closeWriter session connection) (.of_same rfl rfl rfl) (.refl _)
  | elapseTo time =>
      exact .of_standing rfl (.of_same rfl rfl rfl)
        ⟨Nat.le_refl _, fun task hmem => .inl ⟨task, hmem, rfl⟩⟩
  | attachStore policy => exact .of_readers rfl rfl rfl (.of_same rfl rfl rfl) (.refl _)
  | resolveConnect call outcome => exact proceeds_resolveConnect session call outcome
  | drop => exact proceeds_drop session
  | deliver course => exact proceeds_deliver session course
  | resume call => exact proceeds_resume session call
  | ask store request => exact proceeds_ask session store request

theorem proceeds_run (session : Session) (moves : List Move) :
    Proceeds session (session.run moves) :=
  run_keeps (fun between move h => h.trans (proceeds_step between move)) (.refl session) moves

end Session

end Messenger
