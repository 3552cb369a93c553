import Messenger.Proofs.Session.Apart
import Messenger.Proofs.Session.Holdings
import Messenger.Proofs.Session.Silence
import Messenger.Proofs.Session.Telling

/-!
What the listeners of a session learn of a login attempt: that its login is complete, how its
session ended, and nothing after that.
-/

namespace Messenger

open SessionState (Trail)

namespace EventQueue

section

variable {ι : Type} {queue : EventQueue ι}

@[simp] theorem listeners_start (queue : EventQueue ι) :
    queue.start.listeners = queue.listeners := by
  unfold start
  split <;> rfl

theorem last_start_lt (hopened : queue.running = true → 0 < queue.courses.length) :
    queue.start.last < queue.start.courses.length := by
  unfold start last
  split
  · rename_i hrunning
    have hsome := hopened hrunning
    omega
  · simp

theorem line_last_start (hstopped : queue.running = false) :
    queue.start.line queue.start.last = [] := by
  simp [start, hstopped, last, line]

theorem waiting_start (queue : EventQueue ι) (hwaiting : queue.waiting = []) :
    queue.start.waiting = [] := by
  unfold start
  split
  · exact hwaiting
  · simpa [waiting] using hwaiting

end

variable {moves : List (Move String)} (hinner : ∀ move ∈ moves, move.isInner = true)

theorem accepted_of_no_start (running : Bool) (hsame : .start ∉ moves) :
    accepted running moves = if running then appended moves else [] := by
  induction moves generalizing running with
  | nil => cases running <;> rfl
  | cons move rest induction =>
      rw [List.mem_cons, not_or] at hsame
      have hrest := induction (move.leaves running) hsame.2
      cases running <;> cases move <;> simp_all [accepted, appended, Move.arrival, Move.ends,
        Move.leaves]

include hinner

/-- A course hands out a first part of what it takes, to the listeners there are. -/
theorem run_course (queue : EventQueue String) {course : Nat}
    (hcourse : course < queue.courses.length) :
    ∃ handed : List Report,
      (queue.run moves).1.flatten.filter (·.course == course) =
        handed.flatMap (handOut queue.listeners course) ∧
      handed ++ (queue.run moves).2.line course =
        queue.line course ++ if queue.takes course then appended moves else [] := by
  refine ⟨(queue.handedAlong course moves).flatten, ?_, run_line hcourse moves⟩
  clear hcourse
  induction moves generalizing queue with
  | nil => rfl
  | cons move rest induction =>
      have hrest := fun other hother => hinner other (List.mem_cons_of_mem move hother)
      have hlisteners : (queue.step move).2.listeners = queue.listeners := by
        rw [step_listeners]
        refine registered_of_inner _ fun other hother => hinner other ?_
        rw [List.mem_singleton.mp hother]
        exact List.mem_cons_self ..
      have hlater := induction hrest (queue.step move).2
      rw [hlisteners] at hlater
      simp only [run, handedAlong, List.flatten_cons, List.filter_append, List.flatMap_append,
        step_made, hlater]

/-- Where nothing waits in the older courses, all deliveries are those of the last one. -/
theorem run_made_last (queue : EventQueue String) (hsame : .start ∉ moves)
    (hempty : ∀ course, course ≠ queue.last → queue.line course = []) :
    (queue.run moves).1.flatten.filter (·.course == queue.last) = (queue.run moves).1.flatten := by
  refine List.filter_eq_self.mpr fun delivery hmem => ?_
  obtain ⟨made, hmade, hdelivery⟩ := List.mem_flatten.mp hmem
  have hcourse := run_course_lt hmade hdelivery
  rw [run_courses_of_no_start queue hsame] at hcourse
  refine Decidable.byContradiction fun hne => ?_
  rw [beq_iff_eq] at hne
  obtain ⟨handed, hhanded, hline⟩ := run_course hinner queue hcourse
  have htakes : queue.takes delivery.course = false := by
    have hlength : queue.courses.length ≠ delivery.course + 1 := by
      unfold last at hne
      omega
    simp [takes, hlength]
  rw [hempty _ hne, htakes] at hline
  have hnone : handed = [] := (List.append_eq_nil_iff.mp hline).1
  rw [hnone] at hhanded
  have hfound : delivery ∈
      (queue.run moves).1.flatten.filter (·.course == delivery.course) :=
    List.mem_filter.mpr ⟨hmem, beq_self_eq_true _⟩
  rw [hhanded] at hfound
  cases hfound

end EventQueue

namespace Session

/-- Since an earlier session the last course of the queue has handed out these reports, one after
the other and each to every listener, but for those that still wait. What waited in it at first
comes before them. -/
def HandsOut (listeners : List String) (start session : Session) (reports : List Report) : Prop :=
  ∃ (made : List (Delivery String)) (left handed : List Report),
    session.delivered = start.delivered ++ made ∧
    made.filter (·.course == session.events.last) =
      handed.flatMap (EventQueue.handOut listeners session.events.last) ∧
    handed ++ session.events.line session.events.last = left ++ reports ∧
    (start.events.running = false → left = []) ∧
    (start.events.waiting = [] →
      left = [] ∧ made.filter (·.course == session.events.last) = made)

theorem DrivenBy.listeners {before after : Session} {moves : List (EventQueue.Move String)}
    {noted : List Happening} (h : DrivenBy before after moves noted) :
    after.events.listeners = before.events.listeners := by
  rw [h.events, EventQueue.run_listeners, EventQueue.registered_of_inner _ h.inner]

theorem handsOut_of_drivenBy {start begun session : Session}
    {moves : List (EventQueue.Move String)} {noted : List Happening}
    (h : DrivenBy begun session moves noted) (hevents : begun.events = start.events.start)
    (hdelivered : begun.delivered = start.delivered)
    (hopened : start.events.running = true → 0 < start.events.courses.length)
    (hsame : .entered .connecting ∉ noted) :
    HandsOut start.events.listeners start session (reportsOf noted) := by
  have hstart := h.began hsame
  have hrunning : begun.events.running = true := by
    rw [hevents]
    exact EventQueue.running_start _
  have hreports : EventQueue.appended moves = reportsOf noted := by
    rw [← h.accepted, EventQueue.accepted_of_no_start _ hstart, hrunning, if_pos rfl]
  have hlast : session.events.last = begun.events.last := by
    rw [h.events]
    exact congrArg (· - 1) (EventQueue.run_courses_of_no_start _ hstart)
  have hlisteners : begun.events.listeners = start.events.listeners := by
    rw [hevents, EventQueue.listeners_start]
  have hknown : begun.events.last < begun.events.courses.length := by
    rw [hevents]
    exact EventQueue.last_start_lt hopened
  have htakes : begun.events.takes begun.events.last = true := by
    unfold EventQueue.last at hknown
    simp [EventQueue.takes, EventQueue.last, hrunning]
    omega
  obtain ⟨handed, hmade, hline⟩ := EventQueue.run_course h.inner begun.events hknown
  rw [htakes, if_pos rfl, hreports, ← h.events] at hline
  refine ⟨_, begun.events.line begun.events.last, handed, hdelivered ▸ h.delivered, ?_, ?_, ?_, ?_⟩
  · rw [hlast, hmade, hlisteners]
  · rw [hlast, hline]
  · intro hstopped
    rw [hevents]
    exact EventQueue.line_last_start hstopped
  · intro hwaiting
    have hnone := EventQueue.line_of_waiting (EventQueue.waiting_start start.events hwaiting)
    rw [← hevents] at hnone
    rw [hlast]
    exact ⟨hnone _, EventQueue.run_made_last h.inner _ hstart fun course _ => hnone course⟩

theorem queue_of_run_build (config : SessionConfig) (listeners : List String)
    (outcomes : List ConnectOutcome) (moves : List Move) :
    let session := (build config listeners outcomes).run moves
    session.events.listeners = listeners ∧
      (session.events.running = true → 0 < session.events.courses.length) := by
  intro session
  obtain ⟨driven, noted, hdriven⟩ := (proceeds_run (build config listeners outcomes) moves).queue
  refine ⟨hdriven.listeners, fun hrunning => ?_⟩
  rw [hdriven.events] at hrunning ⊢
  rcases EventQueue.running_run _ hrunning with hbuilt | hopened
  · cases hbuilt
  · exact hopened

/-- A login that begins notes it, starts the queue of events and goes on to connect. -/
theorem step_of_begins {session : Session} {username password : String}
    (hbegins : session.Begins (.login username password)) :
    ∃ (begun : Session) (name : String) (outcome : ConnectOutcome),
      session.step (.login username password) = begun.connect session.callCount name outcome ∧
      begun.journal = session.journal ++ [.entered .connecting] ∧ begun.state = .connecting ∧
      begun.events = session.events.start ∧ begun.delivered = session.delivered := by
  obtain ⟨hheld, hstate, husername, hpassword⟩ := hbegins
  have hstep : session.step (.login username password) =
      (session.beginCall.2.startLogin (Text.lowerCase (Text.trim username)) password).connect
        session.callCount (Text.lowerCase (Text.trim username))
        ((session.outcomes.head?).getD (.opened none)) := by
    dsimp only [step]
    rw [if_pos hheld, login_eq_connect hstate husername hpassword]
  refine ⟨_, _, _, hstep, ?_, rfl, rfl, rfl⟩
  exact journal_startLogin hstate (Text.lowerCase (Text.trim username)) password

/-- The stream of a connection has come to an end before a session that was logged on. -/
def Lost (start : Session) (moves : List Move) (finish : StreamEnd) : Prop :=
  ∃ early index late, moves = early ++ .read index :: late ∧
    (start.run early).state = .loggedOn ∧
    (start.run early).upcoming? index = some (.error finish)

/-- A logout leaves its session without a report. -/
theorem mute_logout {session : Session} (hstate : session.state = .loggedOn) :
    Notes (fun happening => happening.report?.isNone) session session.logout := by
  have hleft : Notes (fun happening => happening.report?.isNone) session
      (session.beginCall.2.enter .unstarted) := by
    refine Notes.trans ?_ (notes_enter _ rfl)
    exact .of_same rfl
  rw [logout_eq_await hstate]
  exact (hleft.trans (notes_submit _ _ fun _ => rfl)).trans (.of_same rfl)

/-- The end of a session that is left by a logout is not announced: up to then it was logged on,
the logout reports nothing, and after it the attempt is over. -/
theorem not_closed_of_logout {begun there session : Session} {attempt : List Happening}
    (hbegun : begun.state.isLoggingIn = true) (hstate : there.state = .loggedOn)
    (hearly : Tells true (fun _ => True) begun there)
    (hlogout : Tells true (fun _ => True) there there.logout)
    (hlate : Tells true (fun _ => True) there.logout session)
    (hjournal : session.journal = begun.journal ++ attempt)
    (hsame : .entered .connecting ∉ attempt) :
    ∀ report ∈ reportsOf attempt, report.event.isClosed = false := by
  obtain ⟨early, hthere, hlife⟩ := hearly
  obtain ⟨noted, hnoted, hleaves⟩ := hlogout
  obtain ⟨late, hsession, hlater⟩ := hlate
  obtain rfl : attempt = early ++ noted ++ late := by
    have htold : begun.journal ++ attempt = begun.journal ++ (early ++ noted ++ late) := by
      rw [← hjournal, hsession, hnoted, hthere]
      simp
    exact List.append_cancel_left htold
  simp only [List.mem_append, not_or] at hsame
  obtain ⟨chapter, hbefore, hfits⟩ := hlife hsame.1.1 .loggingIn hbegun
  obtain ⟨left, -, hafter⟩ := hleaves hsame.1.2 chapter hfits
  obtain ⟨last, hover, -⟩ := hlater hsame.2 left hafter
  have hleft : there.logout.state = .unstarted := by
    rw [logout_eq_await hstate]
    exact congrArg Standing.state (standing_submit _ _)
  have hsilent : chapter ≠ .silent := by
    rcases hfits.cases_loggedOn hstate with rfl | ⟨rfl, -⟩ <;> decide
  have hmute : reportsOf noted = [] := by
    obtain ⟨others, hothers, hnone⟩ := mute_logout hstate
    obtain rfl : others = noted := List.append_cancel_left (hothers.symm.trans hnoted)
    exact List.filterMap_eq_nil_iff.mpr fun happening hmem =>
      Option.isNone_iff_eq_none.mp (hnone happening hmem)
  intro report hmem
  rw [reportsOf_append, reportsOf_append, hmute, List.append_nil, List.mem_append] at hmem
  rcases hmem with hbegan | hfollows
  · exact hbefore.not_closed hsilent report hbegan
  · exact (hover.isQuiet_stays (hafter.ne_of_ended (.inl hleft))).not_closed report hfollows

theorem not_closed_of_run_logout {begun next : Session} (hpoised : next.standing.Poised)
    (hbegun : begun.state.isLoggingIn = true) (hnext : Tells true (fun _ => True) begun next)
    {early late : List Move} (hheld : (next.run early).held = true)
    (hstate : (next.run early).state = .loggedOn) {attempt : List Happening}
    (hjournal : (next.run (early ++ .logout :: late)).journal = begun.journal ++ attempt)
    (hsame : .entered .connecting ∉ attempt) :
    ∀ report ∈ reportsOf attempt, report.event.isClosed = false := by
  have hlives (middle : Session) (moves : List Move) (hmiddle : middle.standing.Poised) :
      Lives true (fun _ => True) middle (middle.run moves) :=
    lives_run hmiddle (fun hnot => nomatch hnot) fun _ _ _ _ _ _ _ => trivial
  have hearly := hlives next early hpoised
  have hlogout : Lives true (fun _ => True) (next.run early) (next.run early).logout :=
    lives_logout _
  have hlate := hlives (next.run early).logout late (hlogout.poised (hearly.poised hpoised))
  have hleft : (next.run early).step .logout = (next.run early).logout := if_pos hheld
  have hwhole : next.run (early ++ .logout :: late) = (next.run early).logout.run late := by
    rw [run_append, ← hleft]
    rfl
  rw [hwhole] at hjournal
  exact not_closed_of_logout hbegun hstate (hnext.trans hearly.tells) hlogout.tells hlate.tells
    hjournal hsame

/-- The queue of events runs as long as a login goes on. -/
def Audible (start : Session) (moves : List Move) : Prop :=
  ∀ early late, moves = early ++ late → (start.run early).state.isLoggingIn = true →
    (start.run early).events.running = true

/-- No call of an earlier attempt is left that could kill the queue. -/
theorem audible_of_apart {session : Session} {first : Nat}
    (h : Standing.AtEase first session.standing) (hnumbered : session.standing.Numbered)
    {before during : List Move} (hapart : Apart session (before ++ during)) :
    Audible (session.run before) during := by
  intro early late heq hlogin
  rw [heq, ← List.append_assoc] at hapart
  rw [← run_append] at hlogin ⊢
  obtain ⟨next, hnext, -⟩ := atEase_run h hnumbered (apart_append.mp hapart).1
  exact (hnext.login hlogin).1

/-- What becomes of a login attempt for the listeners: the end of its login is announced when it is
logged on, and the end of its session when the server's goodbye or the loss of the connection takes
it out of this state, each once at most. What has been reported is what is handed out, so nothing
comes after the end of the session until another login begins, whatever is still read. A session
that is left by a logout is not announced to have ended. Only where a call of an earlier attempt has
killed the queue, the login can be complete without an announcement. -/
theorem attempt_announced (config : SessionConfig) (listeners : List String)
    (outcomes : List ConnectOutcome) (before during : List Move) (username password : String)
    (hbegins : ((build config listeners outcomes).run before).Begins
      (.login username password)) :
    let start := (build config listeners outcomes).run before
    let session := start.run (.login username password :: during)
    ∃ attempt, session.journal = start.journal ++ .entered .connecting :: attempt ∧
      (.entered .connecting ∉ attempt →
        Trail .connecting (visited attempt) session.state ∧
        Announced (start.Lost (.login username password :: during)) attempt ∧
        (reportsOf attempt).countP (·.event.isLoggedOn) ≤ 1 ∧
        (reportsOf attempt).countP (·.event.isClosed) ≤ 1 ∧
        (start.Audible (.login username password :: during) → .entered .loggedOn ∈ attempt →
          ∃ user, .reported ⟨some .logon, .loggedOn user⟩ ∈ attempt) ∧
        (Apart (build config listeners outcomes) (before ++ .login username password :: during) →
          start.Audible (.login username password :: during)) ∧
        (∀ early late, during = early ++ .logout :: late →
          let there := start.run (.login username password :: early)
          there.held = true → there.state = .loggedOn →
            ∀ report ∈ reportsOf attempt, report.event.isClosed = false) ∧
        HandsOut listeners start session (reportsOf attempt)) := by
  intro start session
  obtain ⟨hlisteners, hopened⟩ := queue_of_run_build config listeners outcomes before
  obtain ⟨begun, name, outcome, hstep, hstarted, hlogin, hevents, hdelivered⟩ :=
    step_of_begins hbegins
  have hloggingIn : begun.state.isLoggingIn = true := by
    rw [hlogin]
    rfl
  have hpoised : (start.step (.login username password)).standing.Poised :=
    poised_run (poised_run (poised_build config listeners outcomes) before)
      [.login username password]
  have hconnected {killed : Bool} {ends : StreamEnd → Prop} :
      Tells killed ends begun (start.step (.login username password)) := by
    rw [hstep]
    exact (lives_connect begun _ _ _).tells
  have htells (killed : Bool)
      (haudible : killed = false → start.Audible (.login username password :: during)) :
      Tells killed (start.Lost (.login username password :: during)) begun session := by
    refine hconnected.trans (lives_run hpoised ?_ ?_).tells
    · intro hnot early late heq
      exact haudible hnot (.login username password :: early) late (by rw [heq]; rfl)
    · intro early index late finish heq hloggedOn hend
      exact ⟨.login username password :: early, index, late, by rw [heq]; rfl, hloggedOn, hend⟩
  obtain ⟨attempt, hjournal, hlife⟩ := htells true fun hnot => nomatch hnot
  have hattempt {noted : List Happening} (hnoted : session.journal = begun.journal ++ noted) :
      noted = attempt := List.append_cancel_left (hnoted.symm.trans hjournal)
  refine ⟨attempt, by rw [hjournal, hstarted, List.append_assoc]; rfl, fun hsame => ?_⟩
  obtain ⟨last, hchapters, -⟩ := hlife hsame .loggingIn hloggingIn
  obtain ⟨hloggedOn, hclosed⟩ := hchapters.announced.once
  refine ⟨?_, hchapters.announced, hloggedOn, hclosed, ?_, ?_, ?_, ?_⟩
  · have hfollows : Follows begun session := by
      refine Follows.trans ?_ (follows_run _ during)
      rw [hstep]
      exact follows_connect begun _ _ _
    obtain ⟨noted, hnoted, htrail⟩ := hfollows.journal
    rw [hlogin, hattempt hnoted] at htrail
    exact htrail
  · intro haudible hloggedOn
    obtain ⟨noted, hnoted, hheard⟩ := htells false fun _ => haudible
    rw [hattempt hnoted] at hheard
    obtain ⟨ending, hwhole, -⟩ := hheard hsame .loggingIn hloggingIn
    exact hwhole.heard hloggedOn
  · exact audible_of_apart (atEase_build config listeners outcomes)
      (numbered_build config listeners outcomes)
  · rintro early late rfl there hheld hloggedOn
    exact not_closed_of_run_logout hpoised hloggingIn hconnected hheld hloggedOn hjournal hsame
  · have hqueue : Proceeds begun session := by
      refine Proceeds.trans ?_ (proceeds_run _ during)
      rw [hstep]
      exact proceeds_connect begun _ _ _
    obtain ⟨moves, noted, hdriven⟩ := hqueue.queue
    rw [hattempt hdriven.journal] at hdriven
    rw [← hlisteners]
    exact handsOut_of_drivenBy hdriven hevents hdelivered hopened hsame

/-- The server sends its goodbye right after the login, and news of mail behind it, which is read
but reaches nobody. -/
theorem attempt_announced_evicted :
    let during : List Move := [
      .arrive 0 [89, 77, 83, 71, 0, 12, 0, 0, 0, 7, 0, 87, 0, 0, 0, 0, 0, 0, 0, 0,
        57, 52, 192, 128, 120, 192, 128],
      .arrive 0 [89, 77, 83, 71, 0, 12, 0, 0, 0, 0, 0, 1, 0, 0, 0, 0, 0, 0, 0, 0,
        89, 77, 83, 71, 0, 12, 0, 0, 0, 0, 0, 2, 0, 0, 0, 0, 0, 0, 0, 0,
        89, 77, 83, 71, 0, 12, 0, 0, 0, 6, 0, 11, 0, 0, 0, 0, 0, 0, 0, 0,
        57, 192, 128, 50, 192, 128],
      .read 0, .read 0, .read 0, .deliver 0, .deliver 0, .deliver 0]
    let start := build {} ["ear"] []
    let session := start.run (.login "ann" "secret" :: during)
    start.Begins (.login "ann" "secret") ∧
      ∃ attempt, session.journal = start.journal ++ .entered .connecting :: attempt ∧
        Announced (start.Lost (.login "ann" "secret" :: during)) attempt ∧
        reportsOf attempt = [⟨some .logon, .loggedOn "ann"⟩,
          ⟨some .logoff, .connectionClosed "session ended by server"⟩] ∧
        session.delivered.map (·.report) = reportsOf attempt := by
  intro during start session
  have hbegins : start.Begins (.login "ann" "secret") :=
    ⟨rfl, rfl, by decide, by decide⟩
  obtain ⟨attempt, hjournal, htold⟩ :=
    attempt_announced {} ["ear"] [] [] during "ann" "secret" hbegins
  have hattempt : session.journal.tail = attempt := congrArg List.tail hjournal
  have hsame : .entered .connecting ∉ attempt := by
    rw [← hattempt]
    decide +kernel
  have hreports : reportsOf attempt = [⟨some .logon, .loggedOn "ann"⟩,
      ⟨some .logoff, .connectionClosed "session ended by server"⟩] := by
    rw [← hattempt]
    decide +kernel
  refine ⟨hbegins, attempt, hjournal, (htold hsame).2.1, hreports, ?_⟩
  rw [hreports]
  decide +kernel

/-- A login goes through its handshake on a connection, and its call returns. -/
def handshake (connection call : Nat) : List Move := [.write connection, .resume call,
  .arrive connection [89, 77, 83, 71, 0, 12, 0, 0, 0, 7, 0, 87, 0, 0, 0, 0, 0, 0, 0, 0,
    57, 52, 192, 128, 120, 192, 128], .read connection,
  .arrive connection [89, 77, 83, 71, 0, 12, 0, 0, 0, 0, 0, 1, 0, 0, 0, 0, 0, 0, 0, 0],
  .read connection, .resume call]

/-- A login is complete, and a logout waits for its packet to be written. -/
def loggingOut : List Move := .login "ann" "secret" :: handshake 0 0 ++ [.deliver 0, .logout]

/-- The logout goes on, and after it a login that waited for its connection at that time. -/
def outlasting : List Move :=
  [.write 0, .write 0, .resume 1, .resolveConnect 2 (.opened none)] ++ handshake 1 2

/-- A login that begins while a logout waits finds the queue of events running, and the logout kills
it. The login becomes complete all the same, and its end is not announced. -/
theorem login_unannounced_after_overlap :
    let start := (build {} ["ear"] [.opened none, .pending]).run loggingOut
    let session := start.run (.login "ann" "secret" :: outlasting)
    let noted := session.journal.drop start.journal.length
    start.Begins (.login "ann" "secret") ∧ start.calls.map Call.number = [1] ∧
      visited noted = [.connecting, .connected, .loggedOn] ∧ session.state = .loggedOn ∧
      session.calls = [] ∧ (session.resultOf? 2).map Except.isOk = some true ∧
      session.events.running = false ∧ reportsOf noted = [] ∧
      session.delivered.map (·.report) = [⟨some .logon, .loggedOn "ann"⟩] := by
  simp only [run, loggingOut, outlasting, handshake, List.foldl_append, List.foldl_cons,
    List.foldl_nil, step_write]
  decide +kernel

end Session

end Messenger
