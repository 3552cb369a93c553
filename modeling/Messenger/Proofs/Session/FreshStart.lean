import Messenger.Proofs.Session.Attendance
import Messenger.Proofs.Session.Handshake

/-!
A new login starts clean, but for the pieces of a response that the session may have held on to:
what an attempt reports of a login is what a new session reports that hears the same.
-/

namespace Messenger

open SessionState (Trail)

namespace Session

open Standing (AtRest Clear)

section

variable {start before after session : Session} {connection : Nat}

theorem Rehearsed.poised (h : Rehearsed start connection session) (hrest : AtRest session.standing)
    {call : Call} (hcall : call ∈ session.calls) {username : String}
    (hphase : call.phase = .connecting username) :
    Poised start connection session := by
  have hdialing : session.standing.IsDialing := ⟨call, hcall, username, hphase⟩
  have hattending := h.attending (.inl hdialing)
  exact ⟨h.trail, hattending.alike, hattending.alive, hrest.clear,
    (hrest.connecting call hcall username hphase).2, hattending.dialing hdialing⟩

theorem Rehearsed.resolveConnect (h : Rehearsed start connection session)
    (hrest : AtRest session.standing) (number : Nat) (outcome : ConnectOutcome) :
    Rehearsed start connection (session.resolveConnect number outcome) := by
  unfold Session.resolveConnect
  split
  · rename_i called username hcall
    obtain ⟨hmem, rfl⟩ := callNumbered?_mem hcall
    exact (h.poised hrest hmem rfl).connect (otherCalls_of_mem hrest hmem) username outcome
  · exact h

theorem ceased_of_ended (hrest : AtRest session.standing) (hcalls : session.calls = [])
    (hstate : session.state ≠ .loggedOn) :
    Ceased session :=
  ⟨((hrest.settled hcalls).2 hstate).1, hcalls⟩

theorem numbered_of_no_calls (hcalls : session.calls = []) : session.standing.Numbered := by
  intro call hmem
  have hnone : call ∈ session.calls := hmem
  rw [hcalls] at hnone
  cases hnone

theorem Rehearsed.refuse (h : Rehearsed start connection session) (expected : String) :
    Rehearsed start connection (session.refuse expected) := by
  refine h.steady (.of_same rfl rfl rfl) (.of_same rfl (.of_eq rfl fun _ => id)) fun halive => ?_
  refine .of_same ?_ halive rfl
  exact { Alike.refl session with }

theorem login_begins (hstate : session.state = .unstarted) {username password : String}
    (husername : Text.lowerCase (Text.trim username) ≠ "") (hpassword : password ≠ "") :
    ∃ attempt, (session.login username password).journal =
      session.journal ++ .entered .connecting :: attempt := by
  rw [login_eq_connect hstate husername hpassword]
  obtain ⟨attempt, hjournal, -⟩ := (follows_connect
    (session.beginCall.2.startLogin (Text.lowerCase (Text.trim username)) password)
    session.callCount (Text.lowerCase (Text.trim username))
    ((session.outcomes.head?).getD (.opened none))).journal
  have hbegun : (session.beginCall.2.startLogin (Text.lowerCase (Text.trim username))
      password).journal = session.journal ++ [.entered .connecting] :=
    journal_startLogin hstate (Text.lowerCase (Text.trim username)) password
  rw [hbegun, List.append_assoc] at hjournal
  exact ⟨attempt, hjournal⟩

theorem subsides_login_of_empty (hidle : session.working = none)
    (hstate : session.state = .unstarted) {username password : String}
    (harguments : Text.lowerCase (Text.trim username) = "" ∨ password = "") :
    Subsides session (session.login username password) := by
  have hfailed := subsides_fail session.beginCall.2
    (.invalidArgument "username and password must not be empty")
  unfold Session.login
  dsimp only
  rw [if_neg (by exact not_not_intro hstate), if_pos harguments]
  refine ((subsides_beginCall session).trans hfailed).trans (subsides_finish ?_ _ _)
  exact hidle

theorem Rehearsed.login (h : Rehearsed start connection session) (hrest : AtRest session.standing)
    (hcalls : session.calls = []) (hheld : session.held = true) (username password : String)
    (habides : Abides session (session.login username password)) :
    Rehearsed start connection (session.login username password) := by
  by_cases hstate : session.state = .unstarted
  · by_cases harguments : Text.lowerCase (Text.trim username) = "" ∨ password = ""
    · have hsubsides := subsides_login_of_empty hrest.idle hstate harguments
      have hceased := ceased_of_ended hrest hcalls (by simp [hstate])
      refine h.silence (follows_login session username password) hsubsides.journal ?_
      exact fun hlistening =>
        absurd (hsubsides.standing.listening hlistening) (hceased.not_listening hrest)
    · rw [not_or] at harguments
      obtain ⟨attempt, hbegun⟩ := login_begins hstate harguments.1 harguments.2
      obtain ⟨noted, hjournal, hsame⟩ := habides
      rw [hbegun] at hjournal
      obtain rfl := List.append_cancel_left hjournal
      simpa using hsame _ List.mem_cons_self
  · rw [login_of_ne (numbered_of_no_calls hcalls) hheld hstate]
    exact h.refuse _

theorem journal_logout (hstate : session.state = .loggedOn) :
    ∃ noted, session.logout.journal = session.journal ++ .entered .unstarted :: noted ∧
      ∀ happening ∈ noted, happening.isInner = true := by
  have hsent : Notes Happening.isInner (session.beginCall.2.enter .unstarted)
      ((session.beginCall.2.enter .unstarted).submit
        (.request .logoff [("0", session.user)])).2 :=
    notes_submit _ _ fun _ => rfl
  obtain ⟨noted, hjournal, hinner⟩ := hsent
  have hentered : (session.beginCall.2.enter .unstarted).journal =
      session.journal ++ [.entered .unstarted] := by
    simp [enter, beginCall, hstate]
  refine ⟨noted, ?_, hinner⟩
  rw [hentered, List.append_assoc] at hjournal
  rw [logout_eq_await hstate]
  exact hjournal

theorem alike_logout (hstate : session.state = .loggedOn) :
    Alike session.logout (session.enter .unstarted) := by
  rw [logout_eq_await hstate]
  have hbegun : Alike session.beginCall.2 session := { Alike.refl session with }
  have hsent := (alike_submit (session.beginCall.2.enter .unstarted)
    (.request .logoff [("0", session.user)])).trans (hbegun.enter (by decide))
  exact { hsent with }

/-- A session that is left by a logout reads on until the server has been told. -/
theorem Attending.logout (h : Attending start connection session) (hidle : session.working = none)
    (htrail : Trail .connecting (visited (latest session.journal)) session.state)
    (hstate : session.state = .loggedOn) :
    Attending start connection session.logout := by
  have hstay : hasLeft (latest session.journal) = false := by
    refine Bool.eq_false_iff.mpr fun hleft => ?_
    rcases ended_of_hasLeft htrail hleft with hended | hended <;> simp [hstate] at hended
  have hmatch := h.alike
  rw [rehearsal, hstay, leave_false] at hmatch
  obtain ⟨noted, hjournal, hinner⟩ := journal_logout hstate
  have hrehearsal : start.rehearsal connection session.logout.journal =
      (start.rehearse (heard connection (latest session.journal))).enter .unstarted := by
    have hall : ∀ happening ∈ Happening.entered .unstarted :: noted, happening.isInner = true := by
      simpa [Happening.isInner] using hinner
    have hloggedOn := hmatch.state.symm.trans hstate
    rw [hjournal, rehearsal_append_inner start connection _ hall]
    simp [leave, hasLeft, hloggedOn]
  refine h.subside (subsides_logout hidle).standing ?_ ?_
  · rw [hrehearsal]
    exact (alike_logout hstate).trans (hmatch.enter (by decide))
  · rw [logout_eq_await hstate]
    exact alive_await _ _ _

theorem Rehearsed.logout (h : Rehearsed start connection session) (hrest : AtRest session.standing)
    (hcalls : session.calls = []) (hheld : session.held = true) :
    Rehearsed start connection session.logout := by
  have hsubsides := subsides_logout hrest.idle
  by_cases hstate : session.state = .loggedOn
  · refine h.silence (follows_logout session) hsubsides.journal fun hlistening => ?_
    have hattending := h.attending (hsubsides.standing.listening hlistening)
    exact hattending.logout hrest.idle h.trail hstate
  · rw [logout_of_ne (numbered_of_no_calls hcalls) hheld hstate]
    exact h.refuse _

theorem Rehearsed.reset (h : Rehearsed start connection session) (hrest : AtRest session.standing)
    (hcalls : session.calls = []) (hheld : session.held = true) :
    Rehearsed start connection session.reset := by
  by_cases hstate : session.state = .failed ∨ session.state = .unstarted
  · refine h.settle (follows_reset session) (subsides_reset hrest.idle)
      (atRest_reset hrest hcalls) fun _ => .inl ?_
    unfold Session.reset
    dsimp only
    rw [if_pos (by exact hstate)]
    refine ceased_finish rfl ?_ _
    exact otherCalls_of_none hcalls _
  · rw [not_or] at hstate
    rw [reset_of_ne (numbered_of_no_calls hcalls) hheld hstate.1 hstate.2]
    exact h.refuse _

theorem Stepped.rehearsed {move : Move} (hstep : Stepped before move after)
    (hbefore : AtRest before.standing) (hcalls : move.isCall = true → before.calls = [])
    (hstart : Fit start) (h : Rehearsed start connection before) (habides : Abides before after) :
    Rehearsed start connection after := by
  have hafter := hstep.atRest hbefore hcalls
  cases hstep with
  | carried hcarried => exact h.steady hcarried.follows hcarried.subsides hcarried.steady
  | login username password hheld =>
      exact h.login hbefore (hcalls rfl) hheld username password habides
  | resolveConnect call outcome => exact h.resolveConnect hbefore call outcome
  | logout hheld => exact h.logout hbefore (hcalls rfl) hheld
  | reset hheld => exact h.reset hbefore (hcalls rfl) hheld
  | drop =>
      exact h.settle (follows_drop before) (subsides_drop hbefore.idle) hafter
        fun _ => drop_outcome before
  | read hread => exact h.read? hbefore hstart hread
  | resume call =>
      exact h.settle (follows_resume before call) (subsides_resume hbefore.idle call) hafter
        fun halive => resume_outcome hbefore halive call
  | attachStore policy =>
      refine h.steady (.of_same rfl rfl rfl) (.of_same rfl (.of_eq rfl fun _ => id)) fun halive => ?_
      refine .of_same ?_ halive rfl
      exact { Alike.refl before with }

theorem rehearsed_run (hrest : AtRest session.standing) (hstart : Fit start)
    (h : Rehearsed start connection session) {moves : List Move}
    (hsequential : Sequential session moves) (habides : Abides session (session.run moves)) :
    Rehearsed start connection (session.run moves) := by
  unfold run at habides ⊢
  induction moves generalizing session with
  | nil => exact h
  | cons move rest induction =>
      obtain ⟨hcalls, hlater⟩ := hsequential
      have hstep := step_stepped session move
      obtain ⟨hfirst, hrests⟩ := Notes.split habides hstep.follows (follows_run _ rest)
      exact induction (hstep.atRest hrest hcalls) (hstep.rehearsed hrest hcalls hstart h hfirst)
        hlater hrests

theorem fit_startLogin (config : SessionConfig) (user password : String) :
    Fit ((build config [] []).startLogin user password) :=
  ⟨wired_build config [] [], rfl⟩

theorem latest_startLogin (hstate : session.state = .unstarted) (user password : String) :
    latest (session.startLogin user password).journal = [] := by
  rw [journal_startLogin hstate]
  exact latest_begin (by simp)

theorem collectors_of_idle (hrest : AtRest session.standing)
    (hpending : ∀ collecting ∈ session.registry.collectors, collecting.collector.pending = []) :
    session.registry.collectors = defaultRegistry.collectors := by
  have hemptied : session.registry.collectors.map Collecting.emptied =
      session.registry.collectors.map id := by
    refine List.map_congr_left fun collecting hmem => ?_
    unfold Collecting.emptied
    rw [← hpending collecting hmem]
    rfl
  rw [List.map_id] at hemptied
  exact hemptied.symm.trans hrest.wired.collectors

/-- A session that holds no piece of a response begins a login as a new one does. -/
theorem alike_startLogin (hrest : AtRest session.standing) (hstate : session.state = .unstarted)
    (hpending : ∀ collecting ∈ session.registry.collectors, collecting.collector.pending = [])
    (user password : String) :
    Alike (session.beginCall.2.startLogin user password)
      ((build session.config [] []).startLogin user password) where
  config := rfl
  state := rfl
  username := rfl
  password _ := rfl
  collectors := by
    have hsame : session.registry.collectors = defaultRegistry.collectors :=
      collectors_of_idle hrest hpending
    exact hsame
  fragments := hrest.buffered
  running := (EventQueue.running_start _).trans (EventQueue.running_start _).symm
  told := by
    have hbegun : latest (session.beginCall.2.startLogin user password).journal = [] :=
      latest_startLogin hstate user password
    rw [told, told, hbegun, latest_startLogin rfl user password]

theorem poised_startLogin (hrest : AtRest session.standing) (hcalls : session.calls = [])
    (hstate : session.state = .unstarted) (hheld : session.held = true)
    (hpending : ∀ collecting ∈ session.registry.collectors, collecting.collector.pending = [])
    (user password : String) :
    Poised ((build session.config [] []).startLogin user password) session.link.connections.length
      (session.beginCall.2.startLogin user password) := by
  have hbegun : latest (session.beginCall.2.startLogin user password).journal = [] :=
    latest_startLogin hstate user password
  have hceased := ceased_of_ended hrest hcalls (by simp [hstate])
  refine ⟨?_, ?_, ?_, { hrest.clear with }, hceased.1, List.length_map _⟩
  · rw [hbegun]
    exact .stay _
  · rw [rehearsal, hbegun]
    exact alike_startLogin hrest hstate hpending user password
  · simp [alive, startLogin, beginCall, enter, hheld]

/-- What a login attempt reports of the login is what a new session makes of the packets that come
in on the connection of the attempt. -/
theorem told_of_login (hrest : AtRest session.standing) (hstate : session.state = .unstarted)
    (hheld : session.held = true)
    (hpending : ∀ collecting ∈ session.registry.collectors, collecting.collector.pending = [])
    {username password : String} (husername : Text.lowerCase (Text.trim username) ≠ "")
    (hpassword : password ≠ "") {during : List Move}
    (hsequential : Sequential session (.login username password :: during)) :
    ∃ attempt, (session.run (.login username password :: during)).journal =
        session.journal ++ .entered .connecting :: attempt ∧
      (.entered .connecting ∉ attempt →
        attempt.filter Happening.isTold =
          told (((build session.config [] []).startLogin (Text.lowerCase (Text.trim username))
            password).rehearse (heard session.link.connections.length attempt)).journal) := by
  obtain ⟨hcalls, hduring⟩ := hsequential
  have hnone : session.calls = [] := hcalls rfl
  have hlogin : session.step (.login username password) = session.login username password :=
    if_pos hheld
  rw [hlogin] at hduring
  have hrun : session.run (.login username password :: during) =
      (session.login username password).run during :=
    congrArg (fun begun => begun.run during) hlogin
  obtain ⟨early, hearly⟩ := login_begins hstate husername hpassword
  obtain ⟨late, hlate, -⟩ := (follows_run (session.login username password) during).journal
  have hjournal : ((session.login username password).run during).journal =
      session.journal ++ .entered .connecting :: (early ++ late) := by
    rw [hlate, hearly, List.append_assoc, List.cons_append]
  rw [hrun]
  refine ⟨early ++ late, hjournal, fun hsame => ?_⟩
  have hbegun : Rehearsed ((build session.config [] []).startLogin
      (Text.lowerCase (Text.trim username)) password) session.link.connections.length
      (session.login username password) := by
    rw [login_eq_connect hstate husername hpassword]
    have hpoised := poised_startLogin hrest hnone hstate hheld hpending
      (Text.lowerCase (Text.trim username)) password
    exact hpoised.connect (otherCalls_of_none hnone _) _ _
  have habides : Abides (session.login username password)
      ((session.login username password).run during) := by
    refine ⟨late, hlate, fun happening hmem => decide_eq_true ?_⟩
    rintro rfl
    exact hsame (List.mem_append_right early hmem)
  have hended := rehearsed_run (atRest_login hrest hnone username password)
    (fit_startLogin session.config (Text.lowerCase (Text.trim username)) password) hbegun
    hduring habides
  have htold := hended.told
  rw [told_rehearsal, hjournal, latest_begin hsame, told, latest_begin hsame] at htold
  exact htold

theorem pending_build (config : SessionConfig) (listeners : List String)
    (outcomes : List ConnectOutcome) :
    ∀ collecting ∈ (build config listeners outcomes).registry.collectors,
      collecting.collector.pending = [] := by
  have hdefault : ∀ collecting ∈ defaultRegistry.collectors,
      collecting.collector.pending = [] := by
    decide
  exact hdefault

end

/-- In a run whose calls come one after the other, a login attempt reports of presence, the roster,
errors and its own end what it would report in a new session that hears the same packets, unless
the collectors of the session hold on to packets of an earlier attempt. -/
theorem attempt_starts_clean (config : SessionConfig) (listeners freshListeners : List String)
    (outcomes freshOutcomes : List ConnectOutcome) (before during freshDuring : List Move)
    (username password : String)
    (hsequential : Sequential (build config listeners outcomes)
      (before ++ .login username password :: during))
    (hfresh : Sequential (build config freshListeners freshOutcomes)
      (.login username password :: freshDuring))
    (hheld : ((build config listeners outcomes).run before).held = true)
    (hstate : ((build config listeners outcomes).run before).state = .unstarted)
    (husername : Text.lowerCase (Text.trim username) ≠ "") (hpassword : password ≠ "")
    (hpending : ∀ collecting ∈ ((build config listeners outcomes).run before).registry.collectors,
      collecting.collector.pending = []) :
    let start := (build config listeners outcomes).run before
    let session := start.run (.login username password :: during)
    let fresh := (build config freshListeners freshOutcomes).run
      (.login username password :: freshDuring)
    ∃ attempt freshAttempt,
      session.journal = start.journal ++ .entered .connecting :: attempt ∧
      fresh.journal = .entered .connecting :: freshAttempt ∧
      (.entered .connecting ∉ attempt → .entered .connecting ∉ freshAttempt →
        heard start.link.connections.length attempt = heard 0 freshAttempt →
          attempt.filter Happening.isTold = freshAttempt.filter Happening.isTold) := by
  intro start session fresh
  obtain ⟨hbefore, hduring⟩ := sequential_append.mp hsequential
  have hrest : AtRest start.standing := atRest_run (atRest_build config listeners outcomes) hbefore
  have hconfig : start.config = config :=
    (follows_run (build config listeners outcomes) before).config
  obtain ⟨attempt, hjournal, htold⟩ :=
    told_of_login hrest hstate hheld hpending husername hpassword hduring
  obtain ⟨freshAttempt, hfreshJournal, hfreshTold⟩ :=
    told_of_login (atRest_build config freshListeners freshOutcomes) rfl rfl
      (pending_build config freshListeners freshOutcomes) husername hpassword hfresh
  refine ⟨attempt, freshAttempt, hjournal, hfreshJournal, fun hsame hfreshSame hheard => ?_⟩
  rw [htold hsame, hfreshTold hfreshSame, hheard, hconfig]
  rfl

/-- The first attempt ends before any packet has come in; the second is told of one friend. -/
theorem attempt_starts_clean_after_failure :
    let before : List Move := [.login "ann" "secret", .write 0, .resume 0, .endInbound 0 .closed,
      .read 0, .resume 0, .reset]
    let during (connection : Nat) : List Move :=
      [.arrive connection [89, 77, 83, 71, 0, 12, 0, 0, 0, 8, 0, 1, 0, 0, 0, 0, 0, 0, 0, 0,
        55, 192, 128, 110, 101, 119, 192, 128], .read connection]
    let start := (build {} [] []).run before
    let session := start.run (.login "ann" "secret" :: during 1)
    ∃ attempt, session.journal = start.journal ++ .entered .connecting :: attempt ∧
      attempt.filter Happening.isTold =
        [.reported ⟨some .logon, .statusUpdate "new" 0 none true⟩] := by
  intro before during start session
  obtain ⟨attempt, freshAttempt, hjournal, hfresh, htold⟩ :=
    attempt_starts_clean {} [] [] [] [] before (during 1) (during 0) "ann" "secret"
      (by decide +kernel) (by decide +kernel) (by decide +kernel) (by decide +kernel) (by decide)
      (by decide) (by decide +kernel)
  have hattempt : attempt = session.journal.drop (start.journal.length + 1) := by
    rw [hjournal, List.append_cons]
    exact (List.drop_left' (by rw [List.length_append]; rfl)).symm
  have hfreshAttempt : freshAttempt =
      ((build {} [] []).run (.login "ann" "secret" :: during 0)).journal.tail := by
    rw [hfresh]
    rfl
  refine ⟨attempt, hjournal, (htold ?_ ?_ ?_).trans ?_⟩
  · rw [hattempt]
    decide +kernel
  · rw [hfreshAttempt]
    decide +kernel
  · rw [hattempt, hfreshAttempt]
    decide +kernel
  · rw [hfreshAttempt]
    decide +kernel

/-- Where an earlier attempt has left a piece of a response behind, the next one tells of it. -/
theorem attempt_tells_of_an_earlier_one :
    let before : List Move := [.login "ann" "secret", .write 0, .resume 0,
      .arrive 0 [89, 77, 83, 71, 0, 12, 0, 0, 0, 8, 0, 1, 0, 0, 0, 1, 0, 0, 0, 0,
        55, 192, 128, 111, 108, 100, 192, 128], .read 0,
      .endInbound 0 .closed, .read 0, .resume 0, .reset]
    let during (connection : Nat) : List Move :=
      [.arrive connection [89, 77, 83, 71, 0, 12, 0, 0, 0, 8, 0, 1, 0, 0, 0, 0, 0, 0, 0, 0,
        55, 192, 128, 110, 101, 119, 192, 128], .read connection]
    let start := (build {} [] []).run before
    let session := start.run (.login "ann" "secret" :: during 1)
    let fresh := (build {} [] []).run (.login "ann" "secret" :: during 0)
    Sequential (build {} [] []) (before ++ .login "ann" "secret" :: during 1) ∧
      Sequential (build {} [] []) (.login "ann" "secret" :: during 0) ∧
      start.held = true ∧ start.state = .unstarted ∧
      ∃ attempt freshAttempt,
        session.journal = start.journal ++ .entered .connecting :: attempt ∧
        fresh.journal = .entered .connecting :: freshAttempt ∧
        .entered .connecting ∉ attempt ∧ .entered .connecting ∉ freshAttempt ∧
        heard start.link.connections.length attempt = heard 0 freshAttempt ∧
        attempt.filter Happening.isTold ≠ freshAttempt.filter Happening.isTold := by
  intro before during start session fresh
  refine ⟨by decide +kernel, by decide +kernel, by decide +kernel, by decide +kernel,
    latest session.journal, latest fresh.journal, ?_⟩
  decide +kernel

end Session

end Messenger
