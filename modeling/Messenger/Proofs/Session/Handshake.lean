import Messenger.Proofs.Session.Sequential
import Messenger.Proofs.Session.Underway

/-!
Login attempts of a session whose calls come one after the other: how packets are handled in the
course of one, and that no attempt gets through without its challenge.
-/

namespace Messenger

namespace Session

variable {config : SessionConfig} {user password : String}

/-- While a login is connecting, the only connection that is read is its own. -/
theorem own_of_connecting {session : Session} (h : Standing.Orderly session.standing) {index : Nat}
    {reader : Reader} (hreader : session.standing.readers[index]? = some reader)
    (hgoing : reader ≠ .stopped) (hstate : session.state = .connecting) :
    session.reader = some index ∧ session.link.writer = some index ∧ session.alive = true := by
  have hcalls : session.calls ≠ [] := by
    intro hnone
    have hover : session.state.isLoggingIn = false := (h.settled hnone).1
    rw [hstate] at hover
    cases hover
  have halive : session.alive = true := by
    simp [alive, hcalls]
  cases reader with
  | running =>
      obtain ⟨hown, hwriter⟩ := h.running index hreader
      exact ⟨hown, hwriter, halive⟩
  | stopping =>
      have hover : session.state = .unstarted ∨ session.state = .failed := h.stopping index hreader
      simp [hstate] at hover
  | stopped => exact absurd rfl hgoing

structure TakenIn (config : SessionConfig) (user password : String) (attempt : List Happening)
    (connection : Nat) (packet : Packet) (handling : List Happening) (after : Session) : Prop where
  unended : .handled ∉ handling
  duly : DulyHandled config user password attempt connection packet handling
  accounted : AllAccounted config user password (attempt ++ [.received connection packet]) handling
  positioned : Positioned config user password after
    (attempt ++ .received connection packet :: handling)

/-- A session handles a packet, in the course of whatever attempt it may be. -/
def TakesIn (config : SessionConfig) (user password : String) (session : Session)
    (connection : Nat) (packet : Packet) (after : Session) : Prop :=
  ∃ handling, after.journal = session.journal ++ handling ∧
    ∀ attempt, Underway config user password session attempt →
      TakenIn config user password attempt connection packet handling after

theorem Underway.of_standing {before after : Session} {attempt : List Happening}
    (h : Underway config user password before attempt)
    (hstanding : after.standing = before.standing) :
    Underway config user password after attempt := by
  have hnothing : Unmoved [] := fun _ hmem => nomatch hmem
  have hpositioned := h.toPositioned.keep (.of_standing hstanding) hnothing
  rw [List.append_nil] at hpositioned
  exact ⟨hpositioned, h.accounted⟩

theorem TakesIn.continues {before session after : Session} {index : Nat} {packet : Packet}
    (h : TakesIn config user password session index packet after)
    (hstanding : session.standing = before.standing)
    (hjournal : session.journal = before.journal ++ [.received index packet]) :
    Continues config user password before (after.note .handled) := by
  obtain ⟨handling, hnoted, htaken⟩ := h
  refine ⟨.received index packet :: (handling ++ [.handled]), ?_, ?_⟩
  · show after.journal ++ [.handled] = _
    rw [hnoted, hjournal]
    simp
  · intro attempt hunderway _
    have hdone := htaken attempt (hunderway.of_standing hstanding)
    refine ⟨?_, ?_⟩
    · have hunmoved : Unmoved [.handled] := unmoved_of_state? (by simp [Happening.state?])
      have hpositioned :=
        hdone.positioned.keep (.of_standing (standing_note after .handled)) hunmoved
      simpa using hpositioned
    · refine hunderway.accounted.append ⟨⟨handling, [], rfl, hdone.unended, hdone.duly⟩, ?_⟩
      exact hdone.accounted.append ⟨trivial, trivial⟩

section

variable {session after : Session} {attempt : List Happening} {index : Nat}
  {packet joined : Packet} {reaction : Reaction} {registry : Registry Reaction}

/-- A login that connects has not met an AUTH packet yet. -/
theorem Underway.not_summoned (h : Underway config user password session attempt)
    (hstate : session.state = .connecting) :
    ¬ Summoned attempt :=
  fun hsummoned => h.accounted.not_unmoved hsummoned (h.connecting_iff.mp hstate)

theorem Positioned.received (h : Positioned config user password session attempt)
    (hstanding : after.standing = session.standing) {news : List Happening}
    (hnews : ∀ happening ∈ news, happening.isNews = true) :
    Positioned config user password after (attempt ++ .received index packet :: news) := by
  refine h.keep (.of_standing hstanding) (unmoved_of_state? ?_)
  intro happening hmem
  rcases List.mem_cons.mp hmem with rfl | hmem
  · rfl
  · exact Happening.state?_of_isNews (hnews happening hmem)

theorem handled_not_mem_news {news : List Happening}
    (hnews : ∀ happening ∈ news, happening.isNews = true) :
    .handled ∉ news :=
  fun hmem => nomatch hnews .handled hmem

/-- The fields of a packet that `Auth.respond` can answer hold a challenge. -/
theorem isChallenge_of_respond {version : Auth.Version} {challenge : String}
    {response : Auth.Response} (hservice : packet.service = .auth)
    (hvalue : packet.value? "94" = some challenge)
    (hresponse : Auth.respond version user password challenge = .ok response) :
    packet.IsChallenge := by
  refine ⟨hservice, challenge, hvalue, ?_⟩
  rintro rfl
  simp [Auth.respond] at hresponse

theorem authResponse_eq (hconfig : session.config = config)
    (husername : session.username = some user) (response : Auth.Response) :
    session.authResponse response = challengeAnswer config user response := by
  simp [authResponse, challengeAnswer, Session.user, hconfig, husername]

theorem takenIn_answered (hunderway : Underway config user password session attempt)
    (hreader : session.reader = some index) (hstate : session.state = .connecting)
    (hservice : packet.service = .auth) {challenge : String} {response : Auth.Response}
    (hvalue : packet.value? "94" = some challenge)
    (hresponse : Auth.respond (.ofFlag (packet.value? "13")) user password challenge =
      .ok response)
    (hafter : after.standing = { session.standing with state := .connected }) :
    TakenIn config user password attempt index packet
      [.entered .connected, .submitted index (challengeAnswer config user response)] after := by
  have hchallenge := isChallenge_of_respond hservice hvalue hresponse
  have hunmoved := hunderway.connecting_iff.mp hstate
  have hconnected : after.state = .connected := congrArg Standing.state hafter
  refine ⟨by simp, ⟨?_, ?_, ?_, ?_⟩, ⟨?_, ?_, trivial⟩, .of_moved ?_ ?_ ?_ ?_ ?_⟩
  · intro _ _
    exact ⟨challenge, response, hvalue, hresponse, rfl, hunderway.requested hstate index hreader⟩
  · exact fun _ _ hstill => hstill .connected (List.mem_cons_self ..)
  · exact fun _ hsummoned => absurd hsummoned (hunderway.not_summoned hstate)
  · intro hwelcome _
    rw [hservice] at hwelcome
    simp at hwelcome
  · exact fun hloggedOn => nomatch hloggedOn
  · exact fun _ => ⟨attempt, packet, by simp, hchallenge, hunmoved⟩
  · exact (congrArg Standing.config hafter).trans hunderway.config_eq
  · exact (congrArg Standing.username hafter).trans hunderway.username_eq
  · rw [hconnected]
    decide
  · exact fun hstill => hstill .connected (by simp)
  · exact fun _ => ⟨attempt, index, packet, _, rfl, hchallenge, hunmoved⟩

variable (hwired : Wired registry.handlers (registry.collectors.map Collecting.emptied))

include hwired

theorem takesIn_unrouted
    (hroute : ∀ reaction joined, (registry.route packet).1 ≠ .react reaction joined) :
    TakesIn config user password session index packet session := by
  refine ⟨[], by simp, ?_⟩
  intro attempt hunderway
  refine ⟨by simp, .of_ne_auth ?_ (by simp), trivial, ?_⟩
  · exact fun hservice => hroute .challenge packet (Registry.route_login hwired hservice rfl)
  · exact hunderway.toPositioned.received rfl (by simp)

variable (hroute : (registry.route packet).1 = .react reaction joined)

include hroute

theorem takesIn_aside (hafter : Undisturbed session after)
    (halive : session.state = .connecting → session.alive = true)
    (hchallenge : reaction = .challenge → session.alive = true → session.state ≠ .connecting) :
    TakesIn config user password session index packet after := by
  obtain ⟨news, hjournal, hnews⟩ := hafter.journal
  refine ⟨news, hjournal, ?_⟩
  intro attempt hunderway
  have hmoved : packet.service = .auth → ¬ Unmoved attempt := by
    intro hservice hunmoved
    have hstate := hunderway.connecting_iff.mpr hunmoved
    exact hchallenge (Registry.reaction_of_login hwired hservice rfl hroute).1 (halive hstate) hstate
  refine ⟨handled_not_mem_news hnews, ⟨?_, ?_, ?_, ?_⟩, ?_, ?_⟩
  · exact fun hasked hunmoved => absurd hunmoved (hmoved hasked.1)
  · exact fun hservice hunmoved => absurd hunmoved (hmoved hservice)
  · exact fun _ _ happening hmem => Happening.isIdle_of_isNews (hnews happening hmem)
  · exact fun _ _ happening hmem => Happening.isIdle_of_isNews (hnews happening hmem)
  · exact .of_isPlain _ fun happening hmem => Happening.isPlain_of_isNews (hnews happening hmem)
  · exact hunderway.toPositioned.received hafter.standing hnews

theorem takesIn_answered (hreader : session.reader = some index)
    (hwriter : session.link.writer = some index) (hreaction : reaction = .challenge)
    (hstate : session.state = .connecting) {challenge : String} {response : Auth.Response}
    (hvalue : joined.value? "94" = some challenge)
    (hresponse : Auth.respond (.ofFlag (joined.value? "13")) session.user
      (session.password.getD "") challenge = .ok response) :
    TakesIn config user password session index packet
      ((session.enter .connected).execute (.packet (session.authResponse response))
        (session.authResponse response)) := by
  subst hreaction
  obtain ⟨hservice, rfl⟩ := Registry.service_of_login hwired .auth rfl hroute
  refine ⟨_, journal_answer hstate hwriter _ _, ?_⟩
  intro attempt hunderway
  rw [authResponse_eq hunderway.config_eq hunderway.username_eq]
  refine takenIn_answered hunderway hreader hstate hservice hvalue ?_ ?_
  · simpa [Session.user, hunderway.username_eq, hunderway.password_eq hstate] using hresponse
  · rw [standing_execute, standing_enter]

theorem takesIn_refused {error : SessionError}
    (hfault : Fault session.state reaction joined error) :
    TakesIn config user password session index packet (session.fail error) := by
  have hstate : session.state ≠ .failed := by
    intro hfailed
    have hlogging := hfault.isLoggingIn
    rw [hfailed] at hlogging
    cases hlogging
  refine ⟨[.entered .failed], journal_fail hstate error, ?_⟩
  intro attempt hunderway
  refine ⟨by simp, ⟨?_, ?_, ?_, ?_⟩, .of_isPlain _ (by decide), ?_⟩
  · rintro ⟨hservice, challenge, hvalue, hne⟩ _
    obtain ⟨rfl, rfl⟩ := Registry.reaction_of_login hwired hservice rfl hroute
    generalize session.state = state at hfault
    cases hfault with
    | unasked hnone =>
        rw [hvalue] at hnone
        cases hnone
    | emptyChallenge hempty =>
        rw [hvalue] at hempty
        exact absurd (Option.some.inj hempty) hne
  · exact fun _ _ hstill => hstill .failed (List.mem_cons_self ..)
  · intro hservice hsummoned
    obtain ⟨rfl, rfl⟩ := Registry.reaction_of_login hwired hservice rfl hroute
    generalize hconnecting : session.state = state at hfault
    cases hfault with
    | unasked hnone => exact absurd hsummoned (hunderway.not_summoned hconnecting)
    | emptyChallenge hempty => exact absurd hsummoned (hunderway.not_summoned hconnecting)
  · intro hservice _
    generalize session.state = state at hfault
    rcases Registry.route_welcome hwired hservice hroute with rfl | rfl
    · cases hfault
    · cases hfault
  · refine hunderway.toPositioned.leave rfl rfl (.inr rfl) (.inr ?_)
    exact List.mem_cons_of_mem _ (List.mem_singleton_self _)

theorem takesIn_welcomed {told : Session} (hreaction : reaction = .logon ∨ reaction = .roster)
    (htold : Undisturbed session told) (hstate : session.state = .connected) :
    TakesIn config user password session index packet
      ((told.enter .loggedOn).report (some .logon) (.loggedOn told.user)) := by
  obtain ⟨news, hjournal, hnews⟩ := htold.journal
  have hne : told.state ≠ .loggedOn := by
    rw [htold.state_eq, hstate]
    decide
  obtain ⟨extra, hextra, hreported⟩ :=
    journal_enter_report hne (some .logon) (.loggedOn told.user)
  rw [hjournal, List.append_assoc] at hextra
  refine ⟨_, hextra, ?_⟩
  have hafter : ((told.enter .loggedOn).report (some .logon) (.loggedOn told.user)).standing =
      { session.standing with state := .loggedOn } := by
    rw [standing_report, standing_enter, htold.standing]
  intro attempt hunderway
  have hchallenged : Challenged attempt := hunderway.challenged (.inl hstate)
  refine ⟨?_, .of_ne_auth ?_ ?_, .append ?_ ?_, .of_moved ?_ ?_ ?_ ?_ ?_⟩
  · rcases hreported with rfl | rfl
    · simpa using handled_not_mem_news hnews
    · simpa using handled_not_mem_news hnews
  · intro hservice
    rw [(Registry.reaction_of_login hwired hservice rfl hroute).1] at hreaction
    simp at hreaction
  · exact fun _ hunasked => absurd hchallenged hunasked
  · exact .of_isPlain _ fun happening hmem => Happening.isPlain_of_isNews (hnews happening hmem)
  · have hbefore := (hchallenged.append [.received index packet]).append news
    rcases hreported with rfl | rfl
    · exact ⟨fun _ => hbefore, trivial⟩
    · exact ⟨fun _ => hbefore, fun _ => hbefore.append _, trivial⟩
  · exact (congrArg Standing.config hafter).trans hunderway.config_eq
  · exact (congrArg Standing.username hafter).trans hunderway.username_eq
  · exact fun hconnecting => nomatch hconnecting
  · exact fun hstill => hunderway.accounted.not_unmoved hchallenged.summoned hstill.of_append
  · exact fun _ => hchallenged.append _

theorem takesIn_evicted (hreaction : reaction = .logoff) (hstate : session.state = .loggedOn) :
    TakesIn config user password session index packet
      (((session.enter .unstarted).report (some .logoff)
        (.connectionClosed "session ended by server")).teardown) := by
  subst hreaction
  have hne : session.state ≠ .unstarted := by
    rw [hstate]
    decide
  obtain ⟨told, hjournal, hreported⟩ := journal_enter_report hne (some .logoff)
    (.connectionClosed "session ended by server")
  refine ⟨.entered .unstarted :: told, hjournal, ?_⟩
  intro attempt hunderway
  refine ⟨?_, .of_ne_auth ?_ ?_, .of_isPlain _ ?_, ?_⟩
  · rcases hreported with rfl | rfl <;> simp
  · intro hservice
    cases (Registry.reaction_of_login hwired hservice rfl hroute).1
  · intro hservice _
    rcases Registry.route_welcome hwired hservice hroute with hwelcome | hwelcome
    · cases hwelcome
    · cases hwelcome
  · intro happening hmem
    rcases List.mem_cons.mp hmem with rfl | hmem
    · rfl
    · rcases hreported with rfl | rfl
      · cases hmem
      · rw [List.mem_singleton.mp hmem]
        rfl
  · refine hunderway.toPositioned.leave rfl rfl (.inl rfl) (.inr ?_)
    exact List.mem_cons_of_mem _ (List.mem_cons_self ..)

theorem Reacted.takesIn {result : Except HandlerError Unit}
    (h : Reacted session reaction joined (after, result))
    (hown : session.state = .connecting →
      session.reader = some index ∧ session.link.writer = some index ∧ session.alive = true) :
    TakesIn config user password session index packet after := by
  cases h with
  | aside hafter hchallenge =>
      exact takesIn_aside hwired hroute hafter (fun hstate => (hown hstate).2.2) hchallenge
  | answered hreaction hstate hvalue hresponse =>
      obtain ⟨hreader, hwriter, -⟩ := hown hstate
      exact takesIn_answered hwired hroute hreader hwriter hreaction hstate hvalue hresponse
  | refused hfault => exact takesIn_refused hwired hroute hfault
  | welcomed hreaction htold hstate =>
      exact takesIn_welcomed hwired hroute hreaction htold hstate
  | evicted hreaction hstate hbody => exact takesIn_evicted hwired hroute hreaction hstate

end

theorem Handled.continues {before after : Session} {index : Nat} {packet : Packet}
    (h : Handled before index packet after) (hbefore : Standing.Orderly before.standing)
    {reader : Reader} (hreader : before.standing.readers[index]? = some reader)
    (hgoing : reader ≠ .stopped) :
    Continues config user password before after := by
  have hwired : Wired before.registry.handlers
      (before.registry.collectors.map Collecting.emptied) := hbefore.wired
  cases h with
  | unrouted hroute hstanding hschedule hjournal =>
      exact (takesIn_unrouted hwired hroute).continues hstanding hjournal
  | reacted hroute hstanding hschedule hjournal hreacted =>
      refine (hreacted.takesIn hwired hroute ?_).continues hstanding hjournal
      rw [← hstanding] at hbefore hreader
      exact own_of_connecting hbefore hreader hgoing

theorem ReadStep.continues {before after : Session} {index : Nat}
    (h : ReadStep before index after) (hbefore : Standing.Orderly before.standing)
    {reader : Reader} (hreader : before.standing.readers[index]? = some reader)
    (hgoing : reader ≠ .stopped) :
    Continues config user password before after := by
  have htaken : ∀ rest, Continues config user password before (before.startReading index rest) :=
    fun rest => .of_eq rfl rfl rfl rfl rfl rfl
  cases h with
  | @packet rest packet after hhandled =>
      have horderly := orderly_startReading hbefore index rest
      have hreads : (before.startReading index rest).standing.readers[index]? = some reader := by
        rw [standing_startReading]
        exact hreader
      refine (htaken rest).trans ((hhandled.continues horderly hreads hgoing).trans ?_)
      exact .of_eq rfl rfl rfl rfl rfl rfl
  | @malformed rest error hstate =>
      refine (htaken rest).trans ((continues_fail _ error).trans ?_)
      exact .of_eq rfl rfl rfl rfl rfl rfl
  | @passedOver rest hstate =>
      refine (htaken rest).trans ?_
      exact .of_eq rfl rfl rfl rfl rfl rfl
  | @cutOff error hstate =>
      refine (continues_fail before error).trans ?_
      exact .of_eq rfl rfl rfl rfl rfl rfl
  | @lost told finish hstate htold =>
      have hworking : Continues config user password before { before with working := some index } :=
        .of_eq rfl rfl rfl rfl rfl rfl
      have hfailed : Continues config user password told
          (told.fail (.transport finish.error.message)) := continues_fail told _
      refine (hworking.trans htold.continues).trans (hfailed.trans ?_)
      refine (continues_teardown _).trans ?_
      exact .of_eq rfl rfl rfl rfl rfl rfl
  | ended hstate =>
      exact .of_eq rfl rfl rfl rfl rfl rfl

theorem continues_read? {session next : Session} (h : Standing.Orderly session.standing)
    {index : Nat} (hread : session.read? index = some next) :
    Continues config user password session next := by
  have hkept : Standing.Orderly next.standing ∧ Continues config user password session next := by
    refine read?_induction (motive := fun later => Standing.Orderly later.standing ∧
      Continues config user password session later) ?_ ?_ ⟨h, .refl session⟩ hread
    · rintro before after ⟨horderly, hcontinues⟩ hnext
      obtain ⟨⟨reader, hreader, hgoing⟩, hstep⟩ := readNext?_step hnext
      exact ⟨hstep.orderly horderly,
        hcontinues.trans (hstep.continues horderly hreader hgoing)⟩
    · rintro before ⟨horderly, hcontinues⟩
      refine ⟨?_, hcontinues.trans ?_⟩
      · rw [standing_stopReading]
        exact horderly.stopReading index
      · exact .of_eq rfl rfl rfl rfl rfl rfl
  exact hkept.2

theorem Stepped.continues {before after : Session} {move : Move} (h : Stepped before move after)
    (hbefore : Standing.Orderly before.standing) :
    Continues config user password before after := by
  cases h with
  | carried hcarried => exact hcarried.continues hbefore
  | login username word hheld => exact continues_login before username word
  | resolveConnect call outcome => exact continues_resolveConnect hbefore call outcome
  | logout hheld => exact continues_logout before
  | reset hheld => exact continues_reset before
  | drop => exact continues_drop before
  | read hread => exact continues_read? hbefore hread
  | resume call => exact continues_resume before call
  | attachStore policy => exact .of_eq rfl rfl rfl rfl rfl rfl

theorem continues_run {session : Session} (h : Standing.AtRest session.standing)
    {moves : List Move} (hsequential : Sequential session moves) :
    Continues config user password session (session.run moves) := by
  refine (hsequential.keeps (fun between move hrest hcalls hbetween => ?_) h (.refl session)).2
  exact hbetween.trans ((step_stepped between move).continues hrest.toOrderly)

theorem underway_startLogin {session : Session} (h : Standing.AtRest session.standing)
    (hcalls : session.calls = []) (hstate : session.state = .unstarted) (user password : String) :
    Underway session.config user password (session.beginCall.2.startLogin user password) [] := by
  have hreader : session.reader = none := by
    refine ((h.settled hcalls).2 ?_).1
    show session.state ≠ .loggedOn
    rw [hstate]
    decide
  refine ⟨⟨rfl, rfl, ?_, fun _ => rfl, ?_, ?_⟩, trivial⟩
  · exact ⟨fun _ _ hmem => (nomatch hmem), fun _ => rfl⟩
  · intro _ index hown
    have hnone : session.reader = some index := hown
    rw [hreader] at hnone
    cases hnone
  · rintro (hconnected | hloggedOn)
    · cases hconnected
    · cases hloggedOn

/-- In a run whose calls come one after the other, a login attempt answers the challenge of the
server before it is complete, and only then and only once. -/
theorem attempt_answered (config : SessionConfig) (listeners : List String)
    (outcomes : List ConnectOutcome) (before during : List Move) (username password : String)
    (hsequential : Sequential (build config listeners outcomes)
      (before ++ .login username password :: during))
    (hheld : ((build config listeners outcomes).run before).held = true)
    (hstate : ((build config listeners outcomes).run before).state = .unstarted)
    (husername : Text.lowerCase (Text.trim username) ≠ "") (hpassword : password ≠ "") :
    let start := (build config listeners outcomes).run before
    let session := start.run (.login username password :: during)
    ∃ attempt, session.journal = start.journal ++ .entered .connecting :: attempt ∧
      (.entered .connecting ∉ attempt →
        Answered config (Text.lowerCase (Text.trim username)) password attempt ∧
          (session.state = .loggedOn → Challenged attempt)) := by
  intro start session
  obtain ⟨hbefore, hcalls, hduring⟩ := sequential_append.mp hsequential
  have hrest : Standing.AtRest start.standing :=
    atRest_run (atRest_build config listeners outcomes) hbefore
  have hconfig : start.config = config :=
    (follows_run (build config listeners outcomes) before).config
  have hnone : start.calls = [] := hcalls rfl
  have hstep : start.step (.login username password) =
      (start.beginCall.2.startLogin (Text.lowerCase (Text.trim username)) password).connect
        start.callCount (Text.lowerCase (Text.trim username))
        ((start.outcomes.head?).getD (.opened none)) := by
    dsimp only [step]
    rw [if_pos hheld]
    exact login_eq_connect hstate husername hpassword
  have hbegun := underway_startLogin hrest hnone hstate (Text.lowerCase (Text.trim username))
    password
  rw [hconfig] at hbegun
  have hconnected : Continues config (Text.lowerCase (Text.trim username)) password
      (start.beginCall.2.startLogin (Text.lowerCase (Text.trim username)) password)
      (start.step (.login username password)) := by
    rw [hstep]
    exact continues_connect _ start.callCount rfl _
  have hstarted : (start.beginCall.2.startLogin (Text.lowerCase (Text.trim username))
      password).journal = start.journal ++ [.entered .connecting] :=
    journal_startLogin hstate (Text.lowerCase (Text.trim username)) password
  obtain ⟨attempt, hjournal, hunderway⟩ :=
    hconnected.trans (continues_run ((step_stepped start _).atRest hrest hcalls) hduring)
  refine ⟨attempt, ?_, ?_⟩
  · rw [hstarted, List.append_assoc] at hjournal
    exact hjournal
  · intro hsame
    have hended := hunderway [] hbegun hsame
    exact ⟨answered_of_allAccounted hended.accounted,
      fun hloggedOn => hended.challenged (.inr hloggedOn)⟩

/-- A welcome that comes before the challenge is passed over, and the challenge is answered. -/
theorem attempt_answered_early_welcome :
    ∃ response later, Auth.respond .v1 "ann" "secret" "x" = .ok response ∧
      Answered {} "ann" "secret"
        ([.submitted 0 (loginRequest "ann"), .received 0 { service := .logon }, .handled,
          .received 0 { service := .auth, body := ⟨[("94", "x")]⟩ }, .entered .connected,
          .submitted 0 (challengeAnswer {} "ann" response), .handled] ++ later) := by
  obtain ⟨attempt, hjournal, hanswered⟩ := attempt_answered {} [] [] []
    [.arrive 0 [89, 77, 83, 71, 0, 12, 0, 0, 0, 0, 0, 1, 0, 0, 0, 0, 0, 0, 0, 0], .read 0,
      .arrive 0 [89, 77, 83, 71, 0, 12, 0, 0, 0, 7, 0, 87, 0, 0, 0, 0, 0, 0, 0, 0,
        57, 52, 192, 128, 120, 192, 128], .read 0]
    " Ann " "secret"
    (by decide +kernel) rfl rfl (by decide) (by decide)
  have hattempt : _ = attempt := congrArg List.tail hjournal
  have hname : Text.lowerCase (Text.trim " Ann ") = "ann" := by decide
  rw [hname] at hanswered
  have hstart : attempt.take 4 = [.submitted 0 (loginRequest "ann"),
      .received 0 { service := .logon }, .handled,
      .received 0 { service := .auth, body := ⟨[("94", "x")]⟩ }] := by
    rw [← hattempt]
    decide +kernel
  have hsame : .entered .connecting ∉ attempt := by
    rw [← hattempt]
    decide +kernel
  obtain ⟨hanswers, -⟩ := hanswered hsame
  have hsplit : attempt = attempt.take 4 ++ attempt.drop 4 :=
    (List.take_append_drop 4 attempt).symm
  rw [hstart] at hsplit
  obtain ⟨handling, later, hrest, -, hduly⟩ :=
    hanswers.handling [_, _, _] 0 _ (attempt.drop 4) hsplit
  obtain ⟨challenge, response, hvalue, hresponse, rfl, -⟩ :=
    hduly.answer ⟨rfl, "x", rfl, by decide⟩ (by simp [Unmoved])
  cases hvalue
  rw [hsplit, hrest] at hanswers
  exact ⟨response, later, hresponse, hanswers⟩

end Session

end Messenger
