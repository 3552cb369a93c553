import Messenger.Proofs.Session.Attempt
import Messenger.Proofs.Session.Order

/-!
A session in the course of a login attempt: how it stands to the history of the attempt, and that
calls, traffic and time keep the two in step.
-/

namespace Messenger

namespace Session

section

variable (config : SessionConfig) (user password : String)

/-- How a session stands in the course of an attempt with the given history. -/
structure Positioned (session : Session) (attempt : List Happening) : Prop where
  config_eq : session.config = config
  username_eq : session.username = some user
  connecting_iff : session.state = .connecting ↔ Unmoved attempt
  password_eq : session.state = .connecting → session.password = some password
  /-- The challenge has been asked for on the connection that is read. -/
  requested : session.state = .connecting → ∀ index, session.reader = some index →
    .submitted index (loginRequest user) ∈ attempt
  challenged : session.state = .connected ∨ session.state = .loggedOn → Challenged attempt

/-- A session in the course of an attempt, all of which is accounted for. -/
structure Underway (session : Session) (attempt : List Happening) : Prop extends
    Positioned config user password session attempt where
  accounted : AllAccounted config user password [] attempt

/-- One session comes from another by something that happens in the course of an attempt, or by the
begin of another attempt. -/
def Continues (before after : Session) : Prop :=
  ∃ noted, after.journal = before.journal ++ noted ∧
    ∀ attempt, Underway config user password before attempt → .entered .connecting ∉ noted →
      Underway config user password after (attempt ++ noted)

end

variable {config : SessionConfig} {user password : String}

/-- An attempt is not touched by what happened. -/
structure KeepsAttempt (before after : Session) : Prop where
  config_eq : after.config = before.config
  username_eq : after.username = before.username
  state_eq : after.state = before.state
  password_eq : before.state = .connecting → after.password = before.password
  reader_eq : before.state = .connecting → ∀ index, after.reader = some index →
    before.reader = some index

theorem KeepsAttempt.of_standing {before after : Session}
    (hstanding : after.standing = before.standing) :
    KeepsAttempt before after where
  config_eq := congrArg Standing.config hstanding
  username_eq := congrArg Standing.username hstanding
  state_eq := congrArg Standing.state hstanding
  password_eq _ := congrArg Standing.password hstanding
  reader_eq _ index hreader := by
    rw [← hreader]
    exact (congrArg Standing.reader hstanding).symm

theorem unmoved_of_state? {noted : List Happening}
    (hnone : ∀ happening ∈ noted, happening.state? = none) :
    Unmoved noted := by
  intro state hmem
  cases hnone (.entered state) hmem

theorem Positioned.keep {before after : Session} {attempt noted : List Happening}
    (h : Positioned config user password before attempt) (hkeeps : KeepsAttempt before after)
    (hunmoved : Unmoved noted) :
    Positioned config user password after (attempt ++ noted) where
  config_eq := hkeeps.config_eq.trans h.config_eq
  username_eq := hkeeps.username_eq.trans h.username_eq
  connecting_iff := by
    rw [hkeeps.state_eq, h.connecting_iff]
    exact ⟨fun hattempt => hattempt.append hunmoved, Unmoved.of_append⟩
  password_eq hstate := by
    rw [hkeeps.state_eq] at hstate
    exact (hkeeps.password_eq hstate).trans (h.password_eq hstate)
  requested hstate index hreader := by
    rw [hkeeps.state_eq] at hstate
    exact List.mem_append_left _ (h.requested hstate index (hkeeps.reader_eq hstate index hreader))
  challenged hstate := by
    rw [hkeeps.state_eq] at hstate
    exact (h.challenged hstate).append noted

theorem Positioned.of_moved {session : Session} {attempt : List Happening}
    (hconfig : session.config = config) (husername : session.username = some user)
    (hstate : session.state ≠ .connecting) (hmoved : ¬ Unmoved attempt)
    (hchallenged : session.state = .connected ∨ session.state = .loggedOn → Challenged attempt) :
    Positioned config user password session attempt where
  config_eq := hconfig
  username_eq := husername
  connecting_iff :=
    ⟨fun hconnecting => absurd hconnecting hstate, fun hunmoved => absurd hunmoved hmoved⟩
  password_eq hconnecting := absurd hconnecting hstate
  requested hconnecting := absurd hconnecting hstate
  challenged := hchallenged

theorem Positioned.leave {before after : Session} {attempt noted : List Happening}
    (h : Positioned config user password before attempt) (hconfig : after.config = before.config)
    (husername : after.username = before.username) (hstate : after.state = .unstarted ∨
      after.state = .failed)
    (hmoved : after.state = before.state ∨ .entered after.state ∈ noted) :
    Positioned config user password after (attempt ++ noted) := by
  have hover : after.state ≠ .connecting := by
    intro hconnecting
    simp [hconnecting] at hstate
  refine .of_moved (hconfig.trans h.config_eq) (husername.trans h.username_eq) hover ?_ ?_
  · intro hunmoved
    rcases hmoved with hsame | hentered
    · rw [hsame] at hover
      exact hover (h.connecting_iff.mpr hunmoved.of_append)
    · exact hunmoved after.state (List.mem_append_right _ hentered)
  · rintro (hconnected | hloggedOn)
    · simp [hconnected] at hstate
    · simp [hloggedOn] at hstate

namespace Continues

theorem of_noted {before after : Session} {noted : List Happening}
    (hkeeps : KeepsAttempt before after) (hjournal : after.journal = before.journal ++ noted)
    (hplain : ∀ happening ∈ noted, happening.isPlain = true)
    (hnone : ∀ happening ∈ noted, happening.state? = none) :
    Continues config user password before after := by
  refine ⟨noted, hjournal, ?_⟩
  intro attempt hunderway _
  refine ⟨hunderway.toPositioned.keep hkeeps (unmoved_of_state? hnone), ?_⟩
  exact hunderway.accounted.append (.of_isPlain _ hplain)

theorem of_same {before after : Session} (hkeeps : KeepsAttempt before after)
    (hjournal : after.journal = before.journal) :
    Continues config user password before after := by
  have hnothing : after.journal = before.journal ++ [] := by simpa using hjournal
  exact .of_noted hkeeps hnothing (by simp) (by simp)

theorem of_eq {before after : Session} (hconfig : after.config = before.config)
    (husername : after.username = before.username) (hstate : after.state = before.state)
    (hpassword : after.password = before.password) (hreader : after.reader = before.reader)
    (hjournal : after.journal = before.journal) :
    Continues config user password before after := by
  refine .of_same ⟨hconfig, husername, hstate, fun _ => hpassword, ?_⟩ hjournal
  intro _ index hown
  rw [← hreader]
  exact hown

theorem refl (session : Session) : Continues config user password session session :=
  .of_eq rfl rfl rfl rfl rfl rfl

theorem trans {first second third : Session}
    (hfirst : Continues config user password first second)
    (hsecond : Continues config user password second third) :
    Continues config user password first third := by
  obtain ⟨early, hearly, hbegun⟩ := hfirst
  obtain ⟨late, hlate, hgone⟩ := hsecond
  refine ⟨early ++ late, ?_, ?_⟩
  · rw [hlate, hearly, List.append_assoc]
  · intro attempt hunderway hsame
    rw [List.mem_append, not_or] at hsame
    rw [← List.append_assoc]
    exact hgone _ (hbegun attempt hunderway hsame.1) hsame.2

theorem of_begin {before after : Session} {noted : List Happening}
    (hjournal : after.journal = before.journal ++ noted)
    (hbegin : .entered .connecting ∈ noted) :
    Continues config user password before after :=
  ⟨noted, hjournal, fun _ _ hsame => absurd hbegin hsame⟩

end Continues

theorem Mourns.continues {before after : Session} {text : String} (h : Mourns before text after) :
    Continues config user password before after := by
  refine .of_noted (.of_standing h.standing) h.journal ?_ ?_
  all_goals split <;> simp [Happening.isPlain, Happening.isWelcome, Happening.isAnswer,
    Happening.isReceived, Happening.state?, Event.isLoggedOn]

theorem continues_leave (session : Session) {state : SessionState}
    (hstate : state = .unstarted ∨ state = .failed) :
    Continues config user password session (session.enter state) := by
  by_cases hsame : session.state = state
  · refine ⟨[], by simp [enter, hsame], ?_⟩
    intro attempt hunderway _
    refine ⟨hunderway.toPositioned.leave rfl rfl hstate (.inl hsame.symm), ?_⟩
    simpa using hunderway.accounted
  · refine ⟨[.entered state], by simp [enter, hsame], ?_⟩
    intro attempt hunderway _
    refine ⟨hunderway.toPositioned.leave rfl rfl hstate (.inr ?_), ?_⟩
    · exact List.mem_singleton_self _
    · refine hunderway.accounted.append (.of_isPlain _ ?_)
      intro happening hmem
      rw [List.mem_singleton.mp hmem]
      rcases hstate with rfl | rfl <;> rfl

theorem continues_fail (session : Session) (error : SessionError) :
    Continues config user password session (session.fail error) := by
  have hmarked : Continues config user password session { session with failure := some error } :=
    .of_eq rfl rfl rfl rfl rfl rfl
  exact hmarked.trans (continues_leave _ (.inr rfl))

theorem continues_enqueue (session : Session) {outgoing : Outgoing Sending}
    (hservice : outgoing.packet.service ≠ .authResp) :
    Continues config user password session (session.enqueue outgoing) := by
  refine .of_noted (.of_standing (standing_enqueue session outgoing)) rfl ?_ ?_
  · intro happening hmem
    obtain ⟨index, -, rfl⟩ := List.mem_map.mp hmem
    simp [Happening.isPlain, Happening.isWelcome, Happening.isAnswer, Happening.isReceived,
      hservice]
  · intro happening hmem
    obtain ⟨index, -, rfl⟩ := List.mem_map.mp hmem
    rfl

theorem continues_submit (session : Session) {packet : Packet}
    (hservice : packet.service ≠ .authResp) :
    Continues config user password session (session.submit packet).2 := by
  unfold submit
  dsimp only
  split
  · refine Continues.trans ?_ (continues_enqueue _ hservice)
    exact .of_same (.of_standing rfl) rfl
  · exact .of_same (.of_standing rfl) rfl

/-- The session's own reader can only be given up. -/
theorem continues_stopReader (session : Session) :
    Continues config user password session session.stopReader :=
  .of_same ⟨rfl, rfl, rfl, fun _ => rfl, fun _ _ hreader => nomatch hreader⟩ rfl

theorem continues_teardown (session : Session) :
    Continues config user password session session.teardown := by
  unfold teardown
  refine Continues.trans ?_ (continues_stopReader _)
  exact .of_eq rfl rfl rfl rfl rfl rfl

theorem continues_release (session : Session) :
    Continues config user password session session.release := by
  unfold release
  refine Continues.trans ?_ (continues_stopReader _)
  exact .of_eq rfl rfl rfl rfl rfl rfl

theorem continues_finish (session : Session) (number : Nat) (result : Except SessionError Unit) :
    Continues config user password session (session.finish number result) := by
  unfold finish
  dsimp only
  split
  · exact .of_eq rfl rfl rfl rfl rfl rfl
  · refine Continues.trans ?_ (continues_release _)
    exact .of_eq rfl rfl rfl rfl rfl rfl

theorem continues_await (session : Session) (number : Nat) (phase : Phase) :
    Continues config user password session (session.await number phase) :=
  .of_eq rfl rfl rfl rfl rfl rfl

theorem continues_beginCall (session : Session) :
    Continues config user password session session.beginCall.2 :=
  .of_eq rfl rfl rfl rfl rfl rfl

theorem continues_forget (session : Session) (hstate : session.state ≠ .connecting) :
    Continues config user password session { session with password := none } :=
  .of_same ⟨rfl, rfl, rfl, fun hconnecting => absurd hconnecting hstate,
    fun _ _ hreader => hreader⟩ rfl

theorem continues_abandonLogin (session : Session) (number : Nat) (error : SessionError)
    (hstate : session.state ≠ .connecting) :
    Continues config user password session (session.abandonLogin number error) :=
  (continues_forget session hstate).trans
    ((continues_teardown _).trans (continues_finish _ number _))

theorem continues_failLogin (session : Session) (number : Nat) (error : SessionError) :
    Continues config user password session (session.failLogin number error) :=
  (continues_fail session error).trans
    (continues_abandonLogin _ number error fun hconnecting => nomatch hconnecting)

theorem continues_awaitHandshake (session : Session) (number deadline : Nat) :
    Continues config user password session (session.awaitHandshake number deadline) := by
  unfold awaitHandshake
  split
  · rename_i hover
    have hstate : session.state ≠ .connecting := by
      intro hconnecting
      rw [hconnecting] at hover
      cases hover
    split
    · exact (continues_forget session hstate).trans (continues_finish _ number _)
    · exact continues_abandonLogin session number _ hstate
  · split
    · exact continues_failLogin session number _
    · exact continues_await session number _

theorem journal_enqueue_of_writer {session : Session} {index : Nat}
    (hwriter : session.link.writer = some index) (outgoing : Outgoing Sending) :
    (session.enqueue outgoing).journal =
      session.journal ++ [.submitted index outgoing.packet] := by
  simp [enqueue, hwriter]

theorem journal_submit_of_writer {session : Session} {index : Nat}
    (hwriter : session.link.writer = some index) (packet : Packet) :
    (session.submit packet).2.journal = session.journal ++ [.submitted index packet] := by
  unfold submit
  simp only [Link.isAttached, hwriter, Option.isSome_some, if_true]
  exact journal_enqueue_of_writer hwriter _

theorem journal_answer {session : Session} {index : Nat} (hstate : session.state = .connecting)
    (hwriter : session.link.writer = some index) (sending : Sending) (packet : Packet) :
    ((session.enter .connected).execute sending packet).journal =
      session.journal ++ [.entered .connected, .submitted index packet] := by
  have hwrites : (session.enter .connected).link.writer = some index := hwriter
  unfold execute
  rw [journal_enqueue_of_writer hwrites]
  simp [enter, hstate]

theorem journal_fail {session : Session} (hstate : session.state ≠ .failed)
    (error : SessionError) :
    (session.fail error).journal = session.journal ++ [.entered .failed] := by
  simp [fail, enter, hstate]

theorem journal_enter_report {session : Session} {state : SessionState}
    (hstate : session.state ≠ state) (service : Option Service) (event : Event) :
    ∃ told, ((session.enter state).report service event).journal =
        session.journal ++ .entered state :: told ∧
      (told = [] ∨ told = [.reported ⟨service, event⟩]) := by
  by_cases hrunning : session.events.running = true
  · exact ⟨[.reported ⟨service, event⟩], by simp [report, enter, hstate, hrunning], .inr rfl⟩
  · exact ⟨[], by simp [report, enter, hstate, hrunning], .inl rfl⟩

theorem writer_attach (session : Session) (writeFault : Option String) :
    (session.attach writeFault).link.writer = some session.link.connections.length := by
  have hwriter := congrArg Standing.writer (standing_attach session writeFault)
  have hlength : session.standing.readers.length = session.link.connections.length :=
    List.length_map _
  rw [← hlength]
  exact hwriter

/-- The challenge is asked for as soon as there is a connection. -/
theorem continues_request (session : Session) {username : String}
    (husername : session.username = some username) (writeFault : Option String) :
    Continues config user password session
      ((session.attach writeFault).submit (loginRequest username)).2 := by
  have hjournal := journal_submit_of_writer (writer_attach session writeFault)
    (loginRequest username)
  have hstanding : ((session.attach writeFault).submit (loginRequest username)).2.standing =
      session.standing.attach := by
    rw [standing_submit, standing_attach]
  have hlength : session.standing.readers.length = session.link.connections.length :=
    List.length_map _
  refine ⟨_, hjournal, ?_⟩
  intro attempt hunderway _
  have huser : username = user := by
    rw [hunderway.username_eq] at husername
    exact (Option.some.inj husername).symm
  subst huser
  revert hstanding
  generalize ((session.attach writeFault).submit (loginRequest username)).2 = opened
  intro hstanding
  have hstate : opened.state = session.state := congrArg Standing.state hstanding
  have hreader : opened.reader = some session.link.connections.length := by
    rw [← hlength]
    exact congrArg Standing.reader hstanding
  have hunmoved : Unmoved [.submitted session.link.connections.length (loginRequest username)] :=
    unmoved_of_state? (by simp [Happening.state?])
  refine ⟨⟨?_, ?_, ?_, ?_, ?_, ?_⟩, ?_⟩
  · exact (congrArg Standing.config hstanding).trans hunderway.config_eq
  · exact (congrArg Standing.username hstanding).trans hunderway.username_eq
  · rw [hstate, hunderway.connecting_iff]
    exact ⟨fun hattempt => hattempt.append hunmoved, Unmoved.of_append⟩
  · rw [hstate]
    intro hconnecting
    exact (congrArg Standing.password hstanding).trans (hunderway.password_eq hconnecting)
  · intro _ index hindex
    rw [hreader] at hindex
    rw [Option.some.inj hindex]
    exact List.mem_append_right _ (List.mem_singleton_self _)
  · rw [hstate]
    exact fun hreached => (hunderway.challenged hreached).append _
  · refine hunderway.accounted.append (.of_isPlain _ ?_)
    intro happening hmem
    rw [List.mem_singleton.mp hmem]
    rfl

theorem continues_openChannel (session : Session) (number : Nat) {username : String}
    (husername : session.username = some username) (writeFault : Option String) :
    Continues config user password session
      (session.openChannel number username writeFault) :=
  (continues_request session husername writeFault).trans (continues_await _ number _)

theorem continues_connect (session : Session) (number : Nat) {username : String}
    (husername : session.username = some username) (outcome : ConnectOutcome) :
    Continues config user password session (session.connect number username outcome) := by
  cases outcome with
  | opened writeFault => exact continues_openChannel session number husername writeFault
  | refused text => exact continues_failLogin session number _
  | pending => exact continues_await session number _

theorem journal_startLogin {session : Session} (hstate : session.state = .unstarted)
    (username word : String) :
    (session.startLogin username word).journal = session.journal ++ [.entered .connecting] := by
  simp [startLogin, enter, hstate]

theorem continues_login (session : Session) (username word : String) :
    Continues config user password session (session.login username word) := by
  unfold login
  dsimp only
  split
  · exact (continues_beginCall session).trans (continues_finish _ _ _)
  · rename_i hstate
    rw [Decidable.not_not] at hstate
    split
    · refine (continues_beginCall session).trans ?_
      exact (continues_fail _ _).trans (continues_finish _ _ _)
    · obtain ⟨noted, hjournal, -⟩ := (follows_connect
        (session.beginCall.2.startLogin (Text.lowerCase (Text.trim username)) word)
        session.beginCall.1 (Text.lowerCase (Text.trim username))
        ((session.beginCall.2.outcomes.head?).getD (.opened none))).journal
      rw [journal_startLogin hstate, List.append_assoc] at hjournal
      exact .of_begin hjournal (List.mem_append_left _ (List.mem_singleton_self _))

theorem continues_logout (session : Session) :
    Continues config user password session session.logout := by
  unfold logout
  refine (continues_beginCall session).trans ?_
  dsimp only
  split
  · exact continues_finish _ _ _
  · refine (continues_leave _ (.inl rfl)).trans ?_
    exact (continues_submit _ (by simp [Packet.request])).trans (continues_await _ _ _)

theorem continues_reset (session : Session) :
    Continues config user password session session.reset := by
  unfold reset
  refine (continues_beginCall session).trans ?_
  dsimp only
  split
  · refine Continues.trans ?_ (continues_finish _ _ _)
    refine (continues_leave _ (.inl rfl)).trans ((continues_teardown _).trans ?_)
    exact .of_eq rfl rfl rfl rfl rfl rfl
  · exact continues_finish _ _ _

theorem continues_goOn (session : Session) (call : Call) :
    Continues config user password session (session.goOn call) := by
  unfold goOn
  split
  · exact .refl session
  · split
    · exact .refl session
    · exact continues_awaitHandshake session _ _
    · exact continues_failLogin session _ _
  · exact continues_awaitHandshake session _ _
  · split
    · exact .refl session
    · exact (continues_teardown session).trans (continues_finish _ _ _)

theorem continues_resume (session : Session) (number : Nat) :
    Continues config user password session (session.resume number) := by
  unfold resume
  split
  · split
    · exact continues_goOn session _
    · exact .refl session
  · exact .refl session

theorem continues_resolveConnect {session : Session} (h : Standing.Orderly session.standing)
    (number : Nat) (outcome : ConnectOutcome) :
    Continues config user password session (session.resolveConnect number outcome) := by
  unfold resolveConnect
  split
  · rename_i called username hcall
    obtain ⟨hmem, -⟩ := callNumbered?_mem hcall
    exact continues_connect session number (h.connecting _ hmem username rfl).1 outcome
  · exact .refl session

theorem continues_drop (session : Session) :
    Continues config user password session session.drop := by
  have hdropped : Continues config user password session { session with held := false } :=
    .of_eq rfl rfl rfl rfl rfl rfl
  unfold drop
  dsimp only
  split
  · exact hdropped
  · exact hdropped.trans (continues_release _)

theorem Carries.continues {before after : Session} (h : Carries before after)
    (hbefore : Standing.Orderly before.standing) :
    Continues config user password before after := by
  obtain ⟨noted, hjournal, hsent⟩ := h.journal
  refine .of_noted (.of_standing h.standing) hjournal ?_ ?_
  · intro happening hmem
    obtain ⟨connection, packet, rfl, hpacket⟩ := hsent happening hmem
    have hservice : packet.service ≠ .authResp := by
      rcases hpacket with hservice | hrecurring
      · exact hservice
      · simpa using hbefore.recurring _ hrecurring
    simp [Happening.isPlain, Happening.isWelcome, Happening.isAnswer, Happening.isReceived,
      hservice]
  · intro happening hmem
    obtain ⟨connection, packet, rfl, -⟩ := hsent happening hmem
    rfl

end Session

end Messenger
