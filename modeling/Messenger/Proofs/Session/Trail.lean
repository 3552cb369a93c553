import Messenger.Proofs.Session.Moves
import Messenger.Proofs.Session.Reading

/-!
The states of a session follow each other along the lifecycle, whatever calls are made and whatever
the server does.
-/

namespace Messenger

namespace SessionState

def edges : List (SessionState × SessionState) :=
  [(.unstarted, .connecting), (.connecting, .connected), (.connected, .loggedOn),
   (.connecting, .failed), (.connected, .failed), (.loggedOn, .failed),
   (.loggedOn, .unstarted), (.unstarted, .failed), (.failed, .unstarted)]

def Edge (first second : SessionState) : Prop :=
  (first, second) ∈ edges

instance : DecidableRel Edge := fun first second =>
  inferInstanceAs (Decidable ((first, second) ∈ edges))

/-- Every state but failure itself can fail. -/
theorem edge_failed {state : SessionState} (hstate : state ≠ .failed) :
    Edge state .failed := by
  cases state with
  | unstarted => decide
  | connecting => decide
  | connected => decide
  | loggedOn => decide
  | failed => exact absurd rfl hstate

/-- Only a new login leads out of a session that is over. -/
theorem edge_of_ended {state next : SessionState} (hended : state = .unstarted ∨ state = .failed)
    (hedge : Edge state next) (hsame : next ≠ .connecting) :
    next = .unstarted ∨ next = .failed := by
  revert hedge hsame
  rcases hended with rfl | rfl
  · cases next <;> decide
  · cases next <;> decide

/-- A way through the lifecycle: from a state, through states entered one after the other, to the
last of them. -/
inductive Trail : SessionState → List SessionState → SessionState → Prop
  | stay (state : SessionState) : Trail state [] state
  | go {first next last : SessionState} {rest : List SessionState} (hedge : Edge first next)
      (hrest : Trail next rest last) : Trail first (next :: rest) last

theorem Trail.append {first middle last : SessionState} {early late : List SessionState}
    (hearly : Trail first early middle) (hlate : Trail middle late last) :
    Trail first (early ++ late) last := by
  induction hearly with
  | stay state => exact hlate
  | go hedge hrest induction => exact .go hedge (induction hlate)

theorem Trail.ended {first last : SessionState} {states : List SessionState}
    (h : Trail first states last) (hsame : .connecting ∉ states)
    (hended : (first = .unstarted ∨ first = .failed) ∨ .unstarted ∈ states) :
    last = .unstarted ∨ last = .failed := by
  induction h with
  | stay state => simpa using hended
  | go hedge hrest induction =>
      rw [List.mem_cons, not_or] at hsame
      refine induction hsame.2 ?_
      rcases hended with hended | hmem
      · exact .inl (edge_of_ended hended hedge (Ne.symm hsame.1))
      · rcases List.mem_cons.mp hmem with hnext | hrest
        · exact .inl (.inl hnext.symm)
        · exact .inr hrest

end SessionState

open SessionState (Edge Trail)

namespace Happening

def state? : Happening → Option SessionState
  | .entered state => some state
  | _ => none

theorem state?_of_isNews {happening : Happening} (hnews : happening.isNews = true) :
    happening.state? = none := by
  cases happening with
  | entered state => cases hnews
  | _ => rfl

end Happening

/-- The states a journal tells of. -/
def visited (journal : List Happening) : List SessionState :=
  journal.filterMap Happening.state?

@[simp] theorem visited_append (early late : List Happening) :
    visited (early ++ late) = visited early ++ visited late :=
  List.filterMap_append

theorem mem_visited {journal : List Happening} {state : SessionState} :
    state ∈ visited journal ↔ .entered state ∈ journal := by
  unfold visited
  rw [List.mem_filterMap]
  constructor
  · rintro ⟨happening, hmem, hstate⟩
    cases happening with
    | entered other =>
        cases hstate
        exact hmem
    | _ => cases hstate
  · exact fun hmem => ⟨_, hmem, rfl⟩

theorem visited_eq_nil {journal : List Happening}
    (hnone : ∀ happening ∈ journal, happening.state? = none) :
    visited journal = [] :=
  List.filterMap_eq_nil_iff.mpr hnone

namespace Session

/-- One session is a later stage of another: the way through the lifecycle between them is told by
the journal. -/
structure Follows (before after : Session) : Prop where
  config : after.config = before.config
  journal : ∃ noted, after.journal = before.journal ++ noted ∧
    Trail before.state (visited noted) after.state

namespace Follows

/-- What happens on the way without a change of state leaves no trace in it. -/
theorem of_noted {before after : Session} {noted : List Happening}
    (hconfig : after.config = before.config) (hstate : after.state = before.state)
    (hjournal : after.journal = before.journal ++ noted)
    (hnone : ∀ happening ∈ noted, happening.state? = none) :
    Follows before after := by
  refine ⟨hconfig, noted, hjournal, ?_⟩
  rw [hstate, visited_eq_nil hnone]
  exact .stay before.state

theorem of_same {before after : Session} (hconfig : after.config = before.config)
    (hstate : after.state = before.state) (hjournal : after.journal = before.journal) :
    Follows before after := by
  have hnothing : after.journal = before.journal ++ [] := by simpa using hjournal
  exact .of_noted hconfig hstate hnothing (by simp)

theorem refl (session : Session) : Follows session session :=
  of_same rfl rfl rfl

theorem trans {first second third : Session} (hfirst : Follows first second)
    (hsecond : Follows second third) :
    Follows first third := by
  obtain ⟨early, hearly, htrail⟩ := hfirst.journal
  obtain ⟨late, hlate, hrest⟩ := hsecond.journal
  refine ⟨hsecond.config.trans hfirst.config, early ++ late, ?_, ?_⟩
  · rw [hlate, hearly, List.append_assoc]
  · rw [visited_append]
    exact htrail.append hrest

end Follows

theorem Undisturbed.follows {before after : Session} (h : Undisturbed before after) :
    Follows before after := by
  obtain ⟨noted, hjournal, hnews⟩ := h.journal
  exact .of_noted (congrArg Standing.config h.standing) h.state_eq hjournal
    fun happening hmem => Happening.state?_of_isNews (hnews happening hmem)

theorem Mourns.follows {before after : Session} {text : String} (h : Mourns before text after) :
    Follows before after := by
  refine .of_noted (congrArg Standing.config h.standing) (congrArg Standing.state h.standing)
    h.journal ?_
  split <;> simp [Happening.state?]

theorem follows_note (session : Session) {happening : Happening}
    (hnone : happening.state? = none) :
    Follows session (session.note happening) :=
  .of_noted rfl rfl rfl (by simpa using hnone)

theorem follows_enter (session : Session) {state : SessionState}
    (hedge : session.state = state ∨ Edge session.state state) :
    Follows session (session.enter state) := by
  by_cases hsame : session.state = state
  · exact .of_same rfl hsame.symm (by simp [enter, hsame])
  · refine ⟨rfl, [.entered state], by simp [enter, hsame], ?_⟩
    exact .go (hedge.resolve_left hsame) (.stay state)

theorem follows_fail (session : Session) (error : SessionError) :
    Follows session (session.fail error) := by
  have hmarked : Follows session { session with failure := some error } := .of_same rfl rfl rfl
  refine hmarked.trans (follows_enter _ ?_)
  by_cases hfailed : session.state = .failed
  · exact .inl hfailed
  · exact .inr (SessionState.edge_failed hfailed)

theorem follows_report (session : Session) (service : Option Service) (event : Event) :
    Follows session (session.report service event) := by
  by_cases hrunning : session.events.running = true
  · exact .of_noted rfl rfl (by simp [report, hrunning]; rfl) (by simp [Happening.state?])
  · exact .of_same rfl rfl (by simp [report, hrunning])

theorem follows_enqueue (session : Session) (outgoing : Outgoing Sending) :
    Follows session (session.enqueue outgoing) := by
  refine .of_noted rfl rfl rfl ?_
  intro happening hmem
  obtain ⟨index, -, rfl⟩ := List.mem_map.mp hmem
  rfl

theorem follows_submit (session : Session) (packet : Packet) :
    Follows session (session.submit packet).2 := by
  unfold submit
  dsimp only
  split
  · refine Follows.trans ?_ (follows_enqueue _ _)
    exact .of_same rfl rfl rfl
  · exact .of_same rfl rfl rfl

theorem follows_finish (session : Session) (number : Nat) (result : Except SessionError Unit) :
    Follows session (session.finish number result) := by
  unfold finish
  dsimp only
  split <;> exact .of_same rfl rfl rfl

theorem follows_await (session : Session) (number : Nat) (phase : Phase) :
    Follows session (session.await number phase) :=
  .of_same rfl rfl rfl

theorem follows_teardown (session : Session) : Follows session session.teardown :=
  .of_same rfl rfl rfl

theorem Reacted.follows {before after : Session} {reaction : Reaction} {packet : Packet}
    {result : Except HandlerError Unit} (h : Reacted before reaction packet (after, result)) :
    Follows before after := by
  cases h with
  | aside hafter hchallenge => exact hafter.follows
  | answered hreaction hstate hvalue hresponse =>
      have hedge : Edge before.state .connected := by
        rw [hstate]
        decide
      exact (follows_enter before (.inr hedge)).trans (follows_enqueue _ _)
  | refused hfault => exact follows_fail before _
  | welcomed hreaction htold hstate =>
      refine htold.follows.trans ((follows_enter _ (.inr ?_)).trans (follows_report _ _ _))
      rw [htold.state_eq, hstate]
      decide
  | evicted hreaction hstate hbody =>
      have hedge : Edge before.state .unstarted := by
        rw [hstate]
        decide
      exact ((follows_enter before (.inr hedge)).trans (follows_report _ _ _)).trans
        (follows_teardown _)

theorem Handled.follows {before after : Session} {connection : Nat} {packet : Packet}
    (h : Handled before connection packet after) :
    Follows before after := by
  cases h with
  | unrouted hroute hstanding hschedule hjournal =>
      refine Follows.trans ?_ (follows_note _ rfl)
      exact .of_noted (congrArg Standing.config hstanding) (congrArg Standing.state hstanding)
        hjournal (by simp [Happening.state?])
  | reacted hroute hstanding hschedule hjournal hreacted =>
      refine (Follows.trans ?_ hreacted.follows).trans (follows_note _ rfl)
      exact .of_noted (congrArg Standing.config hstanding) (congrArg Standing.state hstanding)
        hjournal (by simp [Happening.state?])

theorem ReadStep.follows {before after : Session} {index : Nat}
    (h : ReadStep before index after) :
    Follows before after := by
  cases h with
  | @packet rest packet after hhandled =>
      have htaken : Follows before (before.startReading index rest) := .of_same rfl rfl rfl
      exact (htaken.trans hhandled.follows).trans (.of_same rfl rfl rfl)
  | @malformed rest error hstate =>
      have htaken : Follows before (before.startReading index rest) := .of_same rfl rfl rfl
      refine htaken.trans ((follows_fail _ error).trans ?_)
      exact .of_same rfl rfl rfl
  | passedOver hstate => exact .of_same rfl rfl rfl
  | cutOff hstate => exact (follows_fail before _).trans (.of_same rfl rfl rfl)
  | @lost told finish hstate htold =>
      have htaken : Follows before { before with working := some index } := .of_same rfl rfl rfl
      have hfailed := follows_fail told (.transport finish.error.message)
      refine (htaken.trans htold.follows).trans (hfailed.trans ?_)
      exact .of_same rfl rfl rfl
  | ended hstate => exact .of_same rfl rfl rfl

theorem follows_read? {session next : Session} {index : Nat}
    (hread : session.read? index = some next) :
    Follows session next := by
  refine read?_induction (motive := Follows session) ?_ ?_ (.refl session) hread
  · intro before after hbefore hnext
    exact hbefore.trans (readNext?_step hnext).2.follows
  · intro before hbefore
    exact hbefore.trans (.of_same rfl rfl rfl)

theorem follows_abandonLogin (session : Session) (number : Nat) (error : SessionError) :
    Follows session (session.abandonLogin number error) := by
  unfold abandonLogin
  refine Follows.trans ?_ (follows_finish _ _ _)
  exact .of_same rfl rfl rfl

theorem follows_failLogin (session : Session) (number : Nat) (error : SessionError) :
    Follows session (session.failLogin number error) :=
  (follows_fail session error).trans (follows_abandonLogin _ number error)

theorem follows_awaitHandshake (session : Session) (number deadline : Nat) :
    Follows session (session.awaitHandshake number deadline) := by
  unfold awaitHandshake
  split
  · split
    · refine Follows.trans ?_ (follows_finish _ _ _)
      exact .of_same rfl rfl rfl
    · exact follows_abandonLogin session number _
  · split
    · exact follows_failLogin session number _
    · exact follows_await session number _

theorem follows_openChannel (session : Session) (number : Nat) (username : String)
    (writeFault : Option String) :
    Follows session (session.openChannel number username writeFault) := by
  unfold openChannel
  refine Follows.trans ?_ ((follows_submit _ _).trans (follows_await _ _ _))
  exact .of_same rfl rfl rfl

theorem follows_connect (session : Session) (number : Nat) (username : String)
    (outcome : ConnectOutcome) :
    Follows session (session.connect number username outcome) := by
  cases outcome with
  | opened writeFault => exact follows_openChannel session number username writeFault
  | refused text => exact follows_failLogin session number _
  | pending => exact follows_await session number _

theorem follows_beginCall (session : Session) : Follows session session.beginCall.2 :=
  .of_same rfl rfl rfl

theorem follows_login (session : Session) (username password : String) :
    Follows session (session.login username password) := by
  unfold login
  refine (follows_beginCall session).trans ?_
  dsimp only
  split
  · exact follows_finish _ _ _
  · rename_i hstate
    rw [Decidable.not_not] at hstate
    split
    · exact (follows_fail _ _).trans (follows_finish _ _ _)
    · refine Follows.trans ?_ (follows_connect _ _ _ _)
      refine Follows.trans ?_ (follows_enter _ (.inr ?_))
      · exact .of_same rfl rfl rfl
      · rw [hstate]
        decide

theorem follows_logout (session : Session) : Follows session session.logout := by
  unfold logout
  refine (follows_beginCall session).trans ?_
  dsimp only
  split
  · exact follows_finish _ _ _
  · rename_i hstate
    rw [Decidable.not_not] at hstate
    refine (follows_enter _ (.inr ?_)).trans ((follows_submit _ _).trans (follows_await _ _ _))
    rw [hstate]
    decide

theorem follows_reset (session : Session) : Follows session session.reset := by
  unfold reset
  refine (follows_beginCall session).trans ?_
  dsimp only
  split
  · rename_i hstate
    refine Follows.trans ?_ (follows_finish _ _ _)
    have hentered : Follows session.beginCall.2 (session.beginCall.2.enter .unstarted) := by
      apply follows_enter
      rcases hstate with hfailed | hunstarted
      · rw [hfailed]
        decide
      · exact .inl hunstarted
    exact hentered.trans (.of_same rfl rfl rfl)
  · exact follows_finish _ _ _

theorem follows_goOn (session : Session) (call : Call) :
    Follows session (session.goOn call) := by
  unfold goOn
  split
  · exact .refl session
  · split
    · exact .refl session
    · exact follows_awaitHandshake session _ _
    · exact follows_failLogin session _ _
  · exact follows_awaitHandshake session _ _
  · split
    · exact .refl session
    · exact (follows_teardown session).trans (follows_finish _ _ _)

theorem follows_resume (session : Session) (number : Nat) :
    Follows session (session.resume number) := by
  unfold resume
  split
  · split
    · exact follows_goOn session _
    · exact .refl session
  · exact .refl session

theorem follows_resolveConnect (session : Session) (number : Nat) (outcome : ConnectOutcome) :
    Follows session (session.resolveConnect number outcome) := by
  unfold resolveConnect
  split
  · exact follows_connect session number _ outcome
  · exact .refl session

theorem follows_drop (session : Session) : Follows session session.drop := by
  unfold drop
  dsimp only
  split <;> exact .of_same rfl rfl rfl

theorem Carries.follows {before after : Session} (h : Carries before after) :
    Follows before after := by
  obtain ⟨noted, hjournal, hsent⟩ := h.journal
  refine .of_noted (congrArg Standing.config h.standing) (congrArg Standing.state h.standing)
    hjournal ?_
  intro happening hmem
  obtain ⟨connection, packet, rfl, -⟩ := hsent happening hmem
  rfl

theorem Stepped.follows {before after : Session} {move : Move} (h : Stepped before move after) :
    Follows before after := by
  cases h with
  | carried hcarried => exact hcarried.follows
  | login username password hheld => exact follows_login before username password
  | resolveConnect call outcome => exact follows_resolveConnect before call outcome
  | logout hheld => exact follows_logout before
  | reset hheld => exact follows_reset before
  | drop => exact follows_drop before
  | read hread => exact follows_read? hread
  | resume call => exact follows_resume before call
  | attachStore policy => exact .of_same rfl rfl rfl

theorem follows_run (session : Session) (moves : List Move) :
    Follows session (session.run moves) :=
  run_keeps (fun between move h => h.trans (step_stepped between move).follows) (.refl session)
    moves

end Session

end Messenger
