import Messenger.Proofs.Session.Rehearsal

/-!
What holds of a session in the course of a login attempt: it listens to the connection of the
attempt only, and reports of each packet what its rehearsal reports.
-/

namespace Messenger

open SessionState (Trail)

namespace Standing

/-- A connection is read, or a login waits for one. -/
def IsListening (standing : Standing) : Prop :=
  standing.IsDialing ∨
    ∃ (index : Nat) (reader : Reader), reader ≠ .stopped ∧ standing.readers[index]? = some reader

theorem Fades.listening {before after : Standing} (h : Fades before after)
    (hafter : after.IsListening) :
    before.IsListening := by
  rcases hafter with hdialing | ⟨index, reader, hgoing, hreader⟩
  · exact .inl (h.dialing hdialing)
  · exact .inr ⟨index, reader, hgoing, h.readers index reader hgoing hreader⟩

theorem readers_attach {standing : Standing} (hreader : standing.reader = none) :
    standing.attach.readers = standing.readers ++ [.running] := by
  simp [attach, stopReader, hreader]

/-- Without a reader of its own, a session reads nothing. -/
theorem Clear.not_going {standing : Standing} (h : Clear standing) (hreader : standing.reader = none)
    {index : Nat} {reader : Reader} (hgoing : reader ≠ .stopped) :
    standing.readers[index]? ≠ some reader := by
  intro hfound
  cases reader with
  | running =>
      have hown := (h.running index hfound).1
      rw [hreader] at hown
      cases hown
  | stopping => exact h.stayed index hfound
  | stopped => exact hgoing rfl

end Standing

namespace Session

open Standing (Orderly AtRest Clear)

theorem Ceased.not_listening {session : Session} (h : Ceased session)
    (hrest : AtRest session.standing) :
    ¬ session.standing.IsListening := by
  rintro (hdialing | ⟨index, reader, hgoing, hfound⟩)
  · exact Standing.not_isDialing_of_no_calls h.2 hdialing
  · exact hrest.clear.not_going h.1 hgoing hfound

section

variable (start : Session) (connection : Nat)

/-- A session listens to one connection at most, and reports on the login as the rehearsal does. -/
structure Attending (session : Session) : Prop where
  alike : Alike session (start.rehearsal connection session.journal)
  alive : session.alive = true
  own : ∀ (index : Nat) (reader : Reader), reader ≠ .stopped →
    session.standing.readers[index]? = some reader → index = connection
  dialing : session.standing.IsDialing → session.standing.readers.length = connection

/-- What a session has reported on a login is what the rehearsal reports. -/
structure Rehearsed (session : Session) : Prop where
  trail : Trail .connecting (visited (latest session.journal)) session.state
  told : told session.journal = told (start.rehearsal connection session.journal).journal
  attending : session.standing.IsListening → Attending start connection session

end

section

variable {start before after session : Session} {connection : Nat}

/-- No login begins between two sessions. -/
def Abides (before after : Session) : Prop :=
  Notes (fun happening => decide (happening ≠ .entered .connecting)) before after

theorem abides_of_silent (h : Notes Happening.isSilent before after) : Abides before after := by
  refine h.mono fun happening hsilent => decide_eq_true ?_
  rintro rfl
  cases hsilent

theorem rehearsal_eq_of_notes (hsilent : Notes Happening.isSilent before after)
    (hstill : Notes (fun happening => happening.state?.isNone) before after) :
    start.rehearsal connection after.journal = start.rehearsal connection before.journal := by
  obtain ⟨noted, hjournal, hsilent⟩ := hsilent
  obtain ⟨same, hsame, hstill⟩ := hstill
  rw [hjournal] at hsame
  obtain rfl := List.append_cancel_left hsame
  rw [hjournal, rehearsal_append_inner start connection before.journal
    (fun happening hmem => Happening.isInner_of_isSilent (hsilent happening hmem)),
    hasLeft_of_still hstill, Bool.or_false]
  rfl

theorem told_rehearsal_of_silent (hsilent : Notes Happening.isSilent before after) :
    told (start.rehearsal connection after.journal).journal =
      told (start.rehearsal connection before.journal).journal := by
  obtain ⟨noted, hjournal, hsilent⟩ := hsilent
  rw [hjournal, rehearsal_append_inner start connection before.journal
    (fun happening hmem => Happening.isInner_of_isSilent (hsilent happening hmem)),
    told_leave, told_rehearsal]

theorem trail_latest (htrail : Trail .connecting (visited (latest before.journal)) before.state)
    (hfollows : Follows before after) (habides : Abides before after) :
    Trail .connecting (visited (latest after.journal)) after.state := by
  obtain ⟨noted, hjournal, hrest⟩ := hfollows.journal
  obtain ⟨same, hnoted, hsame⟩ := habides
  rw [hjournal] at hnoted
  obtain rfl := List.append_cancel_left hnoted
  have hnone : .entered .connecting ∉ noted := fun hmem => by simpa using hsame _ hmem
  rw [hjournal, latest_append hnone, visited_append]
  exact htrail.append hrest

theorem ended_of_hasLeft (htrail : Trail .connecting (visited (latest session.journal)) session.state)
    (hleft : hasLeft (latest session.journal) = true) :
    session.state = .unstarted ∨ session.state = .failed := by
  refine htrail.ended ?_ (.inr ?_)
  · rw [mem_visited]
    exact begin_not_mem_latest session.journal
  · rw [mem_visited]
    exact of_decide_eq_true hleft

theorem Attending.subside (h : Attending start connection before)
    (hfades : Standing.Fades before.standing after.standing)
    (halike : Alike after (start.rehearsal connection after.journal))
    (halive : after.alive = true) :
    Attending start connection after where
  alike := halike
  alive := halive
  own index reader hgoing hfound :=
    h.own index reader hgoing (hfades.readers index reader hgoing hfound)
  dialing hdialing := hfades.length.trans (h.dialing (hfades.dialing hdialing))

theorem Attending.steady (h : Attending start connection before)
    (hsubsides : Subsides before after) (hsteady : Steady before after) :
    Attending start connection after := by
  refine h.subside hsubsides.standing ?_ hsteady.alive
  rw [rehearsal_eq_of_notes hsubsides.journal hsteady.journal]
  exact hsteady.alike.trans h.alike

namespace Rehearsed

theorem silence (h : Rehearsed start connection before) (hfollows : Follows before after)
    (hsilent : Notes Happening.isSilent before after)
    (hattending : after.standing.IsListening → Attending start connection after) :
    Rehearsed start connection after where
  trail := trail_latest h.trail hfollows (abides_of_silent hsilent)
  told := by rw [hsilent.told_eq, h.told, told_rehearsal_of_silent hsilent]
  attending := hattending

theorem steady (h : Rehearsed start connection before) (hfollows : Follows before after)
    (hsubsides : Subsides before after) (hsteady : before.alive = true → Steady before after) :
    Rehearsed start connection after := by
  refine h.silence hfollows hsubsides.journal fun hlistening => ?_
  have hattending := h.attending (hsubsides.standing.listening hlistening)
  exact hattending.steady hsubsides (hsteady hattending.alive)

theorem settle (h : Rehearsed start connection before) (hfollows : Follows before after)
    (hsubsides : Subsides before after) (hrest : AtRest after.standing)
    (houtcome : before.alive = true → Ceased after ∨ Steady before after) :
    Rehearsed start connection after := by
  refine h.silence hfollows hsubsides.journal fun hlistening => ?_
  have hattending := h.attending (hsubsides.standing.listening hlistening)
  rcases houtcome hattending.alive with hceased | hsteady
  · exact absurd hlistening (hceased.not_listening hrest)
  · exact hattending.steady hsubsides hsteady

end Rehearsed

theorem Attending.not_listening_of_stopped (h : Attending start connection before)
    (hdialing : ¬ after.standing.IsDialing) (hstep : ReadStep before connection after)
    (hstopped : ∀ reader : Reader, reader ≠ .stopped →
      after.standing.readers[connection]? ≠ some reader) :
    ¬ after.standing.IsListening := by
  rintro (hdials | ⟨index, reader, hgoing, hfound⟩)
  · exact hdialing hdials
  · have hindex : index = connection := by
      rcases hstep.going hgoing hfound with hold | hown
      · exact h.own index reader hgoing hold
      · exact hown
    subst hindex
    exact hstopped reader hgoing hfound

theorem stopped_stopReading (session : Session) (index : Nat) {reader : Reader}
    (hgoing : reader ≠ .stopped) :
    (session.stopReading index).standing.readers[index]? ≠ some reader := by
  intro hfound
  rw [standing_stopReading] at hfound
  exact (Standing.readers_set_ne (Ne.symm hgoing) hfound).1 rfl

theorem journal_loseConnection (session : Session) (error : ReadError) :
    Notes Happening.isSilent session (session.loseConnection error) := by
  unfold loseConnection
  split
  · exact (subsides_fail session _).journal
  · exact (subsides_fail session _).journal
  · have htold : Subsides session ((session.report none (.exception error.message)).report none
        (.connectionClosed error.message)) :=
      (subsides_report session none rfl).trans (subsides_report _ none rfl)
    exact (htold.trans (subsides_fail _ _)).journal.trans (.of_same rfl)
  · exact .of_same rfl

theorem not_isDialing_of_calls (hdialing : ¬ before.standing.IsDialing)
    (hcalls : after.calls = before.calls) :
    ¬ after.standing.IsDialing := by
  rintro ⟨call, hcall, hphase⟩
  have hsame : call ∈ after.calls := hcall
  rw [hcalls] at hsame
  exact hdialing ⟨call, hsame, hphase⟩

theorem journal_takeFrame (session : Session) (index : Nat) (packet : Packet)
    (rest : Text.Bytes) :
    ∃ noted, (session.takeFrame index (.ok packet) rest).journal =
        session.journal ++ .received index packet :: noted ∧
      ∀ happening ∈ noted, happening.isInner = true :=
  (receive_handled (session.startReading index rest) index packet).notes

theorem abides_of_received {packet : Packet} {noted : List Happening}
    (hjournal : after.journal = before.journal ++ .received connection packet :: noted)
    (hinner : ∀ happening ∈ noted, happening.isInner = true) :
    Abides before after := by
  refine ⟨_, hjournal, fun happening hmem => decide_eq_true ?_⟩
  rintro rfl
  rcases List.mem_cons.mp hmem with hreceived | hnoted
  · cases hreceived
  · exact begin_not_mem_of_inner hinner hnoted

theorem rehearsal_eq_receive {packet : Packet} {noted : List Happening}
    (htrail : Trail .connecting (visited (latest after.journal)) after.state)
    (hjournal : after.journal = before.journal ++ .received connection packet :: noted)
    (hinner : ∀ happening ∈ noted, happening.isInner = true)
    (hstate : after.state = ((start.rehearsal connection before.journal).receive 0 packet).state) :
    start.rehearsal connection after.journal =
      (start.rehearsal connection before.journal).receive 0 packet := by
  rw [hjournal, rehearsal_append_received start connection _ packet hinner, ← hjournal]
  cases hleft : hasLeft (latest after.journal) with
  | false => exact leave_false _
  | true =>
      -- A session that has been left is over, and the rehearsal has nothing to leave.
      refine leave_of_ne ?_ true
      rw [← hstate]
      rcases ended_of_hasLeft htrail hleft with hended | hended <;> simp [hended]

theorem Attending.alike_takeFrame (h : Attending start connection session)
    (horderly : Orderly session.standing) (hstart : Fit start) (packet : Packet)
    (rest : Text.Bytes) :
    Alike (session.takeFrame connection (.ok packet) rest)
      ((start.rehearsal connection session.journal).receive 0 packet) := by
  have hfit := hstart.rehearsal connection session.journal
  have hstarted : Alike (session.startReading connection rest)
      (start.rehearsal connection session.journal) :=
    { h.alike with }
  have hwired : Wired (session.startReading connection rest).registry.handlers
      session.standing.collectors :=
    horderly.wired
  have hreceived := Alike.receive hwired hfit.wired h.alive hfit.alive hstarted connection 0 packet
  exact { hreceived with }

section

variable (h : Rehearsed start connection session) (horderly : Orderly session.standing)
  (hdialing : ¬ session.standing.IsDialing) (hstart : Fit start)
  (hattending : Attending start connection session)

include h hdialing hattending

theorem rehearsed_meetEnd {finish : StreamEnd}
    (hend : session.upcoming? connection = some (.error finish)) :
    Rehearsed start connection (session.meetEnd connection finish) := by
  have hstep := meetEnd_step hend
  have hjournal : Notes Happening.isSilent session (session.meetEnd connection finish) :=
    journal_loseConnection { session with working := some connection } finish.error
  refine h.silence hstep.follows hjournal fun hlistening => absurd hlistening ?_
  refine hattending.not_listening_of_stopped ?_ hstep ?_
  · exact not_isDialing_of_calls hdialing hstep.calls_eq.1
  · exact fun reader hgoing => stopped_stopReading _ connection hgoing

theorem rehearsed_malformed (error : FrameError) (rest : Text.Bytes) :
    Rehearsed start connection (session.takeFrame connection (.error error) rest) := by
  have hstep := takeFrame_step session connection (.error error) rest
  cases hstate : session.state.isLoggingIn with
  | true =>
      have hfailed : session.takeFrame connection (.error error) rest =
          { ((session.startReading connection rest).fail (.malformed error.message)).stopReading
            connection with working := none } := by
        simp [takeFrame, readResult, startReading, hstate]
      have hcalls := not_isDialing_of_calls hdialing hstep.calls_eq.1
      rw [hfailed] at hstep hcalls ⊢
      have hjournal := (subsides_fail (session.startReading connection rest)
        (.malformed error.message)).journal
      refine h.silence hstep.follows hjournal fun hlistening => absurd hlistening ?_
      refine hattending.not_listening_of_stopped hcalls hstep ?_
      exact fun reader hgoing => stopped_stopReading _ connection hgoing
  | false =>
      have hpassed : session.takeFrame connection (.error error) rest =
          { session.startReading connection rest with working := none } := by
        simp [takeFrame, readResult, startReading, hstate]
      rw [hpassed] at hstep ⊢
      have hreaders : (session.startReading connection rest).standing.readers =
          session.standing.readers := by
        rw [standing_startReading]
      refine h.steady hstep.follows (.of_same rfl (.of_eq hreaders fun _ => id)) fun halive => ?_
      refine .of_same ?_ halive rfl
      exact { Alike.refl session with }

include horderly hstart

theorem rehearsed_packet (packet : Packet) (rest : Text.Bytes) :
    Rehearsed start connection (session.takeFrame connection (.ok packet) rest) := by
  have hstep := takeFrame_step session connection (.ok packet) rest
  obtain ⟨noted, hjournal, hinner⟩ := journal_takeFrame session connection packet rest
  have htrail := trail_latest h.trail hstep.follows (abides_of_received hjournal hinner)
  have hreceived := hattending.alike_takeFrame horderly hstart packet rest
  have halike : Alike (session.takeFrame connection (.ok packet) rest)
      (start.rehearsal connection (session.takeFrame connection (.ok packet) rest).journal) := by
    rw [rehearsal_eq_receive htrail hjournal hinner hreceived.state]
    exact hreceived
  refine ⟨htrail, halike.told, fun _ => ⟨halike, ?_, ?_, ?_⟩⟩
  · obtain ⟨hcalls, -, hheld⟩ := hstep.calls_eq
    have halive := hattending.alive
    unfold alive at halive ⊢
    rw [hcalls, hheld]
    exact halive
  · intro index reader hgoing hfound
    rcases hstep.going hgoing hfound with hold | hown
    · exact hattending.own index reader hgoing hold
    · exact hown
  · exact fun hdials => absurd hdials (not_isDialing_of_calls hdialing hstep.calls_eq.1)

end

theorem Rehearsed.readNext? (h : Rehearsed start connection session)
    (horderly : Orderly session.standing) (hdialing : ¬ session.standing.IsDialing)
    (hstart : Fit start) {index : Nat} {next : Session}
    (hnext : session.readNext? index = some next) :
    Rehearsed start connection next := by
  obtain ⟨⟨reader, hreader, hgoing⟩, hcases⟩ := readNext?_cases hnext
  have hattending := h.attending (.inr ⟨index, reader, hgoing, hreader⟩)
  obtain rfl := hattending.own index reader hgoing hreader
  rcases hcases with ⟨result, rest, rfl⟩ | ⟨finish, hend, rfl⟩
  · cases result with
    | ok packet => exact rehearsed_packet h horderly hdialing hstart hattending packet rest
    | error error => exact rehearsed_malformed h hdialing hattending error rest
  · exact rehearsed_meetEnd h hdialing hattending hend

theorem Rehearsed.read? (h : Rehearsed start connection session) (hrest : AtRest session.standing)
    (hstart : Fit start) {index : Nat} {next : Session}
    (hread : session.read? index = some next) :
    Rehearsed start connection next := by
  -- While a login waits for its connection there is no reader that could take a step.
  have hdialing : ¬ session.standing.IsDialing := by
    rintro ⟨call, hcall, username, hphase⟩
    obtain ⟨first, hfirst, -⟩ := Option.map_eq_some_iff.mp hread
    obtain ⟨⟨reader, hreader, hgoing⟩, -⟩ := readNext?_cases hfirst
    exact hrest.clear.not_going (hrest.connecting call hcall username hphase).2 hgoing hreader
  have hkept : Orderly next.standing ∧ ¬ next.standing.IsDialing ∧
      Rehearsed start connection next := by
    refine read?_induction (motive := fun session => Orderly session.standing ∧
      ¬ session.standing.IsDialing ∧ Rehearsed start connection session)
      ?_ ?_ ⟨hrest.toOrderly, hdialing, h⟩ hread
    · rintro before after ⟨horderly, hdialing, hrehearsed⟩ hnext
      have hstep := (readNext?_step hnext).2
      exact ⟨hstep.orderly horderly, not_isDialing_of_calls hdialing hstep.calls_eq.1,
        hrehearsed.readNext? horderly hdialing hstart hnext⟩
    · rintro before ⟨horderly, hdialing, hrehearsed⟩
      have hfades : Standing.Fades before.standing (before.stopReading index).standing := by
        rw [standing_stopReading]
        exact Standing.fades_setStopped before.standing index
      refine ⟨?_, hdialing, ?_⟩
      · rw [standing_stopReading]
        exact horderly.stopReading index
      · refine hrehearsed.steady (.of_same rfl rfl rfl) (.of_same rfl hfades) fun halive => ?_
        refine .of_same ?_ halive rfl
        exact { Alike.refl before with }
  exact hkept.2.2

variable (start connection) in
/-- A login has begun, and no connection has been taken up for it. -/
structure Poised (session : Session) : Prop where
  trail : Trail .connecting (visited (latest session.journal)) session.state
  alike : Alike session (start.rehearsal connection session.journal)
  alive : session.alive = true
  clear : Clear session.standing
  reader : session.reader = none
  length : session.standing.readers.length = connection

theorem Poised.rehearsed (h : Poised start connection session) :
    Rehearsed start connection session where
  trail := h.trail
  told := h.alike.told
  attending _ :=
    ⟨h.alike, h.alive,
      fun _ _ hgoing hfound => absurd hfound (h.clear.not_going h.reader hgoing),
      fun _ => h.length⟩

theorem alive_await (session : Session) (number : Nat) (phase : Phase) :
    (session.await number phase).alive = true := by
  simp [alive, await]

theorem notes_openChannel (session : Session) (number : Nat) (username : String)
    (writeFault : Option String) {test : Happening → Bool}
    (htest : ∀ index packet, test (.submitted index packet) = true) :
    Notes test session (session.openChannel number username writeFault) := by
  have hattached : Notes test session (session.attach writeFault) := .of_same rfl
  exact (hattached.trans (notes_submit _ _ fun index => htest index _)).trans (.of_same rfl)

theorem alike_openChannel (session : Session) (number : Nat) (username : String)
    (writeFault : Option String) :
    Alike (session.openChannel number username writeFault) session := by
  have hattached : Alike (session.attach writeFault) session := { Alike.refl session with }
  have hawaited : Alike (session.openChannel number username writeFault)
      ((session.attach writeFault).submit (.request .auth [("1", username)])).2 :=
    { Alike.refl _ with }
  exact hawaited.trans ((alike_submit _ _).trans hattached)

theorem not_isDialing_openChannel (session : Session) {number : Nat}
    (hothers : session.standing.otherCalls number = []) (username : String)
    (writeFault : Option String) :
    ¬ (session.openChannel number username writeFault).standing.IsDialing := by
  have hcalls : (session.openChannel number username writeFault).standing.calls =
      [⟨number, .announcing session.tickets⟩] := by
    rw [standing_openChannel]
    exact congrArg (· ++ [Call.mk number (.announcing session.tickets)]) hothers
  rw [Standing.isDialing_of_calls hcalls]
  rintro ⟨name, hphase⟩
  cases hphase

namespace Poised

theorem openChannel (h : Poised start connection session) {number : Nat}
    (hothers : session.standing.otherCalls number = []) (username : String)
    (writeFault : Option String) :
    Rehearsed start connection (session.openChannel number username writeFault) := by
  have hsilent : Notes Happening.isSilent session
      (session.openChannel number username writeFault) :=
    notes_openChannel session number username writeFault fun _ _ => rfl
  refine h.rehearsed.silence (follows_openChannel session number username writeFault) hsilent
    fun _ => ⟨?_, alive_await _ _ _, ?_, ?_⟩
  · rw [rehearsal_eq_of_notes hsilent (notes_openChannel session number username writeFault
      fun _ _ => rfl)]
    exact (alike_openChannel session number username writeFault).trans h.alike
  · intro index reader hgoing hfound
    have hreaders : (session.openChannel number username writeFault).standing.readers =
        session.standing.readers ++ [.running] := by
      rw [standing_openChannel]
      exact Standing.readers_attach h.reader
    rw [hreaders, List.getElem?_append] at hfound
    split at hfound
    · exact absurd hfound (h.clear.not_going h.reader hgoing)
    · have hlast := (List.getElem?_eq_some_iff.mp hfound).1
      have hlength := h.length
      simp only [List.length_singleton] at hlast
      omega
  · intro hdialing
    exact absurd hdialing (not_isDialing_openChannel session hothers username writeFault)

theorem failLogin (h : Poised start connection session) {number : Nat}
    (hothers : session.standing.otherCalls number = []) (error : SessionError) :
    Rehearsed start connection (session.failLogin number error) := by
  refine h.rehearsed.settle (follows_failLogin session number error)
    (subsides_failLogin h.clear.idle number error) ?_ fun _ => .inl ?_
  · rw [standing_failLogin]
    exact h.clear.failLogin hothers error
  · refine ceased_abandonLogin ?_ error
    exact hothers

theorem connect (h : Poised start connection session) {number : Nat}
    (hothers : session.standing.otherCalls number = []) (username : String)
    (outcome : ConnectOutcome) :
    Rehearsed start connection (session.connect number username outcome) := by
  cases outcome with
  | opened writeFault => exact h.openChannel hothers username writeFault
  | refused text => exact h.failLogin hothers _
  | pending =>
      refine Poised.rehearsed ⟨h.trail, ?_, alive_await _ _ _, ?_, h.reader, h.length⟩
      · exact { h.alike with }
      · exact { h.clear with }

end Poised

end

end Session

end Messenger
