import Messenger.Proofs.Frame.RoundTrip
import Messenger.Proofs.Session.Attendance
import Messenger.Proofs.Session.Transmissions

/-!
The session id that frames carry. The server assigns it with any packet it sends, and the session
goes by the one that was assigned last on the connection of its latest attempt to log in; as long as
nothing waits when a login begins, no frame goes out under an id from another connection.
-/

namespace Messenger

open Text (Bytes)

def Happening.assigned? (index : Nat) : Happening → Option UInt32
  | .received connection packet =>
      if connection = index ∧ packet.sessionId ≠ 0 then some packet.sessionId else none
  | _ => none

/-- The session ids that the server has assigned on a connection. A packet whose id is zero assigns
none. -/
def assignedIds (index : Nat) (journal : List Happening) : List UInt32 :=
  journal.filterMap (Happening.assigned? index)

@[simp] theorem assignedIds_append (index : Nat) (early late : List Happening) :
    assignedIds index (early ++ late) = assignedIds index early ++ assignedIds index late :=
  List.filterMap_append

theorem assignedIds_of_none {index : Nat} {noted : List Happening}
    (hnone : ∀ happening ∈ noted, happening.assigned? index = none) :
    assignedIds index noted = [] :=
  List.filterMap_eq_nil_iff.mpr hnone

theorem assignedIds_received {index : Nat} {packet : Packet} (hid : packet.sessionId ≠ 0)
    (rest : List Happening) :
    assignedIds index (.received index packet :: rest) =
      packet.sessionId :: assignedIds index rest :=
  List.filterMap_cons_some (if_pos ⟨rfl, hid⟩)

theorem getLastD_append_cons {α : Type} (early late : List α) (value fallback : α) :
    (early ++ value :: late).getLastD fallback = late.getLastD value := by
  induction early generalizing fallback with
  | nil => exact List.getLastD_cons ..
  | cons head rest induction => exact (List.getLastD_cons ..).trans (induction head)

namespace Ledger

variable {own : Nat} {ledger next : Ledger}

/-- The session goes by what it has heard on the connection of its latest attempt, and nothing waits
on another. -/
structure Tuned (own : Nat) (ledger : Ledger) : Prop where
  stamp : ledger.sessionId = (assignedIds own ledger.journal).getLastD 0
  recent : assignedIds own (latest ledger.journal) = assignedIds own ledger.journal
  waiting : ∀ index, index ≠ own → ledger.waitingOn index = []
  writer : ∀ index, ledger.writer = some index → index = own
  unheard : ∀ index, ledger.lines.length ≤ index → assignedIds index ledger.journal = []

/-- Whether a deal leaves the session with the connection it goes by. -/
def Suits (own : Nat) (ledger : Ledger) : Deal → Prop
  | .begun => False
  | .entered state => state ≠ .connecting
  | .opened => False
  | .taken connection _ => connection = own ∧ own < ledger.lines.length
  | .answered connection _ => connection = own
  | .noted happening => happening.isRemark = true
  | _ => True

theorem Suits.mono {deal : Deal} (other : Deal) (h : ledger.Suits own deal) :
    (ledger.act other).Suits own deal := by
  cases deal with
  | taken connection packet => exact ⟨h.1, Nat.lt_of_lt_of_le h.2 (lines_length_act other)⟩
  | _ => exact h

theorem suits_of_isInner {deal : Deal} (hinner : deal.isInner = true) : ledger.Suits own deal := by
  cases deal with
  | begun => cases hinner
  | entered state =>
      simp only [Deal.isInner, decide_eq_true_eq] at hinner
      exact hinner.1
  | opened => cases hinner
  | taken connection packet => cases hinner
  | answered connection outgoing => cases hinner
  | noted happening => exact hinner
  | _ => trivial

theorem suits_of_isHeard (hown : own < ledger.lines.length) {deal : Deal}
    (hheard : deal.isHeard own = true) :
    ledger.Suits own deal := by
  cases deal with
  | begun => cases hheard
  | entered state =>
      simp only [Deal.isHeard, decide_eq_true_eq] at hheard
      exact hheard.1
  | opened => cases hheard
  | taken connection packet => exact ⟨of_decide_eq_true hheard, hown⟩
  | answered connection outgoing => exact (of_decide_eq_true hheard).1
  | noted happening => exact hheard
  | _ => trivial

namespace Tuned

/-- Nothing is heard, and no login begins. -/
theorem note (h : ledger.Tuned own) (noted : List Happening)
    (hjournal : next.journal = ledger.journal ++ noted) (hsame : .entered .connecting ∉ noted)
    (hnone : ∀ happening ∈ noted, ∀ index, happening.assigned? index = none)
    (hid : next.sessionId = ledger.sessionId)
    (hlength : ledger.lines.length ≤ next.lines.length)
    (hwaiting : ∀ index, index ≠ own → next.waitingOn index = [])
    (hwriter : ∀ index, next.writer = some index → index = own) :
    next.Tuned own := by
  have hnothing (index : Nat) : assignedIds index noted = [] :=
    assignedIds_of_none fun happening hmem => hnone happening hmem index
  have hassigned (index : Nat) : assignedIds index next.journal =
      assignedIds index ledger.journal := by
    rw [hjournal, assignedIds_append, hnothing, List.append_nil]
  refine ⟨?_, ?_, hwaiting, hwriter, fun index hindex => ?_⟩
  · rw [hid, hassigned, h.stamp]
  · rw [hassigned, hjournal, latest_append hsame, assignedIds_append, hnothing, List.append_nil,
      h.recent]
  · rw [hassigned]
    exact h.unheard index (Nat.le_trans hlength hindex)

theorem put (h : ledger.Tuned own) (outgoing : Outgoing Sending) :
    (ledger.put own outgoing).Tuned own := by
  refine h.note [.submitted own outgoing.packet] rfl (by simp)
    (by simp [Happening.assigned?]) rfl (Nat.le_of_eq (List.length_modify _ _ _).symm) ?_ h.writer
  intro index hindex
  rw [waitingOn_put_ne (Ne.symm hindex)]
  exact h.waiting index hindex

theorem enter (h : ledger.Tuned own) {state : SessionState} (hstate : state ≠ .connecting) :
    (ledger.enter state).Tuned own := by
  by_cases hsame : ledger.state = state
  · exact h.note [] (by simp [Ledger.enter, hsame]) (by simp) (by simp) rfl
      (Nat.le_refl _) h.waiting h.writer
  · exact h.note [.entered state] (by simp [Ledger.enter, hsame])
      (by simpa using Ne.symm hstate) (by simp [Happening.assigned?]) rfl (Nat.le_refl _) h.waiting
      h.writer

theorem take (h : ledger.Tuned own) (hown : own < ledger.lines.length) (packet : Packet) :
    (ledger.act (.taken own packet)).Tuned own where
  stamp := by
    by_cases hid : packet.sessionId = 0
    · have hnothing : assignedIds own [.received own packet] = [] :=
        assignedIds_of_none (by simp [Happening.assigned?, hid])
      simp [act, hid, hnothing, h.stamp]
    · simp only [act, ne_eq, hid, not_false_eq_true, if_true, assignedIds_append,
        assignedIds_received hid, getLastD_append_cons]
      rfl
  recent := by
    show assignedIds own (latest (ledger.journal ++ [.received own packet])) =
      assignedIds own (ledger.journal ++ [.received own packet])
    rw [latest_append (by simp), assignedIds_append, assignedIds_append, h.recent]
  waiting := h.waiting
  writer := h.writer
  unheard index hindex := by
    have hlength : ledger.lines.length ≤ index := hindex
    have hother : own ≠ index := by omega
    have hnothing : assignedIds index [.received own packet] = [] :=
      assignedIds_of_none (by simp [Happening.assigned?, hother])
    show assignedIds index (ledger.journal ++ [.received own packet]) = []
    rw [assignedIds_append, hnothing, List.append_nil]
    exact h.unheard index hlength

theorem write (h : ledger.Tuned own) (transmission : Transmission) :
    (ledger.act (.written transmission)).Tuned own := by
  refine h.note [] (by simp [act]) (by simp) (by simp) rfl
    (Nat.le_of_eq (List.length_modify _ _ _).symm) ?_ h.writer
  intro index hindex
  have hnone := h.waiting index hindex
  unfold waitingOn act at *
  dsimp only
  rw [List.getElem?_modify]
  by_cases hline : transmission.connection = index
  · subst hline
    cases hfound : ledger.lines[transmission.connection]? with
    | none => simp
    | some line =>
        have hempty : line.waiting = [] := by simpa [hfound] using hnone
        simp [hempty]
  · simpa [hline] using hnone

theorem act (h : ledger.Tuned own) {deal : Deal} (hsuits : ledger.Suits own deal) :
    (ledger.act deal).Tuned own := by
  cases deal with
  | begun => exact hsuits.elim
  | entered state => exact h.enter hsuits
  | opened => exact hsuits.elim
  | detached =>
      exact h.note [] (by simp [Ledger.act]) (by simp) (by simp) rfl (Nat.le_refl _)
        h.waiting (fun _ hwriter => nomatch hwriter)
  | submitted outgoing =>
      rw [Ledger.act, submit]
      cases hwriter : ledger.writer with
      | none => exact h
      | some connection =>
          obtain rfl := h.writer connection hwriter
          exact h.put outgoing
  | taken connection packet =>
      obtain ⟨rfl, hown⟩ := hsuits
      exact h.take hown packet
  | answered connection outgoing =>
      obtain rfl : connection = own := hsuits
      have hconnected : Tuned connection { ledger with
          state := .connected
          journal := ledger.journal ++ [.entered .connected] } :=
        h.note [.entered .connected] rfl (by simp) (by simp [Happening.assigned?]) rfl
          (Nat.le_refl _) h.waiting h.writer
      exact hconnected.put outgoing
  | written transmission => exact h.write transmission
  | noted happening =>
      refine h.note [happening] rfl ?_ ?_ rfl (Nat.le_refl _) h.waiting h.writer
      · intro hmem
        rw [← List.mem_singleton.mp hmem] at hsuits
        cases hsuits
      · intro other hmem index
        rw [List.mem_singleton.mp hmem]
        cases happening with
        | received connection packet => cases hsuits
        | _ => rfl

theorem acts (h : ledger.Tuned own) {deals : List Deal}
    (hsuits : ∀ deal ∈ deals, ledger.Suits own deal) :
    (ledger.acts deals).Tuned own :=
  acts_keep (motive := Tuned own) (Suits own) act Suits.mono h hsuits

/-- A login that begins goes by the connection that will be the next one. -/
theorem beginLogin (h : ledger.Tuned own) (hwaiting : ∀ index, ledger.waitingOn index = [])
    (hwriter : ledger.writer = none) :
    (ledger.act .begun).Tuned ledger.lines.length := by
  have hassigned {index : Nat} (hindex : ledger.lines.length ≤ index) :
      assignedIds index (ledger.act .begun).journal = [] := by
    show assignedIds index (ledger.journal ++ [.entered .connecting]) = []
    rw [assignedIds_append, h.unheard index hindex]
    rfl
  have hlatest : latest (ledger.act .begun).journal = [] :=
    @latest_begin ledger.journal [] (by simp)
  refine ⟨?_, ?_, fun index _ => hwaiting index, ?_, fun index hindex => hassigned hindex⟩
  · rw [hassigned (Nat.le_refl _)]
    rfl
  · rw [hassigned (Nat.le_refl _), hlatest]
    rfl
  · intro index hmanned
    rw [show (ledger.act .begun).writer = none from hwriter] at hmanned
    cases hmanned

/-- A login takes up the connection it goes by. -/
theorem openLine (h : ledger.Tuned own) (hlength : ledger.lines.length = own) :
    (ledger.act .opened).Tuned own := by
  refine h.note [] (by simp [Ledger.act]) (by simp) (by simp) rfl (by simp [Ledger.act])
    ?_ ?_
  · intro index hindex
    rw [(lines_opened index).1]
    exact h.waiting index hindex
  · intro index hwriter
    rw [← hlength]
    exact (Option.some.inj hwriter).symm

theorem connect (h : ledger.Tuned own) (hlength : ledger.lines.length = own) {deals : List Deal}
    (hdeals : Session.IsConnect deals) :
    (ledger.acts deals).Tuned own := by
  rcases hdeals with ⟨outgoing, rfl⟩ | hinner
  · have hopened := h.openLine hlength
    have hsuits : (ledger.act .opened).Suits own (.submitted outgoing) := trivial
    exact hopened.act hsuits
  · exact h.acts fun deal hmem => suits_of_isInner (hinner deal hmem)

end Tuned

end Ledger

namespace Session

open Standing (AtRest Joined Fades)

/-- No packet waits to be written when a login begins: that is what it comes to that writing never
has to wait. Other moves may find packets waiting. -/
def Prompt (session : Session) : List Move → Prop
  | [] => True
  | move :: rest =>
      (session.Begins move → ∀ index, session.queued index = 0) ∧ Prompt (session.step move) rest

theorem prompt_append {session : Session} {early late : List Move} :
    Prompt session (early ++ late) ↔ Prompt session early ∧ Prompt (session.run early) late := by
  induction early generalizing session with
  | nil => simp [Prompt, run]
  | cons move rest induction =>
      simp only [List.cons_append, Prompt, induction, and_assoc]
      rfl

theorem length_lines (session : Session) :
    session.ledger.lines.length = session.standing.readers.length := by
  simp [ledger, standing, Link.readers]

/-- The session goes by one connection, and a login that waits for its connection will get that
one. -/
structure Tuned (own : Nat) (session : Session) : Prop where
  ledger : session.ledger.Tuned own
  dialing : session.standing.IsDialing → session.standing.readers.length = own

theorem dialing_connect {session : Session} {number : Nat}
    (hothers : session.standing.otherCalls number = []) {username : String}
    {outcome : ConnectOutcome}
    (hdialing : (session.connect number username outcome).standing.IsDialing) :
    (session.connect number username outcome).standing.readers.length =
      session.standing.readers.length := by
  cases outcome with
  | opened writeFault =>
      exact absurd hdialing (not_isDialing_openChannel session hothers username writeFault)
  | refused text =>
      refine absurd hdialing (Standing.not_isDialing_of_no_calls ?_)
      dsimp only [connect]
      rw [standing_failLogin, Standing.failLogin, Standing.abandonLogin, Standing.calls_finish]
      exact hothers
  | pending => rfl

theorem fades_login {session : Session} (hidle : session.working = none)
    {username password : String} (hheld : session.held = true)
    (hbegins : ¬ session.Begins (.login username password)) :
    Fades session.standing (session.login username password).standing := by
  have hbegun := subsides_beginCall session
  unfold login
  dsimp only
  split
  · refine (hbegun.trans (subsides_finish ?_ _ _)).standing
    exact hidle
  · rename_i hstate
    rw [Decidable.not_not] at hstate
    split
    · refine ((hbegun.trans (subsides_fail _ _)).trans (subsides_finish ?_ _ _)).standing
      exact hidle
    · rename_i hvalid
      exact absurd ⟨hheld, hstate, not_or.mp hvalid⟩ hbegins

theorem calls_read? {session next : Session} {index : Nat}
    (hread : session.read? index = some next) :
    next.calls = session.calls := by
  refine read?_induction (motive := fun after => after.calls = session.calls) ?_ ?_ rfl hread
  · exact fun before after hbefore hnext => (readNext?_step hnext).2.calls_eq.1.trans hbefore
  · exact fun _ hbefore => hbefore

/-- Only a login that begins, and the answer to an attempt to connect, make a login wait for its
connection. -/
theorem dialing_step {session : Session} (h : AtRest session.standing) {move : Move}
    (hbegins : ¬ session.Begins move) (hdialing : (session.step move).standing.IsDialing) :
    session.standing.IsDialing ∧
      (session.step move).standing.readers.length = session.standing.readers.length := by
  have hfades {after : Session} (hafter : Fades session.standing after.standing)
      (hdialing : after.standing.IsDialing) :
      session.standing.IsDialing ∧
        after.standing.readers.length = session.standing.readers.length :=
    ⟨hafter.dialing hdialing, hafter.length⟩
  have hstepped := step_stepped session move
  generalize session.step move = after at hstepped hdialing
  cases hstepped with
  | carried hcarried => exact hfades (hcarried.standing ▸ .refl _) hdialing
  | login username password hheld => exact hfades (fades_login h.idle hheld hbegins) hdialing
  | resolveConnect number outcome =>
      unfold resolveConnect at hdialing ⊢
      split at hdialing
      · rename_i called username hcall
        obtain ⟨hmem, rfl⟩ := callNumbered?_mem hcall
        exact ⟨⟨_, hmem, username, rfl⟩, dialing_connect (otherCalls_of_mem h hmem) hdialing⟩
      · exact ⟨hdialing, rfl⟩
  | logout hheld => exact hfades (subsides_logout h.idle).standing hdialing
  | reset hheld => exact hfades (subsides_reset h.idle).standing hdialing
  | drop => exact hfades (subsides_drop h.idle).standing hdialing
  | read hread =>
      -- A session that reads has a connection, and a login that waits for one has none yet.
      obtain ⟨first, hfirst, -⟩ := Option.map_eq_some_iff.mp hread
      obtain ⟨⟨reader, hreader, hgoing⟩, -⟩ := readNext?_cases hfirst
      obtain ⟨call, hcall, username, hphase⟩ := hdialing
      have hbefore : call ∈ after.calls := hcall
      rw [calls_read? hread] at hbefore
      have hnone := (h.connecting call hbefore username hphase).2
      exact absurd hreader (h.clear.not_going hnone hgoing)
  | resume call => exact hfades (subsides_resume h.idle call).standing hdialing
  | attachStore policy => exact ⟨hdialing, rfl⟩

theorem tuned_begins {session : Session} {own : Nat} (h : session.Tuned own)
    (hrest : AtRest session.standing) {username password : String}
    (hbegins : session.Begins (.login username password)) (hcalls : session.calls = [])
    (hprompt : ∀ index, session.queued index = 0) :
    (session.step (.login username password)).Tuned session.ledger.lines.length := by
  have hstep : session.step (.login username password) = session.login username password :=
    if_pos hbegins.1
  rw [hstep]
  have ⟨_, hstate, husername, hpassword⟩ := hbegins
  constructor
  · obtain ⟨deals, hledger, hdeals⟩ := login_begins_deals hbegins
    have hwaiting (index : Nat) : session.ledger.waitingOn index = [] :=
      List.length_eq_zero_iff.mp ((queued_eq session index).symm.trans (hprompt index))
    have hunstarted : session.standing.state ≠ .loggedOn := by simp [standing, hstate]
    have hwriter : session.ledger.writer = none := ((hrest.settled hcalls).2 hunstarted).2
    rw [hledger]
    exact (h.ledger.beginLogin hwaiting hwriter).connect rfl hdeals
  · rw [length_lines, login_eq_connect hstate husername hpassword]
    exact dialing_connect (otherCalls_of_none hcalls _)

theorem tuned_step {session : Session} {own : Nat} (h : session.Tuned own)
    (hrest : AtRest session.standing) (hjoined : Joined session.standing) {move : Move}
    (hbegins : ¬ session.Begins move) :
    (session.step move).Tuned own := by
  refine ⟨?_, fun hdialing => ?_⟩
  · obtain ⟨deals, hledger, hdealt⟩ := step_dealt hjoined move
    rw [hledger]
    cases hdealt with
    | inner hnone hinner =>
        exact h.ledger.acts fun deal hmem => Ledger.suits_of_isInner (hinner deal hmem)
    | begins hbegun hdeals => exact absurd hbegun hbegins
    | connects hcall hdeals =>
        refine h.ledger.connect ?_ hdeals
        rw [length_lines]
        exact h.dialing ⟨_, hcall, _, rfl⟩
    | @reads index _ hrunning hheard =>
        obtain rfl : index = own := h.ledger.writer index (hjoined.running index hrunning).2
        have hindex : index < session.ledger.lines.length := by
          rw [length_lines]
          exact (List.getElem?_eq_some_iff.mp hrunning).1
        exact h.ledger.acts fun deal hmem => Ledger.suits_of_isHeard hindex (hheard deal hmem)
    | writes htransmission => exact h.ledger.write _
  · obtain ⟨hbefore, hlength⟩ := dialing_step hrest hbegins hdialing
    rw [hlength]
    exact h.dialing hbefore

theorem tuned_run {session : Session} {own : Nat} (h : session.Tuned own)
    (hrest : AtRest session.standing) (hjoined : Joined session.standing) {moves : List Move}
    (hsequential : Sequential session moves) (hprompt : Prompt session moves) :
    ∃ own, (session.run moves).Tuned own := by
  unfold run
  induction moves generalizing session own with
  | nil => exact ⟨own, h⟩
  | cons move rest induction =>
      obtain ⟨hcalls, hsequentialRest⟩ := hsequential
      obtain ⟨hfirst, hpromptRest⟩ := hprompt
      have hstepped := step_stepped session move
      have hrestNext := hstepped.atRest hrest hcalls
      have hjoinedNext := hstepped.joined hjoined
      by_cases hbegins : session.Begins move
      · cases move with
        | login username password =>
            exact induction (tuned_begins h hrest hbegins (hcalls rfl) (hfirst hbegins)) hrestNext
              hjoinedNext hsequentialRest hpromptRest
        | _ => exact hbegins.elim
      · exact induction (tuned_step h hrest hjoined hbegins) hrestNext hjoinedNext
          hsequentialRest hpromptRest

theorem tuned_build (config : SessionConfig) (listeners : List String)
    (outcomes : List ConnectOutcome) :
    (build config listeners outcomes).Tuned 0 where
  ledger :=
    { stamp := rfl
      recent := rfl
      waiting := fun _ _ => rfl
      writer := fun _ hwriter => nomatch hwriter
      unheard := fun _ _ => rfl }
  dialing := fun ⟨_, hcall, _⟩ => nomatch hcall

theorem header_of_frame {transmission : Transmission} {frame : Bytes}
    (hframe : transmission.frame? = some frame) :
    ∃ header body, Frame.Header.read? frame = some (header, body) ∧
      header.sessionId = transmission.sessionId := by
  unfold Transmission.frame? at hframe
  cases hresult : transmission.result with
  | error error =>
      rw [hresult] at hframe
      cases hframe
  | ok done =>
      simp only [hresult] at hframe
      cases hencoded : Frame.encode
          { transmission.outgoing.packet with sessionId := transmission.sessionId } with
      | error error => simp [hencoded, Except.toOption] at hframe
      | ok bytes =>
          obtain rfl : bytes = frame := by simpa [hencoded, Except.toOption] using hframe
          obtain ⟨body, -, -, rfl⟩ := Frame.encode_eq_ok_iff.mp hencoded
          exact ⟨_, body, Frame.Header.read?_bytes rfl body, rfl⟩

/-- What holds of the session id of a packet that a writer has taken as the one of a certain place
on a connection. -/
structure Stamped (index place : Nat) (transmission : Transmission) : Prop where
  header : ∀ frame, transmission.frame? = some frame →
    ∃ header body, Frame.Header.read? frame = some (header, body) ∧
      header.sessionId = transmission.sessionId
  newest : transmission.sessionId = (assignedIds index transmission.journal).getLastD 0
  /-- All that was assigned on the connection was assigned since the latest login began. -/
  attempt : assignedIds index (latest transmission.journal) = assignedIds index transmission.journal
  /-- A packet that was put in line after another had come in goes by the id of that one, or a later
  id. -/
  reply : ∃ early since, transmission.journal =
      early ++ .submitted index transmission.outgoing.packet :: since ∧
    (submittedTo index early).length = place ∧
    ∀ before packet handling, early = before ++ .received index packet :: handling →
      packet.sessionId ≠ 0 →
      transmission.sessionId = (assignedIds index (handling ++ since)).getLastD packet.sessionId

/-- As long as calls do not overlap and writing does not have to wait, every frame on a connection
carries the session id that was assigned last on this connection, or zero. -/
theorem frames_carry_newest_session_id (config : SessionConfig) (listeners : List String)
    (outcomes : List ConnectOutcome) (moves : List Move)
    (hsequential : Sequential (build config listeners outcomes) moves)
    (hprompt : Prompt (build config listeners outcomes) moves) (index : Nat) :
    let start := build config listeners outcomes
    let sent := sentOn index (start.transmissions moves)
    (∀ connection, (start.run moves).link.connections[index]? = some connection →
        connection.written = sent.filterMap Transmission.frame?) ∧
      ∀ place transmission, sent[place]? = some transmission →
        Stamped index place transmission ∧
          ∃ early late, moves = early ++ .write index :: late ∧
            transmission.journal = (start.run early).journal := by
  intro start sent
  constructor
  · intro connection hconnection
    have hbalanced := balanced_run (joined_build config listeners outcomes)
      (balanced_build config listeners outcomes) moves
    have hwritten := hbalanced.written index
    rw [List.nil_append] at hwritten
    rw [← hwritten]
    simp [Ledger.writtenOn, ledger, start, hconnection, Connection.line]
  · intro place transmission hplace
    obtain ⟨early, late, rfl, hfound, hsubmitted⟩ := transmission_at hplace
    obtain ⟨-, hconnection, hid, hjournal, line, rest, hline, hwaiting⟩ := write_deals hfound
    obtain ⟨own, htuned, -⟩ := tuned_run (tuned_build config listeners outcomes)
      (atRest_build config listeners outcomes) (joined_build config listeners outcomes)
      (sequential_append.mp hsequential).1 (prompt_append.mp hprompt).1
    -- What waits, waits on the connection that the session goes by.
    have hown : index = own := by
      by_contra hother
      have hnone := htuned.waiting index hother
      simp [Ledger.waitingOn, hline, hwaiting] at hnone
    subst hown
    have hnewest : transmission.sessionId =
        (assignedIds index transmission.journal).getLastD 0 := by
      rw [hid, hjournal]
      exact htuned.stamp
    refine ⟨⟨fun frame => header_of_frame, hnewest, ?_, ?_⟩, early, late, rfl, hjournal⟩
    · rw [hjournal]
      exact htuned.recent
    · obtain ⟨before, since, hsplit, hlength⟩ := submittedTo_split hsubmitted
      refine ⟨before, since, hsplit, hlength, ?_⟩
      rintro first packet handling rfl hassigned
      rw [hnewest, hsplit, List.append_assoc, assignedIds_append, List.cons_append,
        assignedIds_received hassigned, getLastD_append_cons, assignedIds_append,
        assignedIds_append]
      rfl

/-- The challenge assigns a session id, and its answer goes out under that. -/
theorem frames_carry_newest_session_id_answer :
    let before : List Move := [.login "ann" "secret", .write 0, .resume 0,
      .arrive 0 [89, 77, 83, 71, 0, 12, 0, 0, 0, 12, 0, 87, 0, 0, 0, 0, 0, 0, 0, 7,
        57, 52, 192, 128, 97, 98, 99, 49, 50, 51, 192, 128], .read 0]
    let moves := before ++ [.write 0]
    Sequential (build {} [] []) moves ∧ Prompt (build {} [] []) moves ∧
      ∃ transmission,
        (sentOn 0 ((build {} [] []).transmissions moves))[1]? = some transmission ∧
          transmission.outgoing.packet.service = .authResp ∧ transmission.sessionId = 7 := by
  intro before moves
  have hsequential : Sequential (build {} [] []) moves := by decide +kernel
  have hprompt : Prompt (build {} [] []) moves :=
    ⟨fun _ _ => rfl, False.elim, False.elim, False.elim, False.elim, False.elim, trivial⟩
  -- The answer is not computed: that it waits to be written is enough.
  obtain ⟨answer, hwaiting, hservice⟩ : ∃ answer,
      ((build {} [] []).run before).ledger.waitingOn 0 = [answer] ∧
        answer.service = .authResp := by
    have hservices : (((build {} [] []).run before).ledger.waitingOn 0).map Packet.service =
        [.authResp] := by decide +kernel
    obtain ⟨answer, hwaiting, hservice⟩ := List.map_eq_singleton_iff.mp hservices
    exact ⟨answer, hwaiting, hservice⟩
  obtain ⟨transmission, hfound, hanswer⟩ := transmission?_of_waiting hwaiting
  have hplace : (sentOn 0 ((build {} [] []).transmissions moves))[1]? = some transmission := by
    have hlength : (sentOn 0 ((build {} [] []).transmissions before)).length = 1 := by
      decide +kernel
    have hlast : ((build {} [] []).run before).transmissions [.write 0] = [transmission] := by
      rw [transmissions, hfound]
      rfl
    have hindex := (write_deals hfound).2.1
    rw [transmissions_append, hlast, sentOn, List.filter_append, ← sentOn,
      List.getElem?_append_right (Nat.le_of_eq hlength), hlength]
    simp [hindex]
  have hassigned : assignedIds 0 ((build {} [] []).run before).journal = [7] := by decide +kernel
  have hstamped := ((frames_carry_newest_session_id {} [] [] moves hsequential hprompt 0).2
    1 transmission hplace).1
  refine ⟨hsequential, hprompt, transmission, hplace, hanswer ▸ hservice, ?_⟩
  rw [hstamped.newest, (write_deals hfound).2.2.2.1, hassigned]
  rfl

/-- A packet that has to wait for its writing until the next login has begun goes out under the id
of that one: here nine, while seven was assigned on its own connection. -/
theorem late_frame_carries_later_session_id :
    let ping (sessionId : UInt8) : Bytes :=
      [89, 77, 83, 71, 0, 12, 0, 0, 0, 0, 0, 18, 0, 0, 0, 0, 0, 0, 0, sessionId]
    let early : List Move := [.login "ann" "secret", .write 0, .resume 0, .arrive 0 (ping 7),
      .read 0, .elapseTo 60000, .tick, .finishServer 0, .read 0, .resume 0, .reset]
    let late : List Move := [.login "ann" "secret", .arrive 1 (ping 9), .read 1, .write 0]
    let start := build {} [] []
    Sequential start (early ++ late) ∧ ¬ Prompt start (early ++ late) ∧
      (sentOn 0 (start.transmissions (early ++ late))).map (·.sessionId) = [0, 9] ∧
      assignedIds 0 (start.run (early ++ late)).journal = [7] := by
  intro ping early late start
  have hbegins : (start.run early).Begins (.login "ann" "secret") := by decide +kernel
  refine ⟨by decide +kernel, fun hprompt => ?_, by decide +kernel, by decide +kernel⟩
  have hnone := (prompt_append.mp hprompt).2.1 hbegins 0
  exact absurd hnone (by decide +kernel)

end Session

end Messenger
