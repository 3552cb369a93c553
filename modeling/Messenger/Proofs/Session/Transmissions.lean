import Messenger.Proofs.Session.Dealings

/-!
The transmissions of a run. What was put in line for a connection is what its writer has taken, in
that order, and behind it what waits; the frames on the wire are those of the transmissions that
came through.
-/

namespace Messenger

open Text (Bytes)

def Happening.submittedTo? (index : Nat) : Happening → Option Packet
  | .submitted connection packet => if connection = index then some packet else none
  | _ => none

/-- The packets that were put in line for a connection. -/
def submittedTo (index : Nat) (journal : List Happening) : List Packet :=
  journal.filterMap (Happening.submittedTo? index)

@[simp] theorem submittedTo_append (index : Nat) (early late : List Happening) :
    submittedTo index (early ++ late) = submittedTo index early ++ submittedTo index late :=
  List.filterMap_append

theorem submittedTo_submitted (index : Nat) (packet : Packet) (rest : List Happening) :
    submittedTo index (.submitted index packet :: rest) = packet :: submittedTo index rest :=
  List.filterMap_cons_some (if_pos rfl)

/-- The transmissions on a connection. -/
def sentOn (index : Nat) (sent : List Transmission) : List Transmission :=
  sent.filter fun transmission => transmission.connection = index

theorem filterMap_split {α β : Type} {select : α → Option β} {list : List α} {place : Nat}
    {found : β} (hplace : (list.filterMap select)[place]? = some found) :
    ∃ first chosen last, list = first ++ chosen :: last ∧ select chosen = some found ∧
      (first.filterMap select).length = place := by
  obtain ⟨hlt, hget⟩ := List.getElem?_eq_some_iff.mp hplace
  have hlist : list.filterMap select = (list.filterMap select).take place ++
      found :: (list.filterMap select).drop (place + 1) := by
    rw [← hget, List.getElem_cons_drop, List.take_append_drop]
  obtain ⟨early, late, rfl, hearly, hlate⟩ := List.filterMap_eq_append_iff.mp hlist
  obtain ⟨between, chosen, last, rfl, hnone, hchosen, -⟩ := List.filterMap_eq_cons_iff.mp hlate
  refine ⟨early ++ between, chosen, last, by simp, hchosen, ?_⟩
  rw [List.filterMap_append, List.filterMap_eq_nil_iff.mpr hnone, List.append_nil, hearly,
    List.length_take]
  omega

theorem sentOn_split {index place : Nat} {sent : List Transmission} {transmission : Transmission}
    (hplace : (sentOn index sent)[place]? = some transmission) :
    ∃ first last, sent = first ++ transmission :: last ∧ (sentOn index first).length = place := by
  unfold sentOn at hplace ⊢
  rw [← List.filterMap_eq_filter] at hplace
  obtain ⟨first, chosen, last, rfl, hchosen, hlength⟩ := filterMap_split hplace
  rw [Option.guard_eq_some_iff] at hchosen
  rw [List.filterMap_eq_filter] at hlength
  exact ⟨first, last, by rw [hchosen.1], hlength⟩

/-- A packet that was put in line stands in the journal behind as many others as its place says. -/
theorem submittedTo_split {index place : Nat} {journal : List Happening} {packet : Packet}
    (hplace : (submittedTo index journal)[place]? = some packet) :
    ∃ early since, journal = early ++ .submitted index packet :: since ∧
      (submittedTo index early).length = place := by
  obtain ⟨early, chosen, since, rfl, hchosen, hlength⟩ := filterMap_split hplace
  refine ⟨early, since, ?_, hlength⟩
  cases chosen with
  | submitted connection submitted =>
      by_cases hindex : connection = index
      · rw [Happening.submittedTo?, if_pos hindex] at hchosen
        rw [hindex, Option.some.inj hchosen]
      · simp [Happening.submittedTo?, hindex] at hchosen
  | _ => cases hchosen

namespace Ledger

variable {ledger : Ledger}

def waitingOn (ledger : Ledger) (index : Nat) : List Packet :=
  ((ledger.lines[index]?).map fun line => line.waiting.map Outgoing.packet).getD []

def writtenOn (ledger : Ledger) (index : Nat) : List Bytes :=
  ((ledger.lines[index]?).map Line.written).getD []

/-- Whether a deal writes nothing and has a line if it needs one. -/
def Fits (ledger : Ledger) : Deal → Prop
  | .answered connection _ => connection < ledger.lines.length
  | .written _ => False
  | .noted happening => happening.isRemark = true
  | _ => True

theorem waitingOn_put {connection : Nat} (hline : connection < ledger.lines.length)
    (outgoing : Outgoing Sending) (index : Nat) :
    (ledger.put connection outgoing).waitingOn index =
      ledger.waitingOn index ++ if connection = index then [outgoing.packet] else [] := by
  unfold waitingOn put
  dsimp only
  rw [List.getElem?_modify]
  by_cases hindex : connection = index
  · subst hindex
    simp [List.getElem?_eq_getElem hline]
  · simp [hindex]

theorem waitingOn_put_ne {connection index : Nat} (hindex : connection ≠ index)
    (outgoing : Outgoing Sending) :
    (ledger.put connection outgoing).waitingOn index = ledger.waitingOn index := by
  unfold waitingOn put
  dsimp only
  rw [List.getElem?_modify]
  simp [hindex]

theorem writtenOn_put (connection : Nat) (outgoing : Outgoing Sending) (index : Nat) :
    (ledger.put connection outgoing).writtenOn index = ledger.writtenOn index := by
  unfold writtenOn put
  dsimp only
  rw [List.getElem?_modify]
  by_cases hindex : connection = index <;> cases ledger.lines[index]? <;> simp [hindex]

theorem lines_opened (index : Nat) :
    (ledger.act .opened).waitingOn index = ledger.waitingOn index ∧
      (ledger.act .opened).writtenOn index = ledger.writtenOn index := by
  unfold waitingOn writtenOn act
  dsimp only
  rcases Nat.lt_trichotomy index ledger.lines.length with hlt | heq | hgt
  · rw [List.getElem?_append_left hlt]
    exact ⟨rfl, rfl⟩
  · subst heq
    simp
  · rw [List.getElem?_eq_none (by simp; omega), List.getElem?_eq_none (by omega)]
    exact ⟨rfl, rfl⟩

/-- The ledger accounts for all that was put in line and for all that was transmitted. -/
structure Balanced (ledger : Ledger) (sent : List Transmission) : Prop where
  manned : ∀ index, ledger.writer = some index → index < ledger.lines.length
  waiting : ∀ index, submittedTo index ledger.journal =
    ((sentOn index sent).map fun transmission => transmission.outgoing.packet) ++
      ledger.waitingOn index
  written : ∀ index, ledger.writtenOn index =
    (sentOn index sent).filterMap Transmission.frame?

namespace Balanced

variable {sent : List Transmission} (h : Balanced ledger sent)
include h

theorem put {connection : Nat} (hline : connection < ledger.lines.length)
    (outgoing : Outgoing Sending) :
    Balanced (ledger.put connection outgoing) sent where
  manned index hwriter := by
    have hlength : (ledger.put connection outgoing).lines.length = ledger.lines.length :=
      List.length_modify _ _ _
    rw [hlength]
    exact h.manned index hwriter
  waiting index := by
    rw [waitingOn_put hline]
    show submittedTo index (ledger.journal ++ [.submitted connection outgoing.packet]) = _
    rw [submittedTo_append, h.waiting index, List.append_assoc]
    by_cases hindex : connection = index <;> simp [submittedTo, Happening.submittedTo?, hindex]
  written index := by
    rw [writtenOn_put]
    exact h.written index

/-- What happens beside the lines. -/
theorem note (noted : List Happening)
    (hnone : ∀ happening ∈ noted, ∀ index, happening.submittedTo? index = none) {next : Ledger}
    (hjournal : next.journal = ledger.journal ++ noted) (hlines : next.lines = ledger.lines)
    (hwriter : next.writer = ledger.writer ∨ next.writer = none) :
    Balanced next sent where
  manned index hmanned := by
    rcases hwriter with hsame | hdetached
    · rw [hlines]
      exact h.manned index (hsame ▸ hmanned)
    · rw [hdetached] at hmanned
      cases hmanned
  waiting index := by
    have hnothing : submittedTo index noted = [] :=
      List.filterMap_eq_nil_iff.mpr fun happening hmem => hnone happening hmem index
    have hwaiting : next.waitingOn index = ledger.waitingOn index := by
      unfold waitingOn
      rw [hlines]
    rw [hjournal, submittedTo_append, hnothing, List.append_nil, hwaiting]
    exact h.waiting index
  written index := by
    have hwritten : next.writtenOn index = ledger.writtenOn index := by
      unfold writtenOn
      rw [hlines]
    rw [hwritten]
    exact h.written index

theorem enter (state : SessionState) : Balanced (ledger.enter state) sent := by
  by_cases hsame : ledger.state = state
  · exact h.note [] (by simp) (by simp [Ledger.enter, hsame]) rfl (.inl rfl)
  · refine h.note [.entered state] ?_ (by simp [Ledger.enter, hsame]) rfl (.inl rfl)
    simp [Happening.submittedTo?]

theorem write {transmission : Transmission} {line : Line} {rest : List (Outgoing Sending)}
    (hline : ledger.lines[transmission.connection]? = some line)
    (hwaiting : line.waiting = transmission.outgoing :: rest) :
    Balanced (ledger.act (.written transmission)) (sent ++ [transmission]) where
  manned index hwriter := by
    show index < (ledger.lines.modify _ _).length
    rw [List.length_modify]
    exact h.manned index hwriter
  waiting index := by
    show submittedTo index ledger.journal = _
    rw [h.waiting index, sentOn, sentOn, List.filter_append, List.map_append, List.append_assoc]
    congr 1
    unfold waitingOn act
    dsimp only
    rw [List.getElem?_modify]
    by_cases hindex : transmission.connection = index
    · subst hindex
      simp [hline, hwaiting]
    · simp [hindex]
  written index := by
    have hsame := h.written index
    rw [sentOn, List.filter_append, List.filterMap_append, ← sentOn, ← hsame]
    unfold writtenOn act
    dsimp only
    rw [List.getElem?_modify]
    by_cases hindex : transmission.connection = index
    · subst hindex
      cases hframe : transmission.frame? <;> simp [hline, hframe]
    · simp [hindex]

theorem act {deal : Deal} (hfits : ledger.Fits deal) : Balanced (ledger.act deal) sent := by
  cases deal with
  | begun =>
      refine h.note [.entered .connecting] ?_ rfl rfl (.inl rfl)
      simp [Happening.submittedTo?]
  | entered state => exact h.enter state
  | opened =>
      refine ⟨fun index hwriter => ?_, fun index => ?_, fun index => ?_⟩
      · rw [← Option.some.inj hwriter]
        simp [Ledger.act]
      · rw [(lines_opened index).1]
        exact h.waiting index
      · rw [(lines_opened index).2]
        exact h.written index
  | detached => exact h.note [] (by simp) (by simp [Ledger.act]) rfl (.inr rfl)
  | submitted outgoing =>
      rw [Ledger.act, submit]
      cases hwriter : ledger.writer with
      | none => exact h
      | some connection => exact h.put (h.manned connection hwriter) outgoing
  | taken connection packet =>
      refine h.note [.received connection packet] ?_ rfl rfl (.inl rfl)
      simp [Happening.submittedTo?]
  | answered connection outgoing =>
      have hconnected : Balanced { ledger with
          state := .connected
          journal := ledger.journal ++ [.entered .connected] } sent := by
        refine h.note [.entered .connected] ?_ rfl rfl (.inl rfl)
        simp [Happening.submittedTo?]
      exact hconnected.put hfits outgoing
  | written transmission => exact hfits.elim
  | noted happening =>
      refine h.note [happening] ?_ rfl rfl (.inl rfl)
      cases happening with
      | submitted connection packet => cases hfits
      | _ => simp [Happening.submittedTo?]

end Balanced

theorem lines_length_act (deal : Deal) : ledger.lines.length ≤ (ledger.act deal).lines.length := by
  cases deal with
  | submitted outgoing =>
      rw [act, submit]
      cases ledger.writer with
      | none => exact Nat.le_refl _
      | some connection => exact Nat.le_of_eq (List.length_modify _ _ _).symm
  | answered connection outgoing => exact Nat.le_of_eq (List.length_modify _ _ _).symm
  | written transmission => exact Nat.le_of_eq (List.length_modify _ _ _).symm
  | opened => simp [act]
  | _ => exact Nat.le_refl _

theorem Fits.mono {deal : Deal} (other : Deal) (h : ledger.Fits deal) :
    (ledger.act other).Fits deal := by
  cases deal with
  | answered connection outgoing => exact Nat.lt_of_lt_of_le h (lines_length_act other)
  | _ => exact h

theorem Balanced.acts {sent : List Transmission} (h : Balanced ledger sent) {deals : List Deal}
    (hfits : ∀ deal ∈ deals, ledger.Fits deal) :
    Balanced (ledger.acts deals) sent :=
  acts_keep (motive := fun ledger => Balanced ledger sent) Fits act Fits.mono h hfits

theorem fits_of_isInner {deal : Deal} (hinner : deal.isInner = true) : ledger.Fits deal := by
  cases deal with
  | answered connection outgoing => cases hinner
  | written transmission => cases hinner
  | noted happening => exact hinner
  | _ => trivial

theorem fits_of_isHeard {index : Nat} (hindex : index < ledger.lines.length) {deal : Deal}
    (hheard : deal.isHeard index = true) :
    ledger.Fits deal := by
  cases deal with
  | answered connection outgoing =>
      simp only [Deal.isHeard, decide_eq_true_eq] at hheard
      exact hheard.1 ▸ hindex
  | written transmission => cases hheard
  | noted happening => exact hheard
  | _ => trivial

theorem fits_of_isConnect {deals : List Deal} (hdeals : Session.IsConnect deals) :
    ∀ deal ∈ deals, ledger.Fits deal := by
  rcases hdeals with ⟨outgoing, rfl⟩ | hinner
  · simp [Fits]
  · exact fun deal hmem => fits_of_isInner (hinner deal hmem)

end Ledger

namespace Session

open Standing (Joined)

/-- All that the writers of a session make of packets in the course of a run. -/
def transmissions (session : Session) : List Move → List Transmission
  | [] => []
  | move :: rest =>
      (session.transmission? move).toList ++ transmissions (session.step move) rest

theorem transmissions_append (session : Session) (early late : List Move) :
    session.transmissions (early ++ late) =
      session.transmissions early ++ (session.run early).transmissions late := by
  induction early generalizing session with
  | nil => rfl
  | cons move rest induction =>
      rw [List.cons_append, transmissions, transmissions, induction, List.append_assoc]
      rfl

theorem queued_eq (session : Session) (index : Nat) :
    session.queued index = (session.ledger.waitingOn index).length := by
  unfold queued Ledger.waitingOn ledger
  rw [List.getElem?_map]
  cases session.link.connections[index]? <;> simp [Connection.line]

/-- A writer takes a packet that waits, whatever comes of it. -/
theorem transmission?_of_waiting {session : Session} {index : Nat} {packet : Packet}
    {rest : List Packet} (hwaiting : session.ledger.waitingOn index = packet :: rest) :
    ∃ transmission, session.transmission? (.write index) = some transmission ∧
      transmission.outgoing.packet = packet := by
  unfold Ledger.waitingOn ledger at hwaiting
  rw [List.getElem?_map] at hwaiting
  cases hconnection : session.link.connections[index]? with
  | none => simp [hconnection] at hwaiting
  | some connection =>
      cases hqueue : connection.queue with
      | nil => simp [hconnection, Connection.line, hqueue] at hwaiting
      | cons outgoing waiting =>
          simp only [hconnection, Connection.line, hqueue, Option.map_some, Option.getD_some,
            List.map_cons, List.cons.injEq] at hwaiting
          simp only [transmission?, Link.writeNext?, hconnection, hqueue, Option.map_some]
          exact ⟨_, rfl, hwaiting.1⟩

theorem transmissions_split {session : Session} {moves : List Move}
    {first last : List Transmission} {transmission : Transmission}
    (hsplit : session.transmissions moves = first ++ transmission :: last) :
    ∃ early late, moves = early ++ .write transmission.connection :: late ∧
      session.transmissions early = first ∧
      (session.run early).transmission? (.write transmission.connection) = some transmission := by
  induction moves generalizing session first with
  | nil => simp [transmissions] at hsplit
  | cons move rest induction =>
      rw [transmissions] at hsplit
      cases hmove : session.transmission? move with
      | none =>
          rw [hmove, Option.toList_none, List.nil_append] at hsplit
          obtain ⟨early, late, rfl, hearly, hfound⟩ := induction hsplit
          refine ⟨move :: early, late, rfl, ?_, hfound⟩
          rw [transmissions, hmove, Option.toList_none, List.nil_append, hearly]
      | some made =>
          rw [hmove, Option.toList_some, List.singleton_append] at hsplit
          cases first with
          | nil =>
              obtain ⟨rfl, -⟩ := List.cons.inj hsplit
              cases move with
              | write index =>
                  obtain ⟨-, rfl, -⟩ := write_deals hmove
                  exact ⟨[], rest, rfl, rfl, hmove⟩
              | _ => cases hmove
          | cons head first =>
              obtain ⟨rfl, hrest⟩ := List.cons.inj hsplit
              obtain ⟨early, late, rfl, hearly, hfound⟩ := induction hrest
              refine ⟨move :: early, late, rfl, ?_, hfound⟩
              rw [transmissions, hmove, Option.toList_some, List.singleton_append, hearly]

theorem Dealt.balanced {session : Session} {move : Move} {deals : List Deal}
    (h : Dealt session move deals) {sent : List Transmission}
    (hbalanced : session.ledger.Balanced sent) :
    (session.ledger.acts deals).Balanced (sent ++ (session.transmission? move).toList) := by
  have hsilent (hnone : session.transmission? move = none)
      (hfits : ∀ deal ∈ deals, session.ledger.Fits deal) :
      (session.ledger.acts deals).Balanced (sent ++ (session.transmission? move).toList) := by
    rw [hnone, Option.toList_none, List.append_nil]
    exact hbalanced.acts hfits
  cases h with
  | inner hnone hinner =>
      exact hsilent hnone fun deal hmem => Ledger.fits_of_isInner (hinner deal hmem)
  | begins hbegins hrest =>
      refine hsilent rfl fun deal hmem => ?_
      rcases List.mem_cons.mp hmem with rfl | hmem
      · trivial
      · exact Ledger.fits_of_isConnect hrest deal hmem
  | connects hcall hdeals => exact hsilent rfl (Ledger.fits_of_isConnect hdeals)
  | @reads index _ hrunning hheard =>
      have hindex : index < session.ledger.lines.length := by
        have hreader := (List.getElem?_eq_some_iff.mp hrunning).1
        simpa [standing, Link.readers, ledger] using hreader
      exact hsilent rfl fun deal hmem => Ledger.fits_of_isHeard hindex (hheard deal hmem)
  | @writes index transmission htransmission =>
      obtain ⟨-, rfl, -, -, line, rest, hline, hwaiting⟩ := write_deals htransmission
      rw [htransmission]
      exact hbalanced.write hline hwaiting

theorem balanced_run {session : Session} (h : Joined session.standing) {sent : List Transmission}
    (hbalanced : session.ledger.Balanced sent) (moves : List Move) :
    (session.run moves).ledger.Balanced (sent ++ session.transmissions moves) := by
  unfold run
  induction moves generalizing session sent with
  | nil => rwa [transmissions, List.append_nil]
  | cons move rest induction =>
      obtain ⟨deals, hledger, hdealt⟩ := step_dealt h move
      have hstep : (session.step move).ledger.Balanced
          (sent ++ (session.transmission? move).toList) := by
        rw [hledger]
        exact hdealt.balanced hbalanced
      rw [transmissions, ← List.append_assoc]
      exact induction ((step_stepped session move).joined h) hstep

theorem balanced_build (config : SessionConfig) (listeners : List String)
    (outcomes : List ConnectOutcome) :
    (build config listeners outcomes).ledger.Balanced [] where
  manned _ hwriter := nomatch hwriter
  waiting _ := rfl
  written _ := rfl

/-- A transmission that has a certain place among those on its connection is of the packet that has
this place among those put in line for it. -/
theorem transmission_at {config : SessionConfig} {listeners : List String}
    {outcomes : List ConnectOutcome} {moves : List Move} {index place : Nat}
    {transmission : Transmission}
    (hplace : (sentOn index ((build config listeners outcomes).transmissions moves))[place]? =
      some transmission) :
    ∃ early late, moves = early ++ .write index :: late ∧
      ((build config listeners outcomes).run early).transmission? (.write index) =
        some transmission ∧
      (submittedTo index transmission.journal)[place]? = some transmission.outgoing.packet := by
  obtain ⟨first, last, hsplit, hlength⟩ := sentOn_split hplace
  obtain ⟨early, late, rfl, hearly, hfound⟩ := transmissions_split hsplit
  have hindex : transmission.connection = index := by
    have hmem := List.mem_of_getElem? hplace
    simpa [sentOn] using (List.mem_filter.mp hmem).2
  subst hindex
  refine ⟨early, late, rfl, hfound, ?_⟩
  have hbalanced := balanced_run (joined_build config listeners outcomes)
    (balanced_build config listeners outcomes) early
  obtain ⟨-, -, -, hjournal, line, rest, hline, hwaiting⟩ := write_deals hfound
  rw [hearly, List.nil_append] at hbalanced
  have hledger := hbalanced.waiting transmission.connection
  have hwaits : ((build config listeners outcomes).run early).ledger.waitingOn
      transmission.connection =
        transmission.outgoing.packet :: rest.map Outgoing.packet := by
    simp [Ledger.waitingOn, hline, hwaiting]
  rw [hwaits] at hledger
  rw [hjournal]
  show (submittedTo _ ((build config listeners outcomes).run early).ledger.journal)[place]? = _
  rw [hledger, List.getElem?_append_right (by simp [hlength])]
  simp [hlength]

end Session

end Messenger
