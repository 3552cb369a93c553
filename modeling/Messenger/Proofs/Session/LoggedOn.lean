import Messenger.Proofs.Frame.Stream
import Messenger.Proofs.Session.Announcements
import Messenger.Proofs.Session.Hearing

/-!
What frames come to once a session is logged on. Each packet tells what its handler tells, in the
order of the frames; a frame that is malformed, wherever it stands, is as if it had not been sent.
-/

namespace Messenger

open Text (Bytes)

namespace Frame

/-- The packets among the frames; the others are malformed. -/
def packetsOf (frames : List Bytes) : List Packet :=
  frames.filterMap fun frame => (decodeWhole frame).toOption

theorem packetsOf_append (first second : List Bytes) :
    packetsOf (first ++ second) = packetsOf first ++ packetsOf second :=
  List.filterMap_append

theorem Framed.unique {bytes tail rest : Bytes} {frames others : List Bytes}
    (h : Framed bytes frames tail) (hothers : Framed bytes others rest) :
    frames = others ∧ tail = rest := by
  have heq := h.eq_splitAll.symm.trans hothers.eq_splitAll
  exact ⟨congrArg Prod.fst heq, congrArg Prod.snd heq⟩

/-- A whole frame in front of a stream is the first of its frames. -/
theorem Framed.behind {frame rest tail : Bytes} {frames : List Bytes} (hwhole : IsWhole frame)
    (h : Framed (frame ++ rest) frames tail) :
    ∃ others, frames = frame :: others ∧ Framed rest others tail := by
  have hrest := framed_splitAll rest
  have hjoined : Framed (frame ++ rest) (frame :: (splitAll rest).1) (splitAll rest).2 := by
    refine ⟨?_, ?_, hrest.unfinished⟩
    · rw [List.flatten_cons, List.append_assoc, ← hrest.bytes_eq]
    · exact List.forall_mem_cons.mpr ⟨hwhole, hrest.whole⟩
  obtain ⟨hframes, htail⟩ := h.unique hjoined
  exact ⟨_, hframes, htail ▸ hrest⟩

theorem Framed.nil_of_split? {bytes tail : Bytes} {frames : List Bytes}
    (h : Framed bytes frames tail) (hnone : split? bytes = none) : frames = [] := by
  cases frames with
  | nil => rfl
  | cons frame others =>
      have hsplit : split? bytes = some (frame, others.flatten ++ tail) :=
        split?_eq_some_iff.mpr ⟨h.whole frame List.mem_cons_self, by
          rw [h.bytes_eq, List.flatten_cons, List.append_assoc]⟩
      cases hnone.symm.trans hsplit

end Frame

open Messenger.Frame (Framed IsWhole packetsOf)

namespace Session

/-- What a move brings to a connection. -/
def Move.brings (index : Nat) : Move → Bytes
  | .arrive connection bytes => if connection = index then bytes else []
  | _ => []

def arrived (index : Nat) (moves : List Move) : Bytes :=
  moves.flatMap (Move.brings index)

/-- A session id of zero leaves the one there is. -/
def sessionIdAfter (sessionId : UInt32) (packets : List Packet) : UInt32 :=
  packets.foldl
    (fun sessionId packet => if packet.sessionId ≠ 0 then packet.sessionId else sessionId) sessionId

def heard (deeds : List Deed) : List Packet :=
  deeds.filterMap fun
    | .hear packet => some packet
    | .make _ => none

/-- The handlers have taken in some packets, in their order, and have told what there is to tell of
them. Nothing was sent, if no request was due. -/
structure Accounts (undue : Prop) (before : Session) (packets : List Packet) (after : Session) :
    Prop where
  holding : after.holding = (before.holding.takeAll packets).1
  sessionId : after.link.sessionId = sessionIdAfter before.link.sessionId packets
  running : after.events.running = before.events.running
  journal : ∃ noted, after.journal = before.journal ++ noted ∧
    (before.events.running = true → reportsOf noted = (before.holding.takeAll packets).2) ∧
    (∀ state, .entered state ∉ noted) ∧
    (undue → ∀ connection packet, .submitted connection packet ∉ noted)

section Accounts

variable {undue : Prop} {index : Nat}

theorem Accounts.refl (undue : Prop) (session : Session) : Accounts undue session [] session :=
  ⟨rfl, rfl, rfl, [], by simp, fun _ => rfl, by simp, by simp⟩

theorem Accounts.trans {first second third : Session} {early late : List Packet}
    (hfirst : Accounts undue first early second) (hsecond : Accounts undue second late third) :
    Accounts undue first (early ++ late) third := by
  obtain ⟨noted, hnoted, htold, hentered, hsent⟩ := hfirst.journal
  obtain ⟨later, hlater, htoldLater, henteredLater, hsentLater⟩ := hsecond.journal
  refine ⟨?_, ?_, hsecond.running.trans hfirst.running, noted ++ later, ?_, fun hrunning => ?_,
    fun state hmem => ?_, fun hundue connection packet hmem => ?_⟩
  · rw [hsecond.holding, hfirst.holding, Holding.takeAll_append]
  · rw [hsecond.sessionId, hfirst.sessionId, sessionIdAfter, sessionIdAfter, sessionIdAfter,
      List.foldl_append]
  · rw [hlater, hnoted, List.append_assoc]
  · rw [reportsOf_append, htold hrunning, htoldLater (hfirst.running.trans hrunning),
      hfirst.holding, Holding.takeAll_append]
  · exact (List.mem_append.mp hmem).elim (hentered state) (henteredLater state)
  · exact (List.mem_append.mp hmem).elim (hsent hundue connection packet)
      (hsentLater hundue connection packet)

theorem Listening.accounts_receive {session : Session} (h : Listening index session)
    {packet : Packet} (hstays : packet.isGoodbye = false) :
    Accounts undue session [packet] (session.receive index packet) := by
  have hreceive := receive_loggedOn session h.state h.alive h.wired index hstays
  refine ⟨?_, ?_, ?_, .received index packet :: (if session.events.running then
    (session.holding.take packet).2.map .reported else []) ++ [.handled], ?_, fun hrunning => ?_,
    fun state hmem => ?_, fun _ connection other hmem => ?_⟩
  · rw [hreceive]
    rfl
  · rw [hreceive]
    simp only [Link.adopt, sessionIdAfter, List.foldl_cons, List.foldl_nil]
    split <;> rfl
  · rw [hreceive]
    exact Voices.running_eq _
  · rw [hreceive]
    simp
  · have hreported (reports : List Report) : reportsOf (reports.map .reported) = reports := by
      simp [reportsOf, List.filterMap_map, Function.comp_def, Happening.report?]
    rw [if_pos hrunning, reportsOf_append]
    exact congrArg (· ++ []) (hreported _)
  · split at hmem <;> simp at hmem
  · split at hmem <;> simp at hmem

theorem accounts_aside (session : Session) {move : Move} (haside : move.isAside index = true)
    (hundue : undue → move ≠ .tick) :
    Accounts undue session [] (session.step move) := by
  obtain ⟨hholding, hsessionId, hjournal⟩ := aside_keeps session haside
  have hcarries := carries_of_aside session haside
  obtain ⟨noted, hnoted, hsendings⟩ := hcarries.journal
  refine ⟨hholding, hsessionId, congrArg Standing.running hcarries.standing, noted, hnoted,
    fun _ => ?_, fun state hmem => ?_, fun hnone connection packet hmem => ?_⟩
  · refine List.filterMap_eq_nil_iff.mpr fun happening hmem => ?_
    obtain ⟨connection, packet, rfl, -⟩ := hsendings happening hmem
    rfl
  · obtain ⟨connection, packet, heq, -⟩ := hsendings _ hmem
    cases heq
  · have hsame := hjournal.resolve_right (hundue hnone)
    rw [hsame] at hnoted
    rw [List.self_eq_append_right.mp hnoted] at hmem
    cases hmem

theorem Accounts.unreading {before after : Session} {packets : List Packet}
    (h : Accounts undue before packets after) (index : Nat) (bytes : Bytes) :
    Accounts undue before packets (after.unreading index bytes) :=
  ⟨h.holding, h.sessionId, h.running, h.journal⟩

theorem Listening.accounts {session : Session} (h : Listening index session) {deeds : List Deed}
    (hstays : ∀ deed ∈ deeds, deed.stays index) (hundue : undue → .make .tick ∉ deeds) :
    Accounts undue session (heard deeds) (deeds.foldl (Deed.act index) session) := by
  induction deeds generalizing session with
  | nil => exact .refl undue session
  | cons deed rest induction =>
      obtain ⟨hfirst, hrest⟩ := List.forall_mem_cons.mp hstays
      have hlater := induction (h.act hfirst) hrest fun hnone hmem =>
        hundue hnone (List.mem_cons_of_mem _ hmem)
      cases deed with
      | hear packet => exact (h.accounts_receive hfirst).trans hlater
      | make move =>
          exact (accounts_aside session hfirst fun hnone heq =>
            hundue hnone (heq ▸ List.mem_cons_self)).trans hlater

end Accounts

section Streams

variable {index : Nat} {unread tail : Bytes} {frames : List Bytes}

theorem heard_append (first second : List Deed) :
    heard (first ++ second) = heard first ++ heard second :=
  List.filterMap_append

theorem packetsOf_singleton (frame : Bytes) :
    packetsOf [frame] = (Frame.decodeWhole frame).toOption.toList := by
  cases h : Frame.decodeWhole frame <;> simp [packetsOf, h, Except.toOption]

theorem feed_read {frame : Bytes} (hwhole : IsWhole frame) (index : Nat) (rest : Bytes) :
    (Move.read index).feed index (frame ++ rest) = (rest, (packetsOf [frame]).map .hear) := by
  have hframe : Frame.readPacket? (frame ++ rest) = some (Frame.decodeWhole frame, rest) := by
    rw [Frame.readPacket?, Frame.split?_eq_some_iff.mpr ⟨hwhole, rfl⟩]
    rfl
  simp only [Move.feed, Move.feeds, hframe, decide_true, if_true]
  cases hresult : Frame.decodeWhole frame <;>
    simp [packetsOf_singleton, hresult, Except.toOption]

theorem heard_hear (packets : List Packet) : heard (packets.map .hear) = packets := by
  rw [heard, List.filterMap_map]
  exact List.filterMap_some

theorem Move.feed_hears {move : Move} (hfeeds : move.feeds index = true) (unread : Bytes) :
    ∃ packets : List Packet, (move.feed index unread).2 = packets.map .hear := by
  cases move with
  | arrive connection bytes =>
      obtain rfl : connection = index := by simpa [Move.feeds] using hfeeds
      exact ⟨[], by simp⟩
  | read connection =>
      obtain rfl : connection = index := by simpa [Move.feeds] using hfeeds
      cases hsplit : Frame.split? unread with
      | none => exact ⟨[], by simp [Move.feed, Move.feeds, Frame.readPacket?, hsplit]⟩
      | some entry =>
          obtain ⟨hwhole, rfl⟩ := Frame.split?_eq_some_iff.mp hsplit
          exact ⟨packetsOf [entry.1], by rw [feed_read hwhole]⟩
  | _ => cases hfeeds

/-- A move takes at most one frame off the stream. If it is a packet, the packet is heard. -/
theorem feed_framed {move : Move} {later : Bytes}
    (h : Framed (unread ++ (move.brings index ++ later)) frames tail) :
    ∃ count ≤ frames.length, Framed ((move.feed index unread).1 ++ later) (frames.drop count) tail ∧
      heard (move.feed index unread).2 = packetsOf (frames.take count) := by
  have hkept (hfeed : move.feed index unread = (unread ++ move.brings index, [])) :
      ∃ count ≤ frames.length,
        Framed ((move.feed index unread).1 ++ later) (frames.drop count) tail ∧
          heard (move.feed index unread).2 = packetsOf (frames.take count) :=
    ⟨0, Nat.zero_le _, by rwa [hfeed, List.append_assoc], by rw [hfeed]; rfl⟩
  cases hfeeds : move.feeds index with
  | false =>
      have hbrings : move.brings index = [] := by
        cases move with
        | arrive connection bytes => exact if_neg (by simpa [Move.feeds] using hfeeds)
        | _ => rfl
      rw [hbrings, List.nil_append] at h
      rw [Move.feed_aside hfeeds]
      exact ⟨0, Nat.zero_le _, h, rfl⟩
  | true =>
      cases move with
      | arrive connection bytes =>
          obtain rfl : connection = index := by simpa [Move.feeds] using hfeeds
          exact hkept (by simp [Move.brings])
      | read connection =>
          obtain rfl : connection = index := by simpa [Move.feeds] using hfeeds
          cases hsplit : Frame.split? unread with
          | none =>
              exact hkept (by simp [Move.feed, Move.feeds, Move.brings, Frame.readPacket?, hsplit])
          | some entry =>
              obtain ⟨frame, rest⟩ := entry
              obtain ⟨hwhole, rfl⟩ := Frame.split?_eq_some_iff.mp hsplit
              rw [List.append_assoc] at h
              obtain ⟨others, rfl, hothers⟩ := Framed.behind hwhole h
              rw [feed_read hwhole, heard_hear]
              exact ⟨1, by simp, hothers, by simp⟩
      | _ => cases hfeeds

theorem deeds_framed {moves : List Move} (h : Framed (unread ++ arrived index moves) frames tail) :
    ∃ count ≤ frames.length, Framed (deeds index unread moves).1 (frames.drop count) tail ∧
      heard (deeds index unread moves).2 = packetsOf (frames.take count) := by
  induction moves generalizing unread frames with
  | nil => exact ⟨0, Nat.zero_le _, by simpa [arrived, deeds] using h, rfl⟩
  | cons move rest induction =>
      have hjoined : Framed (unread ++ (move.brings index ++ arrived index rest)) frames tail := h
      obtain ⟨first, hfirst, hleft, hheard⟩ := feed_framed hjoined
      obtain ⟨count, hcount, hlast, hlater⟩ := induction hleft
      rw [List.length_drop] at hcount
      refine ⟨first + count, by omega, ?_, ?_⟩
      · rw [← List.drop_drop]
        exact hlast
      · simp only [deeds, heard_append, hheard, hlater]
        rw [← Frame.packetsOf_append, List.take_add]

theorem make_mem_deeds {move : Move} {moves : List Move}
    (hmem : .make move ∈ (deeds index unread moves).2) :
    move ∈ moves ∧ move.feeds index = false := by
  induction moves generalizing unread with
  | nil => cases hmem
  | cons first rest induction =>
      rw [deeds_cons] at hmem
      rcases List.mem_append.mp hmem with hmem | hmem
      · cases hfeeds : first.feeds index with
        | false =>
            rw [Move.feed_aside hfeeds] at hmem
            cases List.mem_singleton.mp hmem
            exact ⟨List.mem_cons_self, hfeeds⟩
        | true =>
            obtain ⟨packets, hpackets⟩ := Move.feed_hears hfeeds unread
            simp [hpackets] at hmem
      · exact ⟨List.mem_cons_of_mem _ (induction hmem).1, (induction hmem).2⟩

theorem mem_heard {packet : Packet} {deeds : List Deed} (hmem : .hear packet ∈ deeds) :
    packet ∈ heard deeds :=
  List.mem_filterMap.mpr ⟨_, hmem, rfl⟩

/-- What is read of frames is the packets among them. -/
theorem deeds_reads (index : Nat) {front : List Bytes}
    (hwhole : ∀ frame ∈ front, IsWhole frame) (rest : Bytes) (moves : List Move) :
    (deeds index (front.flatten ++ rest)
      (List.replicate front.length (.read index) ++ moves)).2 =
        (packetsOf front).map .hear ++ (deeds index rest moves).2 := by
  induction front with
  | nil => rfl
  | cons frame others induction =>
      obtain ⟨hframe, hothers⟩ := List.forall_mem_cons.mp hwhole
      have hsplit : packetsOf (frame :: others) = packetsOf [frame] ++ packetsOf others :=
        Frame.packetsOf_append [frame] others
      rw [List.flatten_cons, List.append_assoc, List.length_cons, List.replicate_succ,
        List.cons_append, deeds_cons, feed_read hframe, induction hothers, hsplit, List.map_append,
        List.append_assoc]

/-- Whether a move has bytes of a connection read. -/
def Move.reads (index : Nat) : Move → Bool
  | .read connection => connection = index
  | _ => false

theorem Move.reads_of_not_feeds {move : Move} (hfeeds : move.feeds index = false) :
    move.reads index = false := by
  cases move with
  | read connection => exact hfeeds
  | _ => rfl

/-- Other frames with the same packets among them can be read to the same effect, and with the same
moves beside the reader. -/
theorem deeds_of_same_packets {moves : List Move}
    (h : Framed (unread ++ arrived index moves) frames tail) {others : List Bytes}
    (hwhole : ∀ frame ∈ others, IsWhole frame) (hsame : packetsOf others = packetsOf frames)
    (rest : Bytes) :
    ∃ reads : List Move,
      reads.filter (fun move => !move.reads index) = moves.filter (fun move => !move.feeds index) ∧
      (deeds index (others.flatten ++ rest) reads).2 = (deeds index unread moves).2 := by
  induction moves generalizing unread frames others with
  | nil => exact ⟨[], rfl, rfl⟩
  | cons move later induction =>
      have hjoined : Framed (unread ++ (move.brings index ++ arrived index later)) frames tail := h
      obtain ⟨count, -, hleft, hheard⟩ := feed_framed hjoined
      have hsplit : packetsOf others =
          packetsOf (frames.take count) ++ packetsOf (frames.drop count) := by
        rw [hsame, ← Frame.packetsOf_append, List.take_append_drop]
      obtain ⟨front, back, rfl, hfront, hback⟩ := List.filterMap_eq_append_iff.mp hsplit
      obtain ⟨hwholeFront, hwholeBack⟩ := List.forall_mem_append.mp hwhole
      obtain ⟨reads, hbeside, hdeeds⟩ := induction hleft hwholeBack hback
      have hfront : packetsOf front = packetsOf (frames.take count) := hfront
      have hreads := deeds_reads index hwholeFront (back.flatten ++ rest) reads
      rw [← List.append_assoc, ← List.flatten_append, hfront, ← hheard, hdeeds] at hreads
      have hskipped : (List.replicate front.length (Move.read index)).filter
          (fun move => !move.reads index) = [] := by
        simp [Move.reads]
      cases hfeeds : move.feeds index with
      | false =>
          refine ⟨move :: (List.replicate front.length (.read index) ++ reads), ?_, ?_⟩
          · simp [Move.reads_of_not_feeds hfeeds, hfeeds, hskipped, hbeside]
          · rw [deeds_cons, Move.feed_aside hfeeds, deeds_cons, hreads]
            simp [Move.feed_aside hfeeds, heard]
      | true =>
          obtain ⟨packets, hpackets⟩ := Move.feed_hears hfeeds unread
          refine ⟨List.replicate front.length (.read index) ++ reads, ?_, ?_⟩
          · simp [hfeeds, hskipped, hbeside]
          · rw [deeds_cons, hreads, hpackets, heard_hear]

end Streams

section Run

variable {session : Session} {index : Nat} {moves : List Move} {frames : List Bytes} {tail : Bytes}
  (hmoves : ∀ move ∈ moves, move.feeds index = true ∨ move.isAside index = true)
  (hframes : Framed (session.unread index ++ arrived index moves) frames tail)
  (hstays : ∀ packet ∈ packetsOf frames, packet.isGoodbye = false)

include hmoves hframes hstays

theorem deeds_stay :
    ∀ deed ∈ (deeds index (session.unread index) moves).2, deed.stays index := by
  intro deed hdeed
  cases deed with
  | hear packet =>
      obtain ⟨count, -, -, hheard⟩ := deeds_framed hframes
      have hmem := mem_heard hdeed
      rw [hheard] at hmem
      refine hstays packet ?_
      rw [← List.take_append_drop count frames, Frame.packetsOf_append]
      exact List.mem_append_left _ hmem
  | make move =>
      obtain ⟨hmem, hfeeds⟩ := make_mem_deeds hdeed
      exact (hmoves move hmem).resolve_left (by simp [hfeeds])

/-- A session that listens takes in the packets among the frames it reads, and goes on listening. -/
theorem Listening.run (h : Listening index session) :
    Listening index (session.run moves) ∧ ∃ count ≤ frames.length,
      Framed ((session.run moves).unread index) (frames.drop count) tail ∧
        Accounts (.tick ∉ moves) session (packetsOf (frames.take count)) (session.run moves) := by
  have hdeeds := deeds_stay hmoves hframes hstays
  have hrun := run_deeds h hdeeds
  have hacted := h.acts hdeeds
  have hlistening : Listening index (session.run moves) := by
    rw [hrun]
    exact hacted.unreading _
  have haccounts := h.accounts hdeeds fun (hnone : .tick ∉ moves) hmem =>
    hnone (make_mem_deeds hmem).1
  obtain ⟨count, hcount, hleft, hheard⟩ := deeds_framed hframes
  refine ⟨hlistening, count, hcount, ?_, ?_⟩
  · rwa [hrun, unread_unreading hacted.reader]
  · rw [hrun, ← hheard]
    exact haccounts.unreading _ _

/-- Other frames with the same packets among them have the same effect. -/
theorem Listening.run_others (h : Listening index session) {others : List Bytes}
    (hwhole : ∀ frame ∈ others, IsWhole frame) (hsame : packetsOf others = packetsOf frames) :
    ∃ (reads : List Move) (rest : Bytes),
      reads.filter (fun move => !move.reads index) = moves.filter (fun move => !move.feeds index) ∧
      (session.unreading index []).run (.arrive index (others.flatten ++ tail) :: reads) =
        (session.run moves).unreading index rest := by
  have hdeeds := deeds_stay hmoves hframes hstays
  obtain ⟨reads, hbeside, hsameDeeds⟩ := deeds_of_same_packets hframes hwhole hsame tail
  have hcleared := h.unreading []
  have hunread : (session.unreading index []).unread index = [] := unread_unreading h.reader []
  have hothers : (deeds index ((session.unreading index []).unread index)
      (.arrive index (others.flatten ++ tail) :: reads)).2 =
        (deeds index (session.unread index) moves).2 := by
    rw [hunread, deeds_cons, Move.feed_arrive, List.nil_append, List.nil_append, hsameDeeds]
  refine ⟨reads, (deeds index [] (.arrive index (others.flatten ++ tail) :: reads)).1, hbeside, ?_⟩
  rw [run_deeds hcleared (hothers ▸ hdeeds), hothers, hunread, acts_unreading h hdeeds,
    run_deeds h hdeeds, unreading_unreading, unreading_unreading]

end Run

/-- Where a session is logged on, and somebody holds it, its reader on a connection listens. -/
theorem listening_of_run (config : SessionConfig) (listeners : List String)
    (outcomes : List ConnectOutcome) (moves : List Move) {index : Nat}
    {connection : Connection Sending}
    (hstate : ((build config listeners outcomes).run moves).state = .loggedOn)
    (halive : ((build config listeners outcomes).run moves).alive = true)
    (hconnection : ((build config listeners outcomes).run moves).link.connections[index]? =
      some connection)
    (hreader : connection.reader = .running) (hopen : connection.inboundEnd = none) :
    Listening index ((build config listeners outcomes).run moves) := by
  have hpoised := poised_run (poised_build config listeners outcomes) moves
  generalize (build config listeners outcomes).run moves = session at *
  refine ⟨hstate, halive, hpoised.idle, hpoised.wired, ?_, ?_⟩
  · rw [← hreader]
    exact (session.link.getElem?_readers index).trans (by rw [hconnection]; rfl)
  · have hlink : session.link.unreading index (session.unread index) = session.link := by
      have hsame : connection.unreading (session.unread index) = connection := by
        simp [Connection.unreading, unread, hconnection, ← hopen]
      have hconnections : (session.link.unreading index (session.unread index)).connections =
          session.link.connections := by
        apply List.ext_getElem?
        intro position
        rw [Link.getElem?_unreading]
        by_cases hposition : index = position
        · rw [← hposition, hconnection]
          simp [hsame]
        · simp [hposition]
      exact congrArg (fun connections => { session.link with connections }) hconnections
    exact congrArg (fun link => { session with link }) hlink

/-- Where no call of an earlier attempt is left that could kill the queue, it runs as long as the
session is logged on and somebody holds it. -/
theorem running_of_apart (config : SessionConfig) (listeners : List String)
    (outcomes : List ConnectOutcome) {moves : List Move}
    (hstate : ((build config listeners outcomes).run moves).state = .loggedOn)
    (halive : ((build config listeners outcomes).run moves).alive = true)
    (hapart : Apart (build config listeners outcomes) moves) :
    ((build config listeners outcomes).run moves).events.running = true := by
  obtain ⟨next, hnext, -⟩ := atEase_run (atEase_build config listeners outcomes)
    (numbered_build config listeners outcomes) hapart
  exact hnext.loggedOn hstate halive

/-- Frames that come in while a session is logged on, with no goodbye among them, leave it logged
on. Whatever goes on beside the reader, what its listeners are told is what the packets among the
frames tell, in their order, a packet whose handler fails being followed by its error, unless a call
of an earlier attempt has killed the queue; the session id is the last that a packet brings; and
nothing is sent on their account. Frames that are malformed do not show: with others in their
places, or with none, the session becomes the same but for the bytes that are not read yet. -/
theorem frames_after_login (config : SessionConfig) (listeners : List String)
    (outcomes : List ConnectOutcome) (before during : List Move) (index : Nat)
    (connection : Connection Sending) (frames : List Bytes) (tail : Bytes)
    (hstate : ((build config listeners outcomes).run before).state = .loggedOn)
    (halive : ((build config listeners outcomes).run before).alive = true)
    (hconnection : ((build config listeners outcomes).run before).link.connections[index]? =
      some connection)
    (hreader : connection.reader = .running) (hopen : connection.inboundEnd = none)
    (hduring : ∀ move ∈ during, move.feeds index = true ∨ move.isAside index = true)
    (hframes : Framed (connection.inbound ++ arrived index during) frames tail)
    (hstays : ∀ packet ∈ packetsOf frames, packet.service = .logoff → packet.has "7" = true) :
    let start := (build config listeners outcomes).run before
    let session := start.run during
    session.state = .loggedOn ∧
      (Apart (build config listeners outcomes) before → start.events.running = true) ∧
      (∃ count ≤ frames.length, (session.canRead index = false → count = frames.length) ∧
        ∃ noted, session.journal = start.journal ++ noted ∧
          (start.events.running = true →
            reportsOf noted = (start.holding.takeAll (packetsOf (frames.take count))).2 ∧
            HandsOut listeners start session (reportsOf noted)) ∧
          session.link.sessionId =
            sessionIdAfter start.link.sessionId (packetsOf (frames.take count)) ∧
          (.tick ∉ during → ∀ connection packet, .submitted connection packet ∉ noted)) ∧
      ∀ others : List Bytes, (∀ frame ∈ others, IsWhole frame) →
        packetsOf others = packetsOf frames →
        ∃ (reads : List Move) (rest : Bytes),
          reads.filter (fun move => !move.reads index) =
            during.filter (fun move => !move.feeds index) ∧
          (start.unreading index []).run (.arrive index (others.flatten ++ tail) :: reads) =
            session.unreading index rest := by
  intro start session
  have hlistening : Listening index start :=
    listening_of_run config listeners outcomes before hstate halive hconnection hreader hopen
  have hunread : start.unread index = connection.inbound := by
    simp only [unread, start, hconnection, Option.map_some, Option.getD_some]
  rw [← hunread] at hframes
  have hgoodbye : ∀ packet ∈ packetsOf frames, packet.isGoodbye = false := by
    intro packet hmem
    by_cases hlogoff : packet.service = .logoff
    · simp [Packet.isGoodbye, hstays packet hmem hlogoff]
    · simp [Packet.isGoodbye, hlogoff]
  obtain ⟨hafter, count, hcount, hleft, haccounts⟩ :=
    hlistening.run hduring hframes hgoodbye
  refine ⟨hafter.state, running_of_apart config listeners outcomes hstate halive,
    ⟨count, hcount, fun hread => ?_, ?_⟩,
    fun others hwhole hsame => hlistening.run_others hduring hframes hgoodbye hwhole hsame⟩
  · obtain ⟨last, hlast, hgoing, hinbound, hlastOpen⟩ := hafter.connection
    have hnone : Frame.split? (session.unread index) = none := by
      simpa [canRead, session, hlast, hgoing, hinbound, hlastOpen] using hread
    have hdrop := hleft.nil_of_split? hnone
    rw [List.drop_eq_nil_iff] at hdrop
    omega
  · obtain ⟨noted, hnoted, htold, hentered, hsent⟩ := haccounts.journal
    refine ⟨noted, hnoted, fun hrunning => ⟨htold hrunning, ?_⟩, haccounts.sessionId, hsent⟩
    obtain ⟨hlisteners, hopened⟩ := queue_of_run_build config listeners outcomes before
    obtain ⟨moves, driven, hdriven⟩ := (proceeds_run start during).queue
    have hsame : driven = noted := List.append_cancel_left (hdriven.journal.symm.trans hnoted)
    have hstarted : start.events = start.events.start := by
      simp only [EventQueue.start, hrunning, if_true]
    rw [← hlisteners, ← hsame]
    exact handsOut_of_drivenBy hdriven hstarted rfl hopened (hsame ▸ hentered .connecting)

/-- A response of two packets with malformed frames before and inside it, and a packet whose handler
fails. Without the malformed frames, all is the same. -/
theorem frames_after_login_split :
    let magicless : Bytes := [89, 77, 83, 88, 0, 12, 0, 0, 0, 0, 0, 6, 0, 0, 0, 0, 0, 0, 0, 0]
    let opening : Bytes := [89, 77, 83, 71, 0, 12, 0, 0, 0, 8, 0, 1, 0, 0, 0, 1, 0, 0, 0, 0,
      55, 192, 128, 98, 111, 98, 192, 128]
    let closing : Bytes := [89, 77, 83, 71, 0, 12, 0, 0, 0, 8, 0, 1, 0, 0, 0, 0, 0, 0, 0, 9,
      55, 192, 128, 101, 118, 101, 192, 128]
    let mail : Bytes := [89, 77, 83, 71, 0, 12, 0, 0, 0, 6, 0, 11, 0, 0, 0, 0, 0, 0, 0, 0,
      57, 192, 128, 120, 192, 128]
    let before : List Move := [.login "ann" "secret",
      .arrive 0 [89, 77, 83, 71, 0, 12, 0, 0, 0, 7, 0, 87, 0, 0, 0, 0, 0, 0, 0, 0,
        57, 52, 192, 128, 120, 192, 128], .read 0,
      .arrive 0 [89, 77, 83, 71, 0, 12, 0, 0, 0, 7, 0, 85, 0, 0, 0, 0, 0, 0, 0, 0,
        53, 57, 192, 128, 66, 192, 128], .read 0]
    let during : List Move := [.arrive 0 (magicless ++ opening), .read 0, .read 0,
      .arrive 0 (magicless ++ closing ++ mail), .read 0, .write 0, .read 0, .read 0]
    let start := (build {} ["ear"] []).run before
    let session := start.run during
    session.state = .loggedOn ∧ session.link.sessionId = 9 ∧
      (∃ noted, session.journal = start.journal ++ noted ∧ reportsOf noted =
        [⟨some .logon, .statusUpdate "bob" 0 none true⟩,
          ⟨some .logon, .statusUpdate "eve" 0 none true⟩,
          ⟨some .newMail, .exception (HandlerError.invalidField .newMail "9" "x").message⟩]) ∧
      ∃ (reads : List Move) (rest : Bytes),
        (start.unreading 0 []).run (.arrive 0 (opening ++ closing ++ mail) :: reads) =
          session.unreading 0 rest := by
  intro magicless opening closing mail before during start session
  have hfound : (start.link.connections[0]?).isSome = true := by decide +kernel
  obtain ⟨connection, hconnection⟩ := Option.isSome_iff_exists.mp hfound
  have hinlet : (start.link.connections[0]?.map fun connection =>
      (connection.reader, connection.inbound, connection.inboundEnd)) =
        some (.running, [], none) := by
    decide +kernel
  rw [hconnection, Option.map_some, Option.some.injEq, Prod.mk.injEq, Prod.mk.injEq] at hinlet
  obtain ⟨hreader, hinbound, hopen⟩ := hinlet
  have hwhole {frames : List Bytes}
      (hsplit : ∀ frame ∈ frames, Frame.split? frame = some (frame, [])) :
      ∀ frame ∈ frames, IsWhole frame :=
    fun frame hmem => (Frame.split?_eq_some_iff.mp (hsplit frame hmem)).1
  have hframes : Framed (connection.inbound ++ arrived 0 during)
      [magicless, opening, magicless, closing, mail] [] :=
    ⟨by rw [hinbound]; rfl, hwhole (by decide), .inl (by decide)⟩
  obtain ⟨hstate, -, ⟨count, -, -, noted, hnoted, -, -, -⟩, hothers⟩ :=
    frames_after_login {} ["ear"] [] before during 0 connection _ [] (by decide +kernel)
      (by decide +kernel) hconnection hreader hopen (by decide) hframes (by decide +kernel)
  have hdropped : session.journal.drop start.journal.length = noted := by
    rw [hnoted, List.drop_left]
  obtain ⟨reads, rest, -, hsame⟩ := hothers [opening, closing, mail] (hwhole (by decide))
    (by decide +kernel)
  refine ⟨hstate, by decide +kernel, ⟨noted, hnoted, ?_⟩, reads, rest, hsame⟩
  rw [← hdropped]
  decide +kernel

/-- After a login that a logout has outlasted, news of mail is read and reaches nobody, though the
session is logged on and no call waits. -/
theorem frames_unheard_after_overlap :
    let mail : Bytes := [89, 77, 83, 71, 0, 12, 0, 0, 0, 6, 0, 11, 0, 0, 0, 0, 0, 0, 0, 0,
      57, 192, 128, 50, 192, 128]
    let start := (build {} ["ear"] [.opened none, .pending]).run
      (loggingOut ++ .login "ann" "secret" :: outlasting)
    let session := start.run [.arrive 1 mail, .read 1, .deliver 0]
    start.state = .loggedOn ∧ start.alive = true ∧ start.calls = [] ∧
      session.state = .loggedOn ∧ session.unread 1 = [] ∧ session.events.waiting = [] ∧
      (start.holding.takeAll (packetsOf [mail])).2 = [⟨some .newMail, .newMail 2⟩] ∧
      reportsOf (session.journal.drop start.journal.length) = [] ∧
      session.delivered.map (·.report) = [⟨some .logon, .loggedOn "ann"⟩] := by
  simp only [run, loggingOut, outlasting, handshake, List.foldl_append, List.foldl_cons,
    List.foldl_nil, step_write]
  decide +kernel

end Session

end Messenger
