import Messenger.Frame.Stream

/-!
Reading packets off a stream. Any bytes come apart, in one way only, into whole frames and an
unfinished rest, and reading yields what each frame decodes to, however many of them are malformed,
up to the end of the stream.
-/

namespace Messenger

open Text (Bytes)

namespace FrameError

/-- Whether a frame of the right length can have such a fault. -/
def isContent : FrameError → Bool
  | badMagic _ => true
  | unterminatedField _ => true
  | invalidUtf8 _ => true
  | emptyKey _ => true
  | _ => false

end FrameError

namespace Frame

/-- The length of the body that stands in the ninth and the tenth byte. -/
def Declares (bytes : Bytes) (size : Nat) : Prop :=
  ∃ high low, bytes[8]? = some high ∧ bytes[9]? = some low ∧ size = high.toNat * 256 + low.toNat

/-- A header of any content, and the body it declares. -/
def IsWhole (frame : Bytes) : Prop :=
  ∃ size, Declares frame size ∧ frame.length = headerSize + size

def IsUnfinished (bytes : Bytes) : Prop :=
  bytes.length < headerSize ∨ ∃ size, Declares bytes size ∧ bytes.length < headerSize + size

/-- Bytes come apart into frames and what is left of them. -/
structure Framed (bytes : Bytes) (frames : List Bytes) (tail : Bytes) : Prop where
  bytes_eq : bytes = frames.flatten ++ tail
  whole : ∀ frame ∈ frames, IsWhole frame
  unfinished : IsUnfinished tail

theorem Declares.unique {bytes : Bytes} {size other : Nat} (hsize : Declares bytes size)
    (hother : Declares bytes other) :
    size = other := by
  obtain ⟨high, low, hhigh, hlow, rfl⟩ := hsize
  obtain ⟨high', low', hhigh', hlow', rfl⟩ := hother
  rw [hhigh] at hhigh'
  rw [hlow] at hlow'
  cases hhigh'
  cases hlow'
  rfl

theorem Declares.append {bytes : Bytes} {size : Nat} (h : Declares bytes size) (rest : Bytes) :
    Declares (bytes ++ rest) size := by
  obtain ⟨high, low, hhigh, hlow, rfl⟩ := h
  refine ⟨high, low, ?_, ?_, rfl⟩
  · rw [List.getElem?_append_left (List.getElem?_eq_some_iff.mp hhigh).1, hhigh]
  · rw [List.getElem?_append_left (List.getElem?_eq_some_iff.mp hlow).1, hlow]

theorem Declares.take {bytes : Bytes} {size count : Nat} (h : Declares bytes size)
    (hcount : headerSize ≤ count) : Declares (bytes.take count) size := by
  obtain ⟨high, low, hhigh, hlow, rfl⟩ := h
  unfold headerSize at hcount
  refine ⟨high, low, ?_, ?_, rfl⟩
  · rw [List.getElem?_take_of_lt (by omega), hhigh]
  · rw [List.getElem?_take_of_lt (by omega), hlow]

theorem Header.read?_isSome {bytes : Bytes} (h : headerSize ≤ bytes.length) :
    (Header.read? bytes).isSome = true := by
  unfold headerSize at h
  obtain ⟨front, rest, hfront, rfl⟩ : ∃ front rest, front.length = 20 ∧ bytes = front ++ rest :=
    ⟨bytes.take 20, bytes.drop 20, List.length_take_of_le h, (List.take_append_drop 20 bytes).symm⟩
  iterate 20
    obtain _ | ⟨byte, front⟩ := front
    · simp at hfront
  rfl

theorem Header.read?_declares {bytes rest : Bytes} {header : Header}
    (h : Header.read? bytes = some (header, rest)) :
    Declares bytes header.bodyLength.toNat ∧ bytes.length = headerSize + rest.length := by
  unfold Header.read? at h
  split at h
  · rename_i m₀ m₁ m₂ m₃ v₀ v₁ w₀ w₁ high low c₀ c₁ s₀ s₁ s₂ s₃ i₀ i₁ i₂ i₃ tail
    cases h
    refine ⟨⟨high, low, rfl, rfl, ?_⟩, ?_⟩
    · have hhigh := high.toNat_lt
      have hlow := low.toNat_lt
      simp only [word16, UInt16.toNat_ofNat']
      omega
    · simp only [List.length_cons, headerSize]
      omega
  · cases h

theorem split?_eq_some_iff {bytes frame rest : Bytes} :
    split? bytes = some (frame, rest) ↔ IsWhole frame ∧ bytes = frame ++ rest := by
  unfold split?
  constructor
  · intro h
    split at h
    · cases h
    · rename_i header body hread
      obtain ⟨hdeclares, hlength⟩ := Header.read?_declares hread
      simp only [List.length_take] at h
      split at h
      · cases h
      · cases h
        refine ⟨⟨header.bodyLength.toNat, hdeclares.take (Nat.le_add_right ..), ?_⟩,
          (List.take_append_drop _ bytes).symm⟩
        rw [List.length_take]
        omega
  · rintro ⟨⟨size, hdeclares, hlength⟩, rfl⟩
    have hheader : headerSize ≤ (frame ++ rest).length := by
      rw [List.length_append]
      omega
    obtain ⟨⟨header, body⟩, hread⟩ := Option.isSome_iff_exists.mp (Header.read?_isSome hheader)
    obtain ⟨hdeclared, hsizes⟩ := Header.read?_declares hread
    have hsize : header.bodyLength.toNat = size :=
      hdeclared.unique (hdeclares.append rest)
    rw [List.length_append] at hsizes
    rw [hread]
    simp only [hsize, List.length_take]
    rw [if_neg (by omega), ← hlength, List.take_left, List.drop_left]

theorem split?_eq_none_iff {bytes : Bytes} :
    split? bytes = none ↔ IsUnfinished bytes := by
  unfold split?
  constructor
  · intro h
    split at h
    · rename_i hread
      refine .inl (Nat.lt_of_not_le fun hheader => ?_)
      have hsome := Header.read?_isSome hheader
      rw [hread] at hsome
      cases hsome
    · rename_i header body hread
      obtain ⟨hdeclares, hlength⟩ := Header.read?_declares hread
      simp only [List.length_take] at h
      split at h
      · exact .inr ⟨header.bodyLength.toNat, hdeclares, by omega⟩
      · cases h
  · intro h
    split
    · rfl
    · rename_i header body hread
      obtain ⟨hdeclares, hlength⟩ := Header.read?_declares hread
      rcases h with hshort | ⟨size, hsize, hshort⟩
      · omega
      · have hsame := hdeclares.unique hsize
        simp only [List.length_take]
        rw [if_pos (by omega)]

theorem framed_splitAll (bytes : Bytes) :
    Framed bytes (splitAll bytes).1 (splitAll bytes).2 := by
  fun_induction splitAll bytes with
  | case1 bytes hsplit => exact ⟨rfl, by simp, split?_eq_none_iff.mp hsplit⟩
  | case2 bytes frame rest hsplit frames tail heq induction =>
      rw [heq] at induction
      obtain ⟨hwhole, rfl⟩ := split?_eq_some_iff.mp hsplit
      refine ⟨?_, ?_, induction.unfinished⟩
      · rw [induction.bytes_eq]
        simp
      · intro other hmem
        rcases List.mem_cons.mp hmem with rfl | hmem
        · exact hwhole
        · exact induction.whole other hmem

/-- A frame, once it is whole, is cut off at its end whatever follows, so there is no other way. -/
theorem Framed.eq_splitAll {bytes tail : Bytes} {frames : List Bytes}
    (h : Framed bytes frames tail) :
    splitAll bytes = (frames, tail) := by
  obtain ⟨rfl, hwhole, hunfinished⟩ := h
  induction frames with
  | nil =>
      rw [List.flatten_nil, List.nil_append]
      unfold splitAll
      rw [split?_eq_none_iff.mpr hunfinished]
  | cons frame frames induction =>
      have hsplit : split? ((frame :: frames).flatten ++ tail) =
          some (frame, frames.flatten ++ tail) :=
        split?_eq_some_iff.mpr ⟨hwhole frame (List.mem_cons_self ..), by simp⟩
      have hrest := induction fun other hmem => hwhole other (List.mem_cons_of_mem frame hmem)
      unfold splitAll
      rw [hsplit]
      simp only [hrest]

theorem readField_content {offset : Nat} {bytes : Bytes} {error : FrameError}
    (h : readField offset bytes = .error error) :
    error.isContent = true := by
  unfold readField at h
  split at h
  · cases h
    rfl
  · split at h
    · cases h
      rfl
    · cases h

theorem decodeFields_content {offset : Nat} {bytes : Bytes} {error : FrameError}
    (h : decodeFields offset bytes = .error error) :
    error.isContent = true := by
  fun_induction decodeFields offset bytes with
  | case1 => cases h
  | case2 offset bytes hne fault hkey =>
      cases h
      exact readField_content hkey
  | case3 =>
      cases h
      rfl
  | case4 offset bytes hne key rest hkey hnonempty place fault hvalue =>
      cases h
      exact readField_content hvalue
  | case5 offset bytes hne key rest hkey hnonempty place value after hvalue fault hrest induction =>
      cases h
      exact induction hrest
  | case6 => cases h

theorem decode_content {frame : Bytes} (hwhole : IsWhole frame) {error : FrameError}
    (h : decode frame = .error error) :
    error.isContent = true := by
  obtain ⟨size, hdeclares, hlength⟩ := hwhole
  have hheader : headerSize ≤ frame.length := by omega
  obtain ⟨⟨header, body⟩, hread⟩ := Option.isSome_iff_exists.mp (Header.read?_isSome hheader)
  obtain ⟨hdeclared, hsizes⟩ := Header.read?_declares hread
  have hsize : header.bodyLength.toNat = size := hdeclared.unique hdeclares
  unfold decode at h
  simp only [hread, hsize, List.length_take] at h
  split at h
  · cases h
    rfl
  · rw [if_neg (by omega)] at h
    split at h
    · rename_i fault hbody
      cases h
      unfold decodeBody at hbody
      cases hfields : decodeFields 0 (body.take size) with
      | error fault =>
          rw [hfields] at hbody
          cases hbody
          exact decodeFields_content hfields
      | ok fields =>
          rw [hfields] at hbody
          cases hbody
    · cases h

/-- One call for a packet: what it returns, and what it leaves of the stream. -/
def readPacket (finish : StreamEnd) (bytes : Bytes) : Except ReadError Packet × Bytes :=
  match readPacket? bytes with
  | some (result, rest) => (result.mapError .malformed, rest)
  | none => (.error finish.error, [])

/-- What the first calls for a packet return. -/
def reads (finish : StreamEnd) : Nat → Bytes → List (Except ReadError Packet)
  | 0, _ => []
  | count + 1, bytes =>
      (readPacket finish bytes).1 :: reads finish count (readPacket finish bytes).2

theorem readPacket_of_whole {frame : Bytes} (hwhole : IsWhole frame) (finish : StreamEnd)
    (rest : Bytes) :
    readPacket finish (frame ++ rest) = ((decodeWhole frame).mapError .malformed, rest) := by
  unfold readPacket readPacket?
  rw [split?_eq_some_iff.mpr ⟨hwhole, rfl⟩]
  rfl

theorem readPacket_of_unfinished {bytes : Bytes} (h : IsUnfinished bytes) (finish : StreamEnd) :
    readPacket finish bytes = (.error finish.error, []) := by
  unfold readPacket readPacket?
  rw [split?_eq_none_iff.mpr h]
  rfl

theorem Framed.reads_eq {bytes tail : Bytes} {frames : List Bytes} (h : Framed bytes frames tail)
    (finish : StreamEnd) :
    reads finish (frames.length + 1) bytes =
      frames.map (fun frame => (decodeWhole frame).mapError .malformed) ++
        [.error finish.error] := by
  obtain ⟨rfl, hwhole, hunfinished⟩ := h
  induction frames with
  | nil =>
      rw [List.flatten_nil, List.nil_append]
      unfold reads
      rw [readPacket_of_unfinished hunfinished]
      rfl
  | cons frame frames induction =>
      have hframe := readPacket_of_whole (hwhole frame (List.mem_cons_self ..)) finish
        (frames.flatten ++ tail)
      have hrest := induction fun other hmem => hwhole other (List.mem_cons_of_mem frame hmem)
      rw [List.flatten_cons, List.append_assoc]
      unfold reads
      rw [hframe, List.length_cons, hrest]
      rfl

theorem readPacket_content {finish : StreamEnd} {bytes : Bytes} {error : FrameError}
    (h : (readPacket finish bytes).1 = .error (.malformed error)) :
    error.isContent = true := by
  cases hsplit : split? bytes with
  | none =>
      rw [readPacket_of_unfinished (split?_eq_none_iff.mp hsplit)] at h
      cases finish <;> cases h
  | some entry =>
      obtain ⟨frame, rest⟩ := entry
      obtain ⟨hwhole, rfl⟩ := split?_eq_some_iff.mp hsplit
      rw [readPacket_of_whole hwhole] at h
      unfold decodeWhole at h
      cases hdecode : decode frame with
      | error fault =>
          rw [hdecode] at h
          cases h
          exact decode_content hwhole hdecode
      | ok entry =>
          rw [hdecode] at h
          cases h

theorem reads_content {finish : StreamEnd} {count : Nat} {bytes : Bytes} {error : FrameError}
    (h : .error (.malformed error) ∈ reads finish count bytes) :
    error.isContent = true := by
  induction count generalizing bytes with
  | zero => cases h
  | succ count induction =>
      unfold reads at h
      rcases List.mem_cons.mp h with hfirst | hrest
      · exact readPacket_content hfirst.symm
      · exact induction hrest

/-- Any bytes come apart into frames in one way. Reading them packet by packet returns what each
frame decodes to, be it a packet or a fault of its content, and then that the stream has ended. -/
theorem reads_framed (bytes : Bytes) (finish : StreamEnd) :
    (∃ frames tail, Framed bytes frames tail ∧
      (∀ others rest, Framed bytes others rest → others = frames ∧ rest = tail) ∧
      reads finish (frames.length + 1) bytes =
        frames.map (fun frame => ((decode frame).map Prod.fst).mapError .malformed) ++
          [.error (match finish with
            | .fault text => .fault text
            | _ => .closed)] ∧
      readAll bytes finish = reads finish (frames.length + 1) bytes) ∧
    ∀ count error, .error (.malformed error) ∈ reads finish count bytes →
      error.isContent = true := by
  have hfinish : finish.error = match finish with
      | .fault text => .fault text
      | _ => .closed := by
    cases finish <;> rfl
  have hframed := framed_splitAll bytes
  have hreads := hframed.reads_eq finish
  refine ⟨⟨(splitAll bytes).1, (splitAll bytes).2, hframed, ?_, ?_, hreads.symm⟩, ?_⟩
  · intro others rest hothers
    rw [hothers.eq_splitAll]
    exact ⟨rfl, rfl⟩
  · rw [← hfinish]
    exact hreads
  · exact fun count error => reads_content

/-- A frame with a wrong magic, a packet, and a header that breaks off. -/
example :
    reads .closed 3 [0x59, 0x4D, 0x53, 0x58, 0, 12, 0, 0, 0, 1, 0, 6, 0, 0, 0, 0, 0, 0, 0, 0, 0x37,
        0x59, 0x4D, 0x53, 0x47, 0, 12, 0, 0, 0, 0, 0, 6, 0, 0, 0, 0, 0, 0, 0, 0, 0x59] =
      [.error (.malformed (.badMagic [0x59, 0x4D, 0x53, 0x58])), .ok { service := .message },
        .error .closed] := by
  cbv

end Frame

end Messenger
