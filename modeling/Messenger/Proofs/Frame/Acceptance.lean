import Messenger.Proofs.Frame.RoundTrip

/-!
Which packets have a frame. What a body takes on the wire is known from the sizes of its texts; a
field without a key is refused before that size is looked at, and what fits has its size in the
header.
-/

namespace Messenger

namespace Frame

open Text (Bytes)

/-- What fields take on the wire: the bytes of keys and values, and two separators each. -/
def wireSize : List (String × String) → Nat
  | [] => 0
  | (key, value) :: rest => key.utf8ByteSize + value.utf8ByteSize + 4 + wireSize rest

theorem length_fieldBytes_flatMap (fields : List (String × String)) :
    (fields.flatMap fieldBytes).length = wireSize fields := by
  induction fields with
  | nil => rfl
  | cons field rest induction =>
      obtain ⟨key, value⟩ := field
      simp only [List.flatMap_cons, List.length_append, induction, fieldBytes, Text.length_utf8,
        separator, List.length_cons, List.length_nil, wireSize]
      omega

/-- These fields stand before the first one without a key. -/
def BeforeKeyless (fields before : List (String × String)) : Prop :=
  (∀ field ∈ before, field.1 ≠ "") ∧ ∃ value after, fields = before ++ ("", value) :: after

theorem exists_beforeKeyless_iff (fields : List (String × String)) :
    (∃ field ∈ fields, field.1 = "") ↔ ∃ before, BeforeKeyless fields before := by
  constructor
  · rintro ⟨field, hmem, hkey⟩
    have hsome : (fields.find? fun field => field.1 == "").isSome :=
      List.find?_isSome.mpr ⟨field, hmem, by simpa using hkey⟩
    obtain ⟨⟨key, value⟩, hfind⟩ := Option.isSome_iff_exists.mp hsome
    obtain ⟨hfirst, before, after, hfields, hbefore⟩ := List.find?_eq_some_iff_append.mp hfind
    obtain rfl : key = "" := by simpa using hfirst
    exact ⟨before, by simpa using hbefore, value, after, hfields⟩
  · rintro ⟨before, -, value, after, rfl⟩
    exact ⟨("", value), by simp, rfl⟩

theorem encodeBody_of_beforeKeyless {body : Body} {before : List (String × String)}
    (h : BeforeKeyless body.fields before) :
    encodeBody body = .error (.emptyKey (wireSize before)) := by
  obtain ⟨hbefore, value, after, hfields⟩ := h
  have hkeyed : (body.fields.takeWhile fun field => field.1 != "") = before := by
    rw [hfields, List.takeWhile_append_of_pos (by simpa using hbefore),
      List.takeWhile_cons_of_neg (by simp), List.append_nil]
  have hlength : before.length < body.fields.length := by
    rw [hfields, List.length_append, List.length_cons]
    omega
  unfold encodeBody
  simp only [hkeyed, if_pos hlength, length_fieldBytes_flatMap]

theorem encode_of_beforeKeyless {packet : Packet} {before : List (String × String)}
    (h : BeforeKeyless packet.body.fields before) :
    encode packet = .error (.emptyKey (wireSize before)) := by
  rw [encode, encodeBody_of_beforeKeyless h]

theorem encode_of_keyed {packet : Packet} (h : ∀ field ∈ packet.body.fields, field.1 ≠ "") :
    encode packet =
      if maxBodySize < wireSize packet.body.fields then
        .error (.bodyTooLarge (wireSize packet.body.fields))
      else
        .ok ((headerOf packet (wireSize packet.body.fields)).bytes ++
          packet.body.fields.flatMap fieldBytes) := by
  rw [encode, encodeBody_eq_ok_iff.mpr ⟨rfl, h⟩]
  simp only [length_fieldBytes_flatMap]
  rfl

/-- No length that fits is cut off in the header. -/
theorem bodyLength_headerOf {packet : Packet} {size : Nat} (h : size ≤ maxBodySize) :
    (headerOf packet size).bodyLength.toNat = size := by
  simp only [headerOf, UInt16.toNat_ofNat', maxBodySize] at h ⊢
  omega

theorem encode_eq_emptyKey_iff {packet : Packet} {offset : Nat} :
    encode packet = .error (.emptyKey offset) ↔
      ∃ before, BeforeKeyless packet.body.fields before ∧ offset = wireSize before := by
  constructor
  · intro h
    by_cases hkeyless : ∃ field ∈ packet.body.fields, field.1 = ""
    · obtain ⟨before, hbefore⟩ := (exists_beforeKeyless_iff _).mp hkeyless
      rw [encode_of_beforeKeyless hbefore] at h
      cases h
      exact ⟨before, hbefore, rfl⟩
    · rw [encode_of_keyed fun field hmem hkey => hkeyless ⟨field, hmem, hkey⟩] at h
      split at h <;> cases h
  · rintro ⟨before, hbefore, rfl⟩
    exact encode_of_beforeKeyless hbefore

/-- Only where every field has a key is the outcome any but the empty key's. -/
theorem keyed_of_ne_emptyKey {packet : Packet}
    (h : ∀ offset, encode packet ≠ .error (.emptyKey offset)) :
    ∀ field ∈ packet.body.fields, field.1 ≠ "" := by
  intro field hmem hkey
  obtain ⟨before, hbefore⟩ := (exists_beforeKeyless_iff _).mp ⟨field, hmem, hkey⟩
  exact h _ (encode_of_beforeKeyless hbefore)

theorem encode_eq_bodyTooLarge_iff {packet : Packet} {size : Nat} :
    encode packet = .error (.bodyTooLarge size) ↔
      (∀ field ∈ packet.body.fields, field.1 ≠ "") ∧
        maxBodySize < wireSize packet.body.fields ∧ size = wireSize packet.body.fields := by
  constructor
  · intro h
    have hkeyed : ∀ field ∈ packet.body.fields, field.1 ≠ "" :=
      keyed_of_ne_emptyKey fun offset => by simp [h]
    rw [encode_of_keyed hkeyed] at h
    split at h
    · rename_i hsize
      cases h
      exact ⟨hkeyed, hsize, rfl⟩
    · cases h
  · rintro ⟨hkeyed, hsize, rfl⟩
    rw [encode_of_keyed hkeyed, if_pos hsize]

theorem exists_encode_eq_ok_iff {packet : Packet} :
    (∃ bytes, encode packet = .ok bytes) ↔
      (∀ field ∈ packet.body.fields, field.1 ≠ "") ∧
        wireSize packet.body.fields ≤ maxBodySize := by
  constructor
  · rintro ⟨bytes, h⟩
    have hkeyed : ∀ field ∈ packet.body.fields, field.1 ≠ "" :=
      keyed_of_ne_emptyKey fun offset => by simp [h]
    rw [encode_of_keyed hkeyed] at h
    split at h
    · cases h
    · rename_i hsize
      exact ⟨hkeyed, Nat.le_of_not_lt hsize⟩
  · rintro ⟨hkeyed, hsize⟩
    exact ⟨_, by rw [encode_of_keyed hkeyed, if_neg (Nat.not_lt.mpr hsize)]⟩

theorem frame_of_encode_eq_ok {packet : Packet} {bytes : Bytes} (h : encode packet = .ok bytes) :
    bytes.length = headerSize + wireSize packet.body.fields ∧
      ∃ high low, bytes[8]? = some high ∧ bytes[9]? = some low ∧
        high.toNat * 256 + low.toNat = wireSize packet.body.fields := by
  obtain ⟨hkeyed, hsize⟩ := exists_encode_eq_ok_iff.mp ⟨bytes, h⟩
  rw [encode_of_keyed hkeyed, if_neg (Nat.not_lt.mpr hsize)] at h
  cases h
  have hmagic : (headerOf packet (wireSize packet.body.fields)).magic = magic := rfl
  refine ⟨?_, ?_⟩
  · rw [List.length_append, Header.length_bytes hmagic, length_fieldBytes_flatMap]
  · have hdeclared := Header.declared_bytes hmagic (packet.body.fields.flatMap fieldBytes)
    rwa [bodyLength_headerOf hsize] at hdeclared

/-- What becomes of any packet: the first field without a key is refused at its place, however
large the body is; a body that is too large is refused with its size; and any other packet has a
frame of its size, which the header tells. -/
theorem encode_acceptance (packet : Packet) :
    ((∃ field ∈ packet.body.fields, field.1 = "") ↔
        ∃ offset, encode packet = .error (.emptyKey offset)) ∧
      (∀ offset, encode packet = .error (.emptyKey offset) ↔
        ∃ before, BeforeKeyless packet.body.fields before ∧ offset = wireSize before) ∧
      (∀ size, encode packet = .error (.bodyTooLarge size) ↔
        (∀ field ∈ packet.body.fields, field.1 ≠ "") ∧
          65535 < wireSize packet.body.fields ∧ size = wireSize packet.body.fields) ∧
      ((∀ field ∈ packet.body.fields, field.1 ≠ "") ∧ wireSize packet.body.fields ≤ 65535 ↔
        ∃ bytes, encode packet = .ok bytes ∧
          bytes.length = 20 + wireSize packet.body.fields ∧
          ∃ high low, bytes[8]? = some high ∧ bytes[9]? = some low ∧
            high.toNat * 256 + low.toNat = wireSize packet.body.fields) := by
  refine ⟨?_, fun offset => encode_eq_emptyKey_iff, fun size => encode_eq_bodyTooLarge_iff, ?_⟩
  · rw [exists_beforeKeyless_iff]
    constructor
    · rintro ⟨before, hbefore⟩
      exact ⟨_, encode_of_beforeKeyless hbefore⟩
    · rintro ⟨offset, h⟩
      obtain ⟨before, hbefore, -⟩ := encode_eq_emptyKey_iff.mp h
      exact ⟨before, hbefore⟩
  · constructor
    · intro h
      obtain ⟨bytes, hbytes⟩ := exists_encode_eq_ok_iff.mpr h
      exact ⟨bytes, hbytes, frame_of_encode_eq_ok hbytes⟩
    · rintro ⟨bytes, hbytes, -⟩
      exact exists_encode_eq_ok_iff.mp ⟨bytes, hbytes⟩

end Frame

end Messenger
