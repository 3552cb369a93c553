import Messenger.Text.Utf8

/-!
Texts as bytes, character by character. A byte below `80` is a whole character, `C0` is no byte of
any, and no character begins with all the bytes of another. So bytes that end inside a character
show as one text only: the whole characters, and a replacement character for the one that is cut.
-/

namespace Messenger.Text

open String (utf8EncodeChar)

theorem length_utf8 (text : String) : (utf8 text).length = text.utf8ByteSize := by
  simp [utf8]

theorem utf8_eq_flatMap (text : String) : utf8 text = text.toList.flatMap utf8EncodeChar := by
  unfold utf8
  rw [String.toUTF8_eq_toByteArray, ← String.utf8Encode_toList]
  simp [List.utf8Encode]

theorem packed_nil : packed [] = ByteArray.empty := rfl

theorem size_packed (bytes : Bytes) : (packed bytes).size = bytes.length := rfl

theorem packed_append (first second : Bytes) :
    packed (first ++ second) = packed first ++ packed second := by
  apply ByteArray.ext
  simp [packed]

theorem push_eq_append (bytes : ByteArray) (byte : UInt8) :
    bytes.push byte = bytes ++ packed [byte] := by
  apply ByteArray.ext
  simp [packed]

/-- What `C0` could begin has a shorter form of one byte. -/
theorem mem_utf8EncodeChar {byte : UInt8} {character : Char}
    (h : byte ∈ utf8EncodeChar character) :
    (byte.toNat < 0x80 ∧ byte.toNat = character.toNat) ∨
      (0x80 ≤ byte.toNat ∧ byte.toNat ≠ 0xC0) := by
  have hvalue : character.val.toNat = character.toNat := rfl
  unfold utf8EncodeChar at h
  simp only [hvalue] at h
  split at h
  · obtain rfl := List.mem_singleton.mp h
    rw [UInt8.toNat_ofNat']
    omega
  · split at h
    · simp only [List.mem_cons, List.not_mem_nil, or_false] at h
      rcases h with rfl | rfl <;> rw [UInt8.toNat_ofNat'] <;> omega
    · split at h
      · simp only [List.mem_cons, List.not_mem_nil, or_false] at h
        rcases h with rfl | rfl | rfl <;> rw [UInt8.toNat_ofNat'] <;> omega
      · simp only [List.mem_cons, List.not_mem_nil, or_false] at h
        rcases h with rfl | rfl | rfl | rfl <;> rw [UInt8.toNat_ofNat'] <;> omega

theorem leadByte_not_mem_utf8 (text : String) : (0xC0 : UInt8) ∉ utf8 text := by
  rw [utf8_eq_flatMap]
  intro hmem
  obtain ⟨character, -, hcharacter⟩ := List.mem_flatMap.mp hmem
  rcases mem_utf8EncodeChar hcharacter with ⟨hsmall, -⟩ | ⟨-, hlead⟩
  · exact absurd hsmall (by decide)
  · exact hlead rfl

theorem utf8EncodeChar_ne_nil (character : Char) : utf8EncodeChar character ≠ [] := by
  intro hnil
  have hlength := String.length_utf8EncodeChar character
  have hpos := character.utf8Size_pos
  rw [hnil, List.length_nil] at hlength
  omega

theorem eq_of_utf8EncodeChar_append {first second : Char} {rest other : Bytes}
    (h : utf8EncodeChar first ++ rest = utf8EncodeChar second ++ other) : first = second := by
  have hbytes := congrArg List.toByteArray h
  rw [List.toByteArray_append, List.toByteArray_append] at hbytes
  have hdecode := congrArg (ByteArray.utf8DecodeChar? · 0) hbytes
  simpa only [ByteArray.utf8DecodeChar?_utf8EncodeChar_append, Option.some.injEq] using hdecode

/-! Bytes before the first one of a kind are the characters before it. -/

theorem takeWhile_utf8EncodeChar (mark : Char) (hmark : mark.toNat < 0x80)
    (characters : List Char) :
    (characters.flatMap utf8EncodeChar).takeWhile (· != UInt8.ofNat mark.toNat) =
      (characters.takeWhile (· != mark)).flatMap utf8EncodeChar := by
  have hbyte : (UInt8.ofNat mark.toNat).toNat = mark.toNat := by
    rw [UInt8.toNat_ofNat']
    omega
  induction characters with
  | nil => rfl
  | cons character characters induction =>
      by_cases heq : character = mark
      · subst heq
        have hencode : utf8EncodeChar character = [UInt8.ofNat character.toNat] :=
          if_pos (Nat.le_of_lt_succ hmark)
        rw [List.flatMap_cons, hencode, List.takeWhile_cons_of_neg (by simp)]
        simp
      · have hother : ∀ byte ∈ utf8EncodeChar character,
            (byte != UInt8.ofNat mark.toNat) = true := by
          intro byte hmem
          rw [bne_iff_ne]
          rintro rfl
          rcases mem_utf8EncodeChar hmem with ⟨-, hsame⟩ | ⟨hlarge, -⟩
          · exact heq (Char.toNat_inj.mp (hsame.symm.trans hbyte))
          · omega
        rw [List.flatMap_cons, List.takeWhile_append_of_pos hother, induction,
          List.takeWhile_cons_of_pos (by simpa using heq), List.flatMap_cons]

/-- A start of some character that is not the whole of it. -/
def Incomplete (part : Bytes) : Prop :=
  ∃ (character : Char) (missing : Bytes), part ++ missing = utf8EncodeChar character ∧ missing ≠ []

theorem incomplete_nil : Incomplete [] :=
  ⟨'a', utf8EncodeChar 'a', rfl, utf8EncodeChar_ne_nil 'a'⟩

theorem Incomplete.ne_append {part : Bytes} (h : Incomplete part) (character : Char)
    (rest : Bytes) : part ≠ utf8EncodeChar character ++ rest := by
  obtain ⟨whole, missing, hwhole, hmissing⟩ := h
  rintro rfl
  have hextends : utf8EncodeChar character ++ (rest ++ missing) = utf8EncodeChar whole ++ [] := by
    rw [← List.append_assoc, hwhole, List.append_nil]
  have hsame : character = whole := eq_of_utf8EncodeChar_append hextends
  subst hsame
  rw [List.append_assoc] at hwhole
  have hnil := List.append_eq_nil_iff.mp (List.self_eq_append_right.mp hwhole.symm)
  exact hmissing hnil.2

theorem eq_of_append_incomplete {first second : List Char} {part other : Bytes}
    (hpart : Incomplete part) (hother : Incomplete other)
    (h : first.flatMap utf8EncodeChar ++ part = second.flatMap utf8EncodeChar ++ other) :
    first = second ∧ part = other := by
  induction first generalizing second with
  | nil =>
      cases second with
      | nil => exact ⟨rfl, h⟩
      | cons character second =>
          rw [List.flatMap_cons, List.append_assoc] at h
          exact absurd h (hpart.ne_append character _)
  | cons character first induction =>
      cases second with
      | nil =>
          rw [List.flatMap_cons, List.append_assoc] at h
          exact absurd h.symm (hother.ne_append character _)
      | cons otherCharacter second =>
          simp only [List.flatMap_cons, List.append_assoc] at h
          obtain rfl := eq_of_utf8EncodeChar_append h
          obtain ⟨rfl, rfl⟩ := induction (List.append_cancel_left h)
          exact ⟨rfl, rfl⟩

/-- How bytes are shown that may end inside a character: a replacement character stands for what
is there of it. -/
def Shows (bytes : Bytes) (shown : List Char) : Prop :=
  ∃ characters part, Incomplete part ∧ bytes = characters.flatMap utf8EncodeChar ++ part ∧
    shown = characters ++ if part = [] then [] else ['\ufffd']

theorem Shows.unique {bytes : Bytes} {first second : List Char} (hfirst : Shows bytes first)
    (hsecond : Shows bytes second) : first = second := by
  obtain ⟨characters, part, hpart, hbytes, rfl⟩ := hfirst
  obtain ⟨others, other, hother, hbytes', rfl⟩ := hsecond
  obtain ⟨rfl, rfl⟩ := eq_of_append_incomplete hpart hother (hbytes.symm.trans hbytes')
  rfl

theorem Shows.nil : Shows [] [] :=
  ⟨[], [], incomplete_nil, rfl, rfl⟩

theorem Shows.cons {bytes : Bytes} {shown : List Char} (h : Shows bytes shown)
    (character : Char) : Shows (utf8EncodeChar character ++ bytes) (character :: shown) := by
  obtain ⟨characters, part, hpart, rfl, rfl⟩ := h
  exact ⟨character :: characters, part, hpart, by rw [List.flatMap_cons, List.append_assoc], rfl⟩

theorem Shows.cut {part missing : Bytes} {character : Char}
    (h : part ++ missing = utf8EncodeChar character) (hpart : part ≠ []) (hmissing : missing ≠ []) :
    Shows part ['\ufffd'] :=
  ⟨[], part, ⟨character, missing, h, hmissing⟩, rfl, by rw [if_neg hpart, List.nil_append]⟩

end Messenger.Text
