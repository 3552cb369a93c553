import Mathlib.Data.List.TakeWhile
import Messenger.Frame.Basic
import Messenger.Proofs.Text.Utf8

/-!
The body of a frame as a language of bytes: a run of fields, each a key that is not empty and a
value, both ended by the separator. Reading accepts exactly the bytes that writing yields, so a
body has one spelling only.
-/

namespace Messenger

namespace Frame

open Text (Bytes)

theorem separatorFrom?_append {position : Nat} {field : Bytes} (hfield : (0xC0 : UInt8) ∉ field)
    (rest : Bytes) :
    separatorFrom? position (field ++ (separator ++ rest)) = some (position + field.length) := by
  induction field generalizing position with
  | nil => rfl
  | cons first field induction =>
      have hfirst : first ≠ 0xC0 := fun h => hfield (h ▸ List.mem_cons_self)
      have htail : separatorFrom? (position + 1) (field ++ (separator ++ rest)) =
          some (position + 1 + field.length) :=
        induction fun h => hfield (List.mem_cons_of_mem first h)
      obtain ⟨second, more, hmore⟩ : ∃ second more, field ++ (separator ++ rest) = second :: more :=
        List.exists_cons_of_ne_nil (by simp [separator])
      rw [hmore] at htail
      rw [List.cons_append, hmore, separatorFrom?, if_neg fun h => hfirst h.1, htail,
        List.length_cons]
      congr 1
      omega

theorem separatorFrom?_sound {position found : Nat} {bytes : Bytes}
    (h : separatorFrom? position bytes = some found) :
    ∃ field rest, bytes = field ++ (separator ++ rest) ∧ found = position + field.length := by
  induction bytes generalizing position with
  | nil => cases h
  | cons first bytes induction =>
      cases bytes with
      | nil => cases h
      | cons second bytes =>
          unfold separatorFrom? at h
          split at h
          · rename_i hseparator
            obtain ⟨rfl, rfl⟩ := hseparator
            cases h
            exact ⟨[], bytes, rfl, rfl⟩
          · obtain ⟨field, rest, hbytes, hfound⟩ := induction h
            refine ⟨first :: field, rest, ?_, ?_⟩
            · rw [hbytes, List.cons_append]
            · rw [hfound, List.length_cons]
              omega

theorem cutField?_append {field : Bytes} (hfield : (0xC0 : UInt8) ∉ field) (rest : Bytes) :
    cutField? (field ++ (separator ++ rest)) = some (field, rest) := by
  unfold cutField?
  rw [separatorFrom?_append hfield]
  simp [separator]

theorem cutField?_sound {bytes field rest : Bytes} (h : cutField? bytes = some (field, rest)) :
    bytes = field ++ (separator ++ rest) := by
  unfold cutField? at h
  obtain ⟨position, hposition, heq⟩ := Option.map_eq_some_iff.mp h
  obtain ⟨before, after, rfl, rfl⟩ := separatorFrom?_sound hposition
  cases heq
  simp [separator]

theorem readField_append (offset : Nat) (text : String) (rest : Bytes) :
    readField offset (Text.utf8 text ++ (separator ++ rest)) = .ok (text, rest) := by
  unfold readField
  rw [cutField?_append (Text.leadByte_not_mem_utf8 text)]
  simp

theorem readField_sound {offset : Nat} {bytes rest : Bytes} {text : String}
    (h : readField offset bytes = .ok (text, rest)) :
    bytes = Text.utf8 text ++ (separator ++ rest) := by
  unfold readField at h
  split at h
  · cases h
  · rename_i field tail hcut
    split at h
    · cases h
    · rename_i found hfound
      cases h
      rw [Text.utf8_of_ofUtf8? hfound]
      exact cutField?_sound hcut

/-- What one turn of the loop does: a key, then a value, then the fields behind them. -/
theorem decodeFields_eq (offset : Nat) {bytes : Bytes} (hne : bytes ≠ []) :
    decodeFields offset bytes =
      (readField offset bytes).bind fun (key, afterKey) =>
        if key = "" then .error (.emptyKey offset) else
          let valueOffset := offset + (Text.utf8 key).length + 2
          (readField valueOffset afterKey).bind fun (value, rest) =>
            (decodeFields (valueOffset + (Text.utf8 value).length + 2) rest).map
              ((key, value) :: ·) := by
  rw [decodeFields, if_neg hne]
  split
  · rename_i hkey
    rw [hkey]
    rfl
  · rename_i hkey
    rw [hkey]
    simp only [Except.bind]
    split
    · rfl
    · split
      · rename_i hvalue
        rw [hvalue]
      · rename_i hvalue
        rw [hvalue]
        simp only
        split
        · rename_i hmore
          rw [hmore]
          rfl
        · rename_i hmore
          rw [hmore]
          rfl

theorem decodeFields_step {offset : Nat} {bytes afterKey rest : Bytes} {key value : String}
    (hread : readField offset bytes = .ok (key, afterKey)) (hkey : key ≠ "")
    (hvalue : readField (offset + (Text.utf8 key).length + 2) afterKey = .ok (value, rest)) :
    decodeFields offset bytes =
      (decodeFields (offset + (Text.utf8 key).length + 2 + (Text.utf8 value).length + 2) rest).map
        ((key, value) :: ·) := by
  have hne : bytes ≠ [] := by
    rintro rfl
    cases hread
  rw [decodeFields_eq offset hne, hread]
  simp only [Except.bind, if_neg hkey, hvalue]

/-- Complete fields are read one after another, and what follows them is read where it stands. -/
theorem decodeFields_append (offset : Nat) {fields : List (String × String)}
    (hkeys : ∀ field ∈ fields, field.1 ≠ "") (rest : Bytes) :
    decodeFields offset (fields.flatMap fieldBytes ++ rest) =
      (decodeFields (offset + (fields.flatMap fieldBytes).length) rest).map (fields ++ ·) := by
  induction fields generalizing offset with
  | nil =>
      show decodeFields offset rest = (decodeFields offset rest).map id
      cases decodeFields offset rest <;> rfl
  | cons field fields induction =>
      obtain ⟨key, value⟩ := field
      have hbytes : ((key, value) :: fields).flatMap fieldBytes ++ rest =
          Text.utf8 key ++ (separator ++
            (Text.utf8 value ++ (separator ++ (fields.flatMap fieldBytes ++ rest)))) := by
        simp [fieldBytes]
      have hlength : offset + (((key, value) :: fields).flatMap fieldBytes).length =
          offset + (Text.utf8 key).length + 2 + (Text.utf8 value).length + 2 +
            (fields.flatMap fieldBytes).length := by
        simp only [List.flatMap_cons, fieldBytes, List.length_append, separator, List.length_cons,
          List.length_nil]
        omega
      have htail : ∀ other ∈ fields, other.1 ≠ "" :=
        fun other hother => hkeys other (List.mem_cons_of_mem _ hother)
      rw [hbytes, hlength, decodeFields_step (readField_append ..) (hkeys _ List.mem_cons_self)
        (readField_append ..), induction _ htail]
      cases decodeFields (offset + (Text.utf8 key).length + 2 + (Text.utf8 value).length + 2 +
        (fields.flatMap fieldBytes).length) rest <;> rfl

theorem decodeFields_flatMap (offset : Nat) {fields : List (String × String)}
    (hkeys : ∀ field ∈ fields, field.1 ≠ "") :
    decodeFields offset (fields.flatMap fieldBytes) = .ok fields := by
  rw [← List.append_nil (fields.flatMap fieldBytes), decodeFields_append offset hkeys,
    decodeFields, if_pos rfl]
  exact congrArg Except.ok (List.append_nil fields)

theorem decodeFields_sound {offset : Nat} {bytes : Bytes} {fields : List (String × String)}
    (h : decodeFields offset bytes = .ok fields) :
    bytes = fields.flatMap fieldBytes ∧ ∀ field ∈ fields, field.1 ≠ "" := by
  fun_induction decodeFields offset bytes generalizing fields with
  | case1 =>
      cases h
      simp
  | case2 => cases h
  | case3 => cases h
  | case4 => cases h
  | case5 => cases h
  | case6 offset bytes hne key afterKey hread hkey valueOffset value rest hvalue more hmore =>
      rename_i induction
      cases h
      obtain ⟨hrest, hkeys⟩ := induction hmore
      refine ⟨?_, ?_⟩
      · rw [readField_sound hread, readField_sound hvalue, hrest]
        simp [fieldBytes]
      · intro field hfield
        rcases List.mem_cons.mp hfield with rfl | hfield
        · exact hkey
        · exact hkeys field hfield

theorem encodeBody_eq_ok_iff {body : Body} {bytes : Bytes} :
    encodeBody body = .ok bytes ↔
      bytes = body.fields.flatMap fieldBytes ∧ ∀ field ∈ body.fields, field.1 ≠ "" := by
  have hkeyed : (body.fields.takeWhile fun field => field.1 != "") = body.fields ↔
      ∀ field ∈ body.fields, field.1 ≠ "" := by
    simp [List.takeWhile_eq_self_iff]
  have hsublist := List.takeWhile_sublist (l := body.fields) fun field => field.1 != ""
  unfold encodeBody
  constructor
  · intro h
    simp only [] at h
    split at h
    · cases h
    · rename_i hlength
      have hall := hsublist.eq_of_length_le (Nat.le_of_not_lt hlength)
      rw [hall] at h
      cases h
      exact ⟨rfl, hkeyed.mp hall⟩
  · rintro ⟨rfl, hkeys⟩
    rw [hkeyed.mpr hkeys, if_neg (Nat.lt_irrefl _)]

/-- The one spelling of a body: what was written reads back, and nothing else is read. -/
theorem decodeBody_eq_ok_iff {bytes : Bytes} {body : Body} :
    decodeBody bytes = .ok body ↔ encodeBody body = .ok bytes := by
  rw [encodeBody_eq_ok_iff]
  constructor
  · intro h
    cases hfields : decodeFields 0 bytes with
    | error error =>
        rw [decodeBody, hfields] at h
        cases h
    | ok fields =>
        rw [decodeBody, hfields] at h
        cases h
        exact decodeFields_sound hfields
  · rintro ⟨rfl, hkeys⟩
    rw [decodeBody, decodeFields_flatMap 0 hkeys]
    rfl

end Frame

end Messenger
