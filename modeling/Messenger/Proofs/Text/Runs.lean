/-!
Where runs of characters of one kind begin and end. A run ends where a character of another kind
comes, or nothing.
-/

namespace Messenger.Text

/-- The text does not begin with such a character. -/
def NoHead (p : Char → Bool) (chars : List Char) : Prop :=
  ∀ c ∈ chars.head?, p c = false

@[simp] theorem noHead_nil (p : Char → Bool) : NoHead p [] := by
  simp [NoHead]

@[simp] theorem noHead_cons {p : Char → Bool} {c : Char} {rest : List Char} :
    NoHead p (c :: rest) ↔ p c = false := by
  simp [NoHead]

theorem NoHead.of_notMem {c : Char} {chars : List Char} (h : c ∉ chars) :
    NoHead (· == c) chars := fun _ hd =>
  beq_eq_false_iff_ne.2 fun heq => h (heq ▸ List.mem_of_mem_head? hd)

theorem NoHead.append {p : Char → Bool} {front rest : List Char} (hfront : NoHead p front)
    (hrest : NoHead p rest) : NoHead p (front ++ rest) := by
  cases front with
  | nil => exact hrest
  | cons c front => simpa using hfront

theorem noHead_or_iff {a b : Char} {chars : List Char} :
    NoHead (fun c => c == a || c == b) chars ↔ NoHead (· == a) chars ∧ NoHead (· == b) chars := by
  cases chars <;> simp

/-- Characters of one kind, at least one of them. -/
structure IsRun (p : Char → Bool) (chars : List Char) : Prop where
  ne_nil : chars ≠ []
  all : ∀ c ∈ chars, p c = true

instance (p : Char → Bool) (chars : List Char) : Decidable (IsRun p chars) :=
  decidable_of_iff (chars ≠ [] ∧ chars.all p = true)
    ⟨fun h => ⟨h.1, List.all_eq_true.1 h.2⟩, fun h => ⟨h.ne_nil, List.all_eq_true.2 h.all⟩⟩

namespace IsRun

variable {p : Char → Bool} {chars : List Char}

theorem ne_of_eq_false {c d : Char} (hc : p c = true) (hd : p d = false) : c ≠ d := by
  rintro rfl
  simp [hd] at hc

/-- What is not of this kind does not begin it. -/
theorem noHead (h : IsRun p chars) {c : Char} (hc : p c = false) (rest : List Char) :
    NoHead (· == c) (chars ++ rest) := by
  obtain ⟨d, front, rfl⟩ := List.exists_cons_of_ne_nil h.ne_nil
  simpa using ne_of_eq_false (h.all d List.mem_cons_self) hc

theorem noHead_or (h : IsRun p chars) {a b : Char} (ha : p a = false) (hb : p b = false)
    (rest : List Char) : NoHead (fun c => c == a || c == b) (chars ++ rest) :=
  noHead_or_iff.2 ⟨h.noHead ha rest, h.noHead hb rest⟩

theorem takeWhile_append (h : IsRun p chars) {rest : List Char} (hrest : NoHead p rest) :
    (chars ++ rest).takeWhile p = chars := by
  have hnone : rest.takeWhile p = [] := by
    cases rest with
    | nil => rfl
    | cons c rest => exact List.takeWhile_cons_of_neg (by simpa using hrest)
  rw [List.takeWhile_append_of_pos h.all, hnone, List.append_nil]

theorem dropWhile_append (h : IsRun p chars) {rest : List Char} (hrest : NoHead p rest) :
    (chars ++ rest).dropWhile p = rest := by
  rw [List.dropWhile_append_of_pos h.all]
  cases rest with
  | nil => rfl
  | cons c rest => exact List.dropWhile_cons_of_neg (by simpa using hrest)

end IsRun

end Messenger.Text
