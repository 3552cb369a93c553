/-!
Finite maps as lists of entries. `insert` drops the earlier entry of its key, so a key that was
absent keeps one entry; look-up sees only the newest one in any case.
-/

namespace Messenger

structure Table (κ : Type u) (α : Type v) where
  entries : List (κ × α) := []
deriving Repr

namespace Table

variable {κ : Type u} {α : Type v} [DecidableEq κ]

instance : EmptyCollection (Table κ α) := ⟨{ entries := [] }⟩

instance : Inhabited (Table κ α) := ⟨∅⟩

def find? (table : Table κ α) (key : κ) : Option α :=
  (table.entries.find? fun entry => entry.1 == key).map Prod.snd

def contains (table : Table κ α) (key : κ) : Bool :=
  (table.find? key).isSome

def keys (table : Table κ α) : List κ :=
  table.entries.map Prod.fst

def erase (table : Table κ α) (key : κ) : Table κ α :=
  ⟨table.entries.filter fun entry => entry.1 != key⟩

def insert (table : Table κ α) (key : κ) (value : α) : Table κ α :=
  ⟨(key, value) :: (table.erase key).entries⟩

@[simp] theorem find?_empty (key : κ) : (∅ : Table κ α).find? key = none := rfl

@[simp] theorem find?_erase_self (table : Table κ α) (key : κ) :
    (table.erase key).find? key = none := by
  simp [find?, erase]

@[simp] theorem find?_erase_of_ne (table : Table κ α) {key other : κ} (hne : other ≠ key) :
    (table.erase key).find? other = table.find? other := by
  obtain ⟨entries⟩ := table
  simp only [find?, erase]
  induction entries with
  | nil => rfl
  | cons entry rest induction =>
      by_cases heq : entry.1 = key
      · have hother : ¬ key = other := fun h => hne h.symm
        simpa [heq, hother] using induction
      · by_cases hfound : entry.1 = other
        · simp [hfound, hne]
        · simpa [heq, hfound] using induction

@[simp] theorem find?_insert_self (table : Table κ α) (key : κ) (value : α) :
    (table.insert key value).find? key = some value := by
  simp [find?, insert]

@[simp] theorem find?_insert_of_ne (table : Table κ α) {key other : κ} (hne : other ≠ key)
    (value : α) : (table.insert key value).find? other = table.find? other := by
  have hother : ¬ key = other := fun h => hne h.symm
  rw [← find?_erase_of_ne table hne]
  simp [find?, insert, hother]

theorem contains_iff (table : Table κ α) (key : κ) :
    table.contains key = true ↔ ∃ value, table.find? key = some value := by
  simp [contains, Option.isSome_iff_exists]

end Table

end Messenger
