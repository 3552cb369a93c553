import Messenger.Proofs.Text.Runs
import Messenger.Text.Hex

/-!
The digits of a number. Each is the character of a digit below the base, and only the number zero
begins with a zero.
-/

namespace Messenger.Text

theorem exists_digit_of_mem_toDigits {base : Nat} (hbase : 1 < base) {number : Nat} {c : Char}
    (h : c ∈ Nat.toDigits base number) : ∃ digit < base, c = digit.digitChar := by
  induction number using Nat.strongRecOn with
  | ind number induction =>
      rw [Nat.toDigits_eq_if hbase] at h
      split at h
      · rename_i hlt
        exact ⟨number, hlt, List.mem_singleton.mp h⟩
      · rename_i hle
        rcases List.mem_append.mp h with hmem | hmem
        · exact induction (number / base) (Nat.div_lt_self (by omega) hbase) hmem
        · exact ⟨number % base, Nat.mod_lt _ (by omega), List.mem_singleton.mp hmem⟩

theorem isRun_toDigits (number : Nat) : IsRun Char.isDigit (Nat.toDigits 10 number) where
  ne_nil := Nat.toDigits_ne_nil
  all _ hmem := Nat.isDigit_of_mem_toDigits (by decide) (by decide) hmem

theorem digitChar_eq_zero_iff {digit : Nat} (h : digit < 16) :
    digit.digitChar = '0' ↔ digit = 0 := by
  have hdigits : ∀ digit : Fin 16, digit.val.digitChar = '0' ↔ digit.val = 0 := by decide
  exact hdigits ⟨digit, h⟩

/-- Only the number zero has a zero in front. -/
theorem eq_zero_of_head?_toDigits {base : Nat} (hbase : 1 < base) (hbound : base ≤ 16)
    {number : Nat} (h : (Nat.toDigits base number).head? = some '0') : number = 0 := by
  induction number using Nat.strongRecOn with
  | ind number induction =>
      rw [Nat.toDigits_eq_if hbase] at h
      split at h
      · rename_i hlt
        exact (digitChar_eq_zero_iff (by omega)).mp (Option.some.inj h)
      · rename_i hle
        obtain ⟨first, rest, hfront⟩ :=
          List.exists_cons_of_ne_nil (Nat.toDigits_ne_nil (b := base) (n := number / base))
        have hhead : (Nat.toDigits base (number / base)).head? = some '0' := by
          rwa [hfront] at h ⊢
        have hzero := induction (number / base) (Nat.div_lt_self (by omega) hbase) hhead
        exact absurd ((Nat.div_eq_zero_iff_lt (by omega)).mp hzero) hle

/-- Hexadecimal digits, filled up with zeros or not. -/
theorem mem_padLeft_toDigits {width number : Nat} {c : Char}
    (h : c ∈ padLeft width '0' (Nat.toDigits 16 number)) : ∃ digit < 16, c = digit.digitChar := by
  rcases List.mem_append.mp h with hmem | hmem
  · exact ⟨0, by decide, List.eq_of_mem_replicate hmem⟩
  · exact exists_digit_of_mem_toDigits (by decide) hmem

end Messenger.Text
