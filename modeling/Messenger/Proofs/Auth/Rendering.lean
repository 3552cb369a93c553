import Messenger.Auth.KeyedDigest

/-!
What the groups of five characters tell of a digest. The letters of the tails and the delimiters
are all different, but the table of the heads has one letter twice, so a group tells its two bytes
up to the head that the letter stands for.
-/

namespace Messenger.Auth.KeyedDigest

/-- A concatenation of blocks of one length tells each of them. -/
theorem flatMap_eq_iff_of_length {α β : Type} {first second : α → List β} (size : Nat)
    (hfirst : ∀ a, (first a).length = size) (hsecond : ∀ a, (second a).length = size)
    (places : List α) :
    places.flatMap first = places.flatMap second ↔ ∀ place ∈ places, first place = second place := by
  induction places with
  | nil => simp
  | cons place places induction =>
      rw [List.flatMap_cons, List.flatMap_cons, List.forall_mem_cons, ← induction]
      constructor
      · intro h
        exact List.append_inj h (by rw [hfirst, hsecond])
      · rintro ⟨hplace, hplaces⟩
        rw [hplace, hplaces]

/-- Two heads under one letter: `Q` stands at place 16 and at place 31. -/
def SameLetter (first second : Nat) : Prop :=
  first = second ∨ (first = 16 ∧ second = 31) ∨ (first = 31 ∧ second = 16)

theorem headAlphabet_eq_iff {first second : Nat} :
    headAlphabet[Fin.ofNat 32 first] = headAlphabet[Fin.ofNat 32 second] ↔
      SameLetter (first % 32) (second % 32) := by
  have hletters : ∀ i j : Fin 32, headAlphabet[i] = headAlphabet[j] ↔
      (i.val = j.val ∨ (i.val = 16 ∧ j.val = 31) ∨ (i.val = 31 ∧ j.val = 16)) := by
    decide
  exact hletters (Fin.ofNat 32 first) (Fin.ofNat 32 second)

theorem tailAlphabet_eq_iff {first second : Nat} :
    tailAlphabet[Fin.ofNat 32 first] = tailAlphabet[Fin.ofNat 32 second] ↔
      first % 32 = second % 32 := by
  have hletters : ∀ i j : Fin 32, tailAlphabet[i] = tailAlphabet[j] ↔ i.val = j.val := by
    decide
  exact hletters (Fin.ofNat 32 first) (Fin.ofNat 32 second)

theorem delimiters_eq_iff {first second : Nat} :
    delimiters[Fin.ofNat 2 first] = delimiters[Fin.ofNat 2 second] ↔ first % 2 = second % 2 := by
  have hletters : ∀ i j : Fin 2, delimiters[i] = delimiters[j] ↔ i.val = j.val := by
    decide
  exact hletters (Fin.ofNat 2 first) (Fin.ofNat 2 second)

/-- Bytes that a group does not tell apart: the five high bits are the head. -/
def Alike (first second : UInt8) : Prop :=
  SameLetter (first.toNat / 8) (second.toNat / 8) ∧ first.toNat % 8 = second.toNat % 8

theorem parts_of_word (high low : UInt8) :
    (high.toNat * 256 + low.toNat) / 2048 % 32 = high.toNat / 8 ∧
      (high.toNat * 256 + low.toNat) / 64 % 32 = high.toNat % 8 * 4 + low.toNat / 64 ∧
      (high.toNat * 256 + low.toNat) / 2 % 32 = low.toNat / 2 % 32 ∧
      (high.toNat * 256 + low.toNat) % 2 = low.toNat % 2 := by
  have hhigh := high.toNat_lt
  have hlow := low.toNat_lt
  omega

theorem group_eq_iff {high low otherHigh otherLow : UInt8} :
    group high low = group otherHigh otherLow ↔ Alike high otherHigh ∧ low = otherLow := by
  obtain ⟨hhead, hupper, hlower, hlast⟩ := parts_of_word high low
  obtain ⟨hotherHead, hotherUpper, hotherLower, hotherLast⟩ := parts_of_word otherHigh otherLow
  have hlow := low.toNat_lt
  have hotherLow := otherLow.toNat_lt
  simp only [group, List.cons.injEq, and_true, true_and, headAlphabet_eq_iff, tailAlphabet_eq_iff,
    delimiters_eq_iff, Alike, ← UInt8.toNat_inj, hhead, hupper, hlower, hlast, hotherHead,
    hotherUpper, hotherLower, hotherLast]
  constructor
  · rintro ⟨hletter, htail, hrest, hdelimiter⟩
    exact ⟨⟨hletter, by omega⟩, by omega⟩
  · rintro ⟨⟨hletter, hthree⟩, hbyte⟩
    exact ⟨hletter, by omega, by omega, by omega⟩

/-- Two digests are shown alike just where their first twenty bytes agree, but for the two heads
that share a letter. -/
theorem render_eq_iff (first second : Vector UInt8 32) :
    render first = render second ↔
      ∀ index, Alike (pair first index).1 (pair second index).1 ∧
        (pair first index).2 = (pair second index).2 := by
  rw [render, render, flatMap_eq_iff_of_length 5 (fun _ => rfl) (fun _ => rfl)]
  simp only [List.mem_finRange, forall_const, group_eq_iff]

/-- The heads of `80` and of `F8` are the two. -/
theorem render_confuses_heads :
    ((Vector.replicate 32 0).set 0 0x80 : Vector UInt8 32)[0] ≠
        ((Vector.replicate 32 0).set 0 0xF8 : Vector UInt8 32)[0] ∧
      render ((Vector.replicate 32 0).set 0 0x80) =
        render ((Vector.replicate 32 0).set 0 0xF8) := by
  decide

end Messenger.Auth.KeyedDigest
