import Mathlib.Data.List.Basic
import Messenger.Proofs.Text.Numerals
import Messenger.Proofs.Toml.Reading
import Messenger.Toml.Moment
import Messenger.Toml.Outline

/-!
Whole numbers as they are written read back. Their digits begin no date and no time, because nothing
but digits stands in front of the end of the line.
-/

namespace Messenger.Toml

open Toml.Reader
open Text (NoHead IsRun noHead_nil noHead_cons noHead_or_iff)

def isDecimal (c : Char) : Bool :=
  (digitValue? 10 c).isSome

/-- Decimal digits, at least one of them. -/
abbrev IsNumeral (chars : List Char) : Prop :=
  IsRun isDecimal chars

theorem digitValue?_digitChar {digit : Nat} (h : digit < 10) :
    digitValue? 10 digit.digitChar = some digit := by
  have hdigits : ∀ digit : Fin 10, digitValue? 10 digit.val.digitChar = some digit.val := by decide
  exact hdigits ⟨digit, h⟩

theorem toNat_digitChar {digit : Nat} (h : digit < 10) :
    digit.digitChar.toNat - '0'.toNat = digit := by
  have hdigits : ∀ digit : Fin 10, digit.val.digitChar.toNat - '0'.toNat = digit.val := by decide
  exact hdigits ⟨digit, h⟩

theorem digitValue?_of_mem_toDigits {number : Nat} {c : Char} (h : c ∈ Nat.toDigits 10 number) :
    digitValue? 10 c = some (c.toNat - '0'.toNat) := by
  obtain ⟨digit, hlt, rfl⟩ := Text.exists_digit_of_mem_toDigits (by decide) h
  rw [digitValue?_digitChar hlt, toNat_digitChar hlt]

theorem isNumeral_toDigits (number : Nat) : IsNumeral (Nat.toDigits 10 number) where
  ne_nil := Nat.toDigits_ne_nil
  all c hc := by simp [isDecimal, digitValue?_of_mem_toDigits hc]

/-- What is left behind so many digits begins with another digit, or it is the end of the line:
no other mark stands there. -/
theorem read_mark_of_fixedDigits {count : Nat} {chars rest : List Char} {read : Nat × List Char}
    (h : IsNumeral chars) (hread : (fixedDigits 10 count).read (chars ++ '\n' :: rest) = some read)
    {c : Char} (hc : isDecimal c = false) (hfeed : c ≠ '\n') :
    (mark c).read read.2 = none := by
  have hdrop : read.2 = (chars ++ '\n' :: rest).drop count ∧
      List.mapM (digitValue? 10) ((chars ++ '\n' :: rest).take count) ≠ none := by
    simp only [fixedDigits, read_map, read_filterMap, read_next] at hread
    split at hread
    · simp only [Option.bind_some, Option.map_map, Option.map_eq_some_iff] at hread
      obtain ⟨values, hvalues, rfl⟩ := hread
      exact ⟨rfl, by simp [hvalues]⟩
    · simp at hread
  have hle : count ≤ chars.length := Nat.le_of_not_lt fun hlt => by
    obtain ⟨more, rfl⟩ : ∃ more, count = chars.length + (more + 1) :=
      ⟨count - chars.length - 1, by omega⟩
    refine hdrop.2 ?_
    rw [List.take_length_add_append, List.take_succ_cons, List.mapM_append, List.mapM_cons]
    have hnone : digitValue? 10 '\n' = none := by decide
    simp [hnone]
  rw [hdrop.1, List.drop_append_of_le_length hle]
  refine read_mark_of_noHead (NoHead.append (fun d hd => ?_) (by simpa using hfeed.symm))
  have hdigit : isDecimal d = true := h.all d (List.mem_of_mem_drop (List.mem_of_mem_head? hd))
  simpa using IsRun.ne_of_eq_false hdigit hc

theorem read_date_numeral {chars : List Char} (h : IsNumeral chars) (rest : List Char) :
    date.read (chars ++ '\n' :: rest) = none := by
  cases hyear : (fixedDigits 10 4).read (chars ++ '\n' :: rest) with
  | none => simp [date, hyear]
  | some year =>
      have hmark : (mark '-').read year.2 = none :=
        read_mark_of_fixedDigits h hyear (by decide) (by decide)
      simp [date, hyear, hmark]

theorem read_time_numeral {chars : List Char} (h : IsNumeral chars) (rest : List Char) :
    time.read (chars ++ '\n' :: rest) = none := by
  cases hhour : (fixedDigits 10 2).read (chars ++ '\n' :: rest) with
  | none => simp [time, hourAndMinute, twoDigits, hhour]
  | some hour =>
      have hmark : (mark ':').read hour.2 = none :=
        read_mark_of_fixedDigits h hhour (by decide) (by decide)
      have hminute : (twoDigits 0 23 *> mark ':').read (chars ++ '\n' :: rest) = none := by
        simp only [twoDigits, read_seqRight, read_filter, hhour, Option.filter_some]
        split <;> simp [hmark]
      rw [read_seqRight] at hminute
      simp [time, hourAndMinute, hminute]

theorem read_moment_of_head {c : Char} (hc : digitValue? 10 c = none) (rest : List Char) :
    moment.read (c :: rest) = none := by
  have hdigits : ∀ count, (fixedDigits 10 count).read (c :: rest) = none := fun count => by
    cases count with
    | zero => simp [fixedDigits, read_next]
    | succ count =>
        simp only [fixedDigits, read_map, read_filterMap, read_next]
        split <;> simp [hc]
  simp [moment, date, time, hourAndMinute, twoDigits, hdigits]

theorem read_moment_numeral {chars : List Char} (h : IsNumeral chars) (rest : List Char) :
    moment.read (chars ++ '\n' :: rest) = none := by
  simp [moment, read_date_numeral h, read_time_numeral h]

/-- A base stands behind the zero in front, where a numeral has a digit or ends. -/
theorem read_based_numeral {chars : List Char} (h : IsNumeral chars) {c : Char}
    (hc : isDecimal c = false) (hfeed : c ≠ '\n') (base : Nat) (rest : List Char) :
    (based ['0', c] base).read (chars ++ '\n' :: rest) = none := by
  have hprefix : ¬ ['0', c] <+: chars ++ '\n' :: rest := by
    obtain ⟨first, digits, rfl⟩ := List.exists_cons_of_ne_nil h.ne_nil
    cases digits with
    | nil => simp [List.cons_prefix_cons, hfeed]
    | cons second digits =>
        have hne : second ≠ c := IsRun.ne_of_eq_false (h.all second (by simp)) hc
        simp [List.cons_prefix_cons, hne.symm]
  simp [based, read_word_eq_none hprefix]

theorem read_digits_numeral {chars : List Char} (h : IsNumeral chars) (rest : List Char) :
    (digits 10).read (chars ++ '\n' :: rest) =
      some (chars.filterMap (digitValue? 10), '\n' :: rest) := by
  have hstop : NoHead isDecimal ('\n' :: rest) := noHead_cons.2 (by decide)
  have hrun := read_run_append h hstop
  have hgroups : ((run fun c => (digitValue? 10 c).isSome).separated '_').read
      (chars ++ '\n' :: rest) = some ([chars], '\n' :: rest) :=
    read_separated_one hrun (by simp)
  simp [digits, hgroups]

/-- A zero stands in front of no other digit. -/
def IsUnpadded (values : List Nat) : Prop :=
  values.head? ≠ some 0 ∨ values.length = 1

theorem read_decimal_numeral {chars : List Char} (h : IsNumeral chars)
    (hpadded : IsUnpadded (chars.filterMap (digitValue? 10))) (negative : Bool)
    (rest : List Char) :
    (decimal negative).read (chars ++ '\n' :: rest) =
      (whole? negative 10 (chars.filterMap (digitValue? 10))).map (·, '\n' :: rest) := by
  have hunpadded : unpadded.read (chars ++ '\n' :: rest) =
      some (chars.filterMap (digitValue? 10), '\n' :: rest) := by
    rw [unpadded, read_filter, read_digits_numeral h]
    exact Option.filter_eq_some_iff.2 ⟨rfl, by simpa [IsUnpadded] using hpadded⟩
  have hfraction : fraction.read ('\n' :: rest) = none := by
    simp [fraction, read_mark_of_noHead]
  have hexponent : exponent.read ('\n' :: rest) = none := by
    simp [exponent, read_one_of_noHead]
  have hinf : (word ['i', 'n', 'f']).read (chars ++ '\n' :: rest) = none :=
    read_word_of_noHead (h.noHead (by decide) _)
  have hnan : (word ['n', 'a', 'n']).read (chars ++ '\n' :: rest) = none :=
    read_word_of_noHead (h.noHead (by decide) _)
  simp [decimal, hinf, hnan, hunpadded, hfraction, hexponent, decimal?]

/-- Bounding every step bounds the whole. -/
theorem foldl_min (most : Nat) {base : Nat} (hbase : 0 < base) (digits : List Nat) (value : Nat) :
    digits.foldl (fun value digit => min most (base * value + digit)) (min most value) =
      min most (digits.foldl (fun value digit => base * value + digit) value) := by
  induction digits generalizing value with
  | nil => rfl
  | cons digit digits induction =>
      have hstep : min most (base * min most value + digit) = min most (base * value + digit) := by
        rcases Nat.le_total value most with hle | hle
        · rw [Nat.min_eq_right hle]
        · have hbelow : most ≤ base * most := Nat.le_mul_of_pos_left most hbase
          have habove : base * most ≤ base * value := Nat.mul_le_mul_left base hle
          rw [Nat.min_eq_left hle]
          omega
      rw [List.foldl_cons, List.foldl_cons, hstep, induction]

theorem filterMap_digitValue?_toDigits (number : Nat) :
    (Nat.toDigits 10 number).filterMap (digitValue? 10) =
      (Nat.toDigits 10 number).map fun c => c.toNat - '0'.toNat :=
  List.filterMap_eq_map_iff_forall_eq_some.2 fun _ hc => digitValue?_of_mem_toDigits hc

theorem valueUpTo_toDigits (most number : Nat) :
    valueUpTo most 10 ((Nat.toDigits 10 number).filterMap (digitValue? 10)) = min most number := by
  have hmin := foldl_min most (Nat.zero_lt_succ 9)
    ((Nat.toDigits 10 number).map fun c => c.toNat - '0'.toNat) 0
  rw [Nat.min_zero] at hmin
  rw [valueUpTo, filterMap_digitValue?_toDigits, hmin, List.foldl_map,
    ← Nat.ofDigitChars_eq_foldl, Nat.ofDigitChars_ten_toDigits]

theorem isUnpadded_toDigits (number : Nat) :
    IsUnpadded ((Nat.toDigits 10 number).filterMap (digitValue? 10)) := by
  by_cases hzero : number = 0
  · subst hzero
    exact .inr (by decide)
  · refine .inl fun hhead => hzero ?_
    rw [filterMap_digitValue?_toDigits, List.head?_map, Option.map_eq_some_iff] at hhead
    obtain ⟨c, hc, hvalue⟩ := hhead
    obtain ⟨digit, hlt, rfl⟩ :=
      Text.exists_digit_of_mem_toDigits (by decide) (List.mem_of_mem_head? hc)
    have hdigit : digit = 0 := (toNat_digitChar hlt).symm.trans hvalue
    subst hdigit
    exact Text.eq_zero_of_head?_toDigits (by decide) (by decide) hc

def signed (negative : Bool) (number : Nat) : Int :=
  if negative then -number else number

theorem read_decimal_toDigits {negative : Bool} {number : Nat}
    (hleast : leastInteger ≤ signed negative number)
    (hgreatest : signed negative number ≤ greatestInteger) (rest : List Char) :
    (decimal negative).read (Nat.toDigits 10 number ++ '\n' :: rest) =
      some (.scalar (.integer (signed negative number)), '\n' :: rest) := by
  have hbound : number ≤ 0xffffffffffffffff := by
    cases negative
    · simp only [signed, Bool.false_eq_true, if_false, greatestInteger] at hgreatest
      omega
    · simp only [signed, if_true, leastInteger] at hleast
      omega
  have hwhole : whole? negative 10 ((Nat.toDigits 10 number).filterMap (digitValue? 10)) =
      some (.scalar (.integer (signed negative number))) := by
    rw [whole?, valueUpTo_toDigits, Nat.min_eq_right hbound]
    change Node.scalar <$> Scalar.integer? (signed negative number) = _
    rw [Scalar.integer?, if_pos ⟨hleast, hgreatest⟩]
    rfl
  rw [read_decimal_numeral (isNumeral_toDigits number) (isUnpadded_toDigits number), hwhole]
  rfl

theorem read_based_of_noHead {chars : List Char} (h : NoHead (· == '0') chars) (c : Char)
    (base : Nat) : (based ['0', c] base).read chars = none := by
  simp [based, read_word_of_noHead h]

/-- A number of 64 bits is read as it is written, with the sign in front of a negative one. -/
theorem read_number_written {value : Int} (hleast : leastInteger ≤ value)
    (hgreatest : value ≤ greatestInteger) (rest : List Char) :
    number.read ((Scalar.integer value).written ++ '\n' :: rest) =
      some (.scalar (.integer value), '\n' :: rest) := by
  by_cases hnegative : value < 0
  · have hvalue : signed true value.natAbs = value := by
      simp only [signed, if_true]
      omega
    have hdecimal := read_decimal_toDigits (hvalue.symm ▸ hleast) (hvalue.symm ▸ hgreatest) rest
    rw [hvalue] at hdecimal
    have hsign : sign.read ('-' :: (Nat.toDigits 10 value.natAbs ++ '\n' :: rest)) =
        some (true, Nat.toDigits 10 value.natAbs ++ '\n' :: rest) := by
      simp [sign, read_one_cons]
    rw [Scalar.written, if_pos hnegative, List.cons_append]
    simp [number, read_based_of_noHead, hsign, hdecimal]
  · have hvalue : signed false value.natAbs = value := by
      simp only [signed, Bool.false_eq_true, if_false]
      omega
    have hdecimal := read_decimal_toDigits (hvalue.symm ▸ hleast) (hvalue.symm ▸ hgreatest) rest
    rw [hvalue] at hdecimal
    have hnumeral := isNumeral_toDigits value.natAbs
    have hsign : sign.read (Nat.toDigits 10 value.natAbs ++ '\n' :: rest) = none := by
      rw [sign, read_map, read_one_of_noHead (hnumeral.noHead_or (by decide) (by decide) _)]
      rfl
    have hbased : ∀ {c : Char} (base : Nat), isDecimal c = false → c ≠ '\n' →
        (based ['0', c] base).read (Nat.toDigits 10 value.natAbs ++ '\n' :: rest) = none :=
      fun base hc hfeed => read_based_numeral hnumeral hc hfeed base rest
    rw [Scalar.written, if_neg hnegative]
    simp [number, hbased 16 (c := 'x') (by decide) (by decide),
      hbased 8 (c := 'o') (by decide) (by decide), hbased 2 (c := 'b') (by decide) (by decide),
      hsign, hdecimal]

end Messenger.Toml
