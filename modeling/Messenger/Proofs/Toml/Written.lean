import Messenger.Proofs.Toml.Numerals
import Messenger.Proofs.Toml.Quoted
import Messenger.Toml.Document

/-!
Scalars as they are written read back. The first character tells which of them it is.
-/

namespace Messenger.Toml

open Toml.Reader
open Text (NoHead IsRun noHead_nil noHead_cons noHead_or_iff)

def Scalar.IsReadable : Scalar → Prop
  | .text value => IsVerbatim value
  | .integer value => leastInteger ≤ value ∧ value ≤ greatestInteger
  | .boolean _ => True

theorem noHead_written {value : Scalar} (h : value.IsReadable) {c : Char}
    (hdigit : isDecimal c = false) (hmarks : c ∉ ['"', '\x27', '-', 't', 'f']) (rest : List Char) :
    NoHead (· == c) (value.written ++ rest) := by
  have hne : ∀ mark ∈ ['"', '\x27', '-', 't', 'f'], mark ≠ c := fun mark hmem heq =>
    hmarks (heq ▸ hmem)
  cases value with
  | text value =>
      have hmark : outerMark value ∈ ['"', '\x27', '-', 't', 'f'] := by
        rw [outerMark]
        split <;> simp
      rw [Scalar.written, writtenText_eq h]
      simpa using hne _ hmark
  | integer value =>
      rw [Scalar.written]
      split
      · simpa using hne '-' (by simp)
      · exact (isNumeral_toDigits value.natAbs).noHead hdigit rest
  | boolean value =>
      cases value
      · simpa [Scalar.written] using hne 'f' (by simp)
      · simpa [Scalar.written] using hne 't' (by simp)

theorem read_scalar_of_number {chars : List Char} (hmark : NoMark chars)
    (htrue : NoHead (· == 't') chars) (hfalse : NoHead (· == 'f') chars)
    (hmoment : moment.read chars = none) : scalar.read chars = number.read chars := by
  simp [scalar, read_text_of_noMark hmark, read_word_of_noHead htrue, read_word_of_noHead hfalse,
    hmoment]

/-- Behind a scalar comes the end of the line. -/
theorem read_scalar_written {value : Scalar} (h : value.IsReadable) (rest : List Char) :
    scalar.read (value.written ++ '\n' :: rest) = some (.scalar value, '\n' :: rest) := by
  cases value with
  | text value =>
      have hread : text.read (writtenText value ++ '\n' :: rest) =
          some (value.toList, '\n' :: rest) := read_writtenText h (by simp [NoMark])
      rw [Scalar.written]
      simp [scalar, hread]
  | integer value =>
      have hnumber := read_number_written h.1 h.2 rest
      rw [← hnumber]
      by_cases hnegative : value < 0
      · rw [Scalar.written, if_pos hnegative]
        exact read_scalar_of_number (by simp [NoMark]) (by simp) (by simp)
          (read_moment_of_head (by decide) _)
      · have hnumeral := isNumeral_toDigits value.natAbs
        rw [Scalar.written, if_neg hnegative]
        exact read_scalar_of_number (hnumeral.noHead_or (by decide) (by decide) _)
          (hnumeral.noHead (by decide) _) (hnumeral.noHead (by decide) _)
          (read_moment_numeral hnumeral rest)
  | boolean value =>
      cases value with
      | true =>
          have hword : (word ['t', 'r', 'u', 'e']).read
              ((Scalar.boolean true).written ++ '\n' :: rest) = some ((), '\n' :: rest) :=
            read_word_append (by simp)
          have htext : text.read ((Scalar.boolean true).written ++ '\n' :: rest) = none :=
            read_text_of_noMark (by simp [Scalar.written, NoMark])
          simp [scalar, hword, htext]
      | false =>
          have hword : (word ['f', 'a', 'l', 's', 'e']).read
              ((Scalar.boolean false).written ++ '\n' :: rest) = some ((), '\n' :: rest) :=
            read_word_append (by simp)
          have htext : text.read ((Scalar.boolean false).written ++ '\n' :: rest) = none :=
            read_text_of_noMark (by simp [Scalar.written, NoMark])
          have htrue : (word ['t', 'r', 'u', 'e']).read
              ((Scalar.boolean false).written ++ '\n' :: rest) = none :=
            read_word_of_noHead (by simp [Scalar.written])
          simp [scalar, hword, htext, htrue]

end Messenger.Toml
