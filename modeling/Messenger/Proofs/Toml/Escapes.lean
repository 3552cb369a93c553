import Messenger.Proofs.Toml.Reading
import Messenger.Toml.Outline
import Messenger.Toml.Text

/-!
Any text can stand between quotation marks. What would end it, or may not stand there, is escaped,
and each character reads back by itself, whatever comes behind it.
-/

namespace Messenger.Toml

open Toml.Reader
open Text (NoHead IsRun noHead_nil noHead_cons noHead_or_iff)

/-- Three marks open a text of several lines, and here the third is missing. -/
theorem not_prefix_marks {c : Char} {chars rest : List Char} (hchars : NoHead (· == c) chars)
    (hrest : NoHead (· == c) rest) : ¬ [c, c, c] <+: c :: (chars ++ c :: rest) := by
  cases chars with
  | nil =>
      cases rest with
      | nil => simp
      | cons d rest =>
          have hd : d ≠ c := by simpa using hrest
          simp [List.cons_prefix_cons, hd.symm]
  | cons d chars =>
      have hd : d ≠ c := by simpa using hchars
      simp [List.cons_prefix_cons, hd.symm]

theorem read_manyLines_eq_none {c : Char} {part : Reader (List Char)} {chars : List Char}
    (h : ¬ [c, c, c] <+: chars) : (manyLines c part).read chars = none := by
  simp [manyLines, read_word_eq_none h]

theorem read_manyLines_of_noHead {c : Char} {part : Reader (List Char)} {chars : List Char}
    (h : NoHead (· == c) chars) : (manyLines c part).read chars = none := by
  simp [manyLines, read_word_of_noHead h]

theorem read_oneLine_of_noHead {c : Char} {part : Reader (List Char)} {chars : List Char}
    (h : NoHead (· == c) chars) : (oneLine c part).read chars = none := by
  simp [oneLine, read_mark_of_noHead h]

theorem read_escaped_of_noHead {chars : List Char} (h : NoHead (· == '\\') chars) :
    escaped.read chars = none := by
  simp [escaped, read_mark_of_noHead h]

def spelledChar (c : Char) : List Char :=
  if c = '"' then ['\\', '"'] else writtenChar false c

/-- A character that stands for itself between quotation marks. -/
def isOrdinary (c : Char) : Bool :=
  isPlain c && c != '"' && c != '\\'

theorem isPlain_of_le {c : Char} (hle : 0x20 ≤ c.toNat) (hdelete : c ≠ '\x7f') :
    isPlain c = true := by
  simp [isPlain, hle, hdelete]

theorem read_escaped_named {mark c : Char} (h : namedChar? mark = some c) (rest : List Char) :
    escaped.read ('\\' :: mark :: rest) = some (c, rest) := by
  simp [escaped, read_one_cons, h]

theorem read_fixedDigits_append (base : Nat) {front : List Char} (hfront : front ≠ [])
    (rest : List Char) :
    (fixedDigits base front.length).read (front ++ rest) =
      (front.mapM (digitValue? base)).map fun digits => (valueUpTo 0xffffffff base digits, rest) := by
  have hpos : 0 < front.length := List.length_pos_iff.2 hfront
  simp [fixedDigits, read_next, hpos, Function.comp_def]

/-- Four digits of base sixteen, as a control character is escaped. -/
def codeDigits (code : Nat) : List Char :=
  (Text.padLeft 4 '0' (Nat.toDigits 16 code)).map Char.toUpper

theorem codeDigits_of_isCode {c : Char} (h : isCode c = true) :
    (codeDigits c.toNat).length = 4 ∧
      ((codeDigits c.toNat).mapM (digitValue? 16)).map (valueUpTo 0xffffffff 16) =
        some c.toNat := by
  have hcodes : ∀ code : Fin 128, isCode (Char.ofNat code.val) = true →
      (codeDigits code.val).length = 4 ∧
        ((codeDigits code.val).mapM (digitValue? 16)).map (valueUpTo 0xffffffff 16) =
          some code.val := by
    decide +kernel
  have hlt : c.toNat < 128 := by
    simp only [isCode, Bool.or_eq_true, Bool.and_eq_true, decide_eq_true_eq, beq_iff_eq] at h
    rcases h with ⟨⟨hlt, -⟩, -⟩ | rfl
    · omega
    · decide
  exact hcodes ⟨c.toNat, hlt⟩ (by rwa [Char.ofNat_toNat])

theorem read_codePoint_of_isCode {c : Char} (h : isCode c = true) (rest : List Char) :
    (codePoint 4).read (codeDigits c.toNat ++ rest) = some (c, rest) := by
  obtain ⟨hlength, hvalue⟩ := codeDigits_of_isCode h
  obtain ⟨digits, hdigits, hnumber⟩ := Option.map_eq_some_iff.1 hvalue
  have hne : codeDigits c.toNat ≠ [] := fun hnil => by simp [hnil] at hlength
  have hread := read_fixedDigits_append 16 hne rest
  rw [hlength, hdigits, Option.map_some, hnumber] at hread
  have hvalid : c.toNat.isValidChar := c.valid
  rw [codePoint, read_filterMap, hread, Option.bind_some, if_pos hvalid, Char.ofNat_toNat]
  rfl

theorem read_escaped_code {c : Char} (h : isCode c = true) (rest : List Char) :
    escaped.read ('\\' :: 'u' :: (codeDigits c.toNat ++ rest)) = some (c, rest) := by
  have hnamed : namedChar? 'u' = none := by decide
  simp [escaped, read_one_cons, hnamed, read_codePoint_of_isCode h]

/-- The characters whose escape is a letter or a mark. -/
def namedChars : List Char :=
  ['"', '\x08', '\t', '\n', '\x0c', '\r', '\\']

theorem spelledChar_of_mem {c : Char} (h : c ∈ namedChars) :
    ∃ mark, spelledChar c = ['\\', mark] ∧ namedChar? mark = some c := by
  simp only [namedChars, List.mem_cons, List.not_mem_nil, or_false] at h
  rcases h with rfl | rfl | rfl | rfl | rfl | rfl | rfl
  all_goals exact ⟨_, rfl, rfl⟩

theorem spelledChar_of_notMem {c : Char} (h : c ∉ namedChars) :
    spelledChar c = if isCode c then '\\' :: 'u' :: codeDigits c.toNat else [c] := by
  simp only [namedChars, List.mem_cons, List.not_mem_nil, or_false, not_or] at h
  obtain ⟨hquote, hback, htab, hfeed, hform, hreturn, hslash⟩ := h
  simp [spelledChar, writtenChar, hquote, hback, htab, hfeed, hform, hreturn, hslash, codeDigits]

theorem isOrdinary_of_notMem {c : Char} (h : c ∉ namedChars) (hcode : isCode c = false) :
    isOrdinary c = true := by
  simp only [namedChars, List.mem_cons, List.not_mem_nil, or_false, not_or] at h
  obtain ⟨hquote, -, htab, hfeed, -, -, hslash⟩ := h
  simp only [isCode, Bool.or_eq_false_iff, Bool.and_eq_false_iff, decide_eq_false_iff_not,
    bne_eq_false_iff_eq, beq_eq_false_iff_ne] at hcode
  have hle : 0x20 ≤ c.toNat := by
    rcases hcode.1 with (hlt | heq) | heq
    · omega
    · exact absurd heq htab
    · exact absurd heq hfeed
  simp [isOrdinary, isPlain_of_le hle hcode.2, hquote, hslash]

/-- Each character stands for itself or is escaped. -/
theorem spelledChar_cases (c : Char) :
    (spelledChar c = [c] ∧ isOrdinary c = true) ∨
      ∃ more, spelledChar c = '\\' :: more ∧
        ∀ rest, escaped.read ('\\' :: (more ++ rest)) = some (c, rest) := by
  by_cases hnamed : c ∈ namedChars
  · obtain ⟨mark, hspelled, hmark⟩ := spelledChar_of_mem hnamed
    exact .inr ⟨[mark], hspelled, read_escaped_named hmark⟩
  · rw [spelledChar_of_notMem hnamed]
    cases hcode : isCode c with
    | true => exact .inr ⟨'u' :: codeDigits c.toNat, rfl, read_escaped_code hcode⟩
    | false => exact .inl ⟨rfl, isOrdinary_of_notMem hnamed hcode⟩

/-- What the parts of a text come to, and what is left behind them. -/
def joined (part : Reader (List Char)) (chars : List Char) : List Char × List Char :=
  ((part.many chars).1.flatten, (part.many chars).2)

theorem joined_of_none {part : Reader (List Char)} {chars : List Char}
    (h : part.read chars = none) : joined part chars = ([], chars) := by
  simp [joined, many_of_none h]

theorem joined_of_some {part : Reader (List Char)} {chars front rest : List Char}
    (h : part.read chars = some (front, rest)) :
    joined part chars = (front ++ (joined part rest).1, (joined part rest).2) := by
  simp [joined, many_of_some h]

theorem basic_eq : basic = (run isOrdinary <|> ([·]) <$> escaped) := rfl

theorem read_basic_ordinary {c : Char} (hc : isOrdinary c = true) (rest : List Char) :
    basic.read (c :: rest) = some (c :: rest.takeWhile isOrdinary, rest.dropWhile isOrdinary) := by
  have hrun : (run isOrdinary).read (c :: rest) =
      some (c :: rest.takeWhile isOrdinary, rest.dropWhile isOrdinary) := if_pos hc
  rw [basic_eq, read_orElse, hrun, Option.some_or]

theorem read_basic_slash (rest : List Char) :
    basic.read ('\\' :: rest) = (escaped.read ('\\' :: rest)).map fun read => ([read.1], read.2) := by
  have hrun : (run isOrdinary).read ('\\' :: rest) = none :=
    read_run_of_noHead (noHead_cons.2 (by decide))
  rw [basic_eq, read_orElse, hrun, Option.none_or, read_map]

/-- A character in front of a run joins the run, which changes nothing in the text. -/
theorem joined_ordinary {c : Char} (hc : isOrdinary c = true) (rest : List Char) :
    joined basic (c :: rest) = (c :: (joined basic rest).1, (joined basic rest).2) := by
  rw [joined_of_some (read_basic_ordinary hc rest)]
  cases rest with
  | nil => rfl
  | cons d rest =>
      cases hd : isOrdinary d with
      | true =>
          rw [joined_of_some (read_basic_ordinary hd rest), List.takeWhile_cons_of_pos hd,
            List.dropWhile_cons_of_pos hd]
          rfl
      | false =>
          have hneg : ¬ isOrdinary d = true := by simp [hd]
          rw [List.takeWhile_cons_of_neg hneg, List.dropWhile_cons_of_neg hneg]
          rfl

theorem joined_spelledChar (c : Char) (rest : List Char) :
    joined basic (spelledChar c ++ rest) = (c :: (joined basic rest).1, (joined basic rest).2) := by
  rcases spelledChar_cases c with ⟨hspelled, hc⟩ | ⟨more, hspelled, hread⟩
  · rw [hspelled]
    exact joined_ordinary hc rest
  · have hpart : basic.read ('\\' :: (more ++ rest)) = some ([c], rest) := by
      rw [read_basic_slash, hread]
      rfl
    rw [hspelled, List.cons_append, joined_of_some hpart]
    rfl

theorem joined_spelled (chars rest : List Char) :
    joined basic (chars.flatMap spelledChar ++ '"' :: rest) = (chars, '"' :: rest) := by
  induction chars with
  | nil =>
      refine joined_of_none ?_
      simp [basic, read_run_of_noHead, read_escaped_of_noHead]
  | cons c chars induction =>
      rw [List.flatMap_cons, List.append_assoc, joined_spelledChar, induction]

theorem writtenChars_eq_flatMap (run : Nat) (chars : List Char) :
    writtenChars false run chars = chars.flatMap spelledChar := by
  induction chars generalizing run with
  | nil => rfl
  | cons c chars induction =>
      rw [List.flatMap_cons, spelledChar, writtenChars]
      split
      · exact congrArg (['\\', '"'] ++ ·) (induction 0)
      · rw [induction 0]

/-- A text between quotation marks, with escapes for what may not stand there. -/
def quoted (text : String) : List Char :=
  '"' :: (writtenChars false 0 text.toList ++ ['"'])

theorem read_oneLineText_quoted (text : String) (rest : List Char) :
    oneLineText.read (quoted text ++ rest) = some (text.toList, rest) := by
  have hjoined := joined_spelled text.toList rest
  obtain ⟨hparts, hrest⟩ := Prod.mk.inj hjoined
  have hread : (oneLine '"' basic).read (quoted text ++ rest) = some (text.toList, rest) := by
    simp [oneLine, quoted, writtenChars_eq_flatMap, hparts, hrest]
  rw [oneLineText, read_orElse, hread, Option.some_or]

theorem noHead_spelled (chars : List Char) : NoHead (· == '"') (chars.flatMap spelledChar) := by
  cases chars with
  | nil => exact noHead_nil _
  | cons c chars =>
      rw [List.flatMap_cons]
      rcases spelledChar_cases c with ⟨hspelled, hc⟩ | ⟨more, hspelled, -⟩
      · have hquote : c ≠ '"' := IsRun.ne_of_eq_false hc (by decide)
        simpa [hspelled] using hquote
      · simp [hspelled]

theorem read_text_quoted (text : String) {rest : List Char} (hrest : NoHead (· == '"') rest) :
    Toml.text.read (quoted text ++ rest) = some (text.toList, rest) := by
  have hmarks : ¬ ['"', '"', '"'] <+: quoted text ++ rest := by
    have hprefix := not_prefix_marks (noHead_spelled text.toList) hrest
    simpa [quoted, writtenChars_eq_flatMap] using hprefix
  have hapostrophe : NoHead (· == '\x27') (quoted text ++ rest) := noHead_cons.2 (by decide)
  simp [Toml.text, read_manyLines_eq_none hmarks, read_manyLines_of_noHead hapostrophe,
    read_oneLineText_quoted]

end Messenger.Toml
