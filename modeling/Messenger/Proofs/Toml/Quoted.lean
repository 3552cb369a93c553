import Messenger.Proofs.Toml.Escapes

/-!
Texts as they are written read back. A text without control characters and apostrophes is written
between two marks, with nothing in it escaped: quotation marks if it has neither these nor
backslashes, and apostrophes otherwise.
-/

namespace Messenger.Toml

open Toml.Reader
open Text (NoHead IsRun noHead_nil noHead_cons noHead_or_iff)

/-- No control character and no apostrophe: the text can stand between two marks as it is. -/
def IsVerbatim (text : String) : Prop :=
  ∀ c ∈ text.toList, 0x20 ≤ c.toNat ∧ c ≠ '\x7f' ∧ c ≠ '\x27'

instance (text : String) : Decidable (IsVerbatim text) :=
  List.decidableBAll _ text.toList

/-- Neither of the characters that mean something between quotation marks. -/
def NoQuotes (chars : List Char) : Prop :=
  ∀ c ∈ chars, c ≠ '"' ∧ c ≠ '\\'

instance (chars : List Char) : Decidable (NoQuotes chars) :=
  List.decidableBAll _ chars

theorem writtenChar_of_le {c : Char} (hle : 0x20 ≤ c.toNat) (hdelete : c ≠ '\x7f')
    (hslash : c ≠ '\\') : writtenChar false c = [c] := by
  have hne : ∀ d : Char, d.toNat < 0x20 → c ≠ d := fun d hd heq => by
    subst heq
    omega
  have hcode : isCode c = false := by
    simp only [isCode, Bool.or_eq_false_iff, Bool.and_eq_false_iff, decide_eq_false_iff_not,
      beq_eq_false_iff_ne]
    exact ⟨.inl (.inl (by omega)), hdelete⟩
  simp [writtenChar, hne '\x08' (by decide), hne '\t' (by decide), hne '\n' (by decide),
    hne '\x0c' (by decide), hne '\r' (by decide), hslash, hcode]

theorem writtenChars_eq_self {chars : List Char}
    (hplain : ∀ c ∈ chars, 0x20 ≤ c.toNat ∧ c ≠ '\x7f') (hquotes : NoQuotes chars) (run : Nat) :
    writtenChars false run chars = chars := by
  induction chars generalizing run with
  | nil => rfl
  | cons c chars induction =>
      obtain ⟨hle, hdelete⟩ := hplain c List.mem_cons_self
      obtain ⟨hquote, hslash⟩ := hquotes c List.mem_cons_self
      rw [writtenChars, if_neg hquote, writtenChar_of_le hle hdelete hslash,
        induction (fun d hd => hplain d (List.mem_cons_of_mem c hd))
          (fun d hd => hquotes d (List.mem_cons_of_mem c hd))]
      rfl

/-- The mark that a text is written between. -/
def outerMark (text : String) : Char :=
  if NoQuotes text.toList then '"' else '\x27'

theorem writtenText_eq {text : String} (h : IsVerbatim text) :
    writtenText text = outerMark text :: (text.toList ++ [outerMark text]) := by
  have hcodes : text.toList.any isCode = false := by
    simp only [List.any_eq_false, isCode, Bool.or_eq_true, Bool.and_eq_true, decide_eq_true_eq,
      beq_iff_eq, not_or, not_and]
    intro c hc
    obtain ⟨hle, hdelete, -⟩ := h c hc
    exact ⟨fun hlt => absurd hle (by omega), hdelete⟩
  have hfeed : '\n' ∉ text.toList := fun hmem => absurd (h '\n' hmem).1 (by decide)
  have hapostrophe : '\x27' ∉ text.toList := fun hmem => (h '\x27' hmem).2.2 rfl
  by_cases hquotes : NoQuotes text.toList
  · have hslash : '\\' ∉ text.toList := fun hmem => (hquotes '\\' hmem).2 rfl
    have hquote : '"' ∉ text.toList := fun hmem => (hquotes '"' hmem).1 rfl
    have hself := writtenChars_eq_self (fun c hc => ⟨(h c hc).1, (h c hc).2.1⟩) hquotes 0
    simp [writtenText, outerMark, hcodes, hfeed, hslash, hquote, hquotes, hself]
  · have hmarks : ¬ ('\\' ∉ text.toList ∧ '"' ∉ text.toList) := fun hnone =>
      hquotes fun c hc => ⟨fun heq => hnone.2 (heq ▸ hc), fun heq => hnone.1 (heq ▸ hc)⟩
    simp [writtenText, outerMark, hcodes, hfeed, hapostrophe, hquotes, hmarks]

theorem read_oneLine {c : Char} {part : Reader (List Char)} {chars rest : List Char}
    (hpart : chars ≠ [] → part.read (chars ++ c :: rest) = some (chars, c :: rest))
    (hstop : part.read (c :: rest) = none) :
    (oneLine c part).read (c :: (chars ++ c :: rest)) = some (chars, rest) := by
  cases chars with
  | nil => simp [oneLine, many_of_none hstop]
  | cons d chars =>
      have hread := hpart (List.cons_ne_nil d chars)
      rw [List.cons_append] at hread ⊢
      simp [oneLine, many_of_some hread, many_of_none hstop]

theorem read_oneLine_literal {chars rest : List Char}
    (hplain : ∀ c ∈ chars, isPlain c = true) (hapostrophe : '\x27' ∉ chars) :
    (oneLine '\x27' literal).read ('\x27' :: (chars ++ '\x27' :: rest)) = some (chars, rest) := by
  have hstop : NoHead (fun c => isPlain c && c != '\x27') ('\x27' :: rest) := by simp
  refine read_oneLine (fun hne => ?_) (read_run_of_noHead hstop)
  refine read_run_append ⟨hne, fun c hc => ?_⟩ hstop
  have hc' : c ≠ '\x27' := fun heq => hapostrophe (heq ▸ hc)
  simp [hplain c hc, hc']

/-- Neither of the marks that open a text. -/
def NoMark (chars : List Char) : Prop :=
  NoHead (fun c => c == '"' || c == '\x27') chars

theorem read_oneLineText_of_noMark {chars : List Char} (h : NoMark chars) :
    oneLineText.read chars = none := by
  obtain ⟨hquote, hapostrophe⟩ := noHead_or_iff.1 h
  simp [oneLineText, read_oneLine_of_noHead hquote, read_oneLine_of_noHead hapostrophe]

theorem read_text_of_noMark {chars : List Char} (h : NoMark chars) : text.read chars = none := by
  obtain ⟨hquote, hapostrophe⟩ := noHead_or_iff.1 h
  simp [text, read_manyLines_of_noHead hquote, read_manyLines_of_noHead hapostrophe,
    read_oneLineText_of_noMark h]

theorem writtenText_eq_quoted {value : String} (h : IsVerbatim value)
    (hquotes : NoQuotes value.toList) : writtenText value = quoted value := by
  have hself := writtenChars_eq_self (fun c hc => ⟨(h c hc).1, (h c hc).2.1⟩) hquotes 0
  rw [writtenText_eq h, outerMark, if_pos hquotes, quoted, hself]

theorem read_writtenText {value : String} (h : IsVerbatim value) {rest : List Char}
    (hrest : NoMark rest) :
    text.read (writtenText value ++ rest) = some (value.toList, rest) := by
  by_cases hquotes : NoQuotes value.toList
  · rw [writtenText_eq_quoted h hquotes]
    exact read_text_quoted value (noHead_or_iff.1 hrest).1
  · have hplain : ∀ c ∈ value.toList, isPlain c = true := fun c hc =>
      isPlain_of_le (h c hc).1 (h c hc).2.1
    have hapostrophe : '\x27' ∉ value.toList := fun hmem => (h _ hmem).2.2 rfl
    rw [writtenText_eq h, List.cons_append, List.append_assoc, List.singleton_append, outerMark,
      if_neg hquotes, text, oneLineText]
    simp [read_manyLines_eq_none
        (not_prefix_marks (.of_notMem hapostrophe) (noHead_or_iff.1 hrest).2),
      read_manyLines_of_noHead, read_oneLine_of_noHead, read_oneLine_literal hplain hapostrophe]

end Messenger.Toml
