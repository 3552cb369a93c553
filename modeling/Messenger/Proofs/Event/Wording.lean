import Mathlib.Tactic.SplitIfs
import Messenger.Event.Describe
import Messenger.Proofs.Text.Numerals

/-!
Line breaks in the wording of events. A phrase holds the line breaks of the texts that it shows as
they came, and a record holds none, since every text in it is quoted.
-/

namespace Messenger

namespace Text

def isLineBreak (c : Char) : Bool :=
  c == '\n' || c == '\r'

def lineBreaks (text : String) : List Char :=
  text.toList.filter isLineBreak

theorem lineBreaks_eq_nil_iff {text : String} :
    lineBreaks text = [] ↔ '\n' ∉ text.toList ∧ '\r' ∉ text.toList := by
  simp only [lineBreaks, List.filter_eq_nil_iff, isLineBreak, Bool.or_eq_true, beq_iff_eq, not_or]
  constructor
  · exact fun h => ⟨fun hmem => (h _ hmem).1 rfl, fun hmem => (h _ hmem).2 rfl⟩
  · rintro ⟨hfeed, hreturn⟩ c hmem
    exact ⟨fun heq => hfeed (heq ▸ hmem), fun heq => hreturn (heq ▸ hmem)⟩

@[simp] theorem lineBreaks_append (first second : String) :
    lineBreaks (first ++ second) = lineBreaks first ++ lineBreaks second := by
  simp [lineBreaks]

@[simp] theorem lineBreaks_toString (text : String) :
    lineBreaks (toString text) = lineBreaks text := rfl

/-- For words of the program's own. -/
theorem lineBreaks_of_none {words : String} (h : words.toList.all (! isLineBreak ·) = true) :
    lineBreaks words = [] := by
  simpa [lineBreaks] using h

theorem lineBreaks_intercalate {separator : String} (hseparator : lineBreaks separator = [])
    {texts : List String} (h : ∀ text ∈ texts, lineBreaks text = []) :
    lineBreaks (separator.intercalate texts) = [] := by
  induction texts with
  | nil => rfl
  | cons text texts induction =>
      have hrest := induction fun other hmem => h other (List.mem_cons_of_mem text hmem)
      by_cases hnil : texts = []
      · rw [hnil, String.intercalate_singleton]
        exact h text List.mem_cons_self
      · rw [String.intercalate_cons_of_ne_nil hnil, lineBreaks_append, lineBreaks_append,
          h text List.mem_cons_self, hseparator, hrest]
        rfl

theorem isLineBreak_digitChar {digit : Nat} (h : digit < 16) :
    isLineBreak digit.digitChar = false := by
  have hdigits : ∀ digit : Fin 16, isLineBreak digit.val.digitChar = false := by decide
  exact hdigits ⟨digit, h⟩

theorem filter_toDigits {base : Nat} (hbase : 1 < base) (hbound : base ≤ 16) (number : Nat) :
    (Nat.toDigits base number).filter isLineBreak = [] := by
  rw [List.filter_eq_nil_iff]
  intro c hmem
  obtain ⟨digit, hdigit, rfl⟩ := exists_digit_of_mem_toDigits hbase hmem
  simp [isLineBreak_digitChar (Nat.lt_of_lt_of_le hdigit hbound)]

@[simp] theorem lineBreaks_repr (number : Nat) : lineBreaks number.repr = [] := by
  rw [lineBreaks, Nat.toList_repr, filter_toDigits (by decide) (by decide)]

@[simp] theorem lineBreaks_upperHex (width number : Nat) : lineBreaks (upperHex width number) = [] := by
  have hupper : ∀ digit : Fin 16, isLineBreak digit.val.digitChar.toUpper = false := by decide
  rw [lineBreaks, upperHex, String.toList_ofList, List.filter_eq_nil_iff]
  intro c hmem
  obtain ⟨small, hsmall, rfl⟩ := List.mem_map.mp hmem
  obtain ⟨digit, hdigit, rfl⟩ := mem_padLeft_toDigits hsmall
  simp [hupper ⟨digit, hdigit⟩]

/-- A line break is named or given by its number, and the backslash in front is none. -/
theorem filter_escapeChar (c : Char) : (escapeChar c).filter isLineBreak = [] := by
  unfold escapeChar
  split_ifs with hquote hbackslash hnull htab hfeed hreturn hshown
  iterate 6 · rfl
  · simp [isLineBreak, hfeed, hreturn]
  · rw [List.filter_append, List.filter_append, filter_toDigits (by decide) (by decide)]
    rfl

@[simp] theorem lineBreaks_quote (text : String) : lineBreaks (quote text) = [] := by
  have hescaped : (text.toList.flatMap escapeChar).filter isLineBreak = [] := by
    simp [List.filter_flatMap, filter_escapeChar]
  rw [lineBreaks, quote, String.toList_ofList, List.filter_append, List.filter_cons_of_neg (by decide),
    hescaped]
  rfl

end Text

open Text

@[simp] theorem Service.lineBreaks_display (service : Service) :
    lineBreaks service.display = [] := by
  have hname : lineBreaks service.name = [] := by
    cases service <;> simp only [name] <;> decide
  simp (disch := decide) [display, hname, lineBreaks_of_none]

@[simp] theorem Datum.lineBreaks_shown (datum : Datum) : lineBreaks datum.shown = [] := by
  cases datum with
  | text value => exact lineBreaks_quote value
  | maybe value =>
      cases value with
      | none => rfl
      | some value => simp (disch := decide) [shown, lineBreaks_of_none]
  | texts values =>
      have hvalues : lineBreaks (String.intercalate ", " (values.map quote)) = [] :=
        lineBreaks_intercalate rfl fun text hmem => by
          obtain ⟨value, -, rfl⟩ := List.mem_map.mp hmem
          exact lineBreaks_quote value
      simp (disch := decide) [shown, hvalues, lineBreaks_of_none]
  | flag value => cases value <;> rfl
  | number value => exact lineBreaks_repr value.toNat
  | service value => exact value.lineBreaks_display
  | packet value => exact value.service.lineBreaks_display

namespace Event

theorem lineBreaks_name {event : Event} {datum : String × Datum} (h : datum ∈ event.data) :
    lineBreaks datum.1 = [] := by
  have hnames : ∀ name ∈ event.data.map Prod.fst, lineBreaks name = [] := by
    cases event <;> simp only [data, List.map_cons, List.map_nil] <;> decide
  exact hnames datum.1 (List.mem_map_of_mem h)

@[simp] theorem lineBreaks_record (event : Event) : lineBreaks event.record = [] := by
  have htitle : lineBreaks event.title = [] := by
    cases event <;> simp only [title] <;> decide
  have hdata : lineBreaks (String.intercalate ", "
      (event.data.map fun datum => s!"{datum.1}: {datum.2.shown}")) = [] :=
    lineBreaks_intercalate rfl fun text hmem => by
      obtain ⟨datum, hdatum, rfl⟩ := List.mem_map.mp hmem
      simp (disch := decide) [lineBreaks_name hdatum, lineBreaks_of_none]
  simp (disch := decide) only [record, lineBreaks_append, lineBreaks_toString, htitle, hdata,
    lineBreaks_of_none, List.append_nil]

/-- The texts that a phrase shows as they came, in order. -/
def spoken : Event → List String
  | loggedOn username => [username]
  | connectionClosed reason => [reason]
  | message sender _ text _ => [sender, text]
  | statusUpdate user _ note _ => user :: note.toList
  | conferenceMessage room sender text => [room, sender, text]
  | error _ text => [text]
  | _ => []

/-- What a phrase puts around its texts has no line break. -/
theorem lineBreaks_describe (event : Event) :
    lineBreaks event.describe = event.spoken.flatMap lineBreaks := by
  cases event with
  | loggedOn username =>
      change lineBreaks s!"logged on as {username}" = _
      simp (disch := decide) [spoken, lineBreaks_of_none]
  | connectionClosed reason =>
      change lineBreaks s!"connection closed: {reason}" = _
      simp (disch := decide) [spoken, lineBreaks_of_none]
  | listReceived list =>
      change lineBreaks s!"roster received ({list.body.size} fields)" = _
      simp (disch := decide) [spoken, lineBreaks_of_none]
  | message sender recipient text offline =>
      cases offline with
      | true =>
          change lineBreaks s!"[offline] {sender}: {text}" = _
          simp (disch := decide) [spoken, lineBreaks_of_none]
      | false =>
          change lineBreaks s!"{sender}: {text}" = _
          simp (disch := decide) [spoken, lineBreaks_of_none]
  | statusUpdate user status note online =>
      let state := if online then "online" else "offline"
      have hstate : lineBreaks state = [] := by
        change lineBreaks (if online then "online" else "offline") = []
        cases online <;> rfl
      cases note with
      | some text =>
          change lineBreaks s!"{user} is {state} ({status.toNat}) {text}" = _
          simp (disch := decide) [spoken, hstate, lineBreaks_of_none]
      | none =>
          change lineBreaks s!"{user} is {state} ({status.toNat})" = _
          simp (disch := decide) [spoken, hstate, lineBreaks_of_none]
  | newMail count =>
      change lineBreaks s!"{count.toNat} new mail(s)" = _
      simp (disch := decide) [spoken, lineBreaks_of_none]
  | conferenceMessage room sender text =>
      change lineBreaks s!"[{room}] {sender}: {text}" = _
      simp (disch := decide) [spoken, lineBreaks_of_none]
  | error service text =>
      change lineBreaks s!"server error on {service.display}: {text}" = _
      simp (disch := decide) [spoken, lineBreaks_of_none]
  | _ => exact lineBreaks_record _

/-- The line breaks of a description are those of the texts that it shows as they came, so that it
is one line just where each of them is. -/
theorem describe_one_line_iff (event : Event) :
    lineBreaks event.describe = event.spoken.flatMap lineBreaks ∧
      ('\n' ∉ event.describe.toList ∧ '\r' ∉ event.describe.toList ↔
        ∀ text ∈ event.spoken, '\n' ∉ text.toList ∧ '\r' ∉ text.toList) := by
  refine ⟨lineBreaks_describe event, ?_⟩
  rw [← lineBreaks_eq_nil_iff, lineBreaks_describe, List.flatMap_eq_nil_iff]
  exact forall₂_congr fun text _ => lineBreaks_eq_nil_iff

/-- The second line of a message reads as a message of somebody else. -/
theorem describe_forges_line :
    '\n' ∈ (describe (.message "ann" "me" "hi\nbob: bye" false)).toList ∧
      describe (.message "ann" "me" "hi\nbob: bye" false) =
        describe (.message "ann" "me" "hi" false) ++ "\n" ++
          describe (.message "bob" "me" "bye" false) := by
  decide

end Event

end Messenger
