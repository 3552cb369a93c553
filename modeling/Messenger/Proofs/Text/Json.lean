import Mathlib.Tactic.SplitIfs
import Messenger.Proofs.Text.Numerals
import Messenger.Text.Json

/-!
The text of JSON values. It is well formed and holds no control character, and no two values have
the same: the first character tells the kind of a value, a string ends at the first mark that is
not escaped, a number at the first character that is no digit, and what is separated by commas ends
at its bracket.
-/

namespace Messenger.Text.Json

/-- The values in a list or in the fields of an object come before it. -/
@[elab_as_elim]
theorem induction {motive : Json → Prop} (null : motive .null) (bool : ∀ flag, motive (.bool flag))
    (num : ∀ number, motive (.num number)) (str : ∀ text, motive (.str text))
    (arr : ∀ items, (∀ item ∈ items, motive item) → motive (.arr items))
    (obj : ∀ fields, (∀ field ∈ fields, motive field.2) → motive (.obj fields)) :
    ∀ value, motive value
  | .null => null
  | .bool flag => bool flag
  | .num number => num number
  | .str text => str text
  | .arr items => arr items fun item _ => induction null bool num str arr obj item
  | .obj fields => obj fields fun field _ => induction null bool num str arr obj field.2
termination_by value => sizeOf value
decreasing_by
  · simp only [Json.arr.sizeOf_spec]
    have hitem := List.sizeOf_lt_of_mem ‹item ∈ items›
    omega
  · obtain ⟨key, value⟩ := field
    have hfield := List.sizeOf_lt_of_mem ‹(key, value) ∈ fields›
    simp only [Prod.mk.sizeOf_spec] at hfield
    simp only [Json.obj.sizeOf_spec]
    omega

def joined : List (List Char) → List Char
  | [] => []
  | part :: rest => part ++ rest.flatMap (',' :: ·)

def memberChars (field : String × Json) : List Char :=
  string field.1 ++ ':' :: chars field.2

theorem itemChars_eq (items : List Json) : itemChars items = joined (items.map chars) := by
  induction items with
  | nil => rfl
  | cons item rest induction =>
      cases rest with
      | nil => simp [itemChars, joined]
      | cons next rest =>
          rw [itemChars, induction]
          · simp [joined]
          · exact List.cons_ne_nil next rest

theorem fieldChars_eq (fields : List (String × Json)) :
    fieldChars fields = joined (fields.map memberChars) := by
  induction fields with
  | nil => rfl
  | cons field rest induction =>
      cases rest with
      | nil => simp [fieldChars, joined, memberChars]
      | cons next rest =>
          rw [fieldChars, induction]
          · simp [joined, memberChars]
          · exact List.cons_ne_nil next rest

theorem chars_arr (items : List Json) :
    chars (.arr items) = '[' :: joined (items.map chars) ++ [']'] := by
  rw [chars, itemChars_eq]

theorem chars_obj (fields : List (String × Json)) :
    chars (.obj fields) = '\x7b' :: joined (fields.map memberChars) ++ ['\x7d'] := by
  rw [chars, fieldChars_eq]

/-- The letters behind a backslash. -/
def shortNames : List Char :=
  ['"', '\\', 'b', 'f', 'n', 'r', 't']

/-- A character stands for itself, or a letter or four digits behind a backslash stand for it. -/
theorem escapeChar_cases (c : Char) :
    (0x20 ≤ c.toNat ∧ c ≠ '"' ∧ c ≠ '\\' ∧ escapeChar c = [c]) ∨
      (∃ name ∈ shortNames, escapeChar c = ['\\', name]) ∨
      (c.toNat < 0x20 ∧
        escapeChar c = '\\' :: 'u' :: padLeft 4 '0' (Nat.toDigits 16 c.toNat)) := by
  unfold escapeChar
  split_ifs with hquote hbackslash hbackspace hfeed hline hreturn htab hcontrol
  · exact .inr (.inl ⟨'"', by decide, rfl⟩)
  · exact .inr (.inl ⟨'\\', by decide, rfl⟩)
  · exact .inr (.inl ⟨'b', by decide, rfl⟩)
  · exact .inr (.inl ⟨'f', by decide, rfl⟩)
  · exact .inr (.inl ⟨'n', by decide, rfl⟩)
  · exact .inr (.inl ⟨'r', by decide, rfl⟩)
  · exact .inr (.inl ⟨'t', by decide, rfl⟩)
  · exact .inr (.inr ⟨hcontrol, rfl⟩)
  · exact .inl ⟨Nat.le_of_not_lt hcontrol, hquote, hbackslash, rfl⟩

theorem length_fourDigits {code : Nat} (h : code < 0x20) :
    (padLeft 4 '0' (Nat.toDigits 16 code)).length = 4 := by
  have hcodes : ∀ code : Fin 32, (padLeft 4 '0' (Nat.toDigits 16 code.val)).length = 4 := by
    decide
  exact hcodes ⟨code, h⟩

theorem digitChar_toNat_ge {digit : Nat} (h : digit < 16) : 0x20 ≤ digit.digitChar.toNat := by
  have hdigits : ∀ digit : Fin 16, 0x20 ≤ digit.val.digitChar.toNat := by decide
  exact hdigits ⟨digit, h⟩

theorem escapeChar_visible {c letter : Char} (h : letter ∈ escapeChar c) : 0x20 ≤ letter.toNat := by
  rcases escapeChar_cases c with ⟨hc, -, -, heq⟩ | ⟨name, hname, heq⟩ | ⟨-, heq⟩
  · rw [heq, List.mem_singleton] at h
    rwa [h]
  · have hnames : ∀ name ∈ shortNames, 0x20 ≤ name.toNat := by simp [shortNames]
    rw [heq] at h
    rcases List.mem_cons.mp h with rfl | hmem
    · decide
    · rw [List.mem_singleton.mp hmem]
      exact hnames name hname
  · rw [heq] at h
    rcases List.mem_cons.mp h with rfl | hmem
    · decide
    · rcases List.mem_cons.mp hmem with rfl | hmem
      · decide
      · obtain ⟨digit, hdigit, rfl⟩ := mem_padLeft_toDigits hmem
        exact digitChar_toNat_ge hdigit

theorem string_visible {text : String} {c : Char} (h : c ∈ string text) : 0x20 ≤ c.toNat := by
  rw [string, List.mem_append, List.mem_cons, List.mem_flatMap, List.mem_singleton] at h
  rcases h with (rfl | ⟨letter, -, hmem⟩) | rfl
  · decide
  · exact escapeChar_visible hmem
  · decide

theorem bracketed_visible {opening closing : Char} (hopening : 0x20 ≤ opening.toNat)
    (hclosing : 0x20 ≤ closing.toNat) {parts : List (List Char)}
    (hparts : ∀ part ∈ parts, ∀ c ∈ part, 0x20 ≤ c.toNat) :
    ∀ c ∈ opening :: joined parts ++ [closing], 0x20 ≤ c.toNat := by
  intro c hmem
  rw [List.mem_append, List.mem_cons, List.mem_singleton] at hmem
  rcases hmem with (rfl | hmem) | rfl
  · exact hopening
  · cases parts with
    | nil => cases hmem
    | cons part rest =>
        rw [joined, List.mem_append, List.mem_flatMap] at hmem
        rcases hmem with hmem | ⟨next, hnext, hmem⟩
        · exact hparts part List.mem_cons_self c hmem
        · rcases List.mem_cons.mp hmem with rfl | hmem
          · decide
          · exact hparts next (List.mem_cons_of_mem part hnext) c hmem
  · exact hclosing

/-- No character of a text is below the blank, so that it is one line. -/
theorem chars_visible (value : Json) : ∀ c ∈ value.chars, 0x20 ≤ c.toNat := by
  induction value using Json.induction with
  | null => simp [chars]
  | bool flag => cases flag <;> simp [chars]
  | num number =>
      intro c hmem
      obtain ⟨digit, hdigit, rfl⟩ := exists_digit_of_mem_toDigits (by decide) hmem
      exact digitChar_toNat_ge (by omega)
  | str text => exact fun c hmem => string_visible hmem
  | arr items induction =>
      rw [chars_arr]
      refine bracketed_visible (by decide) (by decide) fun part hpart => ?_
      obtain ⟨item, hitem, rfl⟩ := List.mem_map.mp hpart
      exact induction item hitem
  | obj fields induction =>
      rw [chars_obj]
      refine bracketed_visible (by decide) (by decide) fun part hpart c hmem => ?_
      obtain ⟨field, hfield, rfl⟩ := List.mem_map.mp hpart
      rcases List.mem_append.mp hmem with hmem | hmem
      · exact string_visible hmem
      · rcases List.mem_cons.mp hmem with rfl | hmem
        · decide
        · exact induction field hfield c hmem

def IsGap (text : List Char) : Prop :=
  ∀ c ∈ text, c = ' ' ∨ c = '\t' ∨ c = '\n' ∨ c = '\r'

def IsHexDigit (c : Char) : Prop :=
  c.isDigit = true ∨ ('a' ≤ c ∧ c ≤ 'f') ∨ ('A' ≤ c ∧ c ≤ 'F')

/-- What stands for one character in a string. -/
inductive IsLetter : List Char → Prop
  | plain (c : Char) (hvisible : 0x20 ≤ c.toNat) (hquote : c ≠ '"') (hbackslash : c ≠ '\\') :
      IsLetter [c]
  | named (c : Char) (h : c ∈ ['"', '\\', '/', 'b', 'f', 'n', 'r', 't']) : IsLetter ['\\', c]
  | code (digits : List Char) (hlength : digits.length = 4) (h : ∀ c ∈ digits, IsHexDigit c) :
      IsLetter ('\\' :: 'u' :: digits)

def IsString (text : List Char) : Prop :=
  ∃ letters : List (List Char), (∀ letter ∈ letters, IsLetter letter) ∧
    text = '"' :: letters.flatten ++ ['"']

def IsDigits (text : List Char) : Prop :=
  IsRun Char.isDigit text

/-- A zero stands in front of no other digit. -/
def IsWhole (text : List Char) : Prop :=
  IsDigits text ∧ (text.head? = some '0' → text = ['0'])

def IsFraction (text : List Char) : Prop :=
  text = [] ∨ ∃ digits, IsDigits digits ∧ text = '.' :: digits

def IsExponent (text : List Char) : Prop :=
  text = [] ∨ ∃ mark sign digits, mark ∈ ['e', 'E'] ∧ sign ∈ [[], ['+'], ['-']] ∧
    IsDigits digits ∧ text = mark :: sign ++ digits

def IsNumber (text : List Char) : Prop :=
  ∃ sign whole fraction exponent, sign ∈ [[], ['-']] ∧ IsWhole whole ∧ IsFraction fraction ∧
    IsExponent exponent ∧ text = sign ++ whole ++ fraction ++ exponent

/-- The texts of JSON, with gaps wherever they may be. -/
inductive IsValue : List Char → Prop
  | null : IsValue ['n', 'u', 'l', 'l']
  | yes : IsValue ['t', 'r', 'u', 'e']
  | no : IsValue ['f', 'a', 'l', 's', 'e']
  | number {text : List Char} (h : IsNumber text) : IsValue text
  | string {text : List Char} (h : IsString text) : IsValue text
  | emptyList {gap : List Char} (h : IsGap gap) : IsValue ('[' :: gap ++ [']'])
  | list {items : List (List Char)} (hsome : items ≠ []) (h : ∀ item ∈ items, IsValue item) :
      IsValue ('[' :: joined items ++ [']'])
  | emptyObject {gap : List Char} (h : IsGap gap) : IsValue ('\x7b' :: gap ++ ['\x7d'])
  | object {members : List (List Char × List Char)} (hsome : members ≠ [])
      (hkeys : ∀ member ∈ members, ∃ before key after, IsGap before ∧ IsString key ∧ IsGap after ∧
        member.1 = before ++ key ++ after)
      (hvalues : ∀ member ∈ members, IsValue member.2) :
      IsValue ('\x7b' :: joined (members.map fun member => member.1 ++ ':' :: member.2) ++
        ['\x7d'])
  | padded {before text after : List Char} (hbefore : IsGap before) (h : IsValue text)
      (hafter : IsGap after) : IsValue (before ++ text ++ after)

theorem isGap_nil : IsGap [] :=
  fun _ hmem => nomatch hmem

theorem isLetter_escapeChar (c : Char) : IsLetter (escapeChar c) := by
  rcases escapeChar_cases c with ⟨hvisible, hquote, hbackslash, heq⟩ | ⟨name, hname, heq⟩ | ⟨hc, heq⟩
  · exact heq ▸ .plain c hvisible hquote hbackslash
  · rw [heq]
    have hnames : ∀ name ∈ shortNames, name ∈ ['"', '\\', '/', 'b', 'f', 'n', 'r', 't'] := by
      simp [shortNames]
    exact .named name (hnames name hname)
  · rw [heq]
    refine .code _ (length_fourDigits hc) fun digit hmem => ?_
    have hdigits : ∀ digit : Fin 16, digit.val.digitChar.isDigit = true ∨
        ('a' ≤ digit.val.digitChar ∧ digit.val.digitChar ≤ 'f') ∨
        ('A' ≤ digit.val.digitChar ∧ digit.val.digitChar ≤ 'F') := by decide
    obtain ⟨digit, hdigit, rfl⟩ := mem_padLeft_toDigits hmem
    exact hdigits ⟨digit, hdigit⟩

theorem isString_string (text : String) : IsString (string text) := by
  refine ⟨text.toList.map escapeChar, fun letter hmem => ?_, by rw [string, List.flatMap]⟩
  obtain ⟨c, -, rfl⟩ := List.mem_map.mp hmem
  exact isLetter_escapeChar c

theorem isWhole_toDigits (number : Nat) : IsWhole (Nat.toDigits 10 number) := by
  refine ⟨isRun_toDigits number, fun hhead => ?_⟩
  rw [eq_zero_of_head?_toDigits (by decide) (by decide) hhead]
  rfl

/-- The text of a value is well formed. -/
theorem isValue_chars (value : Json) : IsValue value.chars := by
  induction value using Json.induction with
  | null => exact .null
  | bool flag =>
      cases flag with
      | true => exact .yes
      | false => exact .no
  | num number =>
      exact .number ⟨[], _, [], [], by decide, isWhole_toDigits number, .inl rfl, .inl rfl,
        by simp [chars]⟩
  | str text => exact .string (isString_string text)
  | arr items induction =>
      rw [chars_arr]
      by_cases hnil : items = []
      · rw [hnil]
        exact .emptyList isGap_nil
      · refine .list (by simpa using hnil) fun item hmem => ?_
        obtain ⟨item, hitem, rfl⟩ := List.mem_map.mp hmem
        exact induction item hitem
  | obj fields induction =>
      rw [chars_obj]
      by_cases hnil : fields = []
      · rw [hnil]
        exact .emptyObject isGap_nil
      · have hmembers : fields.map memberChars =
            (fields.map fun field => (string field.1, chars field.2)).map
              fun member => member.1 ++ ':' :: member.2 := by
          rw [List.map_map]
          rfl
        rw [hmembers]
        refine .object (by simpa using hnil) ?_ ?_
        · intro member hmem
          obtain ⟨field, -, rfl⟩ := List.mem_map.mp hmem
          exact ⟨[], _, [], isGap_nil, isString_string field.1, isGap_nil, by simp⟩
        · intro member hmem
          obtain ⟨field, hfield, rfl⟩ := List.mem_map.mp hmem
          exact induction field hfield

/-- What may follow a number. -/
abbrev Stops (rest : List Char) : Prop :=
  NoHead Char.isDigit rest

theorem toDigits_append_inj {number other : Nat} {rest rest' : List Char} (hrest : Stops rest)
    (hrest' : Stops rest')
    (h : Nat.toDigits 10 number ++ rest = Nat.toDigits 10 other ++ rest') :
    number = other ∧ rest = rest' := by
  have hdigits : Nat.toDigits 10 number = Nat.toDigits 10 other := by
    rw [← (isRun_toDigits number).takeWhile_append hrest, h,
      (isRun_toDigits other).takeWhile_append hrest']
  have hvalue := congrArg (Nat.ofDigitChars 10 · 0) hdigits
  simp only [Nat.ofDigitChars_ten_toDigits] at hvalue
  rw [hdigits] at h
  exact ⟨hvalue, List.append_cancel_left h⟩

def fourDigits (digits : List Char) : Nat :=
  digits.foldl (fun value c => 16 * value + if c.isDigit then c.toNat - 48 else c.toNat - 87) 0

def unnamed (letter : Char) : Char :=
  if letter = 'b' then '\x08'
  else if letter = 'f' then '\x0c'
  else if letter = 'n' then '\n'
  else if letter = 'r' then '\r'
  else if letter = 't' then '\t'
  else letter

/-- The first character that a text stands for, and the rest. -/
def unescape? : List Char → Option (Char × List Char)
  | [] => none
  | first :: rest =>
      if first = '\\' then
        match rest with
        | [] => none
        | letter :: rest =>
            if letter = 'u' then some (Char.ofNat (fourDigits (rest.take 4)), rest.drop 4)
            else some (unnamed letter, rest)
      else some (first, rest)

theorem unescape?_escapeChar (c : Char) (rest : List Char) :
    unescape? (escapeChar c ++ rest) = some (c, rest) := by
  unfold escapeChar
  split_ifs with hquote hbackslash hbackspace hfeed hline hreturn htab hcontrol
  iterate 7 · subst c; rfl
  · have hcodes : ∀ code : Fin 32,
        fourDigits (padLeft 4 '0' (Nat.toDigits 16 code.val)) = code.val := by decide
    have hlength := length_fourDigits hcontrol
    simp [unescape?, List.take_left' hlength, List.drop_left' hlength, hcodes ⟨c.toNat, hcontrol⟩]
  · simp [unescape?, hbackslash]

theorem escapeChar_append_inj {c d : Char} {rest rest' : List Char}
    (h : escapeChar c ++ rest = escapeChar d ++ rest') : c = d ∧ rest = rest' := by
  have hread := congrArg unescape? h
  rw [unescape?_escapeChar, unescape?_escapeChar] at hread
  exact Prod.mk.inj (Option.some.inj hread)

theorem escapeChar_append_ne (c : Char) (rest rest' : List Char) :
    escapeChar c ++ rest ≠ '"' :: rest' := by
  intro h
  rcases escapeChar_cases c with ⟨-, hquote, -, heq⟩ | ⟨name, -, heq⟩ | ⟨-, heq⟩
  · rw [heq] at h
    exact hquote (List.cons.inj h).1
  · rw [heq] at h
    exact absurd (List.cons.inj h).1 (by decide)
  · rw [heq] at h
    exact absurd (List.cons.inj h).1 (by decide)

theorem letters_append_inj {letters others : List Char} {rest rest' : List Char}
    (h : letters.flatMap escapeChar ++ '"' :: rest = others.flatMap escapeChar ++ '"' :: rest') :
    letters = others ∧ rest = rest' := by
  induction letters generalizing others with
  | nil =>
      cases others with
      | nil => exact ⟨rfl, (List.cons.inj h).2⟩
      | cons other others =>
          rw [List.flatMap_cons, List.append_assoc] at h
          exact absurd h.symm (escapeChar_append_ne other _ _)
  | cons letter letters induction =>
      cases others with
      | nil =>
          rw [List.flatMap_cons, List.append_assoc] at h
          exact absurd h (escapeChar_append_ne letter _ _)
      | cons other others =>
          simp only [List.flatMap_cons, List.append_assoc] at h
          obtain ⟨rfl, hrest⟩ := escapeChar_append_inj h
          obtain ⟨rfl, rfl⟩ := induction hrest
          exact ⟨rfl, rfl⟩

theorem string_append_inj {text other : String} {rest rest' : List Char}
    (h : string text ++ rest = string other ++ rest') : text = other ∧ rest = rest' := by
  simp only [string, List.cons_append, List.append_assoc, List.nil_append, List.cons.injEq,
    true_and] at h
  obtain ⟨hletters, hrest⟩ := letters_append_inj h
  exact ⟨String.toList_inj.mp hletters, hrest⟩

section Joined

variable {α : Type} {write : α → List Char} {closing : Char}

theorem stops_after_part (hclosing : closing.isDigit = false) (parts : List α)
    (rest : List Char) :
    Stops ((parts.map write).flatMap (',' :: ·) ++ closing :: rest) := by
  cases parts with
  | nil => simpa using hclosing
  | cons part parts => simp

theorem commas_append_inj (hcomma : closing ≠ ',') (hclosing : closing.isDigit = false)
    {parts others : List α} {rest rest' : List Char}
    (hread : ∀ part ∈ parts, ∀ {other rest rest'}, Stops rest → Stops rest' →
      write part ++ rest = write other ++ rest' → part = other ∧ rest = rest')
    (h : (parts.map write).flatMap (',' :: ·) ++ closing :: rest =
      (others.map write).flatMap (',' :: ·) ++ closing :: rest') :
    parts = others ∧ rest = rest' := by
  induction parts generalizing others with
  | nil =>
      cases others with
      | nil => exact ⟨rfl, (List.cons.inj h).2⟩
      | cons other others => exact absurd (List.cons.inj h).1 hcomma
  | cons part parts induction =>
      cases others with
      | nil => exact absurd (List.cons.inj h).1.symm hcomma
      | cons other others =>
          simp only [List.map_cons, List.flatMap_cons, List.cons_append, List.append_assoc,
            List.cons.injEq, true_and] at h
          obtain ⟨rfl, hrest⟩ := hread part List.mem_cons_self (stops_after_part hclosing parts rest)
            (stops_after_part hclosing others rest') h
          obtain ⟨rfl, rfl⟩ := induction (fun next hmem => hread next (.tail part hmem)) hrest
          exact ⟨rfl, rfl⟩

/-- Parts that can be told from what follows them can be told when they are joined. -/
theorem joined_append_inj (hcomma : closing ≠ ',') (hclosing : closing.isDigit = false)
    (hstart : ∀ part rest rest', write part ++ rest ≠ closing :: rest')
    {parts others : List α} {rest rest' : List Char}
    (hread : ∀ part ∈ parts, ∀ {other rest rest'}, Stops rest → Stops rest' →
      write part ++ rest = write other ++ rest' → part = other ∧ rest = rest')
    (h : joined (parts.map write) ++ closing :: rest =
      joined (others.map write) ++ closing :: rest') :
    parts = others ∧ rest = rest' := by
  cases parts with
  | nil =>
      cases others with
      | nil => exact ⟨rfl, (List.cons.inj h).2⟩
      | cons other others =>
          rw [List.map_cons, joined, List.append_assoc] at h
          exact absurd h.symm (hstart other _ _)
  | cons part parts =>
      cases others with
      | nil =>
          rw [List.map_cons, joined, List.append_assoc] at h
          exact absurd h (hstart part _ _)
      | cons other others =>
          simp only [List.map_cons, joined, List.append_assoc] at h
          obtain ⟨rfl, hrest⟩ := hread part List.mem_cons_self (stops_after_part hclosing parts rest)
            (stops_after_part hclosing others rest') h
          obtain ⟨rfl, rfl⟩ :=
            commas_append_inj hcomma hclosing (fun next hmem => hread next (.tail part hmem)) hrest
          exact ⟨rfl, rfl⟩

end Joined

inductive Kind where
  | null
  | bool (flag : Bool)
  | num
  | str
  | arr
  | obj
deriving DecidableEq

def kind : Json → Kind
  | .null => .null
  | .bool flag => .bool flag
  | .num _ => .num
  | .str _ => .str
  | .arr _ => .arr
  | .obj _ => .obj

def kindOf? (first : Char) : Option Kind :=
  if first = 'n' then some .null
  else if first = 't' then some (.bool true)
  else if first = 'f' then some (.bool false)
  else if first = '"' then some .str
  else if first = '[' then some .arr
  else if first = '\x7b' then some .obj
  else if first.isDigit then some .num
  else none

theorem kindOf?_of_isDigit {c : Char} (h : c.isDigit = true) : kindOf? c = some .num := by
  unfold kindOf?
  split_ifs with hn ht hf hmark hbracket hbrace
  iterate 6 · subst c; exact absurd h (by decide)
  · rfl

/-- The first character of a text tells the kind. -/
theorem exists_chars_eq_cons (value : Json) :
    ∃ first rest, value.chars = first :: rest ∧ kindOf? first = some value.kind := by
  cases value with
  | null => exact ⟨'n', _, rfl, rfl⟩
  | bool flag =>
      cases flag with
      | true => exact ⟨'t', _, rfl, rfl⟩
      | false => exact ⟨'f', _, rfl, rfl⟩
  | num number =>
      have hrun := isRun_toDigits number
      obtain ⟨first, rest, hdigits⟩ := List.exists_cons_of_ne_nil hrun.ne_nil
      refine ⟨first, rest, hdigits, kindOf?_of_isDigit (hrun.all first ?_)⟩
      rw [hdigits]
      exact List.mem_cons_self
  | str text => exact ⟨'"', _, rfl, rfl⟩
  | arr items => exact ⟨'[', _, chars_arr items, rfl⟩
  | obj fields => exact ⟨'\x7b', _, chars_obj fields, rfl⟩

theorem kind_eq {value other : Json} {rest rest' : List Char}
    (h : value.chars ++ rest = other.chars ++ rest') : other.kind = value.kind := by
  obtain ⟨first, more, hchars, hkind⟩ := exists_chars_eq_cons value
  obtain ⟨first', more', hchars', hkind'⟩ := exists_chars_eq_cons other
  rw [hchars, hchars'] at h
  obtain rfl : first = first' := (List.cons.inj h).1
  exact Option.some.inj (hkind'.symm.trans hkind)

theorem chars_append_ne {closing : Char} (hclosing : kindOf? closing = none) (value : Json)
    (rest rest' : List Char) : value.chars ++ rest ≠ closing :: rest' := by
  obtain ⟨first, more, hchars, hkind⟩ := exists_chars_eq_cons value
  rw [hchars]
  intro h
  rw [(List.cons.inj h).1, hclosing] at hkind
  cases hkind

/-- Where two texts of values go on into the same text, the values are the same. -/
theorem chars_append_inj (value : Json) : ∀ {other : Json} {rest rest' : List Char},
    Stops rest → Stops rest' → value.chars ++ rest = other.chars ++ rest' →
      value = other ∧ rest = rest' := by
  induction value using Json.induction with
  | null =>
      intro other rest rest' _ _ h
      cases other with
      | null => exact ⟨rfl, List.append_cancel_left h⟩
      | _ => cases kind_eq h
  | bool flag =>
      intro other rest rest' _ _ h
      cases other with
      | bool flag' =>
          cases kind_eq h
          exact ⟨rfl, List.append_cancel_left h⟩
      | _ => cases kind_eq h
  | num number =>
      intro other rest rest' hrest hrest' h
      cases other with
      | num number' =>
          obtain ⟨rfl, heq⟩ := toDigits_append_inj hrest hrest' h
          exact ⟨rfl, heq⟩
      | _ => cases kind_eq h
  | str text =>
      intro other rest rest' _ _ h
      cases other with
      | str text' =>
          obtain ⟨rfl, heq⟩ := string_append_inj h
          exact ⟨rfl, heq⟩
      | _ => cases kind_eq h
  | arr items induction =>
      intro other rest rest' _ _ h
      cases other with
      | arr items' =>
          simp only [chars_arr, List.cons_append, List.append_assoc, List.nil_append,
            List.cons.injEq, true_and] at h
          obtain ⟨rfl, heq⟩ := joined_append_inj (by decide) (by decide)
            (chars_append_ne (by decide)) induction h
          exact ⟨rfl, heq⟩
      | _ => cases kind_eq h
  | obj fields induction =>
      intro other rest rest' _ _ h
      cases other with
      | obj fields' =>
          simp only [chars_obj, List.cons_append, List.append_assoc, List.nil_append,
            List.cons.injEq, true_and] at h
          have hstart : ∀ (field : String × Json) (rest rest' : List Char),
              memberChars field ++ rest ≠ '\x7d' :: rest' :=
            fun field rest rest' heq => absurd (List.cons.inj heq).1 (by decide)
          have hread : ∀ field ∈ fields, ∀ {other rest rest'}, Stops rest → Stops rest' →
              memberChars field ++ rest = memberChars other ++ rest' →
                field = other ∧ rest = rest' := by
            rintro ⟨key, value⟩ hmem ⟨key', value'⟩ rest rest' hrest hrest' heq
            simp only [memberChars, List.append_assoc, List.cons_append] at heq
            obtain ⟨rfl, hvalue⟩ := string_append_inj heq
            obtain ⟨rfl, hafter⟩ := induction _ hmem hrest hrest' (List.cons.inj hvalue).2
            exact ⟨rfl, hafter⟩
          obtain ⟨rfl, heq⟩ := joined_append_inj (by decide) (by decide) hstart hread h
          exact ⟨rfl, heq⟩
      | _ => cases kind_eq h

theorem chars_inj {value other : Json} (h : value.chars = other.chars) : value = other := by
  have happend : value.chars ++ [] = other.chars ++ [] := by rw [h]
  exact (chars_append_inj value (noHead_nil _) (noHead_nil _) happend).1

end Messenger.Text.Json
