import Messenger.Proofs.Toml.Escapes
import Messenger.Proofs.Toml.Written

/-!
Lines and their statements. A line that assigns a value to a name, and one that is a name in
brackets, are read as they are written, and what is read of lines is put together as the lines are.
-/

namespace Messenger.Toml

open Toml.Reader
open Text (NoHead IsRun noHead_nil noHead_cons noHead_or_iff)

/-- A name that needs no marks around it. -/
abbrev IsBareName (name : String) : Prop :=
  IsRun isBare name.toList

/-- A key of one name. -/
def Key.bare (name : String) : Key :=
  ⟨[], name⟩

/-- A character that a name can begin with: its own first one, or a quotation mark around it. -/
def opensName (c : Char) : Bool :=
  isBare c || c == '"'

/-- Characters that are read as a name, if nothing behind them continues it. -/
structure SpellsName (chars : List Char) (name : String) : Prop where
  opens : ∃ first rest, chars = first :: rest ∧ opensName first = true
  reads : ∀ rest, NoHead isBare rest → Toml.name.read (chars ++ rest) = some (name, rest)

/-- A name as it is written: as it is if it can be, and between quotation marks otherwise. -/
def writtenName (name : String) : List Char :=
  if IsBareName name then name.toList else quoted name

variable {name : String} {chars : List Char}

namespace SpellsName

theorem bare (h : IsBareName name) : SpellsName name.toList name where
  opens := by
    obtain ⟨first, rest, hname⟩ := List.exists_cons_of_ne_nil h.ne_nil
    have hfirst : isBare first = true := h.all first (hname ▸ List.mem_cons_self)
    exact ⟨first, rest, hname, by simp [opensName, hfirst]⟩
  reads rest hrest := by
    have hmark : NoMark (name.toList ++ rest) := h.noHead_or (by decide) (by decide) rest
    simp [Toml.name, read_oneLineText_of_noMark hmark, read_run_append h hrest]

theorem quoted (name : String) : SpellsName (quoted name) name where
  opens := ⟨'"', _, rfl, rfl⟩
  reads rest _ := by simp [Toml.name, read_oneLineText_quoted]

theorem written (name : String) : SpellsName (writtenName name) name := by
  rw [writtenName]
  split
  · rename_i hbare
    exact bare hbare
  · exact quoted name

theorem noHead (h : SpellsName chars name) {c : Char} (hc : opensName c = false)
    (rest : List Char) : NoHead (· == c) (chars ++ rest) := by
  obtain ⟨first, more, rfl, hfirst⟩ := h.opens
  simpa using IsRun.ne_of_eq_false hfirst hc

theorem noHead_or (h : SpellsName chars name) {a b : Char} (ha : opensName a = false)
    (hb : opensName b = false) (rest : List Char) :
    NoHead (fun c => c == a || c == b) (chars ++ rest) :=
  noHead_or_iff.2 ⟨h.noHead ha rest, h.noHead hb rest⟩

theorem noHead_blank (h : SpellsName chars name) (rest : List Char) :
    NoHead isBlank (chars ++ rest) :=
  h.noHead_or (by decide) (by decide) rest

end SpellsName

theorem read_key (h : SpellsName chars name) (rest : List Char) (hrest : NoHead isBare rest)
    (hdot : NoHead (· == '.') (blanks rest)) :
    key.read (chars ++ rest) = some (.bare name, blanks rest) := by
  have hblanks : blanks (chars ++ rest) = chars ++ rest := blanks_of_noHead (h.noHead_blank rest)
  have hitem : ((Toml.name.behind blanks).before blanks).read (chars ++ rest) =
      some (name, blanks rest) := by
    simp [hblanks, h.reads rest hrest]
  simp [key, read_separated_one hitem hdot, Key.ofNames?, Key.bare, nestingLimit]

theorem read_value_of_noHead {chars : List Char}
    (h : NoHead (fun c => c == '[' || c == '\x7b') chars) (depth : Nat) :
    (value depth).read chars = scalar.read chars := by
  cases depth with
  | zero => rfl
  | succ depth =>
      obtain ⟨hbracket, hbrace⟩ := noHead_or_iff.1 h
      simp [value, list, braced, read_mark_of_noHead hbracket, read_mark_of_noHead hbrace]

theorem read_value_written {value : Scalar} (h : value.IsReadable) (depth : Nat)
    (rest : List Char) :
    (Toml.value depth).read (value.written ++ '\n' :: rest) =
      some (.scalar value, '\n' :: rest) := by
  rw [read_value_of_noHead, read_scalar_written h]
  exact noHead_or_iff.2 ⟨noHead_written h (by decide) (by decide) _,
    noHead_written h (by decide) (by decide) _⟩

/-- Characters that are read as a value, if the line ends behind them. -/
structure SpellsValue (chars : List Char) (node : Node) : Prop where
  noBlank : NoHead isBlank chars
  reads : ∀ rest, (value (nestingLimit - 1)).read (chars ++ '\n' :: rest) = some (node, '\n' :: rest)

namespace SpellsValue

variable {node : Node}

theorem noHead_blank (h : SpellsValue chars node) (rest : List Char) :
    NoHead isBlank (chars ++ '\n' :: rest) :=
  h.noBlank.append (by simp [isBlank])

theorem written {value : Scalar} (h : value.IsReadable) :
    SpellsValue value.written (.scalar value) where
  noBlank := by
    have hblank : NoHead isBlank (value.written ++ []) :=
      noHead_or_iff.2 ⟨noHead_written h (by decide) (by decide) [],
        noHead_written h (by decide) (by decide) []⟩
    rwa [List.append_nil] at hblank
  reads rest := read_value_written h _ rest

theorem quoted (text : String) : SpellsValue (quoted text) (.scalar (.text text)) where
  noBlank := noHead_cons.2 (by decide)
  reads rest := by
    have hopens : NoHead (fun c => c == '[' || c == '\x7b') (Toml.quoted text ++ '\n' :: rest) :=
      noHead_cons.2 (by decide)
    rw [read_value_of_noHead hopens, scalar, read_orElse, read_map,
      read_text_quoted text (by simp)]
    simp

end SpellsValue

theorem read_assignment (h : SpellsName chars name) {item : Reader Node}
    {valueChars rest : List Char} {node : Node} (hblank : NoHead isBlank valueChars)
    (hitem : item.read valueChars = some (node, rest)) :
    (assignment item).read (chars ++ ' ' :: '=' :: ' ' :: valueChars) =
      some ((.bare name, node), rest) := by
  have hblanks : blanks (' ' :: '=' :: ' ' :: valueChars) = '=' :: ' ' :: valueChars :=
    blanks_space (by simp [isBlank])
  have hkey := read_key h (' ' :: '=' :: ' ' :: valueChars) (noHead_cons.2 (by decide))
    (by rw [hblanks]; simp)
  simp [assignment, hkey, hblanks, blanks_space hblank, hitem]

theorem read_line_assignment (h : SpellsName chars name) {valueChars : List Char} {node : Node}
    (hvalue : SpellsValue valueChars node) (rest : List Char) :
    line.read (chars ++ ' ' :: '=' :: ' ' :: (valueChars ++ '\n' :: rest)) =
      some (some (.assign (.bare name) node), blanks rest) := by
  have hassign := read_assignment h (hvalue.noHead_blank rest) (hvalue.reads rest)
  generalize hrest : ' ' :: '=' :: ' ' :: (valueChars ++ '\n' :: rest) = after at hassign ⊢
  have hnewline : newline.read (chars ++ after) = none :=
    read_newline_of_noHead (h.noHead_or (by decide) (by decide) after)
  have hcomment : comment.atLineEnd.read (chars ++ after) = none :=
    read_atLineEnd_of_none (read_comment_of_noHead (h.noHead (by decide) after))
  have hstatement : statement.read (chars ++ after) =
      some (.assign (.bare name) node, '\n' :: rest) := by
    have hbracket : NoHead (· == '[') (chars ++ after) := h.noHead (by decide) after
    simp [statement, read_word_of_noHead hbracket, read_mark_of_noHead hbracket, hassign]
  simp [line, hnewline, hcomment, read_atLineEnd_lineFeed hstatement]

theorem read_line_table (h : SpellsName chars name) (rest : List Char) :
    line.read ('[' :: (chars ++ ']' :: '\n' :: rest)) =
      some (some (.table (.bare name)), blanks rest) := by
  have hnewline : newline.read ('[' :: (chars ++ ']' :: '\n' :: rest)) = none :=
    read_newline_of_noHead (by simp)
  have hcomment : comment.atLineEnd.read ('[' :: (chars ++ ']' :: '\n' :: rest)) = none :=
    read_atLineEnd_of_none (read_comment_of_noHead (by simp))
  have helement : (word ['[', '[']).read ('[' :: (chars ++ ']' :: '\n' :: rest)) = none := by
    refine read_word_eq_none fun hprefix => ?_
    have hhead : NoHead (· == '[') (chars ++ ']' :: '\n' :: rest) := h.noHead (by decide) _
    obtain ⟨more, hmore⟩ := (List.cons_prefix_cons.1 hprefix).2
    rw [← hmore] at hhead
    simp at hhead
  have hblanks : blanks (']' :: '\n' :: rest) = ']' :: '\n' :: rest :=
    blanks_of_noHead (by simp [isBlank])
  have hkey := read_key h (']' :: '\n' :: rest) (noHead_cons.2 (by decide))
    (by rw [hblanks]; simp)
  have hstatement : statement.read ('[' :: (chars ++ ']' :: '\n' :: rest)) =
      some (.table (.bare name), '\n' :: rest) := by
    simp [statement, helement, hkey, hblanks]
  simp [line, hnewline, hcomment, read_atLineEnd_lineFeed hstatement]

theorem read_line_empty (rest : List Char) :
    line.read ('\n' :: rest) = some (none, blanks rest) := by
  simp [line, read_newline_lineFeed]

/-- Lines that hold these statements, whatever lines come behind them. -/
structure HoldsStatements (chars : List Char) (statements : List Statement) : Prop where
  noOrderMark : NoHead (· == '\uFEFF') chars
  noBlank : NoHead isBlank chars
  reads : ∀ rest, NoHead isBlank rest → ∃ lines, lines.filterMap id = statements ∧
    line.many (chars ++ rest) = (lines ++ (line.many rest).1, (line.many rest).2)

namespace HoldsStatements

theorem nil : HoldsStatements [] [] where
  noOrderMark := noHead_nil _
  noBlank := noHead_nil _
  reads _ _ := ⟨[], rfl, rfl⟩

theorem append {first second : List Char} {earlier later : List Statement}
    (hfirst : HoldsStatements first earlier) (hsecond : HoldsStatements second later) :
    HoldsStatements (first ++ second) (earlier ++ later) where
  noOrderMark := hfirst.noOrderMark.append hsecond.noOrderMark
  noBlank := hfirst.noBlank.append hsecond.noBlank
  reads rest hrest := by
    obtain ⟨front, rfl, hfront⟩ := hfirst.reads (second ++ rest) (hsecond.noBlank.append hrest)
    obtain ⟨back, rfl, hback⟩ := hsecond.reads rest hrest
    refine ⟨front ++ back, List.filterMap_append, ?_⟩
    rw [List.append_assoc, hfront, hback, List.append_assoc]

theorem flatMap {α : Type} {items : List α} {write : α → List Char}
    {statements : α → List Statement}
    (h : ∀ item ∈ items, HoldsStatements (write item) (statements item)) :
    HoldsStatements (items.flatMap write) (items.flatMap statements) := by
  induction items with
  | nil => exact nil
  | cons item items induction =>
      rw [List.flatMap_cons, List.flatMap_cons]
      exact (h item List.mem_cons_self).append
        (induction fun other hother => h other (List.mem_cons_of_mem item hother))

/-- One line, which may have no statement. -/
theorem line {chars : List Char} (read : Option Statement)
    (hmark : NoHead (· == '\uFEFF') chars) (hblank : NoHead isBlank chars)
    (hread : ∀ rest, Toml.line.read (chars ++ rest) = some (read, blanks rest)) :
    HoldsStatements chars read.toList where
  noOrderMark := hmark
  noBlank := hblank
  reads rest hrest := by
    refine ⟨[read], by cases read <;> rfl, ?_⟩
    rw [many_of_some (hread rest), blanks_of_noHead hrest]
    rfl

theorem empty : HoldsStatements ['\n'] [] :=
  line none (by simp) (by simp [isBlank]) read_line_empty

theorem assignment (h : SpellsName chars name) {valueChars : List Char} {node : Node}
    (hvalue : SpellsValue valueChars node) :
    HoldsStatements (chars ++ [' ', '=', ' '] ++ valueChars ++ ['\n'])
      [.assign (.bare name) node] := by
  refine line (some (.assign (.bare name) node)) ?_ ?_ fun rest => ?_
  · rw [List.append_assoc, List.append_assoc]
    exact h.noHead (by decide) _
  · rw [List.append_assoc, List.append_assoc]
    exact h.noHead_blank _
  · rw [← read_line_assignment h hvalue rest]
    simp

theorem header (h : SpellsName chars name) :
    HoldsStatements ('[' :: chars ++ [']', '\n']) [.table (.bare name)] := by
  refine line (some (.table (.bare name))) (by simp) (by simp [isBlank]) fun rest => ?_
  rw [← read_line_table h rest]
  simp

theorem parse? {chars : List Char} {statements : List Statement}
    (h : HoldsStatements chars statements) :
    Toml.parse? (String.ofList chars) = Entries.ofStatements? statements := by
  have hskip : Skip.optional (mark '\uFEFF') chars = chars :=
    Skip.optional_of_none (read_mark_of_noHead h.noOrderMark)
  have hend : Toml.line.many [] = ([], []) := many_of_none rfl
  obtain ⟨lines, hlines, hmany⟩ := h.reads [] (noHead_nil _)
  rw [List.append_nil, hend, List.append_nil] at hmany
  rw [Toml.parse?, String.toList_ofList, hskip, blanks_of_noHead h.noBlank, hmany]
  exact congrArg Entries.ofStatements? hlines

end HoldsStatements

end Messenger.Toml
