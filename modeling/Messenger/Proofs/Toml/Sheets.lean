import Messenger.Proofs.Toml.Tree

/-!
Sheets: any names and any values, in any order, one line each, in front of the first header and
behind the headers. A sheet is a document, and its tree is what it shows.
-/

namespace Messenger.Toml

open Entries

/-- A value and the characters that it is written in. -/
structure WrittenValue where
  chars : List Char
  node : Node
  spells : SpellsValue chars node

def WrittenValue.text (text : String) : WrittenValue :=
  ⟨quoted text, .scalar (.text text), .quoted text⟩

def WrittenValue.integer (value : Int) (hleast : leastInteger ≤ value)
    (hgreatest : value ≤ greatestInteger) : WrittenValue :=
  ⟨_, _, .written (show (Scalar.integer value).IsReadable from ⟨hleast, hgreatest⟩)⟩

def WrittenValue.boolean (value : Bool) : WrittenValue :=
  ⟨_, _, .written (show (Scalar.boolean value).IsReadable from trivial)⟩

/-- Any text, any number of 64 bits and both truth values can be written. -/
def WrittenValue.ofScalar : (value : Scalar) → value.isWritable = true → WrittenValue
  | .text text, _ => .text text
  | .integer value, h =>
      .integer value (by simp_all [Scalar.isWritable]) (by simp_all [Scalar.isWritable])
  | .boolean value, _ => .boolean value

@[simp] theorem WrittenValue.node_ofScalar (value : Scalar) (h : value.isWritable = true) :
    (WrittenValue.ofScalar value h).node = .scalar value := by
  cases value <;> rfl

abbrev Block := List (String × WrittenValue)

namespace Block

def names (block : Block) : List String :=
  block.map Prod.fst

def entries (block : Block) : Entries :=
  block.map fun (name, value) => (name, value.node)

def lines (block : Block) : List Char :=
  block.flatMap fun (name, value) => writtenName name ++ [' ', '=', ' '] ++ value.chars ++ ['\n']

theorem names_entries (block : Block) : block.entries.names = block.names := by
  simp [entries, Entries.names, names]

theorem holdsStatements (block : Block) : HoldsStatements block.lines (assignments block.entries) := by
  have hflat : assignments block.entries =
      block.flatMap fun (name, value) => [.assign (.bare name) value.node] := by
    simp [assignments, entries, List.map_eq_flatMap, List.flatMap_assoc]
  rw [hflat]
  exact HoldsStatements.flatMap fun field _ =>
    HoldsStatements.assignment (.written field.1) field.2.spells

end Block

/-- No name comes twice, neither in a block nor among the lines in front and the headers. -/
structure Sheet where
  front : Block
  sections : List (String × Block)
  names_nodup : (front.names ++ sections.map Prod.fst).Nodup
  sectionNames_nodup : ∀ part ∈ sections, part.2.names.Nodup

namespace Sheet

def text (sheet : Sheet) : String :=
  String.ofList (sheet.front.lines ++ sheet.sections.flatMap fun (name, block) =>
    ['\n', '['] ++ writtenName name ++ [']', '\n'] ++ block.lines)

def tables (sheet : Sheet) : List (String × Entries) :=
  sheet.sections.map fun (name, block) => (name, block.entries)

def headed (sheet : Sheet) : Entries :=
  sheet.tables.map fun (name, entries) => (name, .table .header entries)

def tree (sheet : Sheet) : Entries :=
  sheet.front.entries ++ sheet.headed

theorem holdsStatements_section (part : String × Block) :
    HoldsStatements (['\n', '['] ++ writtenName part.1 ++ [']', '\n'] ++ part.2.lines)
      (tableStatements (part.1, part.2.entries)) :=
  (HoldsStatements.empty.append (HoldsStatements.header (.written part.1))).append
    part.2.holdsStatements

theorem parse?_text (sheet : Sheet) : parse? sheet.text = some sheet.tree := by
  have hnames : (sheet.front.entries.names ++ sheet.tables.map Prod.fst).Nodup := by
    simpa [tables, Block.names_entries, Function.comp_def] using sheet.names_nodup
  have htables : ∀ table ∈ sheet.tables, (names table.2).Nodup := by
    intro table hmem
    obtain ⟨part, hpart, rfl⟩ := List.mem_map.1 hmem
    exact part.2.names_entries ▸ sheet.sectionNames_nodup part hpart
  have hlines := sheet.front.holdsStatements.append
    (HoldsStatements.flatMap fun part (_ : part ∈ sheet.sections) => holdsStatements_section part)
  have hparse := hlines.parse?
  rw [← List.flatMap_map] at hparse
  exact hparse.trans (ofStatements?_tables hnames htables)

end Sheet

end Messenger.Toml
