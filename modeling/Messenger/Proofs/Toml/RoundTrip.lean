import Messenger.Proofs.Toml.Tree

/-!
An outline as it is written reads back. Its lines hold an assignment for each field and a header for
each section, and these make its tree again, because no name comes twice in one table.
-/

namespace Messenger.Toml

open Entries

def assigns (fields : List (String × Scalar)) : List Statement :=
  fields.map fun (name, value) => .assign (.bare name) (.scalar value)

theorem assigns_eq (fields : List (String × Scalar)) : assigns fields = assignments (nodes fields) := by
  simp [assigns, assignments, nodes]

def fieldNames (fields : List (String × Scalar)) : List String :=
  fields.map Prod.fst

theorem names_nodes (fields : List (String × Scalar)) :
    (nodes fields).names = fieldNames fields := by
  simp [names, nodes, fieldNames]

def Outline.statements (outline : Outline) : List Statement :=
  assigns outline.fields ++ outline.sections.flatMap fun (name, fields) =>
    .table (.bare name) :: assigns fields

/-- Names that need no marks, and values that read back. -/
def AreReadable (fields : List (String × Scalar)) : Prop :=
  ∀ field ∈ fields, IsBareName field.1 ∧ field.2.IsReadable

theorem AreReadable.nil : AreReadable [] :=
  fun _ hmem => nomatch hmem

theorem AreReadable.cons {name : String} {value : Scalar} {fields : List (String × Scalar)}
    (hname : IsBareName name) (hvalue : value.IsReadable) (h : AreReadable fields) :
    AreReadable ((name, value) :: fields) :=
  List.forall_mem_cons.2 ⟨⟨hname, hvalue⟩, h⟩

/-- No name comes twice in a table. -/
structure Outline.IsReadable (outline : Outline) : Prop where
  fields : AreReadable outline.fields
  sections : ∀ part ∈ outline.sections, IsBareName part.1 ∧ AreReadable part.2
  names_nodup : (fieldNames outline.fields ++ outline.sections.map Prod.fst).Nodup
  fieldNames_nodup : ∀ part ∈ outline.sections, (fieldNames part.2).Nodup

def Outline.tables (outline : Outline) : List (String × Entries) :=
  outline.sections.map fun (name, fields) => (name, nodes fields)

theorem Outline.statements_eq (outline : Outline) : outline.statements =
    assignments (nodes outline.fields) ++ outline.tables.flatMap tableStatements := by
  simp [Outline.statements, Outline.tables, assigns_eq, tableStatements, List.flatMap_map]

theorem Outline.ofStatements?_statements {outline : Outline} (h : outline.IsReadable) :
    Entries.ofStatements? outline.statements = some outline.entries := by
  have hnames : ((nodes outline.fields).names ++ outline.tables.map Prod.fst).Nodup := by
    simpa [Outline.tables, names_nodes, Function.comp_def] using h.names_nodup
  have htables : ∀ table ∈ outline.tables, (names table.2).Nodup := by
    intro table hmem
    obtain ⟨part, hpart, rfl⟩ := List.mem_map.1 hmem
    exact names_nodes part.2 ▸ h.fieldNames_nodup part hpart
  rw [Outline.statements_eq, ofStatements?_tables hnames htables]
  simp [Outline.entries, Outline.tables, Function.comp_def]

theorem holdsStatements_writtenFields {fields : List (String × Scalar)} (h : AreReadable fields) :
    HoldsStatements (writtenFields fields) (assigns fields) := by
  rw [writtenFields, assigns, List.map_eq_flatMap]
  exact HoldsStatements.flatMap fun field hmem =>
    HoldsStatements.assignment (.bare (h field hmem).1) (.written (h field hmem).2)

theorem holdsStatements_writtenSection {name : String} {fields : List (String × Scalar)}
    (hname : IsBareName name) (h : AreReadable fields) :
    HoldsStatements (writtenSection name fields) (.table (.bare name) :: assigns fields) :=
  (HoldsStatements.empty.append (HoldsStatements.header (.bare hname))).append
    (holdsStatements_writtenFields h)

theorem Scalar.IsReadable.isWritable {value : Scalar} (h : value.IsReadable) :
    value.isWritable = true := by
  cases value with
  | integer value =>
      obtain ⟨hleast, hgreatest⟩ := h
      simp [Scalar.isWritable, hleast, hgreatest]
  | text value => rfl
  | boolean value => rfl

/-- What is written is read as the same tree. -/
theorem Outline.parse?_render? {outline : Outline} (h : outline.IsReadable) :
    ∃ text, outline.render? = some text ∧ parse? text = some outline.entries := by
  have hwritable : ((outline.fields ++ outline.sections.flatMap Prod.snd).map Prod.snd).all
      Scalar.isWritable = true := by
    simp only [List.all_eq_true, List.mem_map, List.mem_append, List.mem_flatMap]
    rintro _ ⟨field, hfield | ⟨part, hpart, hfield⟩, rfl⟩
    · exact (h.fields field hfield).2.isWritable
    · exact ((h.sections part hpart).2 field hfield).2.isWritable
  have hlines := (holdsStatements_writtenFields h.fields).append
    (HoldsStatements.flatMap fun part hpart =>
      holdsStatements_writtenSection (h.sections part hpart).1 (h.sections part hpart).2)
  exact ⟨_, if_pos hwritable, hlines.parse?.trans (ofStatements?_statements h)⟩

end Messenger.Toml
