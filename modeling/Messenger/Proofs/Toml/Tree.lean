import Messenger.Proofs.Toml.Statements

/-!
The tree of a document in which no name comes twice in one table: the entries that stand in front of
the first header, and a table for each header with the entries behind it, all in the order of the
lines.
-/

namespace Messenger.Toml

namespace Entries

variable {name : String} {entries : Entries}

def names (entries : Entries) : List String :=
  entries.map Prod.fst

theorem lookup_of_notMem (h : name ∉ entries.names) : entries.lookup name = none :=
  List.lookup_eq_none_iff.2 fun _ hmem => bne_iff_ne.2 fun heq =>
    h (heq ▸ List.mem_map_of_mem hmem)

theorem lookup_append_of_notMem (h : name ∉ entries.names) (node : Node) :
    (entries ++ [(name, node)]).lookup name = some node := by
  rw [List.lookup_append, lookup_of_notMem h]
  simp

theorem put_append_of_notMem (h : name ∉ entries.names) (before after : Node) :
    put name after (entries ++ [(name, before)]) = entries ++ [(name, after)] := by
  induction entries with
  | nil => simp [put]
  | cons entry entries induction =>
      simp only [names, List.map_cons, List.mem_cons, not_or] at h
      rw [List.cons_append, put, if_neg (Ne.symm h.1), induction h.2, List.cons_append]

theorem assign?_bare (h : name ∉ entries.names) (node : Node) :
    entries.assign? (.bare name) node = some (entries ++ [(name, node)]) := by
  simp [assign?, update?, Key.bare, add?, lookup_of_notMem h]

theorem opened?_bare (h : name ∉ entries.names) :
    entries.opened? (.bare name) = some (entries ++ [(name, .table .header [])]) := by
  simp [opened?, below?, update?, Key.bare, lookup_of_notMem h]

/-- A path into a tree, and how the tree depends on the table that the path leads to. -/
def LeadsTo (path : List String) (whole : Entries → Entries) : Prop :=
  ∀ table change, (whole table).below? path change = (change table).map whole

theorem leadsTo_nil : LeadsTo [] id := fun table change => by
  simp [below?, update?]

theorem leadsTo_header (h : name ∉ entries.names) :
    LeadsTo [name] fun table => entries ++ [(name, .table .header table)] := fun table change => by
  simp only [below?, update?, lookup_append_of_notMem h]
  cases change table with
  | none => rfl
  | some table => simp [put_append_of_notMem h]

end Entries

open Entries

def assignments (entries : Entries) : List Statement :=
  entries.map fun (name, node) => .assign (.bare name) node

/-- The statements of a table under its header. -/
def tableStatements : String × Entries → List Statement
  | (name, entries) => .table (.bare name) :: assignments entries

/-- Entries go behind those that the open table has, if none of their names is taken. -/
theorem foldlM_assignments {path : List String} {whole : Entries → Entries}
    (hpath : LeadsTo path whole) (entries table : Entries)
    (hnames : (table.names ++ entries.names).Nodup) :
    (assignments entries).foldlM Draft.add? ⟨whole table, path⟩ =
      some ⟨whole (table ++ entries), path⟩ := by
  induction entries generalizing table with
  | nil => simp [assignments]
  | cons entry entries induction =>
      obtain ⟨name, node⟩ := entry
      have hfresh : name ∉ table.names := fun hmem =>
        (List.nodup_append.1 hnames).2.2 name hmem name (by simp [names]) rfl
      have hadd : Draft.add? ⟨whole table, path⟩ (.assign (.bare name) node) =
          some ⟨whole (table ++ [(name, node)]), path⟩ := by
        simp [Draft.add?, hpath table, assign?_bare hfresh]
      have hrest := induction (table ++ [(name, node)]) (by simpa [names] using hnames)
      rw [assignments, List.map_cons, List.foldlM_cons, hadd]
      refine hrest.trans ?_
      simp

theorem foldlM_tables (tables : List (String × Entries)) (entries : Entries) (path : List String)
    (hnames : (entries.names ++ tables.map Prod.fst).Nodup)
    (hentries : ∀ table ∈ tables, (names table.2).Nodup) :
    ((tables.flatMap tableStatements).foldlM Draft.add? ⟨entries, path⟩).map Draft.entries =
      some (entries ++ tables.map fun (name, entries) => (name, .table .header entries)) := by
  induction tables generalizing entries path with
  | nil => simp
  | cons table tables induction =>
      obtain ⟨name, inner⟩ := table
      have hfresh : name ∉ entries.names := fun hmem =>
        (List.nodup_append.1 hnames).2.2 name hmem name (by simp) rfl
      have hopen : Draft.add? ⟨entries, path⟩ (.table (.bare name)) =
          some ⟨entries ++ [(name, .table .header [])], [name]⟩ := by
        rw [Draft.add?, opened?_bare hfresh]
        rfl
      have hassignments := foldlM_assignments (leadsTo_header hfresh) inner []
        (hentries _ List.mem_cons_self)
      have hrest := induction (entries ++ [(name, .table .header inner)]) [name]
        (by simpa [names] using hnames)
        fun other hother => hentries other (List.mem_cons_of_mem _ hother)
      rw [List.flatMap_cons, tableStatements, List.cons_append, List.foldlM_cons, hopen]
      change ((assignments inner ++ _).foldlM Draft.add? _).map Draft.entries = _
      rw [List.foldlM_append, hassignments]
      refine hrest.trans ?_
      simp

/-- No name comes twice: neither among the entries and the tables, nor in one of the tables. -/
theorem ofStatements?_tables {entries : Entries} {tables : List (String × Entries)}
    (hnames : (entries.names ++ tables.map Prod.fst).Nodup)
    (hentries : ∀ table ∈ tables, (names table.2).Nodup) :
    Entries.ofStatements? (assignments entries ++ tables.flatMap tableStatements) =
      some (entries ++ tables.map fun (name, inner) => (name, .table .header inner)) := by
  have hfields := foldlM_assignments leadsTo_nil entries []
    (List.nodup_append.1 hnames).1
  rw [Entries.ofStatements?, List.foldlM_append]
  change Option.map Draft.entries ((List.foldlM Draft.add? ⟨id [], []⟩ _).bind _) = _
  rw [hfields]
  exact foldlM_tables tables entries [] hnames hentries

end Messenger.Toml
