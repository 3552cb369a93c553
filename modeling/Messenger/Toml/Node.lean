/-!
The tree of a TOML document. Headers and dotted keys make it grow, and they define nothing twice:
a key is assigned once, a table has one header, and a table in braces is closed.
-/

namespace Messenger.Toml

inductive Scalar where
  | text (value : String)
  | integer (value : Int)
  | boolean (value : Bool)
deriving DecidableEq, Repr, Inhabited

inductive Origin where
  | header
  /-- It was missing on the way to another header. -/
  | implied
  /-- It was missing on the way to a dotted key. -/
  | dotted
  | braced
deriving DecidableEq, Repr, Inhabited

inductive Node where
  | scalar (value : Scalar)
  | float
  | moment
  | list (items : List Node)
  | table (origin : Origin) (entries : List (String × Node))
  /-- The tables whose headers stand in double brackets, the newest in front of the others. -/
  | tables (newest : List (String × Node)) (older : List (List (String × Node)))
deriving Inhabited

abbrev Entries := List (String × Node)

structure Key where
  path : List String
  name : String
deriving DecidableEq, Repr, Inhabited

namespace Entries

def put (key : String) (node : Node) : Entries → Entries
  | [] => [(key, node)]
  | entry :: rest =>
      if entry.1 = key then (key, node) :: rest else entry :: put key node rest

def add? (key : String) (node : Node) (entries : Entries) : Option Entries :=
  match entries.lookup key with
  | none => some (entries ++ [(key, node)])
  | some _ => none

/-- Changes the table that a path leads to, which may go through the newest of several tables.
What is missing on the way is made. -/
def update? (missing : Origin) (enters : Origin → Bool)
    (change : Origin → Entries → Option Entries) : List String → Origin → Entries → Option Entries
  | [], origin, entries => change origin entries
  | key :: path, _, entries =>
      match entries.lookup key with
      | none =>
          (update? missing enters change path missing []).map fun inner =>
            entries ++ [(key, .table missing inner)]
      | some (.table origin inner) =>
          if enters origin then
            (update? missing enters change path origin inner).map fun inner =>
              entries.put key (.table origin inner)
          else none
      | some (.tables newest older) =>
          (update? missing enters change path .header newest).map fun newest =>
            entries.put key (.tables newest older)
      | some _ => none

/-- Assigns to a key. A dotted key adds to the tables of other dotted keys only. -/
def assign? (key : Key) (node : Node) (entries : Entries) : Option Entries :=
  update? .dotted (fun origin => origin == .dotted || origin == .implied)
    (fun origin entries =>
      if key.path.isEmpty || origin == .dotted then entries.add? key.name node else none)
    key.path .header entries

def below? (path : List String) (change : Entries → Option Entries) (entries : Entries) :
    Option Entries :=
  update? .implied (· != .braced) (fun _ => change) path .header entries

def opened? (key : Key) (entries : Entries) : Option Entries :=
  entries.below? key.path fun entries =>
    match entries.lookup key.name with
    | none => some (entries ++ [(key.name, .table .header [])])
    | some (.table .implied inner) => some (entries.put key.name (.table .header inner))
    | some _ => none

def extended? (key : Key) (entries : Entries) : Option Entries :=
  entries.below? key.path fun entries =>
    match entries.lookup key.name with
    | none => some (entries ++ [(key.name, .tables [] [])])
    | some (.tables newest older) => some (entries.put key.name (.tables [] (newest :: older)))
    | some _ => none

end Entries

inductive Statement where
  | assign (key : Key) (node : Node)
  | table (key : Key)
  | element (key : Key)
deriving Inhabited

structure Draft where
  entries : Entries := []
  path : List String := []
deriving Inhabited

def Draft.add? (draft : Draft) : Statement → Option Draft
  | .assign key node =>
      (draft.entries.below? draft.path (Entries.assign? key node)).map fun entries =>
        { draft with entries }
  | .table key =>
      (draft.entries.opened? key).map fun entries => ⟨entries, key.path ++ [key.name]⟩
  | .element key =>
      (draft.entries.extended? key).map fun entries => ⟨entries, key.path ++ [key.name]⟩

def Entries.ofStatements? (statements : List Statement) : Option Entries :=
  (statements.foldlM Draft.add? {}).map Draft.entries

end Messenger.Toml
