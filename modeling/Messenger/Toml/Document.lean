import Messenger.Toml.Moment
import Messenger.Toml.Text

/-!
A document as text. It is read line by line into statements, and the statements make its tree.
Brackets, braces and dots lead less than eighty levels deep.
-/

namespace Messenger.Toml

def nestingLimit : Nat := 80

def isBare (c : Char) : Bool :=
  ('a' ≤ c && c ≤ 'z') || ('A' ≤ c && c ≤ 'Z') || ('0' ≤ c && c ≤ '9') || c == '_' || c == '-'

def name : Reader String :=
  String.ofList <$> (oneLineText <|> Reader.run isBare)

def Key.ofNames? (names : List String) : Option Key :=
  if names.length < nestingLimit then names.getLast?.map fun name => ⟨names.dropLast, name⟩
  else none

def key : Reader Key :=
  (((name.behind blanks).before blanks).separated '.').filterMap Key.ofNames?

def scalar : Reader Node :=
  (fun chars => .scalar (.text (String.ofList chars))) <$> text <|>
  (fun _ => .scalar (.boolean true)) <$> Reader.word ['t', 'r', 'u', 'e'] <|>
  (fun _ => .scalar (.boolean false)) <$> Reader.word ['f', 'a', 'l', 's', 'e'] <|>
  (fun _ => .moment) <$> moment <|>
  number

/-- Items in brackets, over several lines and with commas between them; a comma may stand behind
the last item. -/
def list (item : Reader Node) : Reader Node :=
  let items := (((item.behind gap).before gap).separated ',').before
    (.optional ((Reader.mark ',').before gap))
  (fun (_, items) => .list (items.getD [])) <$>
    ((Reader.mark '[').before gap).followed items <* Reader.mark ']'

def assignment (value : Reader Node) : Reader (Key × Node) :=
  key >>= fun key => (fun node => (key, node)) <$> (Reader.mark '=' *> value.behind blanks)

def braced? (pairs : List (Key × Node)) : Option Node :=
  .table .braced <$> pairs.foldlM (fun entries (key, node) => Entries.assign? key node entries) []

def braced (value : Reader Node) : Reader Node :=
  (((Reader.mark '\x7b').before blanks).followed
      (((assignment value).before blanks).separated ',') <*
    Reader.mark '\x7d').filterMap fun (_, pairs) => braced? (pairs.getD [])

def value : Nat → Reader Node
  | 0 => scalar
  | depth + 1 =>
      let inner := value depth
      list inner <|> braced inner <|> scalar

def statement : Reader Statement :=
  .element <$> (Reader.word ['[', '['] *> key <* Reader.word [']', ']']) <|>
  .table <$> (Reader.mark '[' *> key <* Reader.mark ']') <|>
  (fun (key, node) => .assign key node) <$> assignment (value (nestingLimit - 1))

/-- A line from its first character on that is not blank, with the blanks in front of the next
one. It may have no statement. -/
def line : Reader (Option Statement) :=
  ((fun _ => none) <$> newline <|> (fun _ => none) <$> comment.atLineEnd <|>
    some <$> statement.atLineEnd).before blanks

def parse? (text : String) : Option Entries :=
  match line.many (blanks (Skip.optional (Reader.mark '\uFEFF') text.toList)) with
  | (lines, []) => Entries.ofStatements? (lines.filterMap id)
  | _ => none

end Messenger.Toml
