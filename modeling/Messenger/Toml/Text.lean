import Messenger.Toml.Number

/-!
Texts in quotation marks, where a backslash escapes, and in apostrophes, where every character
stands for itself. Three marks in a row open a text of several lines.
-/

namespace Messenger.Toml

def namedChar? : Char → Option Char
  | 'b' => some '\x08'
  | 't' => some '\t'
  | 'n' => some '\n'
  | 'f' => some '\x0c'
  | 'r' => some '\r'
  | '"' => some '"'
  | '\\' => some '\\'
  | _ => none

def codePoint (width : Nat) : Reader Char :=
  (fixedDigits 16 width).filterMap fun value =>
    if value.isValidChar then some (Char.ofNat value) else none

def escaped : Reader Char :=
  Reader.mark '\\' *>
    ((Reader.one fun _ => true).filterMap namedChar? <|>
      Reader.mark 'u' *> codePoint 4 <|> Reader.mark 'U' *> codePoint 8)

def literal : Reader (List Char) :=
  Reader.run fun c => isPlain c && c != '\x27'

def basic : Reader (List Char) :=
  (Reader.run fun c => isPlain c && c != '"' && c != '\\') <|> ([·]) <$> escaped

/-- The end of a line is a line feed, however it is written. -/
def lineFeed : Reader (List Char) :=
  (fun _ => ['\n']) <$> newline

/-- A backslash at the end of a line joins the next line that is not blank to it. -/
def joint : Reader (List Char) :=
  (fun _ => []) <$> ((Reader.mark '\\').before blanks *> newline.before blankLines)

def fewMarks (c : Char) : Reader (List Char) :=
  (Reader.run (· == c)).filter (·.length < 3)

/-- Three marks; one or two more in front of them belong to the text. -/
def closingMarks (c : Char) : Reader (List Char) :=
  (Reader.run (· == c)).filterMap fun marks =>
    if 3 ≤ marks.length ∧ marks.length ≤ 5 then some (marks.drop 3) else none

def oneLine (c : Char) (part : Reader (List Char)) : Reader (List Char) :=
  (fun (_, parts) => parts.flatten) <$> (Reader.mark c).thenMany part <* Reader.mark c

/-- A line feed right behind the opening marks is no part of the text. -/
def manyLines (c : Char) (part : Reader (List Char)) : Reader (List Char) :=
  ((Reader.word [c, c, c]).before (.optional newline)).thenMany
      (part <|> lineFeed <|> fewMarks c) >>= fun (_, parts) =>
    (fun last => parts.flatten ++ last) <$> closingMarks c

def oneLineText : Reader (List Char) :=
  oneLine '"' basic <|> oneLine '\x27' literal

def text : Reader (List Char) :=
  manyLines '"' (joint <|> basic) <|> manyLines '\x27' literal <|> oneLineText

end Messenger.Toml
