import Messenger.Text.Hex

/-!
JSON values and their compact text. The fields of an object keep their order. Characters below the
blank never stand in the text, so it is one line whatever the strings hold.
-/

namespace Messenger.Text

inductive Json where
  | null
  | bool (value : Bool)
  | num (value : Nat)
  | str (value : String)
  | arr (items : List Json)
  | obj (fields : List (String × Json))
deriving Repr, Inhabited

namespace Json

def escapeChar (c : Char) : List Char :=
  if c = '"' then ['\\', '"']
  else if c = '\\' then ['\\', '\\']
  else if c = '\x08' then ['\\', 'b']
  else if c = '\x0c' then ['\\', 'f']
  else if c = '\n' then ['\\', 'n']
  else if c = '\r' then ['\\', 'r']
  else if c = '\t' then ['\\', 't']
  else if c.toNat < 0x20 then ['\\', 'u'] ++ padLeft 4 '0' (Nat.toDigits 16 c.toNat)
  else [c]

def string (text : String) : List Char :=
  '"' :: text.toList.flatMap escapeChar ++ ['"']

mutual

def chars : Json → List Char
  | .null => ['n', 'u', 'l', 'l']
  | .bool true => ['t', 'r', 'u', 'e']
  | .bool false => ['f', 'a', 'l', 's', 'e']
  | .num value => Nat.toDigits 10 value
  | .str value => string value
  | .arr items => '[' :: itemChars items ++ [']']
  | .obj fields => '\x7b' :: fieldChars fields ++ ['\x7d']

def itemChars : List Json → List Char
  | [] => []
  | [item] => chars item
  | item :: rest => chars item ++ ',' :: itemChars rest

def fieldChars : List (String × Json) → List Char
  | [] => []
  | [(key, value)] => string key ++ ':' :: chars value
  | (key, value) :: rest => string key ++ ':' :: chars value ++ ',' :: fieldChars rest

end

def render (value : Json) : String :=
  String.ofList value.chars

def ofOption (encode : α → Json) : Option α → Json
  | none => .null
  | some value => encode value

end Json

end Messenger.Text
