import Messenger.Text.Hex
import Messenger.Toml.Number

/-!
Documents of fields and one level of sections, and their text. A text value takes the first of the
forms that holds it without escapes: in quotation marks, in apostrophes, then the same over several
lines. Only what no such form holds is escaped.
-/

namespace Messenger.Toml

open Messenger.Text (padLeft)

structure Outline where
  fields : List (String × Scalar)
  sections : List (String × List (String × Scalar)) := []
deriving DecidableEq, Repr, Inhabited

def nodes (fields : List (String × Scalar)) : Entries :=
  fields.map fun (name, value) => (name, .scalar value)

def Outline.entries (outline : Outline) : Entries :=
  nodes outline.fields ++ outline.sections.map fun (name, fields) =>
    (name, .table .header (nodes fields))

def isCode (c : Char) : Bool :=
  (c.toNat < 0x20 && c != '\t' && c != '\n') || c == '\x7f'

def longestRun (mark : Char) : Nat → Nat → List Char → Nat
  | _, longest, [] => longest
  | current, longest, c :: rest =>
      if c = mark then longestRun mark (current + 1) (max longest (current + 1)) rest
      else longestRun mark 0 longest rest

def writtenChar (manyLines : Bool) (c : Char) : List Char :=
  if c = '\x08' then ['\\', 'b']
  else if c = '\t' then ['\\', 't']
  else if c = '\n' then if manyLines then ['\n'] else ['\\', 'n']
  else if c = '\x0c' then ['\\', 'f']
  else if c = '\r' then ['\\', 'r']
  else if c = '\\' then ['\\', '\\']
  else if isCode c then
    ['\\', 'u'] ++ (padLeft 4 '0' (Nat.toDigits 16 c.toNat)).map Char.toUpper
  else [c]

/-- Over several lines two quotation marks in a row stand as they are, and the third is escaped;
on one line every mark is. -/
def writtenChars (manyLines : Bool) : Nat → List Char → List Char
  | _, [] => []
  | run, c :: rest =>
      if c = '"' then
        if manyLines && run < 2 then '"' :: writtenChars manyLines (run + 1) rest
        else '\\' :: '"' :: writtenChars manyLines 0 rest
      else writtenChar manyLines c ++ writtenChars manyLines 0 rest

def writtenText (text : String) : List Char :=
  let chars := text.toList
  let codes := chars.any isCode
  let several := chars.contains '\n'
  let opening := if several then ['\n'] else []
  let quotes := ['"', '"', '"']
  let apostrophes := ['\x27', '\x27', '\x27']
  if !codes && !several && !chars.contains '\\' && !chars.contains '"' then
    '"' :: writtenChars false 0 chars ++ ['"']
  else if !codes && !several && !chars.contains '\x27' then
    '\x27' :: chars ++ ['\x27']
  else if !codes && !chars.contains '\\' && longestRun '"' 0 0 chars ≤ 2 then
    quotes ++ opening ++ writtenChars true 0 chars ++ quotes
  else if !codes && longestRun '\x27' 0 0 chars ≤ 2 then
    apostrophes ++ opening ++ chars ++ apostrophes
  else if several then
    quotes ++ opening ++ writtenChars true 0 chars ++ quotes
  else
    '"' :: writtenChars false 0 chars ++ ['"']

def Scalar.written : Scalar → List Char
  | .text value => writtenText value
  | .integer value =>
      if value < 0 then '-' :: Nat.toDigits 10 value.natAbs else Nat.toDigits 10 value.natAbs
  | .boolean true => ['t', 'r', 'u', 'e']
  | .boolean false => ['f', 'a', 'l', 's', 'e']

def Scalar.isWritable : Scalar → Bool
  | .integer value => leastInteger ≤ value && value ≤ greatestInteger
  | _ => true

def writtenFields (fields : List (String × Scalar)) : List Char :=
  fields.flatMap fun (name, value) =>
    name.toList ++ [' ', '=', ' '] ++ value.written ++ ['\n']

def writtenSection (name : String) (fields : List (String × Scalar)) : List Char :=
  ['\n', '['] ++ name.toList ++ [']', '\n'] ++ writtenFields fields

def Outline.render? (outline : Outline) : Option String :=
  let scalars := (outline.fields ++ outline.sections.flatMap Prod.snd).map Prod.snd
  if scalars.all Scalar.isWritable then
    some (String.ofList (writtenFields outline.fields ++
      outline.sections.flatMap fun (name, fields) => writtenSection name fields))
  else none

end Messenger.Toml
