import Messenger.Digest.Md5

/-!
The salted MD5 scheme with the mark `$1$`: a first digest that mixes password and salt, a thousand
rounds over it, and its sixteen bytes as twenty-two characters of six bits, lowest first.
-/

namespace Messenger.Auth.CryptHash

open Text (packed)
open Digest (md5)

def mark : String := "$1$"

def alphabet : Vector Char 64 :=
  #v['.', '/', '0', '1', '2', '3', '4', '5', '6', '7', '8', '9', 'A', 'B', 'C', 'D',
     'E', 'F', 'G', 'H', 'I', 'J', 'K', 'L', 'M', 'N', 'O', 'P', 'Q', 'R', 'S', 'T',
     'U', 'V', 'W', 'X', 'Y', 'Z', 'a', 'b', 'c', 'd', 'e', 'f', 'g', 'h', 'i', 'j',
     'k', 'l', 'm', 'n', 'o', 'p', 'q', 'r', 's', 't', 'u', 'v', 'w', 'x', 'y', 'z']

/-- The given number of six-bit symbols of a value, the lowest bits first. -/
def symbols : Nat → Nat → List Char
  | 0, _ => []
  | count + 1, value => alphabet[Fin.ofNat 64 value] :: symbols count (value / 64)

/-- Which three bytes of the digest stand together, highest first. -/
def triples : List (Nat × Nat × Nat) :=
  [(0, 6, 12), (1, 7, 13), (2, 8, 14), (3, 9, 15), (4, 10, 5)]

def digestSymbols (digest : Vector UInt8 16) : List Char :=
  let byte (index : Nat) : Nat := (digest.toArray.getD index 0).toNat
  (triples.flatMap fun (high, middle, low) =>
    symbols 4 ((byte high * 256 + byte middle) * 256 + byte low)) ++ symbols 2 (byte 11)

/-! The salt ends before its first dollar sign, and after eight bytes. -/

def saltChars (salt : String) : List Char :=
  salt.toList.takeWhile (· != '$')

def saltBytes (salt : String) : ByteArray :=
  (String.ofList (saltChars salt)).toUTF8.extract 0 8

/-- As many characters as fit; one that is cut in the middle leaves a replacement character. -/
def cutChars : Nat → List Char → List Char
  | _, [] => []
  | 0, _ :: _ => []
  | size + 1, c :: rest =>
      if c.utf8Size ≤ size + 1 then c :: cutChars (size + 1 - c.utf8Size) rest else ['\ufffd']

def saltText (salt : String) : List Char :=
  cutChars 8 (saltChars salt)

/-- The digest behind the message, over and over, until as many bytes are written as remain. -/
def stretch (digest : Vector UInt8 16) (message : ByteArray) (remaining : Nat) : ByteArray :=
  if remaining = 0 then
    message
  else
    let size := min remaining 16
    stretch digest (message ++ packed (digest.toList.take size)) (remaining - size)
termination_by remaining

/-- One byte behind the message for each binary digit of the number, the lowest first: zero for a
one, the first byte of the password for a zero. -/
def markDigits (password message : ByteArray) (number : Nat) (hnumber : number ≤ password.size) :
    ByteArray :=
  if hzero : number = 0 then
    message
  else
    let byte : UInt8 := if number % 2 = 1 then 0 else password[0]
    markDigits password (message.push byte) (number / 2) (by omega)
termination_by number

def firstMessage (password salt : ByteArray) : ByteArray :=
  let other := md5 (password ++ salt ++ password)
  let stretched := stretch other (password ++ mark.toUTF8 ++ salt) password.size
  markDigits password stretched password.size (Nat.le_refl _)

def roundBytes (password salt : ByteArray) (digest : Vector UInt8 16) (round : Nat) : ByteArray :=
  (if round % 2 = 1 then password else ⟨digest.toArray⟩) ++
    (if round % 3 = 0 then .empty else salt) ++
    (if round % 7 = 0 then .empty else password) ++
    (if round % 2 = 1 then ⟨digest.toArray⟩ else password)

def finalDigest (password salt : ByteArray) : Vector UInt8 16 :=
  (List.range 1000).foldl (fun digest round => md5 (roundBytes password salt digest round))
    (md5 (firstMessage password salt))

def text (password : ByteArray) (salt : String) : String :=
  mark ++ String.ofList (saltText salt ++
    '$' :: digestSymbols (finalDigest password (saltBytes salt)))

end Messenger.Auth.CryptHash
