import Messenger.Text.Utf8

/-!
Three bytes as four characters, six bits each. Base64 fills up the last group with equals signs,
which are written as dashes.
-/

namespace Messenger.Auth.Radix64

open Text (Bytes)

def alphabet : Vector Char 64 :=
  #v['A', 'B', 'C', 'D', 'E', 'F', 'G', 'H', 'I', 'J', 'K', 'L', 'M', 'N', 'O', 'P',
     'Q', 'R', 'S', 'T', 'U', 'V', 'W', 'X', 'Y', 'Z', 'a', 'b', 'c', 'd', 'e', 'f',
     'g', 'h', 'i', 'j', 'k', 'l', 'm', 'n', 'o', 'p', 'q', 'r', 's', 't', 'u', 'v',
     'w', 'x', 'y', 'z', '0', '1', '2', '3', '4', '5', '6', '7', '8', '9', '.', '_']

def symbol (value : Nat) : Char :=
  alphabet[Fin.ofNat 64 value]

def encode : Bytes → List Char
  | first :: second :: third :: rest =>
      let value := (first.toNat * 256 + second.toNat) * 256 + third.toNat
      symbol (value / 262144) :: symbol (value / 4096) :: symbol (value / 64) :: symbol value ::
        encode rest
  | [first, second] =>
      let value := (first.toNat * 256 + second.toNat) * 4
      [symbol (value / 4096), symbol (value / 64), symbol value, '=']
  | [first] =>
      let value := first.toNat * 16
      [symbol (value / 64), symbol value, '=', '=']
  | [] => []

def dashed (symbol : Char) : Char :=
  if symbol = '=' then '-' else symbol

def text (bytes : Bytes) : String :=
  String.ofList ((encode bytes).map dashed)

end Messenger.Auth.Radix64
