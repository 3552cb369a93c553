/-!
Hexadecimal numerals without a marker, filled up with zeros on the left.
-/

namespace Messenger.Text

def padLeft (width : Nat) (fill : Char) (digits : List Char) : List Char :=
  List.replicate (width - digits.length) fill ++ digits

def lowerHex (width value : Nat) : String :=
  String.ofList (padLeft width '0' (Nat.toDigits 16 value))

def upperHex (width value : Nat) : String :=
  String.ofList ((padLeft width '0' (Nat.toDigits 16 value)).map Char.toUpper)

end Messenger.Text
