/-!
Whole numbers in decimal digits. A plus sign may stand in front; a minus sign only where negative
numbers are meant. A number outside the range asked for is no number.
-/

namespace Messenger.Text

def digitValue? (c : Char) : Option Nat :=
  if '0' ≤ c ∧ c ≤ '9' then some (c.toNat - '0'.toNat) else none

def digits? : List Char → Option Nat
  | [] => none
  | chars => chars.foldlM (fun value c => (digitValue? c).map (10 * value + ·)) 0

def natural? (bound : Nat) (text : String) : Option Nat :=
  let digits :=
    match text.toList with
    | '+' :: rest => rest
    | chars => chars
  (digits? digits).filter (· ≤ bound)

def integer? (least greatest : Int) (text : String) : Option Int :=
  let value : Option Int :=
    match text.toList with
    | '-' :: rest => (digits? rest).map fun value => -(value : Int)
    | '+' :: rest => (digits? rest).map Int.ofNat
    | chars => (digits? chars).map Int.ofNat
  value.filter fun value => least ≤ value ∧ value ≤ greatest

def word32? (text : String) : Option UInt32 :=
  (natural? 4294967295 text).map UInt32.ofNat

def int64? (text : String) : Option Int :=
  integer? (-9223372036854775808) 9223372036854775807 text

end Messenger.Text
