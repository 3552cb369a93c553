import Messenger.Toml.Node
import Messenger.Toml.Scan

/-!
Numbers. Digits may be grouped by underscores, one between two digits. A whole number is one of 64
bits with a sign. Of other numbers only the form counts, and that a positive one is not too great
for a double.
-/

namespace Messenger.Toml

def digitValue? (base : Nat) (c : Char) : Option Nat :=
  let value :=
    if '0' ≤ c ∧ c ≤ '9' then c.toNat - '0'.toNat
    else if 'a' ≤ c ∧ c ≤ 'f' then c.toNat - 'a'.toNat + 10
    else if 'A' ≤ c ∧ c ≤ 'F' then c.toNat - 'A'.toNat + 10
    else base
  if value < base then some value else none

/-- The number that digits write, or `most` if it is greater. -/
def valueUpTo (most base : Nat) (digits : List Nat) : Nat :=
  digits.foldl (fun value digit => min most (base * value + digit)) 0

def digits (base : Nat) : Reader (List Nat) :=
  (fun groups => groups.flatten.filterMap (digitValue? base)) <$>
    (Reader.run fun c => (digitValue? base c).isSome).separated '_'

def fixedDigits (base count : Nat) : Reader Nat :=
  valueUpTo 0xffffffff base <$> (Reader.next count).filterMap (List.mapM (digitValue? base))

def leastInteger : Int := -9223372036854775808

def greatestInteger : Int := 9223372036854775807

def Scalar.integer? (value : Int) : Option Scalar :=
  if leastInteger ≤ value ∧ value ≤ greatestInteger then some (.integer value) else none

def whole? (negative : Bool) (base : Nat) (digits : List Nat) : Option Node :=
  let value : Int := valueUpTo 0xffffffffffffffff base digits
  .scalar <$> Scalar.integer? (if negative then -value else value)

def based (name : List Char) (base : Nat) : Reader Node :=
  (Reader.word name *> digits base).filterMap (whole? false base)

/-- Halfway from the greatest double to the power of two behind it: from here on a number is
rounded to infinity. -/
def tooGreat : Nat :=
  1 <<< 1024 - 1 <<< 970

def tooGreatLength : Nat := 309

/-- The point stands in front of the fraction, and the exponent moves it. Then the digits before
it, without zeros in front, tell whether the number is too great. -/
def isTooGreat (whole fraction : List Nat) (exponent : Int) : Bool :=
  let digits := (whole ++ fraction).dropWhile (· == 0)
  let length : Int := digits.length - fraction.length + exponent
  let front := digits.take tooGreatLength
  let front := front ++ List.replicate (tooGreatLength - front.length) 0
  !digits.isEmpty && (tooGreatLength < length ||
    length == tooGreatLength && tooGreat ≤ valueUpTo tooGreat 10 front)

def sign : Reader Bool :=
  (· == '-') <$> Reader.one fun c => c == '+' || c == '-'

def unpadded : Reader (List Nat) :=
  (digits 10).filter fun digits => digits.head? != some 0 || digits.length == 1

def fraction : Reader (List Nat) :=
  Reader.mark '.' *> digits 10

def signedExponent (negative : Bool) : Reader Int :=
  (fun digits =>
    let value : Int := valueUpTo 0xffffffffffffffff 10 digits
    if negative then -value else value) <$> digits 10

def exponent : Reader Int :=
  (Reader.one fun c => c == 'e' || c == 'E') *>
    ((sign >>= signedExponent) <|> signedExponent false)

def decimal? (negative : Bool) :
    (List Nat × Option (List Nat)) × Option Int → Option Node
  | ((whole, none), none) => whole? negative 10 whole
  | ((whole, fraction), exponent) =>
      if !negative && isTooGreat whole (fraction.getD []) (exponent.getD 0) then none
      else some .float

def decimal (negative : Bool) : Reader Node :=
  (fun _ => .float) <$> Reader.word ['i', 'n', 'f'] <|>
  (fun _ => .float) <$> Reader.word ['n', 'a', 'n'] <|>
  ((unpadded.followed fraction).followed exponent).filterMap (decimal? negative)

def number : Reader Node :=
  based ['0', 'x'] 16 <|> based ['0', 'o'] 8 <|> based ['0', 'b'] 2 <|>
    (sign >>= decimal) <|> decimal false

end Messenger.Toml
