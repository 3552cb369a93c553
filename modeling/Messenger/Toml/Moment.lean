import Messenger.Toml.Number

/-!
Dates and times of day. They have to be on the calendar and on the clock; nothing asks for their
values.
-/

namespace Messenger.Toml

def isLeapYear (year : Nat) : Bool :=
  year % 4 == 0 && (year % 100 != 0 || year % 400 == 0)

def daysOfMonth (year month : Nat) : Nat :=
  if month = 2 then if isLeapYear year then 29 else 28
  else if month ∈ [4, 6, 9, 11] then 30
  else 31

def twoDigits (least most : Nat) : Reader Nat :=
  (fixedDigits 10 2).filter fun value => least ≤ value && value ≤ most

def date : Reader Unit :=
  fixedDigits 10 4 >>= fun year =>
  Reader.mark '-' *> twoDigits 1 12 >>= fun month =>
  Reader.mark '-' *> (fun _ => ()) <$> twoDigits 1 (daysOfMonth year month)

def hourAndMinute : Reader Unit :=
  twoDigits 0 23 *> Reader.mark ':' *> (fun _ => ()) <$> twoDigits 0 59

/-- A minute may have a leap second. -/
def time : Reader Unit :=
  (fun _ => ()) <$> (hourAndMinute *> Reader.mark ':' *> twoDigits 0 60).followed
    (Reader.mark '.' *> Reader.run Char.isDigit)

def offset : Reader Unit :=
  (fun _ => ()) <$> Reader.one (fun c => c == 'Z' || c == 'z') <|>
  Reader.one (fun c => c == '+' || c == '-') *> hourAndMinute

def moment : Reader Unit :=
  (fun _ => ()) <$> date.followed
    (Reader.one (fun c => c == 'T' || c == 't' || c == ' ') *> time.followed offset) <|>
  time

end Messenger.Toml
