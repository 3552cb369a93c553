/-!
Lengths of time in milliseconds, as they stand in messages: in seconds from one second on, with no
more decimals than needed.
-/

namespace Messenger.Text

/-- Three decimal places without the zeros at their end, after a point where any are left. -/
def thousandths (value : Nat) : String :=
  let places := [value / 100, value / 10 % 10, value % 10]
  let kept := (places.reverse.dropWhile (· == 0)).reverse
  if kept.isEmpty then "" else "." ++ String.join (kept.map toString)

def duration (milliseconds : Nat) : String :=
  if milliseconds = 0 then "0ns"
  else if milliseconds < 1000 then s!"{milliseconds}ms"
  else s!"{milliseconds / 1000}{thousandths (milliseconds % 1000)}s"

end Messenger.Text
