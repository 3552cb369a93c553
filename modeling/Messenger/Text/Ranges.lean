/-!
Sets of characters as ranges of code points, both ends included.
-/

namespace Messenger.Text

def inRanges (ranges : List (Nat × Nat)) (c : Char) : Bool :=
  ranges.any fun range => range.1 ≤ c.toNat && c.toNat ≤ range.2

end Messenger.Text
