/-!
# Sets of characters

A set is given by the sorted code points at which membership changes, so a property of the
Unicode tables with a few hundred ranges is one flat list of numbers.
-/

namespace RowSink.Text

/-- The code points from an odd-numbered boundary up to the next one, the first boundary being
number one. -/
structure CharSet where
  boundaries : List Nat

namespace CharSet

/-- Whether an odd number of boundaries lies at or below the code point. -/
def holds (point : Nat) : List Nat → Bool
  | [] => false
  | boundary :: rest => if point < boundary then false else !holds point rest

def contains (set : CharSet) (char : Char) : Bool :=
  holds char.toNat set.boundaries

end CharSet

end RowSink.Text
