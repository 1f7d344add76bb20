/-!
# Sets of code points

A set of code points is held as an *inversion list*: the ascending list of the numbers at which
membership changes, beginning with the first member. Character properties are unions of intervals,
so this is their shortest plain form, and one membership test serves every table.
-/

namespace ClientSynthesis.Text

/-- Membership in the set that an inversion list describes. -/
def inversionMem : List Nat → Nat → Bool
  | [], _ => false
  | [start], n => decide (start ≤ n)
  | start :: stop :: rest, n =>
    if n < stop then decide (start ≤ n) else inversionMem rest n

end ClientSynthesis.Text
