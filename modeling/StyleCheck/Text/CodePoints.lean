/-
  StyleCheck.Text.CodePoints — sets of code points as tables of ranges.

  A table lists disjoint ranges in ascending order, both ends included. `find?` halves the part
  of the table that can still hold the code point; the part shrinks at every step, so the size
  of the table bounds the number of steps.
-/

import StyleCheck.Text.Basic

namespace StyleCheck.Text

abbrev Ranges := Array (Nat × Nat)

namespace Ranges

/-- Looks for `n` in the rows from `lo` up to `hi`. -/
def findBetween? (t : Ranges) (n : Nat) : (steps lo hi : Nat) → Option (Nat × Nat)
  | 0, _, _ => none
  | steps + 1, lo, hi =>
    if lo < hi then
      let mid := (lo + hi) / 2
      match t[mid]? with
      | none => none
      | some (first, last) =>
        if n < first then findBetween? t n steps lo mid
        else if last < n then findBetween? t n steps (mid + 1) hi
        else some (first, last)
    else none

/-- The range that holds `n`. -/
def find? (t : Ranges) (n : Nat) : Option (Nat × Nat) := findBetween? t n t.size 0 t.size

def has (t : Ranges) (n : Nat) : Bool := (t.find? n).isSome

end Ranges

end StyleCheck.Text
