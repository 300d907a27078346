/-! # Character classes as sorted range tables

A class of code points is stored as an array of closed ranges `(lo, hi)`, sorted and
disjoint. Membership is a binary search over the array. The search agrees with the plain
linear reading `∃ r ∈ t, r.1 ≤ c ≤ r.2` whenever the table is sorted; the tables of this
library are data of the Unicode standard and are sorted by construction. -/

namespace FieldRules.Text

/-- A class of code points given by sorted, disjoint, closed ranges. -/
structure RangeTable where
  ranges : Array (Nat × Nat)

namespace RangeTable

/-- Binary search for `c` among the ranges with index in `[lo, hi)`. -/
def searchIn (t : RangeTable) (c lo hi : Nat) : Bool :=
  if _h : lo < hi then
    let mid := lo + (hi - lo) / 2
    match t.ranges[mid]? with
    | none => false
    | some (a, b) =>
      if c < a then searchIn t c lo mid
      else if b < c then searchIn t c (mid + 1) hi
      else true
  else false
termination_by hi - lo

/-- Whether the code point `c` lies in one of the table's ranges. -/
def contains (t : RangeTable) (c : Nat) : Bool :=
  t.searchIn c 0 t.ranges.size

/-- Whether the character lies in one of the table's ranges. -/
def mem (t : RangeTable) (ch : Char) : Bool :=
  t.contains ch.toNat

end RangeTable

end FieldRules.Text
