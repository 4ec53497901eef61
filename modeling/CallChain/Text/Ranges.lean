/-!
# Sets of code points, kept as alternating bounds

A property of characters is stored as the increasing list of code points at which it
switches on or off, starting with "off" at zero.  A code point has the property exactly
when an odd number of bounds lies at or below it, so membership is one binary search.
The bounds are written down as the gaps between them, in base 36 and separated by blanks,
which keeps a table of several hundred ranges to a few lines.
-/

namespace CallChain.Text

/-- Switch points of a set of code points, in increasing order. -/
structure Ranges where
  bounds : Array Nat
  deriving Inhabited

namespace Ranges

/-- The value of one base-36 digit; anything that is not one counts as zero. -/
def digit (c : Char) : Nat :=
  if c.isDigit then c.toNat - 48
  else if 'a' ≤ c ∧ c ≤ 'z' then c.toNat - 87
  else 0

/-- Adds up the gaps: `gap` is the number read so far and `total` the last bound. -/
def sums : List Char → Nat → Nat → Array Nat → Array Nat
  | [], gap, total, out => out.push (total + gap)
  | ' ' :: rest, gap, total, out => sums rest 0 (total + gap) (out.push (total + gap))
  | c :: rest, gap, total, out => sums rest (gap * 36 + digit c) total out

/-- Reads a table of gaps. -/
def ofGaps (text : String) : Ranges := ⟨sums text.toList 0 0 #[]⟩

/-- How many bounds are at most `point`, searched for between `low` and `high`. -/
def rank (r : Ranges) (point low high : Nat) : Nat :=
  if h : low < high then
    let middle := (low + high) / 2
    if (r.bounds[middle]?.getD 0) ≤ point then r.rank point (middle + 1) high
    else r.rank point low middle
  else low
termination_by high - low

/-- Whether `point` belongs to the set. -/
def contains (r : Ranges) (point : Nat) : Bool :=
  r.rank point 0 r.bounds.size % 2 == 1

end Ranges

end CallChain.Text
