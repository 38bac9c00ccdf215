/-!
# Sets of characters as ranges

A property of characters is a sorted array of disjoint ranges of code points. `contains` finds the
range of a code point by bisection, and `unpack` reads the letters in which the larger tables are
written.
-/

namespace Footprint.Unicode

/-- The code points from `first` to `last`, both included. -/
structure Range where
  /-- The least code point. -/
  first : Nat
  /-- The greatest code point. -/
  last : Nat
deriving Repr, DecidableEq

/-- Whether a code point lies in a range. -/
def Range.holds (r : Range) (n : Nat) : Bool :=
  r.first ≤ n && n ≤ r.last

/-- The index below `hi` and from `lo` on of the last range that begins at or before `n`, by
bisection. -/
def bisect (starts : Array Nat) (n lo hi : Nat) : Nat :=
  if lo + 1 < hi then
    let mid := (lo + hi) / 2
    if starts.getD mid 0 ≤ n then bisect starts n mid hi else bisect starts n lo mid
  else lo
termination_by hi - lo

/-- A sorted table of disjoint ranges, with the code points at which they begin. -/
structure Ranges where
  /-- The ranges in increasing order. -/
  ranges : Array Range
  /-- The first code point of each range. -/
  starts : Array Nat := ranges.map Range.first
deriving Repr

/-- Whether a code point lies in one of the ranges. -/
def Ranges.contains (t : Ranges) (n : Nat) : Bool :=
  match t.ranges[bisect t.starts n 0 t.ranges.size]? with
  | some r => r.holds n
  | none => false

/-- Reads numbers written in base 26, over several lines: a letter is a digit, and an upper-case
letter ends its number. -/
def numbers (lines : List String) : List Nat :=
  let step : Nat × List Nat → Char → Nat × List Nat
    | (n, done), c =>
      if c.isUpper then (0, (n * 26 + (c.toNat - 'A'.toNat)) :: done)
      else (n * 26 + (c.toNat - 'a'.toNat), done)
  let read (acc : Nat × List Nat) (line : String) := line.toList.foldl step acc
  (lines.foldl read (0, [])).2.reverse

/-- Ranges from alternating gaps and lengths: each range begins `gap` code points after the one
before it ended, and holds `length + 1` code points. -/
def ofGaps : Nat → List Nat → List Range
  | next, gap :: length :: rest =>
    ⟨next + gap, next + gap + length⟩ :: ofGaps (next + gap + length + 1) rest
  | _, _ => []

/-- The table written as packed gaps and lengths. -/
def unpack (lines : List String) : Ranges :=
  { ranges := (ofGaps 0 (numbers lines)).toArray }

end Footprint.Unicode
