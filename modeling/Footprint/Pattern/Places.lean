import Footprint.Pattern.Regular

/-!
# Places where regular patterns match

A regular pattern is laid on a text, which leaves of each character set and each condition the
places in the text at which it holds. Sets of places then decide a search: `Regular.origins` is the
set of the places from which a match leads to some goals, and `Regular.pick` is the goal that the
pattern prefers.
-/

namespace Footprint.Pattern

/-- Whether the condition holds at a place. -/
def Assertion.holds (text : Array Char) (p : Nat) (a : Assertion) : Bool :=
  let before := if p = 0 then none else text[p - 1]?
  let after := text[p]?
  match a with
  | textStart => p == 0
  | textEnd => p == text.size
  | lineStart => p == 0 || before == some '\n'
  | lineEnd => p == text.size || after == some '\n'
  | wordBoundary => before.any isWordChar != after.any isWordChar
  | notWordBoundary => before.any isWordChar == after.any isWordChar
  | wordStart => !before.any isWordChar && after.any isWordChar
  | wordEnd => before.any isWordChar && !after.any isWordChar

/-- Whether a character of the set follows a place. -/
def CharSet.follows (text : Array Char) (p : Nat) (s : CharSet) : Bool :=
  text[p]?.any s.contains

/-- The set of the places below `n` at which `f` holds: place `p` is bit `p`. -/
def placesWhere (n : Nat) (f : Nat → Bool) : Nat :=
  (List.range n).foldr (fun p places => 2 * places + (f p).toNat) 0

/-- The set of the places below `n`. -/
def allPlaces (n : Nat) : Nat := (1 <<< n) - 1

/-- A regular pattern laid on a text: its steps and conditions are the places where they hold. -/
abbrev Laid := Regular Nat Nat

/-- The pattern laid on a text. -/
def Regular.lay (text : Array Char) (r : Rule) : Laid :=
  r.map (fun s => placesWhere text.size (s.follows text))
    (fun a => placesWhere (text.size + 1) (a.holds text))

/-- `f` applied `n` times to a set of places; the empty set stays. -/
def iterate (f : Nat → Nat) : (n places : Nat) → Nat
  | 0, places => places
  | n + 1, places => if places = 0 then 0 else iterate f n (f places)

/-- The places `all`, and those that `f` makes of the places `latest` in one to `n` rounds. -/
def spread (f : Nat → Nat) : (n latest all : Nat) → Nat
  | 0, _, all => all
  | n + 1, latest, all =>
    let next := f latest
    if all ||| next = all then all else spread f n next (all ||| next)

namespace Regular

/-- The place `p`, if it is a goal. -/
def stop? (goal p : Nat) : Option Nat := if goal.testBit p then some p else none

/-- The places from which a match leads to a goal, in a text with `size` places. As many rounds of a
repetition lead as far as more rounds. -/
def origins (size : Nat) : Laid → (goal : Nat) → Nat
  | .empty, goal => goal
  | .step s, goal => (goal >>> 1) &&& s
  | .here c, goal => goal &&& c
  | .seq a b, goal => a.origins size (b.origins size goal)
  | .alt a b, goal => a.origins size goal ||| b.origins size goal
  | .times body least most _, goal =>
    let back := body.origins size
    let last := spread back (min (most.getD (least + size) - least) size) goal goal
    iterate back (min least size) last

section Rounds

variable (size : Nat) (pick : (p goal : Nat) → Option Nat) (back : Nat → Nat) (greedy : Bool)
  (goal : Nat)

/-- The goal to which `n` rounds lead. -/
def pickRounds : (n p : Nat) → Option Nat
  | 0, p => stop? goal p
  | n + 1, p => do pickRounds n (← pick p (iterate back (min n size) goal))

/-- The goal to which at most `n` rounds lead. -/
def pickAtMost : (n p : Nat) → Option Nat
  | 0, p => stop? goal p
  | n + 1, p =>
    let next := fun (_ : Unit) => do
      pickAtMost n (← pick p (spread back (min n size) goal goal))
    if greedy then (next ()).orElse fun _ => stop? goal p else (stop? goal p).orElse next

/-- The goal to which one or more rounds lead, where any number leads from the places `all` to a
goal. A round that takes up nothing is the last. -/
def pickSome (all : Nat) : (fuel p : Nat) → Option Nat
  | 0, _ => none
  | fuel + 1, p => do
    let q ← pick p all
    let q ← if q = p && !goal.testBit p then pick p (all ^^^ 1 <<< p) else some q
    if q = p then some p
    else if greedy then (pickSome all fuel q).orElse fun _ => stop? goal q
    else (stop? goal q).orElse fun _ => pickSome all fuel q

end Rounds

/-- The goal to which the match leads that the pattern prefers from the place `p`. -/
def pick (size : Nat) : Laid → (p goal : Nat) → Option Nat
  | .empty, p, goal => stop? goal p
  | .step s, p, goal => if s.testBit p then stop? goal (p + 1) else none
  | .here c, p, goal => if c.testBit p then stop? goal p else none
  | .seq a b, p, goal => do b.pick size (← a.pick size p (b.origins size goal)) goal
  | .alt a b, p, goal => (a.pick size p goal).orElse fun _ => b.pick size p goal
  | .times body least most greedy, p, goal =>
    let round := body.pick size
    let back := body.origins size
    match most, least with
    | some most, least => do
      let last := spread back (min (most - least) size) goal goal
      let q ← pickRounds size round back last least p
      pickAtMost size round back greedy goal (most - least) q
    | none, 0 =>
      let next := fun (_ : Unit) =>
        pickSome round greedy goal (spread back size goal goal) size p
      if greedy then (next ()).orElse fun _ => stop? goal p else (stop? goal p).orElse next
    | none, before + 1 => do
      let all := spread back size goal goal
      let q ← pickRounds size round back (back all) before p
      pickSome round greedy goal all size q

/-- The end of the match that the pattern prefers from a place of a text with `size` places. -/
def end? (size : Nat) (r : Laid) (p : Nat) : Option Nat := r.pick size p (allPlaces size)

/-- Whether a text holds a match. -/
def found (r : Rule) (text : Array Char) : Bool :=
  let size := text.size + 1
  (r.lay text).origins size (allPlaces size) != 0

end Regular

end Footprint.Pattern
