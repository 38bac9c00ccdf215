import Footprint.Pattern.Tree

/-!
# Patterns without backtracking

A regular pattern is built from steps over one character and conditions on a place by sequence,
choice and repetition. `regularOf?` finds the regular pattern that says the same as a pattern,
unless a machine for it were too large.
-/

namespace Footprint.Pattern

/-- A pattern whose parts are steps over one character and conditions on a place. -/
inductive Regular (σ κ : Type) where
  /-- Nothing. -/
  | empty
  /-- One character. -/
  | step (s : σ)
  /-- A condition on the place. -/
  | here (c : κ)
  /-- One part after the other. -/
  | seq (a b : Regular σ κ)
  /-- One of two parts, preferably the first. -/
  | alt (a b : Regular σ κ)
  /-- The body from `least` to `most` times, preferably often when `greedy` holds. -/
  | times (body : Regular σ κ) (least : Nat) (most : Option Nat) (greedy : Bool)

namespace Regular

variable {σ κ τ μ : Type}

/-- The pattern with other steps and conditions. -/
def map (f : σ → τ) (g : κ → μ) : Regular σ κ → Regular τ μ
  | empty => empty
  | step s => step (f s)
  | here c => here (g c)
  | seq a b => seq (a.map f g) (b.map f g)
  | alt a b => alt (a.map f g) (b.map f g)
  | times body least most greedy => times (body.map f g) least most greedy

/-- Whether the pattern takes up no character. -/
def isHollow : Regular σ κ → Bool
  | empty | here _ => true
  | step _ => false
  | seq a b | alt a b => a.isHollow && b.isHollow
  | times body _ most _ => body.isHollow || most == some 0

/-- Whether the bounds of all repetitions are in order and fit into 32 bits. -/
def isBounded : Regular σ κ → Bool
  | seq a b | alt a b => a.isBounded && b.isBounded
  | times body least most _ =>
    body.isBounded && decide (least < UInt32.size) &&
      most.all fun m => decide (least ≤ m ∧ m < UInt32.size)
  | _ => true

/-- An estimate of the bytes that a machine for the pattern needs. -/
def weight (f : σ → Nat) : Regular σ κ → Nat
  | empty => 0
  | here _ => 32
  | step s => f s
  | seq a b | alt a b => a.weight f + b.weight f
  | times body least most _ =>
    let copies := max 1 (most.getD least)
    body.weight f * if body.isHollow then 1 else copies

end Regular

/-- A regular pattern, before it is laid on a text. -/
abbrev Rule := Regular CharSet Assertion

/-- The greatest weight of a pattern that is searched for without backtracking. -/
def maxWeight : Nat := 10 * 1024 * 1024

mutual

/-- A pattern that needs no backtracking, as a regular one. -/
def Tree.regular? : Tree → Option Rule
  | .empty => some .empty
  | .any newline => some (.step (.any newline))
  | .literal c caseless => some (.step (CharSet.foldIf caseless (.single c)))
  | .set s => some (.step s)
  | .assert a => some (.here a)
  | .concat parts => sequenceRegular? parts
  | .alt branches => branchRegular? branches
  | .group _ body => body.regular?
  | .times body least most greedy => do return (← body.regular?).times least most greedy
  | _ => none

/-- The patterns of a list one after the other. -/
def sequenceRegular? : List Tree → Option Rule
  | [] => some .empty
  | [t] => t.regular?
  | t :: ts => do return (← t.regular?).seq (← sequenceRegular? ts)

/-- One of the patterns of a list. -/
def branchRegular? : List Tree → Option Rule
  | [] => none
  | [t] => t.regular?
  | t :: ts => do return (← t.regular?).alt (← branchRegular? ts)

end

/-- Patterns one after the other as a regular pattern, if it is not too large. -/
def regularOf? (parts : List Tree) : Option Rule := do
  let r ← sequenceRegular? parts
  if r.isBounded && r.weight CharSet.weight ≤ maxWeight then some r else none

end Footprint.Pattern
