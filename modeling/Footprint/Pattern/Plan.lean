import Footprint.Pattern.Regular

/-!
# Plans for a search with backtracking

A plan is a pattern as it is searched for: its parts that need no backtracking are matched at once,
with the end that they prefer, and all other parts may be tried again.
-/

namespace Footprint.Pattern

/-- A pattern as it is searched for, where `ρ` stands for the parts that need no backtracking. -/
inductive Plan (ρ : Type) where
  /-- Nothing. -/
  | empty
  /-- A text. -/
  | text (cs : List Char)
  /-- One character. -/
  | one (s : CharSet)
  /-- A condition on the place. -/
  | here (a : Assertion)
  /-- A pattern that needs no backtracking, up to the end that it prefers. -/
  | regular (r : ρ)
  /-- One part after the other. -/
  | seq (a b : Plan ρ)
  /-- One of two parts, first the first. -/
  | alt (a b : Plan ρ)
  /-- A numbered group, which remembers what it matched. -/
  | group (number : Nat) (body : Plan ρ)
  /-- The body from `least` to `most` times, first often when `greedy` holds. -/
  | times (body : Plan ρ) (least : Nat) (most : Option Nat) (greedy : Bool)
  /-- A match of the body that begins `back` characters before the place. -/
  | look (back : Nat) (body : Plan ρ)
  /-- No match of the body that begins `back` characters before the place. -/
  | absent (back : Nat) (body : Plan ρ)
  /-- The first match of the body and no other. -/
  | atomic (body : Plan ρ)
  /-- The text that a group matched. -/
  | backref (number : Nat)
  /-- Nothing, if a group has been entered. -/
  | entered (number : Nat)
  /-- The second plan after a match of the first one, otherwise the third. -/
  | choice (condition yes no : Plan ρ)
  /-- Nothing, at the beginning of the text. -/
  | searchStart

namespace Plan

variable {ρ σ : Type}

/-- The plan with other parts that need no backtracking. -/
def map (f : ρ → σ) : Plan ρ → Plan σ
  | empty => empty
  | text cs => text cs
  | one s => one s
  | here a => here a
  | regular r => regular (f r)
  | seq a b => seq (a.map f) (b.map f)
  | alt a b => alt (a.map f) (b.map f)
  | group number body => group number (body.map f)
  | times body least most greedy => times (body.map f) least most greedy
  | look back body => look back (body.map f)
  | absent back body => absent back (body.map f)
  | atomic body => atomic (body.map f)
  | backref number => backref number
  | entered number => entered number
  | choice condition yes no => choice (condition.map f) (yes.map f) (no.map f)
  | searchStart => searchStart

/-- Plans one after the other. -/
def sequence : List (Plan ρ) → Plan ρ
  | [] => empty
  | [a] => a
  | a :: as => seq a (sequence as)

/-- One of some plans. -/
def oneOf : List (Plan ρ) → Plan ρ
  | [] => empty
  | [a] => a
  | a :: as => alt a (oneOf as)

/-- A regular pattern, up to the end that it prefers. -/
def ofRegular : Rule → Plan Rule
  | .step s => one s
  | .here a => here a
  | r => regular r

/-- Patterns one after the other that are matched at once. -/
def atOnce? (parts : List Tree) : Option (Plan Rule) :=
  if parts.isEmpty then some empty
  else match Tree.plainTextAll? parts with
    | some cs => some (text cs)
    | none => (regularOf? parts).map ofRegular

/-- The plan for a lookaround whose body has the plan `body`. A body before the place has to take up
a fixed number of characters. -/
def look? (behind negated : Bool) (body : Tree) (plan : Option (Plan Rule)) : Option (Plan Rule) :=
  if behind && !body.isConst then none
  else
    let back := if behind then body.minSize else 0
    plan.map (if negated then absent back else look back)

/-- The plan for a lookaround with a plan for each of the branches of its body. -/
def lookBranches? (negated : Bool) (branches : List Tree) (plans : List (Option (Plan Rule))) :
    Option (Plan Rule) := do
  let looks ← (branches.zip plans).mapM fun (b, plan) => look? true negated b plan
  return if negated then sequence looks else oneOf looks

/-- The plan for patterns one after the other, each of which has a plan of its own. What is matched
at once before and after them takes up a fixed number of characters, save for the end of a pattern
after which nothing is `hard`. -/
def concat? (refs : List Nat) (hard : Bool) (parts : List Tree)
    (plans : List (Option (Plan Rule))) : Option (Plan Rule) := do
  let easy := fun (t : Tree) => t.isConst && !t.isHard refs
  let before := (parts.takeWhile easy).length
  let others := parts.drop before
  let closing := others.reverse.takeWhile fun t => if hard then easy t else !t.isHard refs
  let middle := others.length - closing.length
  let planned ← ((plans.drop before).take middle).mapM id
  return sequence
    ([← atOnce? (parts.take before)] ++ planned ++ [← atOnce? (others.drop middle)])

end Plan

mutual

/-- The plan for a pattern whose groups `refs` are referred to. `hard` says that what follows the
pattern may need another match of it. -/
def Tree.plan? (refs : List Nat) (hard : Bool) (t : Tree) : Option (Plan Rule) :=
  if !hard && !t.isHard refs then Plan.atOnce? [t]
  else match t with
    | .empty | .keepOut => some .empty
    | .any newline => some (.one (.any newline))
    | .literal c caseless =>
      some (if caseless then .one (.caseless (.single c)) else .text [c])
    | .set s => some (.one s)
    | .assert a => some (.here a)
    | .concat parts => Plan.concat? refs hard parts (planEach? refs true parts)
    | .alt branches => do return .oneOf (← (planEach? refs hard branches).mapM id)
    | .group number body => do
      let plan ← body.plan? refs hard
      return if refs.contains number then plan.group number else plan
    | .times body least most greedy => do
      let once := least == 0 && most == some 1
      let plan ← body.plan? refs (hard || (!once && body.isHard refs))
      return plan.times (min least (most.getD least)) most greedy
    | .look behind negated body =>
      match behind && !body.isConst, body with
      | true, .alt branches => Plan.lookBranches? negated branches (planEach? refs false branches)
      | _, body => Plan.look? behind negated body (body.plan? refs false)
    | .atomic body => do return .atomic (← body.plan? refs false)
    | .backref number => some (.backref number)
    | .entered number => some (.entered number)
    | .choice condition yes no => do
      return .choice (← condition.plan? refs hard) (← yes.plan? refs hard) (← no.plan? refs hard)
    | .searchStart => some .searchStart

/-- The plan for each pattern of a list. -/
def planEach? (refs : List Nat) (hard : Bool) : List Tree → List (Option (Plan Rule))
  | [] => []
  | t :: ts => t.plan? refs hard :: planEach? refs hard ts

end

end Footprint.Pattern
