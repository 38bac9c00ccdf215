import Footprint.Pattern.Places
import Footprint.Pattern.Plan

/-!
# Searching with backtracking

A search follows a plan from each place of the text in turn. Where the plan has several ways on, the
search resumes with the next one when a way fails. It gives up after `maxResumes` of these.
-/

namespace Footprint.Pattern

/-- The number of times that a search may resume. -/
def maxResumes : Nat := 1000000

/-- One of the two ends of a group. -/
inductive GroupEnd where
  /-- Where the group begins. -/
  | first (number : Nat)
  /-- Where the group ends. -/
  | last (number : Nat)
deriving DecidableEq

/-- How far a search has come. -/
structure Place where
  /-- The number of characters before the place. -/
  pos : Nat
  /-- The ends of groups that were passed, the latest first. -/
  passed : List (GroupEnd × Nat)

/-- How the ways on from a place end. -/
inductive Outcome where
  /-- A way leads to a match. -/
  | found (place : Place) (resumes : Nat)
  /-- No way does. -/
  | failed (resumes : Nat)
  /-- The search resumed too often. -/
  | gaveUp

/-- Resumes after a failure with the ways `next`. -/
def Outcome.orResume : Outcome → (Nat → Outcome) → Outcome
  | failed n, next => if n < maxResumes then next (n + 1) else gaveUp
  | o, _ => o

/-- What follows in a plan, from a place and a number of resumes. -/
abbrev Continuation := Place → Nat → Outcome

/-- The ways through a part of a plan and on to a continuation. -/
abbrev Ways := Continuation → Continuation

namespace Ways

/-- A part that is passed on the spot or not at all. -/
def when (test : Place → Bool) : Ways := fun k s n => if test s then k s n else .failed n

/-- A part with at most one way, to a later place. -/
def move (next : Place → Option Nat) : Ways := fun k s n =>
  match next s with
  | some pos => k { s with pos } n
  | none => .failed n

/-- One of two parts, first the first. -/
def either (a b : Ways) : Ways := fun k s n => (a k s n).orResume fun n => b k s n

/-- A part or nothing, first the part when `greedy` holds. -/
def optional (greedy : Bool) (a : Ways) : Ways := if greedy then either a id else either id a

/-- A part `n` times. -/
def exactly (a : Ways) : Nat → Ways
  | 0 => id
  | n + 1 => a ∘ exactly a n

/-- A part at most `n` times. -/
def atMost (greedy : Bool) (a : Ways) : Nat → Ways
  | 0 => id
  | n + 1 => optional greedy (a ∘ atMost greedy a n)

/-- A part that takes up a character or more. -/
def moving (a : Ways) : Ways := fun k s n =>
  a (fun t n => if t.pos = s.pos then .failed n else k t n) s n

/-- A part any number of times, of which each takes up a character or more, and `n` times at
most. -/
def many (greedy : Bool) (a : Ways) : Nat → Ways
  | 0 => id
  | n + 1 => optional greedy (moving a ∘ many greedy a n)

/-- The first way through a part, and no other. -/
def atomic (a : Ways) : Ways := fun k s n =>
  match a .found s n with
  | .found t n => k t n
  | o => o

/-- A part whose ways end where they begin, after going back. -/
def look (back : Nat) (a : Ways) : Ways := fun k s n =>
  if s.pos < back then .failed n
  else a (fun t n => k { t with pos := s.pos } n) { s with pos := s.pos - back } n

/-- On the spot, if there is no way through a part after going back. -/
def absent (back : Nat) (a : Ways) : Ways := fun k s n =>
  match look back a .found s n with
  | .found _ n => .failed n
  | o => o.orResume fun n => k s n

/-- The second part after the first way through the first part, otherwise the third. -/
def choice (condition yes no : Ways) : Ways := fun k s n =>
  match condition .found s n with
  | .found t n => yes k t n
  | o => o.orResume fun n => no k s n

/-- A part whose ends are remembered. -/
def group (number : Nat) (a : Ways) : Ways := fun k s n =>
  a (fun t n => k { t with passed := (.last number, t.pos) :: t.passed } n)
    { s with passed := (.first number, s.pos) :: s.passed } n

end Ways

/-- The place after `cs`, if they are what follows `pos`. -/
def afterText? (text : Array Char) : (cs : List Char) → (pos : Nat) → Option Nat
  | [], pos => some pos
  | c :: cs, pos => if text[pos]? = some c then afterText? text cs (pos + 1) else none

/-- The text that a group matched, if it was entered and left. -/
def Place.matched? (text : Array Char) (number : Nat) (s : Place) : Option (List Char) := do
  let first ← s.passed.lookup (.first number)
  let last ← s.passed.lookup (.last number)
  return (text.extract first last).toList

/-- The ways through a text that a plan has, whose regular parts are laid on the text. -/
def Plan.ways (text : Array Char) : Plan Laid → Ways
  | empty => id
  | .text cs => .move fun s => afterText? text cs s.pos
  | one c => .move fun s => if c.follows text s.pos then some (s.pos + 1) else none
  | here a => .when fun s => a.holds text s.pos
  | regular r => .move fun s => r.end? (text.size + 1) s.pos
  | seq a b => a.ways text ∘ b.ways text
  | alt a b => .either (a.ways text) (b.ways text)
  | group number body => .group number (body.ways text)
  | times body least most greedy =>
    let body := body.ways text
    Ways.exactly body least ∘ match most with
      | some most => Ways.atMost greedy body (most - least)
      | none => Ways.many greedy body (text.size + 1)
  | look back body => .look back (body.ways text)
  | absent back body => .absent back (body.ways text)
  | atomic body => .atomic (body.ways text)
  | backref number => .move fun s => do afterText? text (← s.matched? text number) s.pos
  | entered number => .when fun s => (s.passed.lookup (.first number)).isSome
  | choice condition yes no => .choice (condition.ways text) (yes.ways text) (no.ways text)
  | searchStart => .when fun s => s.pos == 0

/-- Searches from a place and, when that fails, from the next `left` places. -/
def Plan.searchFrom (p : Plan Laid) (text : Array Char) (left pos resumes : Nat) : Outcome :=
  let first := p.ways text .found ⟨pos, [(.first 0, pos)]⟩ resumes
  match left with
  | 0 => first.orResume .failed
  | left + 1 => first.orResume fun n => p.searchFrom text left (pos + 1) n

/-- Searches for a match anywhere in a text. -/
def Plan.search (p : Plan Rule) (text : Array Char) : Outcome :=
  (p.map (Regular.lay text)).searchFrom text text.size 0 0

end Footprint.Pattern
