import Mathlib.Data.List.Infix
import Footprint.Pattern.Basic

/-!
# What regular expressions mean

The part of the syntax of regular expressions that placeholders are written out in: characters that
stand for themselves, groups, and lookarounds of one character. `Regex.text` is how an expression is
written, and `Regex.Matches` says what it matches between two parts of a text, with a rule for each
construct.

`Engine.Documented` is what is asked of an engine: it takes these texts for regular expressions, and
finds a match in a text where there is one. What it does with other expressions is left open, and
how deep groups may be nested is up to the engine.
-/

namespace Footprint.Pattern

/-- A character of identifiers: an ASCII letter or digit or an underscore. -/
def isIdentifierChar (c : Char) : Bool :=
  c.isAlphanum || c == '_'

/-- A character without a meaning of its own in a regular expression. -/
def isPlain (c : Char) : Bool :=
  !"\\.+*?()|[]\x7b\x7d^$#&-~".toList.contains c

/-- A set of characters in brackets, written as ranges of characters of identifiers. -/
structure CharClass where
  /-- The first and the last character of each range. -/
  ranges : List (Char × Char)
  /-- There is a range. -/
  ranges_ne_nil : ranges ≠ []
  /-- A range begins and ends with a character of identifiers. -/
  isIdentifierChar_of_mem : ∀ r ∈ ranges, isIdentifierChar r.1 = true ∧ isIdentifierChar r.2 = true
  /-- A range begins before it ends. -/
  le_of_mem : ∀ r ∈ ranges, r.1 ≤ r.2

/-- A range as it is written: a single character stands for itself. -/
def rangeText (r : Char × Char) : List Char :=
  if r.1 = r.2 then [r.1] else [r.1, '-', r.2]

/-- Whether a character lies in one of some ranges. -/
def inRanges (ranges : List (Char × Char)) (c : Char) : Bool :=
  ranges.any fun r => decide (r.1 ≤ c) && decide (c ≤ r.2)

namespace CharClass

/-- A set as it is written. -/
def text (k : CharClass) : List Char :=
  '[' :: (k.ranges.flatMap rangeText ++ [']'])

/-- Whether a character belongs to a set. -/
def contains (k : CharClass) (c : Char) : Bool := inRanges k.ranges c

end CharClass

/-- A regular expression of characters, groups and lookarounds of one character. -/
inductive Regex where
  /-- Nothing. -/
  | empty
  /-- A character that stands for itself. -/
  | literal (c : Char) (h : isPlain c = true)
  /-- One expression after the other. -/
  | seq (a b : Regex)
  /-- A group that is not numbered. -/
  | group (body : Regex)
  /-- No character of a set before the place. -/
  | notBehind (k : CharClass)
  /-- No character of a set behind the place. -/
  | notAhead (k : CharClass)

namespace Regex

/-- A regular expression as it is written. -/
def text : Regex → List Char
  | empty => []
  | literal c _ => [c]
  | seq a b => a.text ++ b.text
  | group body => "(?:".toList ++ body.text ++ ")".toList
  | notBehind k => "(?<!".toList ++ k.text ++ ")".toList
  | notAhead k => "(?!".toList ++ k.text ++ ")".toList

/-- How deep the groups of a regular expression are nested. -/
def nesting : Regex → Nat
  | empty | literal _ _ | notBehind _ | notAhead _ => 0
  | seq a b => max a.nesting b.nesting
  | group body => body.nesting + 1

/-- A regular expression matches a text between what stands before and behind it. -/
inductive Matches : Regex → (before matched behind : List Char) → Prop where
  /-- Nothing matches the empty text. -/
  | empty {before behind : List Char} : Matches empty before [] behind
  /-- A character matches itself. -/
  | literal {c : Char} {h : isPlain c = true} {before behind : List Char} :
    Matches (literal c h) before [c] behind
  /-- The second expression goes on where the first one ends. -/
  | seq {a b : Regex} {before m n behind : List Char} (ha : Matches a before m (n ++ behind))
    (hb : Matches b (before ++ m) n behind) : Matches (seq a b) before (m ++ n) behind
  /-- A group matches what its body does. -/
  | group {body : Regex} {before m behind : List Char} (h : Matches body before m behind) :
    Matches (group body) before m behind
  /-- The last character before the place does not belong to the set, if there is one. -/
  | notBehind {k : CharClass} {before behind : List Char}
    (h : before.getLast?.any k.contains = false) : Matches (notBehind k) before [] behind
  /-- The first character behind the place does not belong to the set, if there is one. -/
  | notAhead {k : CharClass} {before behind : List Char}
    (h : behind.head?.any k.contains = false) : Matches (notAhead k) before [] behind

section Matches

variable {before m behind : List Char}

/-- Nothing matches the empty text only. -/
theorem matches_empty_iff : empty.Matches before m behind ↔ m = [] := by
  constructor
  · rintro ⟨⟩
    rfl
  · rintro rfl
    exact .empty

/-- A character matches itself only. -/
theorem matches_literal_iff {c : Char} {h : isPlain c = true} :
    (literal c h).Matches before m behind ↔ m = [c] := by
  constructor
  · rintro ⟨⟩
    rfl
  · rintro rfl
    exact .literal

/-- A match of two expressions is cut where the second one goes on. -/
theorem matches_seq_iff {a b : Regex} : (seq a b).Matches before m behind ↔
    ∃ front back, m = front ++ back ∧ a.Matches before front (back ++ behind) ∧
      b.Matches (before ++ front) back behind := by
  constructor
  · rintro ⟨⟩
    exact ⟨_, _, rfl, ‹_›, ‹_›⟩
  · rintro ⟨front, back, rfl, ha, hb⟩
    exact .seq ha hb

/-- A group matches what its body does. -/
theorem matches_group_iff {body : Regex} :
    (group body).Matches before m behind ↔ body.Matches before m behind := by
  constructor
  · rintro ⟨⟩
    assumption
  · exact .group

/-- A lookaround takes up no character. -/
theorem matches_notBehind_iff {k : CharClass} : (notBehind k).Matches before m behind ↔
    m = [] ∧ before.getLast?.any k.contains = false := by
  constructor
  · rintro ⟨⟩
    exact ⟨rfl, ‹_›⟩
  · rintro ⟨rfl, h⟩
    exact .notBehind h

/-- A lookaround takes up no character. -/
theorem matches_notAhead_iff {k : CharClass} : (notAhead k).Matches before m behind ↔
    m = [] ∧ behind.head?.any k.contains = false := by
  constructor
  · rintro ⟨⟩
    exact ⟨rfl, ‹_›⟩
  · rintro ⟨rfl, h⟩
    exact .notAhead h

end Matches

/-- A match of the regular expression is somewhere in a text. -/
def Finds (r : Regex) (text : List Char) : Prop :=
  ∃ before matched behind, text = before ++ matched ++ behind ∧ r.Matches before matched behind

end Regex

/-- An engine that keeps to the meaning of regular expressions. -/
structure Engine.Documented (engine : Engine) : Prop where
  /-- A regular expression in which no group stands in another one is compiled. -/
  compiles : ∀ r : Regex, r.nesting ≤ 1 → ∃ p, engine.compile? (String.ofList r.text) = some p
  /-- A search for it comes to an answer. -/
  answers : ∀ (r : Regex) (p : engine.Program), engine.compile? (String.ofList r.text) = some p →
    ∀ s, engine.isMatch? p s ≠ none
  /-- The search is not tied to a place: it finds a match wherever in the text there is one. -/
  finds : ∀ (r : Regex) (p : engine.Program), engine.compile? (String.ofList r.text) = some p →
    ∀ s, engine.isMatch? p s = some true ↔ r.Finds s.toList

/-- The answer to a search for a pattern that is written out as a regular expression. -/
theorem Engine.Documented.found_iff {engine : Engine} (h : engine.Documented) {r : Regex}
    (hnesting : r.nesting ≤ 1) {pattern : String} (hr : expand pattern = String.ofList r.text) :
    ∃ p, engine.compile pattern = .ok p ∧ ∀ s : String,
      (engine.found p s = .ok true ↔ r.Finds s.toList) ∧
        (engine.found p s = .ok false ↔ ¬ r.Finds s.toList) := by
  obtain ⟨p, hp⟩ := h.compiles r hnesting
  refine ⟨p, by rw [compile, hr, hp], fun s => ?_⟩
  rw [found, ← h.finds r p hp s]
  cases hanswer : engine.isMatch? p s with
  | none => exact absurd hanswer (h.answers r p hp s)
  | some pass => cases pass <;> simp

end Footprint.Pattern
