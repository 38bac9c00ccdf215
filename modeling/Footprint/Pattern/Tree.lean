import Footprint.Pattern.CharSet

/-!
# Patterns as trees

What a pattern says, and the three measures that decide how it is searched for: the fewest
characters that it takes up, whether it always takes up that many, and whether it needs
backtracking.
-/

namespace Footprint.Pattern

/-- A condition on a place in the text. -/
inductive Assertion where
  /-- The beginning of the text. -/
  | textStart
  /-- The end of the text. -/
  | textEnd
  /-- The beginning of a line. -/
  | lineStart
  /-- The end of a line. -/
  | lineEnd
  /-- A place between a word character and another character. -/
  | wordBoundary
  /-- A place that is not a word boundary. -/
  | notWordBoundary
  /-- A word boundary before a word character. -/
  | wordStart
  /-- A word boundary after a word character. -/
  | wordEnd
deriving Repr, DecidableEq

/-- Whether the condition is about words. -/
def Assertion.isOfWords : Assertion → Bool
  | wordBoundary | notWordBoundary | wordStart | wordEnd => true
  | _ => false

/-- A pattern. -/
inductive Tree where
  /-- The empty text. -/
  | empty
  /-- Any character, the end of a line included or not. -/
  | any (newline : Bool)
  /-- A character, in either case when `caseless` holds. -/
  | literal (c : Char) (caseless : Bool)
  /-- A character of a set. -/
  | set (s : CharSet)
  /-- A condition on the place. -/
  | assert (a : Assertion)
  /-- One part after the other. -/
  | concat (parts : List Tree)
  /-- One of several branches, the first that leads to a match. -/
  | alt (branches : List Tree)
  /-- A numbered group, which remembers what it matched. -/
  | group (number : Nat) (body : Tree)
  /-- The body from `least` to `most` times, as often as possible when `greedy` holds. -/
  | times (body : Tree) (least : Nat) (most : Option Nat) (greedy : Bool)
  /-- The body, or no match of it, after the place, or before the place when `behind` holds. -/
  | look (behind negated : Bool) (body : Tree)
  /-- The first match of the body and no other. -/
  | atomic (body : Tree)
  /-- The text that a group matched. -/
  | backref (number : Nat)
  /-- Nothing, if a group has been entered. -/
  | entered (number : Nat)
  /-- The second pattern after a match of the first one, otherwise the third. -/
  | choice (condition yes no : Tree)
  /-- Nothing; the match is reported from here on. -/
  | keepOut
  /-- Nothing, at the place where the search began. -/
  | searchStart

namespace Tree

/-- Whether a repetition may be written behind the pattern. -/
def isRepeatable : Tree → Bool
  | empty | look .. | assert _ => false
  | _ => true

mutual

/-- The fewest characters that the pattern takes up. -/
def minSize : Tree → Nat
  | any _ | literal .. | set _ => 1
  | concat parts => minSizeSum parts
  | alt branches => minSizeLeast branches
  | group _ body => body.minSize
  | times body least _ _ => body.minSize * least
  | atomic body => body.minSize
  | choice condition yes no => condition.minSize + min yes.minSize no.minSize
  | _ => 0

/-- The sum of the fewest characters of each pattern of a list. -/
def minSizeSum : List Tree → Nat
  | [] => 0
  | t :: ts => t.minSize + minSizeSum ts

/-- The fewest characters of any pattern of a list. -/
def minSizeLeast : List Tree → Nat
  | [] => 0
  | [t] => t.minSize
  | t :: ts => min t.minSize (minSizeLeast ts)

end

mutual

/-- Whether the pattern always takes up the same number of characters. -/
def isConst : Tree → Bool
  | concat parts => isConstAll parts
  | alt branches =>
    isConstAll branches && branches.all fun b => b.minSize == minSizeLeast branches
  | group _ body => body.isConst
  | times body least most _ => body.isConst && most == some least
  | atomic body => body.isConst
  | choice condition yes no =>
    condition.isConst && yes.isConst && no.isConst &&
      condition.minSize + yes.minSize == no.minSize
  | backref _ => false
  | _ => true

/-- Whether each pattern of a list always takes up the same number of characters. -/
def isConstAll : List Tree → Bool
  | [] => true
  | t :: ts => t.isConst && isConstAll ts

end

mutual

/-- Whether the pattern needs backtracking, where the groups of `refs` are referred to. -/
def isHard (refs : List Nat) : Tree → Bool
  | concat parts => isHardAny refs parts
  | alt branches => isHardAny refs branches
  | group number body => body.isHard refs || refs.contains number
  | times body _ _ _ => body.isHard refs
  | assert a => a.isOfWords
  | look .. | atomic _ | backref _ | entered _ | choice .. | keepOut | searchStart => true
  | _ => false

/-- Whether a pattern of a list needs backtracking. -/
def isHardAny (refs : List Nat) : List Tree → Bool
  | [] => false
  | t :: ts => t.isHard refs || isHardAny refs ts

end

mutual

/-- The text that the pattern is, if it is a plain text. -/
def plainText? : Tree → Option (List Char)
  | literal c false => some [c]
  | concat parts => plainTextAll? parts
  | _ => none

/-- The texts of a list of patterns joined, if all are plain texts. -/
def plainTextAll? : List Tree → Option (List Char)
  | [] => some []
  | t :: ts => do return (← t.plainText?) ++ (← plainTextAll? ts)

end

end Tree

end Footprint.Pattern
