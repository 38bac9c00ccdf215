import Footprint.Pattern.Basic
import Footprint.Pattern.Parser
import Footprint.Pattern.Search

/-!
# An engine that backtracks

The engine that the library is run with. Most regular expressions need no backtracking, and the
search for them always ends with an answer; the search for others backtracks and may give up.
Nothing in the theory of the library depends on this engine.
-/

namespace Footprint.Pattern

/-- A regular expression that is ready to be looked for. -/
inductive Program where
  /-- A regular expression that needs no backtracking. -/
  | regular (r : Rule)
  /-- A regular expression that needs backtracking. -/
  | planned (p : Plan Rule)

namespace Program

/-- The program of a text, if the text is a regular expression. -/
def ofText? (text : String) : Option Program := do
  let (t, refs) ← Tree.parse? text
  if t.isHard refs then return planned (← t.plan? refs true)
  else return regular (← regularOf? [t])

/-- Whether a match of a program is somewhere in a text, unless the search gives up. -/
def isMatch? (p : Program) (text : String) : Option Bool :=
  match p with
  | regular r => some (r.found text.toList.toArray)
  | planned p =>
    match p.search text.toList.toArray with
    | .found .. => some true
    | .failed _ => some false
    | .gaveUp => none

end Program

/-- The engine that backtracks where it has to. -/
def backtracking : Engine where
  Program := Program
  compile? := Program.ofText?
  isMatch? := Program.isMatch?

end Footprint.Pattern
