import Footprint.Error
import Footprint.Pattern.Placeholder

/-!
# Patterns

A pattern is a regular expression with placeholders. It is compiled once and then looked for in
texts, both by an engine for regular expressions, which knows nothing of placeholders. What an
engine does is no part of this library: everything that deals with patterns takes one.
-/

namespace Footprint.Pattern

/-- An engine for regular expressions. -/
structure Engine where
  /-- What a regular expression is compiled to. -/
  Program : Type
  /-- The program of a text, if the text is a regular expression. -/
  compile? (text : String) : Option Program
  /-- Whether a match of a program is somewhere in a text, unless the search gives up. -/
  isMatch? (p : Program) (text : String) : Option Bool

namespace Engine

variable (engine : Engine)

/-- The program of a pattern, whose placeholders are written out first. -/
def compile (pattern : String) : Except Error engine.Program :=
  match engine.compile? (expand pattern) with
  | some p => .ok p
  | none => .error .invalidPattern

/-- Whether a match of the pattern is somewhere in a text. -/
def found (p : engine.Program) (text : String) : Except Error Bool :=
  match engine.isMatch? p text with
  | some pass => .ok pass
  | none => .error .searchLimit

end Engine

end Footprint.Pattern
