import Footprint.Group.Filter
import Footprint.Pattern.Basic

/-!
# Filters by pattern

A pattern filter looks for a pattern in one or several texts of each member, by some engine. A
pattern that does not compile fails at once; a search that gives up fails at the member that it was
for.
-/

namespace Footprint

/-- A search: whether something is found in a text, or why the search failed. -/
abbrev Probe (ε : Type) := String → Except ε Bool

namespace Facts

variable {ε : Type}

/-- Looks into the source path, then into the object path. -/
def foundInPath (found : Probe ε) (f : Facts) : Except ε Bool := do
  if ← found f.sourcePath then return true
  found f.objectPath

/-- Looks into all paths and names; a name that equals the full name is not looked into again. -/
def foundAnywhere (found : Probe ε) (f : Facts) : Except ε Bool := do
  if ← f.foundInPath found then return true
  if ← found f.fullName then return true
  if f.templateName != f.fullName then
    if ← found f.templateName then return true
  if f.name != f.fullName then
    if ← found f.name then return true
  return false

end Facts

namespace Group

/-- Keeps the members in whose facts a search finds something. -/
def whereFound {ε : Type} (g : Group) (found : Facts → Except ε Bool) :
    Logged (Except ε Group) :=
  g.tryFilter fun n => found n.facts

/-- Keeps the members in whose facts a search for a pattern finds something. -/
def wherePattern (g : Group) (engine : Pattern.Engine) (pattern : String)
    (look : Probe Error → Facts → Except Error Bool) : Logged (Except Error Group) :=
  match engine.compile pattern with
  | .error e => pure (.error e)
  | .ok p => g.whereFound (look (engine.found p))

/-- Keeps the members whose full name matches a pattern. -/
def whereFullNameMatches (g : Group) (engine : Pattern.Engine) (pattern : String) :
    Logged (Except Error Group) :=
  g.wherePattern engine pattern fun found f => found f.fullName

/-- Keeps the members whose template name matches a pattern. -/
def whereTemplateNameMatches (g : Group) (engine : Pattern.Engine) (pattern : String) :
    Logged (Except Error Group) :=
  g.wherePattern engine pattern fun found f => found f.templateName

/-- Keeps the members whose name matches a pattern. -/
def whereNameMatches (g : Group) (engine : Pattern.Engine) (pattern : String) :
    Logged (Except Error Group) :=
  g.wherePattern engine pattern fun found f => found f.name

/-- Keeps the members whose object path matches a pattern. -/
def whereObjectPathMatches (g : Group) (engine : Pattern.Engine) (pattern : String) :
    Logged (Except Error Group) :=
  g.wherePattern engine pattern fun found f => found f.objectPath

/-- Keeps the members whose source path matches a pattern. -/
def whereSourcePathMatches (g : Group) (engine : Pattern.Engine) (pattern : String) :
    Logged (Except Error Group) :=
  g.wherePattern engine pattern fun found f => found f.sourcePath

/-- Keeps the members one of whose paths matches a pattern. -/
def wherePathMatches (g : Group) (engine : Pattern.Engine) (pattern : String) :
    Logged (Except Error Group) :=
  g.wherePattern engine pattern Facts.foundInPath

/-- Keeps the members one of whose paths or names matches a pattern. -/
def whereMatches (g : Group) (engine : Pattern.Engine) (pattern : String) :
    Logged (Except Error Group) :=
  g.wherePattern engine pattern Facts.foundAnywhere

end Group

end Footprint
