import Footprint.Group.Basic

/-!
# Filters

A filter keeps the members that pass a test, in their order, and remembers the others. A test that
can fail stops the filter at the first member on which it does.
-/

namespace Footprint

/-- The elements that pass a test and those that do not, or the first element on which the test
failed. The test is applied from the left and never after a failure. -/
def splitM {m : Type → Type} [Monad m] {α ε : Type} (keep : α → m (Except ε Bool)) :
    List α → m (Except (α × ε) (List α × List α))
  | [] => pure (.ok ([], []))
  | x :: xs => do
    match ← keep x with
    | .error e => pure (.error (x, e))
    | .ok pass =>
      match ← splitM keep xs with
      | .error failure => pure (.error failure)
      | .ok (kept, out) => pure (.ok (if pass then (x :: kept, out) else (kept, x :: out)))

namespace Group

/-- Keeps the members that pass a test. -/
def filter (g : Group) (keep : Node → Bool) : Group :=
  g.transformed (g.members.filter keep) (g.members.filter (!keep ·)) g.sectionLabel g.isSorted

/-- Keeps the members whose facts pass a test. -/
def filterFacts (g : Group) (keep : Facts → Bool) : Group :=
  g.filter fun n => keep n.facts

/-- Keeps the members that pass a test with effects, which may fail. The member that it failed on
is reported. -/
def tryFilterM {m : Type → Type} [Monad m] {ε : Type} (g : Group)
    (keep : Node → m (Except ε Bool)) : m (Logged (Except ε Group)) := do
  match ← splitM keep g.members with
  | .ok (kept, out) =>
    return pure (.ok (g.transformed kept out g.sectionLabel g.isSorted))
  | .error (n, e) => return ⟨.error e, [.filterFailed n.describe]⟩

/-- Keeps the members that pass a test which may fail. -/
def tryFilter {ε : Type} (g : Group) (keep : Node → Except ε Bool) : Logged (Except ε Group) :=
  Id.run (g.tryFilterM fun n => pure (keep n))

/-- Keeps the nested groups. -/
def whereIsGroup (g : Group) : Group :=
  g.filter Node.isGroup

/-- Keeps the members of a diff that are not unchanged. -/
def whereNotUnchanged (g : Group) : Group :=
  g.filter fun n => n.status != .unchanged

/-- Keeps the members of at least a given size. -/
def whereSizeAtLeast (g : Group) (min : Int) : Group :=
  g.filterFacts fun f => min ≤ f.size

/-- Keeps the members of at least a given proportional size. -/
def wherePssAtLeast (g : Group) (min : Float) : Group :=
  g.filterFacts fun f => min ≤ f.pss

/-- Keeps the members of one section, given by its one-letter abbreviation or its full name, and
labels the result with the section. -/
def whereInSection (g : Group) (name : String) : Except Error Group :=
  match name.toList with
  | [letter] =>
    match sectionNamed? letter with
    | none => .error (.unknownSection name)
    | some sectionName =>
      let kept := g.filterFacts fun f => f.sectionLetter == letter
      .ok { kept with label := { kept.label with sectionName } }
  | _ =>
    let kept := g.filterFacts fun f => f.sectionName == name
    .ok { kept with label := { kept.label with sectionName := name } }

/-- Keeps the members whose names have template arguments. -/
def whereIsTemplate (g : Group) : Group :=
  g.filterFacts fun f => f.templateName != f.name

/-- Keeps the members from generated source files. -/
def whereSourceIsGenerated (g : Group) : Group :=
  g.filterFacts Facts.isGeneratedSource

/-- Keeps the members that the toolchain made. -/
def whereGeneratedByToolchain (g : Group) : Group :=
  g.filterFacts Facts.isGeneratedByToolchain

/-- Keeps the members with a source or an object path. -/
def whereHasPath (g : Group) : Group :=
  g.filterFacts fun f => !f.sourcePath.isEmpty || !f.objectPath.isEmpty

/-- Keeps the members with a full name, a source path or an object path. -/
def whereHasAnyAttribution (g : Group) : Group :=
  g.filterFacts fun f => !f.fullName.isEmpty || !f.sourcePath.isEmpty || !f.objectPath.isEmpty

/-- The address that follows another, where the greatest one follows itself. -/
def nextAddress (a : UInt64) : UInt64 :=
  if a + 1 = 0 then a else a + 1

/-- Keeps the members that start at `start` or above and below `stop`, which is the next address
when it is not given. -/
def whereAddressInRange (g : Group) (start : UInt64) (stop : Option UInt64 := none) : Group :=
  let stop := stop.getD (nextAddress start)
  g.filterFacts fun f => start ≤ f.address && f.address < stop

/-- The address that a text denotes. -/
def address (text : String) : Except Error UInt64 :=
  match Text.readAddress? text with
  | some a => .ok a
  | none => .error (.invalidAddress text)

/-- Keeps the members that start in a range of addresses in hexadecimal digits. -/
def whereHexAddressInRange (g : Group) (start : String) (stop : Option String := none) :
    Except Error Group := do
  let start ← address start
  let stop ← stop.mapM address
  return g.whereAddressInRange start stop

/-- The only member that starts at an address. -/
def byAddress (g : Group) (a : UInt64) : Except Error Node :=
  match g.members.filter fun n => n.facts.address == a with
  | [n] => .ok n
  | found => .error (.addressLookup found.length a)

/-- The only member that starts at an address in hexadecimal digits. -/
def byHexAddress (g : Group) (text : String) : Except Error Node := do
  g.byAddress (← address text)

end Group

end Footprint
