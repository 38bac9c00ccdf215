import Footprint.Group.Basic

/-!
# Pairing the symbols of two trees

A matcher says which leaves of two trees are the same symbol. `Matcher.byName` pairs leaves of one
section and full name, the first with the first, the second with the second, and so on.
-/

namespace Footprint

/-- Which leaves of two trees belong together. -/
structure Pairing where
  /-- The pairs of a symbol of the first tree and one of the second. -/
  similar : List (SymbolId × SymbolId) := []
  /-- The symbols of the second tree only. -/
  added : List SymbolId := []
  /-- The symbols of the first tree only. -/
  removed : List SymbolId := []
deriving Repr, DecidableEq

/-- A way to pair the leaves of two trees. -/
structure Matcher where
  /-- The name of the way. -/
  name : String
  /-- The pairing of a first and a second tree. -/
  pair : Group → Group → Pairing

/-- What two symbols have in common when they are paired. -/
inductive MatchKey where
  /-- A symbol with a full name. -/
  | named (sectionName fullName : String)
  /-- A symbol without one. -/
  | unnamed (sectionName objectPath : String) (address : UInt64)
deriving Repr, DecidableEq

/-- The key of a symbol. -/
def Symbol.matchKey (s : Symbol) : MatchKey :=
  if s.fullName.isEmpty then .unnamed s.sectionName s.objectPath s.address
  else .named s.sectionName s.fullName

namespace Pairing

/-- Gives each symbol of `after` in turn the first symbol with its key that is left of `before`. -/
def matchUp : (before after : List Symbol) → Pairing
  | _, [] => {}
  | before, a :: after =>
    match before.find? (·.matchKey == a.matchKey) with
    | some b =>
      let rest := matchUp (before.eraseP (·.matchKey == a.matchKey)) after
      { rest with similar := (b.id, a.id) :: rest.similar }
    | none =>
      let rest := matchUp before after
      { rest with added := a.id :: rest.added }

/-- Pairs the leaves with equal keys in their order. -/
def byName (before after : List Symbol) : Pairing :=
  let pairing := matchUp before after
  let matched := pairing.similar.map Prod.fst
  { pairing with removed := (before.map Symbol.id).filter (!matched.contains ·) }

end Pairing

/-- Pairs leaves by section and full name, and nameless ones by section, object path and
address. -/
def Matcher.byName : Matcher :=
  { name := "name", pair := fun before after => .byName before.leaves after.leaves }

end Footprint
