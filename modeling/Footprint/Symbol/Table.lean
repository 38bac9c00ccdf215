import Footprint.Error
import Footprint.Logged

/-!
# Tables of symbols

A `Builder` collects symbols and declares which of them are aliases, that is, share their bytes.
Freezing it gives the `Table`, which never changes. The alias groups of a table are disjoint lists
of two or more symbols with one address, and each member knows its group and the group's size.
-/

namespace Footprint

/-- Tells apart things that are made at different times. -/
structure Stamp where
  /-- The number of the time. -/
  time : Nat
deriving Repr, DecidableEq

/-- A frozen table of symbols. -/
structure Table where
  /-- Tells this table from others with the same contents. -/
  stamp : Stamp
  /-- The symbols in the order of their ids. -/
  symbols : Array Symbol
  /-- The members of each alias group, in the order of their declaration. -/
  aliasGroups : Array (List SymbolId)

/-- The place where symbols are collected. -/
structure Builder where
  /-- The symbols in the order of their ids. -/
  symbols : Array Symbol := #[]
  /-- The members of each alias group, in the order of their declaration. -/
  aliasGroups : Array (List SymbolId) := #[]

namespace Table

/-- The number of symbols. -/
def size (t : Table) : Nat := t.symbols.size

/-- The symbol with an id. -/
def get? (t : Table) (id : SymbolId) : Option Symbol :=
  t.symbols[id.index]?

/-- The symbol with an id, or the error that there is none. -/
def get (t : Table) (id : SymbolId) : Except Error Symbol :=
  match t.get? id with
  | some s => .ok s
  | none => .error (.unknownSymbol id.index)

/-- The ids of the symbols in order. -/
def ids (t : Table) : List SymbolId :=
  t.symbols.toList.map Symbol.id

/-- The members of an alias group, in the order of their declaration. -/
def aliasMembers (t : Table) (g : AliasGroupId) : List SymbolId :=
  t.aliasGroups.getD g.index []

/-- The symbols that share the bytes of a symbol, itself included. -/
def aliasesOf (t : Table) (id : SymbolId) : List Symbol :=
  match t.get? id with
  | none => []
  | some s =>
    match s.aliasGroup with
    | none => [s]
    | some g => (t.aliasMembers g).filterMap t.get?

end Table

namespace Builder

/-- The number of symbols. -/
def size (b : Builder) : Nat := b.symbols.size

/-- The symbol with an id. -/
def get? (b : Builder) (id : SymbolId) : Option Symbol :=
  b.symbols[id.index]?

/-- The id of the symbol at a place. -/
def idAt (b : Builder) (index : Nat) : Except Error SymbolId :=
  match b.symbols[index]? with
  | some s => .ok s.id
  | none => .error (.unknownSymbol index)

/-- Appends a symbol with the facts of a record, and its differences in a diff. -/
def push (b : Builder) (r : SymbolRecord) (delta : Option Delta := none) :
    Except Error (SymbolId × Builder) := do
  let id ← SymbolId.ofIndex b.size
  return (id, { b with symbols := b.symbols.push { Symbol.ofRecord id r with delta } })

/-- Checks the members of a new alias group from the left: each is known, has no alias group, is
not in `seen`, and has the `address` of the members before it. -/
def checkAliases (b : Builder) : (seen : List SymbolId) → (address : Option UInt64) →
    List SymbolId → Except Error Unit
  | _, _, [] => .ok ()
  | seen, address, id :: ids =>
    match b.get? id with
    | none => .error (.unknownSymbol id.index)
    | some s =>
      if s.aliasGroup.isSome then .error (.aliasGroup (.alreadyAliased s))
      else if id ∈ seen then .error (.aliasGroup (.listedTwice s))
      else
        let expected := address.getD s.address
        if expected = s.address then checkAliases b (id :: seen) (some expected) ids
        else .error (.aliasGroup (.addressMismatch s.address expected))

/-- Declares that two or more symbols share their bytes. -/
def addAliasGroup (b : Builder) (members : List SymbolId) :
    Except Error (AliasGroupId × Builder) := do
  if members.length < 2 then
    throw (.aliasGroup (.tooFew members.length))
  b.checkAliases [] none members
  let count := b.aliasGroups.size
  if tableCapacity ≤ count then
    throw (.tableFull count)
  let group : AliasGroupId := ⟨count⟩
  let join (s : Symbol) : Symbol :=
    if s.id ∈ members then { s with aliasGroup := some group, numAliases := members.length }
    else s
  return (group, ⟨b.symbols.map join, b.aliasGroups.push members⟩)

/-- Marks a symbol as coming from a generated source file, or not. -/
def setGeneratedSource (b : Builder) (id : SymbolId) (value : Bool) : Except Error Builder :=
  match b.get? id with
  | none => .error (.unknownSymbol id.index)
  | some s =>
    let s := { s with flags := s.flags.set .generatedSource value }
    .ok { b with symbols := b.symbols.setIfInBounds id.index s }

/-- The table of the symbols and alias groups collected so far. -/
def freeze (b : Builder) (stamp : Stamp) : Logged Table := do
  .report (.froze b.symbols.size b.aliasGroups.size)
  return ⟨stamp, b.symbols, b.aliasGroups⟩

end Builder

end Footprint
