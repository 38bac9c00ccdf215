import Footprint.Symbol.Basic

/-!
# Errors

The ways in which an operation on symbols can fail, and the words for each.
-/

namespace Footprint

/-- What is wrong with the members of an alias group. -/
inductive AliasFault where
  /-- There are fewer than two members. -/
  | tooFew (count : Nat)
  /-- A member belongs to another alias group. -/
  | alreadyAliased (member : Symbol)
  /-- A member is listed a second time. -/
  | listedTwice (member : Symbol)
  /-- A member has another address than the members before it. -/
  | addressMismatch (found expected : UInt64)

/-- The words for a fault. -/
def AliasFault.message : AliasFault → String
  | tooFew count => s!"needs at least 2 members, got {count}"
  | alreadyAliased member => s!"{member.describe} is already aliased"
  | listedTwice member => s!"{member.describe} listed twice"
  | addressMismatch found expected =>
    s!"address {Text.hex0x found.toNat} does not match {Text.hex0x expected.toNat}"

/-- Why an operation on symbols failed. -/
inductive Error where
  /-- The number of members at an address is not one. -/
  | addressLookup (count : Nat) (address : UInt64)
  /-- A text is not a hexadecimal address. -/
  | invalidAddress (text : String)
  /-- A text is not a pattern. -/
  | invalidPattern
  /-- A search gave up after too many attempts. -/
  | searchLimit
  /-- No section has the one-letter abbreviation. -/
  | unknownSection (text : String)
  /-- Two groups hold symbols of different tables. -/
  | foreignTable
  /-- An alias group is not well formed. -/
  | aliasGroup (fault : AliasFault)
  /-- An entry has no 32-bit place. -/
  | tableFull (entries : Nat)
  /-- No symbol is at a place. -/
  | unknownSymbol (index : Nat)

/-- The words for an error. -/
def Error.message : Error → String
  | addressLookup count address =>
    s!"{count} symbols found at address {Text.hex0x address.toNat}"
  | invalidAddress text => s!"Invalid hex address: {text}"
  | invalidPattern => "Invalid pattern"
  | searchLimit =>
    "Invalid pattern: Error executing regex: Max limit for backtracking count exceeded"
  | unknownSection text => s!"Unknown section: {text}"
  | foreignTable => "Symbol groups are backed by different symbol tables"
  | aliasGroup fault => s!"Invalid alias group: {fault.message}"
  | tableFull entries => s!"Symbol table is full at {entries} entries"
  | unknownSymbol index => s!"Unknown symbol index {index}"

/-- Of two steps that succeed together, the first succeeds with a result on which the second
does. -/
theorem exists_of_bind_eq_ok {α β : Type} {x : Except Error α} {f : α → Except Error β} {b : β}
    (h : x >>= f = .ok b) : ∃ a, x = .ok a ∧ f a = .ok b := by
  cases x with
  | error e => cases h
  | ok a => exact ⟨a, rfl, h⟩

/-- A computation with a value to look at succeeds. -/
theorem exists_ok_of_map_toOption {ε α β : Type} {x : Except ε α} {f : α → β} {b : β}
    (h : x.toOption.map f = some b) : ∃ a, x = .ok a ∧ f a = b := by
  cases x with
  | error e => cases h
  | ok a => exact ⟨a, rfl, Option.some.inj h⟩

/-- The id of the symbol at a place, which has to be below the capacity of a table. -/
def SymbolId.ofIndex (index : Nat) : Except Error SymbolId :=
  if index < tableCapacity then .ok ⟨index⟩ else .error (.tableFull index)

end Footprint
