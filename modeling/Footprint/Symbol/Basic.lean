import Footprint.Symbol.Facts

/-!
# Symbols

A `SymbolRecord` is what an extractor hands over. A `Symbol` is such a record at its place in a
table, with its alias group; the symbols of a diff also know which side they came from.
-/

namespace Footprint

/-- The place of a symbol within its table. Two nodes are the same symbol when their ids are
equal. -/
structure SymbolId where
  /-- The place, counted from 0. -/
  index : Nat
deriving Repr, DecidableEq

/-- The number of symbols, and of alias groups, that a table can hold. -/
def tableCapacity : Nat := UInt32.size

/-- The id of a symbol in hexadecimal digits. -/
def SymbolId.text (id : SymbolId) : String :=
  Text.hex id.index

/-- The facts of one symbol as the extractor hands them over. Size and padding are numbers of any
magnitude here: they come from signed 64-bit fields, and the overflow of sums and differences of
such numbers is left out. -/
structure SymbolRecord where
  /-- The section. -/
  sectionName : String
  /-- The size in bytes, padding included. -/
  size : Int
  /-- The bytes of padding before the address. -/
  padding : Int := 0
  /-- The start address. -/
  address : UInt64 := 0
  /-- The full name. -/
  fullName : String := ""
  /-- The name without parameters. -/
  templateName : String := ""
  /-- The name without templates and parameters. -/
  name : String := ""
  /-- The source file. -/
  sourcePath : String := ""
  /-- The object file. -/
  objectPath : String := ""
  /-- The flag bits, of which a table keeps the known ones. -/
  flags : Nat := 0
deriving Repr, DecidableEq

/-- The record with one text for all three names. -/
def SymbolRecord.named (r : SymbolRecord) (name : String) : SymbolRecord :=
  { r with fullName := name, templateName := name, name := name }

/-- Where a symbol of a diff came from. -/
inductive Side where
  /-- Only the second tree has the symbol. -/
  | added
  /-- Only the first tree has the symbol. -/
  | removed
  /-- Both trees have the symbol. -/
  | paired
deriving Repr, DecidableEq

/-- What a symbol of a diff has beside its facts. -/
structure Delta where
  /-- Where the symbol came from. -/
  side : Side
  /-- The difference of the proportional sizes. -/
  pss : Float
  /-- The difference of the proportional sizes without padding. -/
  pssWithoutPadding : Float

/-- A symbol of a table. -/
structure Symbol where
  /-- The place in the table. -/
  id : SymbolId
  /-- The start address. -/
  address : UInt64
  /-- The size in bytes, padding included. -/
  size : Int
  /-- The bytes of padding before the address. -/
  padding : Int
  /-- The section. -/
  sectionName : String
  /-- The full name. -/
  fullName : String
  /-- The name without parameters. -/
  templateName : String
  /-- The name without templates and parameters. -/
  name : String
  /-- The source file. -/
  sourcePath : String
  /-- The object file. -/
  objectPath : String
  /-- The attributes. -/
  flags : Flags
  /-- The alias group that lists the symbol. -/
  aliasGroup : Option AliasGroupId := none
  /-- The number of symbols at the address that the table knows to be aliases. -/
  numAliases : Nat := 1
  /-- The differences that a symbol of a diff stands for. -/
  delta : Option Delta := none

namespace Symbol

/-- The symbol of a record at a place of a table. -/
def ofRecord (id : SymbolId) (r : SymbolRecord) : Symbol :=
  { id, address := r.address, size := r.size, padding := r.padding, sectionName := r.sectionName
    fullName := r.fullName, templateName := r.templateName, name := r.name
    sourcePath := r.sourcePath, objectPath := r.objectPath, flags := .ofNat r.flags }

/-- The record of a symbol, without its place and its aliases. -/
def record (s : Symbol) : SymbolRecord :=
  { sectionName := s.sectionName, size := s.size, padding := s.padding, address := s.address
    fullName := s.fullName, templateName := s.templateName, name := s.name
    sourcePath := s.sourcePath, objectPath := s.objectPath, flags := s.flags.toNat }

/-- An even share of an amount among the aliases. -/
def evenShare (s : Symbol) (amount : Int) : Float :=
  Float.ofInt amount / Float.ofNat s.numAliases

/-- The proportional size. -/
def pss (s : Symbol) : Float :=
  match s.delta with
  | some d => d.pss
  | none => s.evenShare s.size

/-- The proportional size without padding. -/
def pssWithoutPadding (s : Symbol) : Float :=
  match s.delta with
  | some d => d.pssWithoutPadding
  | none => s.evenShare (s.size - s.padding)

/-- The facts of a symbol. -/
def facts (s : Symbol) : Facts :=
  { address := s.address, size := s.size, padding := s.padding, pss := s.pss
    sectionName := s.sectionName, fullName := s.fullName, templateName := s.templateName
    name := s.name, sourcePath := s.sourcePath, objectPath := s.objectPath, flags := s.flags
    numAliases := s.numAliases, aliasGroup := s.aliasGroup, isGroup := false }

/-- The line that stands for a symbol in messages. -/
def describe (s : Symbol) : String :=
  s.sectionName ++ "@" ++ Text.hex s.address.toNat ++
    s!"(size_without_padding={s.facts.sizeWithoutPadding},padding={s.padding}," ++
    s!"full_name={s.fullName},object_path={s.objectPath},source_path={s.sourcePath}," ++
    s!"flags={s.facts.flagsText})"

/-- A record that went into a table comes out with the known ones of its flags. -/
theorem record_ofRecord (id : SymbolId) (r : SymbolRecord) :
    (ofRecord id r).record = { r with flags := r.flags % 128 } := by
  simp [ofRecord, record, Flags.toNat_ofNat]

end Symbol

end Footprint
