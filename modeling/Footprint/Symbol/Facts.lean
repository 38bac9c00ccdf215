import Footprint.Symbol.Flags
import Footprint.Text.Hex

/-!
# Facts of a symbol

The facts that a single symbol and a group of symbols both have, and what follows from them. A
group has the facts of its members joined by `Facts.ofMembers`: sums of sizes in which the members
of an alias group count once, and for the other fields the value on which all members agree.
-/

namespace Footprint

/-- The number of an alias group within its table. -/
structure AliasGroupId where
  /-- The place among the alias groups of the table. -/
  index : Nat
deriving Repr, DecidableEq

/-- The section name of a group whose members may lie in several sections. -/
def mixedSection : String := ".*"

/-- The section of zero-initialised data, which takes no bytes in the file. -/
def bssSection : String := ".bss"

/-- A label that names no single section does not name `.bss`. -/
theorem mixedSection_ne_bssSection : mixedSection ≠ bssSection := by decide

/-- The full section name for a one-letter abbreviation. -/
def sectionNamed? : Char → Option String
  | 'b' => some bssSection
  | 'd' => some ".data"
  | 'r' => some ".rodata"
  | 't' => some ".text"
  | _ => none

/-- What is known of a symbol or of a group of symbols. Sizes and paddings are numbers of any
magnitude, so that sums of them never overflow as sums of signed 64-bit numbers would. -/
structure Facts where
  /-- The start address, perhaps 0. -/
  address : UInt64
  /-- The bytes taken up, padding before `address` included. -/
  size : Int
  /-- The bytes of padding before `address`. -/
  padding : Int
  /-- The proportional size: the share of `size` among the aliases. -/
  pss : Float
  /-- The section, such as `.text`. -/
  sectionName : String
  /-- The name with templates and parameters. -/
  fullName : String
  /-- The name with templates and without parameters. -/
  templateName : String
  /-- The name without templates and parameters. -/
  name : String
  /-- The source file. -/
  sourcePath : String
  /-- The object file. -/
  objectPath : String
  /-- The attributes. -/
  flags : Flags
  /-- The number of symbols at the same address, this one included. -/
  numAliases : Nat
  /-- The alias group of a single symbol. -/
  aliasGroup : Option AliasGroupId
  /-- Whether these are the facts of a group. -/
  isGroup : Bool

/-- The names and the section that a group goes by. -/
structure Label where
  /-- The full name. -/
  fullName : String := ""
  /-- The name without parameters. -/
  templateName : String := ""
  /-- The name without templates and parameters. -/
  name : String := ""
  /-- The section of the members. -/
  sectionName : String := mixedSection
deriving Repr, DecidableEq

/-- The label with one text for all three names. -/
def Label.named (name : String) (sectionName : String := mixedSection) : Label :=
  ⟨name, name, name, sectionName⟩

/-- The value on which all elements agree, or `default` when they disagree or there are none. -/
def unanimous {α β : Type} [BEq β] (value : α → β) (default : β) : List α → β
  | [] => default
  | x :: xs => if xs.all fun y => value y == value x then value x else default

/-- The elements without those whose alias group occurred before or is in `seen`. -/
def onePerAliasAux {α : Type} (aliasOf : α → Option AliasGroupId) :
    (seen : List AliasGroupId) → List α → List α
  | _, [] => []
  | seen, x :: xs =>
    match aliasOf x with
    | none => x :: onePerAliasAux aliasOf seen xs
    | some g =>
      if g ∈ seen then onePerAliasAux aliasOf seen xs
      else x :: onePerAliasAux aliasOf (g :: seen) xs

/-- The elements without those whose alias group occurred before. -/
def onePerAlias {α : Type} (aliasOf : α → Option AliasGroupId) (xs : List α) : List α :=
  onePerAliasAux aliasOf [] xs

/-- The sum of sizes. -/
def sumInts (xs : List Int) : Int :=
  xs.foldr (· + ·) 0

/-- The sum of proportional sizes, added up from the left. An empty sum is negative zero, the
neutral element of addition. -/
def sumFloats (xs : List Float) : Float :=
  xs.foldl (· + ·) (-0.0)

namespace Facts

/-- The second character of the section name, such as `t` for `.text`. -/
def section? (f : Facts) : Option Char :=
  f.sectionName.toList[1]?

/-- The letter of the section, `?` where there is none. -/
def sectionLetter (f : Facts) : Char :=
  f.section?.getD '?'

/-- The bytes of the symbol itself. -/
def sizeWithoutPadding (f : Facts) : Int :=
  f.size - f.padding

/-- The address after the last byte, modulo 2⁶⁴. -/
def endAddress (f : Facts) : UInt64 :=
  f.address + UInt64.ofInt f.sizeWithoutPadding

/-- Whether the symbol lives in an anonymous namespace. -/
def isAnonymous (f : Facts) : Bool :=
  f.flags.has .anonymous

/-- Whether the symbol comes from a generated source file. -/
def isGeneratedSource (f : Facts) : Bool :=
  f.flags.has .generatedSource

/-- Whether the section is `.bss`. -/
def isBss (f : Facts) : Bool :=
  f.sectionName == bssSection

/-- Whether the name looks like that of a thunk or a guard variable: it has a dot, or ends in `]`
but not in `[]`. -/
def isGeneratedByToolchain (f : Facts) : Bool :=
  f.name.toList.contains '.' ||
    match f.name.toList.reverse with
    | ']' :: '[' :: _ => false
    | ']' :: _ => true
    | _ => false

/-- The flags and the number of aliases as a listing in braces. -/
def flagsText (f : Facts) : String :=
  let aliases := if f.numAliases > 1 then [s!"{f.numAliases} aliases"] else []
  "\x7b" ++ ",".intercalate (f.flags.labels ++ aliases) ++ "\x7d"

/-- The facts of a group with a given label from those of its members. Sizes count the members of
an alias group once, except that a group of `.bss` symbols is the sum of all of them, as is every
proportional size; proportional sizes leave `.bss` out of other groups. -/
def ofMembers (label : Label) (members : List Facts) : Facts :=
  let bss := label.sectionName == bssSection
  let unique := onePerAlias aliasGroup members
  { address := unanimous address 0 members
    size := sumInts ((if bss then members else unique).map size)
    padding := sumInts (unique.map padding)
    pss := sumFloats ((if bss then members else members.filter (!·.isBss)).map pss)
    sectionName := label.sectionName
    fullName := label.fullName
    templateName := label.templateName
    name := label.name
    sourcePath := unanimous sourcePath "" members
    objectPath := unanimous objectPath "" members
    flags := unanimous flags .none members
    numAliases := 1
    aliasGroup := none
    isGroup := true }

end Facts

end Footprint
