import Footprint.Unicode.CaseFold
import Footprint.Unicode.Property
import Footprint.Unicode.Script
import Footprint.Unicode.Space

/-!
# Sets of characters in patterns

A set is built from ranges and Unicode properties by union, intersection, difference and complement.
`CharSet.contains` says which characters it holds.
-/

namespace Footprint.Pattern

/-- A set of characters. -/
inductive CharSet where
  /-- No character. -/
  | empty
  /-- The characters from `first` to `last`, both included. -/
  | range (first last : Char)
  /-- The characters of words: letters, marks, decimal digits, connectors and joiners. -/
  | word
  /-- The decimal digits of all scripts. -/
  | digit
  /-- White space. -/
  | blank
  /-- The characters of some general categories. -/
  | categories (cs : List Unicode.Category)
  /-- The characters of a script, by the number of the script. -/
  | script (number : Nat)
  /-- The characters of a table. -/
  | table (t : Unicode.Ranges)
  /-- The characters of either set. -/
  | union (a b : CharSet)
  /-- The characters of both sets. -/
  | inter (a b : CharSet)
  /-- The characters of the first set that are not in the second. -/
  | diff (a b : CharSet)
  /-- The characters of exactly one of the sets. -/
  | symmDiff (a b : CharSet)
  /-- The characters that are not in the set. -/
  | compl (a : CharSet)
  /-- The characters that differ only in case from one in the set. -/
  | caseless (a : CharSet)

/-- Whether a character belongs to words. -/
def isWordChar (c : Char) : Bool :=
  if c.toNat < 0x80 then c.isAlphanum || c == '_'
  else Unicode.alphabetic.contains c.toNat || Unicode.joinControl.contains c.toNat ||
    [.nonspacingMark, .spacingMark, .enclosingMark, .decimalNumber, .connectorPunctuation].contains
      (Unicode.category c)

namespace CharSet

/-- Whether a character is in the set. -/
def contains : CharSet → Char → Bool
  | empty, _ => false
  | range first last, c => first ≤ c && c ≤ last
  | word, c => isWordChar c
  | digit, c => Unicode.isDecimalDigit c
  | blank, c => Unicode.isBlank c
  | categories cs, c => cs.contains (Unicode.category c)
  | script number, c => Unicode.script? c == some number
  | table t, c => t.contains c.toNat
  | union a b, c => a.contains c || b.contains c
  | inter a b, c => a.contains c && b.contains c
  | diff a b, c => a.contains c && !b.contains c
  | symmDiff a b, c => a.contains c != b.contains c
  | compl a, c => !a.contains c
  | caseless a, c => (Unicode.caseVariants c).any fun d => a.contains d

/-- The set of one character. -/
def single (c : Char) : CharSet := range c c

/-- The union of a list of sets. -/
def ofList (sets : List CharSet) : CharSet := sets.foldr union empty

/-- Any character, or any character but the end of a line. -/
def any (newline : Bool) : CharSet :=
  if newline then compl empty else compl (single '\n')

/-- The set, with the characters that differ only in case when `fold` holds. -/
def foldIf (fold : Bool) (a : CharSet) : CharSet := if fold then caseless a else a

/-- The set, or its complement when `negated` holds. -/
def negateIf (negated : Bool) (a : CharSet) : CharSet := if negated then compl a else a

/-- The hexadecimal digits. -/
def hexDigit : CharSet := ofList [range '0' '9', range 'A' 'F', range 'a' 'f']

/-- An estimate of the bytes that a machine needs to recognise a character of the set. -/
def weight : CharSet → Nat
  | empty => 32
  | range first last =>
    if last.toNat < 0x80 then 32 else if first == last then 32 * first.utf8Size else 256
  | word => 12000
  | digit => 2000
  | blank => 400
  | categories _ => 8000
  | script _ => 1000
  | table _ => 8000
  | union a b | inter a b | diff a b | symmDiff a b => a.weight + b.weight
  | compl a => a.weight + 256
  | caseless a => 2 * a.weight

/-- The members of the POSIX classes of ASCII characters, by name. -/
def posix? : String → Option CharSet
  | "alnum" => some (ofList [range '0' '9', range 'A' 'Z', range 'a' 'z'])
  | "alpha" => some (ofList [range 'A' 'Z', range 'a' 'z'])
  | "ascii" => some (range '\x00' '\x7f')
  | "blank" => some (ofList [single '\t', single ' '])
  | "cntrl" => some (ofList [range '\x00' '\x1f', single '\x7f'])
  | "digit" => some (range '0' '9')
  | "graph" => some (range '!' '~')
  | "lower" => some (range 'a' 'z')
  | "print" => some (range ' ' '~')
  | "punct" => some (ofList [range '!' '/', range ':' '@', range '[' '\x60', range '\x7b' '~'])
  | "space" => some (ofList [range '\t' '\r', single ' '])
  | "upper" => some (range 'A' 'Z')
  | "word" => some (ofList [range '0' '9', range 'A' 'Z', single '_', range 'a' 'z'])
  | "xdigit" => some hexDigit
  | _ => none

/-- A property name without case, blanks, hyphens, underscores and a leading `is`, unless `c` is
all that is left. -/
def normalizeName (name : String) : String :=
  let kept := name.toList.filter fun c => c != ' ' && c != '_' && c != '-'
  let lower := kept.map Char.toLower
  match lower with
  | 'i' :: 's' :: ['c'] => "isc"
  | 'i' :: 's' :: rest => String.ofList rest
  | _ => String.ofList lower

/-- The set of a general category or of a group of them, by its normalised name. -/
def category? : String → Option CharSet
  | "any" => some (compl empty)
  | "assigned" => some (compl (categories [.unassigned]))
  | "ascii" => some (range '\x00' '\x7f')
  | name => (Unicode.categoriesNamed name).map categories

/-- The set of a script, by its normalised name. -/
def script? (name : String) : Option CharSet := (Unicode.scriptNamed name).map script

/-- The set of a property, a general category or a script, by its name. -/
def named? (name : String) : Option CharSet :=
  let name := normalizeName name
  let property :=
    if ["cf", "sc", "lc"].contains name then none else (Unicode.binaryProperty name).map table
  property <|> category? name <|> script? name

/-- The set of the characters whose property has a value, by the names of both. -/
def withValue? (property value : String) : Option CharSet :=
  let value := normalizeName value
  match normalizeName property with
  | "gc" | "generalcategory" => category? value
  | "sc" | "script" => script? value
  | _ => none

end CharSet

end Footprint.Pattern
