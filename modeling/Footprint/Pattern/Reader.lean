import Footprint.Pattern.Tree

/-!
# Reading patterns

The parts of a pattern are read by steps that take characters off its front. A step knows the modes
that are switched on and the groups opened so far, and fails where no pattern continues.
-/

namespace Footprint.Pattern

/-- The modes in which a part of a pattern is read. -/
structure Modes where
  /-- Whether letters stand for both of their cases. -/
  caseless : Bool
  /-- Whether `^` and `$` stand for the ends of lines. -/
  multiLine : Bool
  /-- Whether a dot stands for the end of a line too. -/
  dotAll : Bool
  /-- Whether repetitions are as short as possible unless marked. -/
  swapGreed : Bool
  /-- Whether blanks and comments to the end of the line are left out. -/
  spaced : Bool

/-- What is left of a pattern, and what was learnt from the part before it. -/
structure Reading where
  /-- The characters that are left. -/
  rest : List Char
  /-- The modes that are switched on. -/
  modes : Modes
  /-- The number of groups opened. -/
  opened : Nat
  /-- The numbers of the named groups, the latest first. -/
  names : List (String × Nat)
  /-- Whether a group was referred to by its number. -/
  numbered : Bool
  /-- The groups referred to. -/
  refs : List Nat
  /-- A bound on the numbers by which groups are referred to. -/
  refLimit : Nat

/-- The reading of a pattern from its beginning. -/
def Reading.start (pattern : String) : Reading where
  rest := pattern.toList
  modes := ⟨false, false, false, false, false⟩
  opened := 0
  names := []
  numbered := false
  refs := []
  refLimit := pattern.utf8ByteSize / 2

/-- A step of reading a pattern. -/
abbrev Reader := StateT Reading Option

/-- A text that a pattern leaves out. -/
inductive Gap where
  /-- No such text. -/
  | none
  /-- A comment in parentheses. -/
  | comment
  /-- A comment to the end of the line. -/
  | line

/-- A text without the comments and, when `spaced` holds, the blanks at its front, of which one may
have begun before. -/
def afterGap? (spaced : Bool) : Gap → List Char → Option (List Char)
  | .comment, [] => .none
  | .comment, ')' :: cs => afterGap? spaced .none cs
  | .comment, '\\' :: _ :: cs => afterGap? spaced .comment cs
  | .comment, _ :: cs => afterGap? spaced .comment cs
  | .line, [] => some []
  | .line, c :: cs => afterGap? spaced (if c = '\n' then .none else .line) cs
  | .none, [] => some []
  | .none, '(' :: '?' :: '#' :: cs => afterGap? spaced .comment cs
  | .none, c :: cs =>
    if spaced && c == '#' then afterGap? spaced .line cs
    else if spaced && [' ', '\r', '\n', '\t'].contains c then afterGap? spaced .none cs
    else some (c :: cs)

/-- The 64-bit number in decimal digits at the front of a text. -/
def decimal? (cs : List Char) : Option (Nat × List Char) :=
  let digits := cs.takeWhile Char.isDigit
  let n := digits.foldl (fun n c => 10 * n + (c.toNat - '0'.toNat)) 0
  if digits.isEmpty || n ≥ UInt64.size then none else some (n, cs.dropWhile Char.isDigit)

/-- Whether a character may be part of the name of a group. -/
def isNameChar (c : Char) : Bool :=
  c == '_' || Unicode.alphabetic.contains c.toNat ||
    [.decimalNumber, .letterNumber, .otherNumber].contains (Unicode.category c)

namespace Reader

/-- The characters that are left. -/
def rest : Reader (List Char) := return (← get).rest

/-- Leaves `cs` to be read. -/
def continueAt (cs : List Char) : Reader Unit := modify fun s => { s with rest := cs }

/-- Takes the next `n` characters away. -/
def skip (n : Nat) : Reader Unit := do continueAt ((← rest).drop n)

/-- Takes `word` away if it comes next, and says whether it did. -/
def accept (word : String) : Reader Bool := do
  let cs ← rest
  if word.toList.isPrefixOf cs then
    continueAt (cs.drop word.length)
    return true
  return false

/-- Takes `word` away, which has to come next. -/
def expect (word : String) : Reader Unit := do
  if ← accept word then return () else failure

/-- Takes away what the pattern leaves out here. -/
def skipGap : Reader Unit := do
  let s ← get
  continueAt (← afterGap? s.modes.spaced .none s.rest)

/-- Reads by `r` and up to the closing parenthesis. -/
def closed {α : Type} (r : Reader α) : Reader α := do
  let a ← r
  skipGap
  expect ")"
  return a

/-- Opens a group and counts it. -/
def openGroup : Reader Nat := do
  let number := (← get).opened + 1
  modify fun s => { s with opened := number }
  return number

/-- Reads a name up to `close`, or perhaps a minus sign and digits. -/
def name (close : String) (signed : Bool) : Reader String := do
  let cs ← rest
  let id := match cs with
    | '-' :: digits =>
      if signed then '-' :: digits.takeWhile Char.isDigit else []
    | _ => cs.takeWhile isNameChar
  if id.isEmpty then failure
  skip id.length
  expect close
  return String.ofList id

/-- Refers to a group, which has to be open or closed already. -/
def refer (number : Nat) : Reader Nat := do
  if (← get).opened < number then failure
  modify fun s => { s with refs := number :: s.refs }
  return number

/-- Reads the number of a group. -/
def numberedRef : Reader Nat := do
  let s ← get
  let (number, cs) ← decimal? s.rest
  if number ≥ s.refLimit then failure
  set { s with rest := cs, numbered := true }
  refer number

/-- Reads the name of a group, its number, or how many groups ago it was opened, up to `close`. -/
def namedRef (close : String) (signed : Bool) : Reader Nat := do
  let id ← name close signed
  let s ← get
  match s.names.lookup id, id.toList with
  | some number, _ => refer number
  | none, '-' :: digits => do
    let (ago, _) ← decimal? digits
    if ago > s.opened + 1 then failure
    refer (s.opened + 1 - ago)
  | none, digits => do
    let (number, cs) ← decimal? digits
    if cs.isEmpty then refer number else failure

end Reader

end Footprint.Pattern
