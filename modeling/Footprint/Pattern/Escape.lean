import Footprint.Pattern.Reader
import Footprint.Text.Hex

/-!
# Escapes in patterns

What a backslash and the characters after it stand for, outside brackets and inside them.
-/

namespace Footprint.Pattern

/-- The character of a number, if it is one. -/
def charOfNat? (n : Nat) : Option Char :=
  if n.isValidChar then some (Char.ofNat n) else none

/-- The set of the characters with a property: `name`, `name=value`, `name:value` or
`name!=value`. -/
def propertySet? (text : List Char) : Option (Bool × CharSet) :=
  match text.span fun c => c != '!' && c != ':' && c != '=' with
  | (property, []) => (CharSet.named? (String.ofList property)).map (false, ·)
  | (property, '!' :: '=' :: value) =>
    (CharSet.withValue? (String.ofList property) (String.ofList value)).map (true, ·)
  | (property, _ :: value) =>
    (CharSet.withValue? (String.ofList property) (String.ofList value)).map (false, ·)

namespace Reader

/-- Reads `count` hexadecimal digits, or one to eight of them in braces, as a character. -/
def hexChar (count : Nat) : Reader Char := do
  let cs ← rest
  let fixed := cs.take count
  let isHex := fun c => (Text.hexDigit? c).isSome
  if fixed.length = count ∧ fixed.all isHex then
    skip count
    charOfNat? (← Text.hexValue? 0 fixed)
  else
    expect "\x7b"
    let digits := (← rest).takeWhile isHex
    if digits.isEmpty || digits.length > 8 then failure
    skip digits.length
    expect "\x7d"
    charOfNat? (← Text.hexValue? 0 digits)

/-- Reads a letter or a text in braces as the set of the characters with that property. -/
def property (negated : Bool) : Reader CharSet := do
  let text ← match ← rest with
    | '\x7b' :: cs => do
      let text := cs.takeWhile (· != '\x7d')
      skip (text.length + 1)
      expect "\x7d"
      pure text
    | c :: _ => do
      if c == '\\' then failure
      skip 1
      pure [c]
    | [] => failure
  let (unequal, s) ← propertySet? text
  return (s.foldIf (← get).modes.caseless).negateIf (negated != unequal)

/-- A character that may stand for both of its cases. -/
def letter (c : Char) : Reader Tree := return .literal c (← get).modes.caseless

/-- What the escape of a letter stands for inside brackets and outside them. -/
def commonEscape (c : Char) : Reader Tree :=
  match c with
  | 'd' => return .set .digit
  | 'D' => return .set (.compl .digit)
  | 's' => return .set .blank
  | 'S' => return .set (.compl .blank)
  | 'w' => return .set .word
  | 'W' => return .set (.compl .word)
  | 'h' => return .set .hexDigit
  | 'H' => return .set (.compl .hexDigit)
  | 'p' => return .set (← property false)
  | 'P' => return .set (← property true)
  | 'x' => do letter (← hexChar 2)
  | 'u' => do letter (← hexChar 4)
  | 'U' => do letter (← hexChar 8)
  | 'a' => return .literal '\x07' false
  | 'e' => return .literal '\x1b' false
  | 'f' => return .literal '\x0c' false
  | 'n' => return .literal '\n' false
  | 'r' => return .literal '\r' false
  | 't' => return .literal '\t' false
  | 'v' => return .literal '\x0b' false
  | c => if c.isAlpha then failure else return .literal c false

/-- Reads what follows a backslash inside brackets. -/
def escapeInBrackets : Reader Tree := do
  match ← rest with
  | [] => failure
  | c :: _ =>
    skip 1
    if c.isDigit then failure
    else if c = 'b' then return .literal '\x08' false
    else commonEscape c

/-- A word boundary, which no brace may follow. -/
def boundary (a : Assertion) : Reader Tree := do
  if ← accept "\x7b" then failure else return .assert a

/-- Reads what follows a backslash outside brackets. -/
def escape : Reader Tree := do
  match ← rest with
  | [] => failure
  | c :: _ =>
    if c.isDigit then return .backref (← numberedRef)
    skip 1
    match c with
    | 'k' =>
      if ← accept "'" then return .backref (← namedRef "'" true)
      expect "<"
      return .backref (← namedRef ">" true)
    | 'A' => return .assert .textStart
    | 'z' => return .assert .textEnd
    | 'b' => boundary .wordBoundary
    | 'B' => boundary .notWordBoundary
    | '<' => return .assert .wordStart
    | '>' => return .assert .wordEnd
    | 'K' => return .keepOut
    | 'G' => return .searchStart
    | c => commonEscape c

end Reader

end Footprint.Pattern
