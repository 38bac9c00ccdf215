import Footprint.Json.Number
import Footprint.Text.Hex

/-!
# Reading JSON texts

`Json.ofText?` reads a text that holds one value and blanks around it. Every part of the text has to
be well formed; parts that stand for no value are read as `unreadable`.
-/

namespace Footprint.Json

/-- The greatest number of lists and objects that may enclose each other and still be read. -/
def maxDepth : Nat := 127

/-- A text without the blanks at its front. -/
def dropBlanks (cs : List Char) : List Char :=
  cs.dropWhile fun c => c == ' ' || c == '\n' || c == '\t' || c == '\r'

/-- A text without `word` at its front, if it begins with it. -/
def afterWord? : (word cs : List Char) → Option (List Char)
  | [], cs => some cs
  | w :: word, c :: cs => if w = c then afterWord? word cs else none
  | _ :: _, [] => none

/-- The number of four hexadecimal digits at the front of a text. -/
def hex4? : List Char → Option (Nat × List Char)
  | a :: b :: c :: d :: rest => do return (← Text.hexValue? 0 [a, b, c, d], rest)
  | _ => none

/-- One unit of a quoted text. -/
inductive StringUnit where
  /-- A character, written as itself or as an escape. -/
  | char (c : Char)
  /-- The first half of a surrogate pair. -/
  | high (n : Nat)
  /-- The second half of a surrogate pair. -/
  | low (n : Nat)

/-- The unit that an escaped 16-bit number stands for. -/
def StringUnit.ofNat (n : Nat) : StringUnit :=
  if 0xD800 ≤ n ∧ n < 0xDC00 then .high n
  else if 0xDC00 ≤ n ∧ n < 0xE000 then .low n
  else .char (Char.ofNat n)

/-- The character of a one-letter escape. -/
def escaped? : Char → Option Char
  | '"' => some '"'
  | '\\' => some '\\'
  | '/' => some '/'
  | 'b' => some '\x08'
  | 'f' => some '\x0c'
  | 'n' => some '\n'
  | 'r' => some '\r'
  | 't' => some '\t'
  | _ => none

/-- The units of a quoted text up to its closing quote, and the text after it. -/
def stringUnits? : List Char → Option (List StringUnit × List Char)
  | [] => none
  | '"' :: rest => some ([], rest)
  | '\\' :: 'u' :: a :: b :: c :: d :: rest => do
    let n ← Text.hexValue? 0 [a, b, c, d]
    let (units, rest) ← stringUnits? rest
    return (.ofNat n :: units, rest)
  | '\\' :: c :: rest => do
    let c ← escaped? c
    let (units, rest) ← stringUnits? rest
    return (.char c :: units, rest)
  | c :: rest =>
    if c == '\\' || c.toNat < 0x20 then none
    else do
      let (units, rest) ← stringUnits? rest
      return (.char c :: units, rest)

/-- The characters of a list of units, in which halves of surrogate pairs have to be adjacent. -/
def joinUnits? : List StringUnit → Option (List Char)
  | [] => some []
  | .char c :: rest => do return c :: (← joinUnits? rest)
  | .high h :: .low l :: rest => do
    return Char.ofNat (0x10000 + (h - 0xD800) * 0x400 + (l - 0xDC00)) :: (← joinUnits? rest)
  | .high _ :: _ => none
  | .low _ :: _ => none

/-- The text of a quoted string after its opening quote, where it stands for one, and what follows
it. -/
def quoted? (cs : List Char) : Option (Option String × List Char) := do
  let (units, rest) ← stringUnits? cs
  return ((joinUnits? units).map String.ofList, rest)

mutual

/-- The value at the front of a text, inside `depth` lists and objects. -/
def value? (fuel depth : Nat) (cs : List Char) : Option (Json × List Char) :=
  match fuel with
  | 0 => none
  | fuel + 1 =>
    match dropBlanks cs with
    | '"' :: rest => do
      let (text, rest) ← quoted? rest
      return (match text with | some s => string s | none => unreadable, rest)
    | '[' :: rest => do
      let (items, rest) ← match dropBlanks rest with
        | ']' :: rest => some ([], rest)
        | rest => items? fuel (depth + 1) rest
      return (if depth < maxDepth then array items else unreadable, rest)
    | '\x7b' :: rest => do
      let (fields, rest) ← match dropBlanks rest with
        | '\x7d' :: rest => some ([], rest)
        | rest => fields? fuel (depth + 1) rest
      let keyed := fields.mapM fun f => f.1.map fun key => (key, f.2)
      return (if depth < maxDepth then (keyed.map object).getD unreadable else unreadable, rest)
    | cs =>
      match afterWord? "null".toList cs, afterWord? "true".toList cs,
          afterWord? "false".toList cs with
      | some rest, _, _ => some (null, rest)
      | _, some rest, _ => some (bool true, rest)
      | _, _, some rest => some (bool false, rest)
      | none, none, none => number? cs

/-- The items of a list up to its end. -/
def items? (fuel depth : Nat) (cs : List Char) : Option (List Json × List Char) :=
  match fuel with
  | 0 => none
  | fuel + 1 => do
    let (item, rest) ← value? fuel depth cs
    match dropBlanks rest with
    | ']' :: rest => return ([item], rest)
    | ',' :: rest =>
      let (items, rest) ← items? fuel depth rest
      return (item :: items, rest)
    | _ => none

/-- The fields of an object up to its end; a key that stands for no text is missing. -/
def fields? (fuel depth : Nat) (cs : List Char) :
    Option (List (Option String × Json) × List Char) :=
  match fuel with
  | 0 => none
  | fuel + 1 =>
    match dropBlanks cs with
    | '"' :: rest => do
      let (key, rest) ← quoted? rest
      match dropBlanks rest with
      | ':' :: rest =>
        let (item, rest) ← value? fuel depth rest
        match dropBlanks rest with
        | '\x7d' :: rest => return ([(key, item)], rest)
        | ',' :: rest =>
          let (fields, rest) ← fields? fuel depth rest
          return ((key, item) :: fields, rest)
        | _ => none
      | _ => none
    | _ => none

end

/-- The value of a text that holds one value with blanks around it. -/
def ofText? (text : String) : Option Json := do
  let cs := text.toList
  let (json, rest) ← value? (2 * cs.length + 1) 0 cs
  if (dropBlanks rest).isEmpty then some json else none

end Footprint.Json
