import Footprint.Json.Basic

/-!
# Numbers in JSON texts

A number keeps as many leading digits as fit into 64 bits and a power of ten. A number without a
fraction and an exponent that fits is an integer; any other is a float, which is the significand,
rounded, times or divided by the rounded power of ten. It is not always the float nearest to the
text.
-/

namespace Footprint.Json

/-- The greatest significand. -/
def maxSignificand : Nat := UInt64.size - 1

/-- The greatest exponent that can be written. -/
def maxExponent : Nat := 0x7FFFFFFF

/-- The float of a significand times a power of ten. Exponents below -308 are taken in steps, and
nothing is returned above the range of floats. -/
def scale (f : Float) (exponent : Int) : Option Float :=
  if 308 < exponent then
    if f == 0 then some f else none
  else if 0 ≤ exponent then
    let scaled := f * Float.ofScientific 1 false exponent.natAbs
    if scaled.isInf then none else some scaled
  else if -308 ≤ exponent then
    some (f / Float.ofScientific 1 false exponent.natAbs)
  else if f == 0 then some f
  else scale (f / Float.ofScientific 1 false 308) (exponent + 308)
termination_by exponent.natAbs
decreasing_by omega

/-- A float with a sign. -/
def signed (negative : Bool) (f : Float) : Float :=
  if negative then -f else f

/-- The value of a significand and an exponent; a number that is too large is unreadable. -/
def floatOf (negative : Bool) (significand : Nat) (exponent : Int) : Json :=
  match scale (UInt64.ofNat significand).toFloat exponent with
  | some f => float (signed negative f)
  | none => unreadable

/-- The value of a decimal digit. -/
def digit? (c : Char) : Option Nat :=
  if c.isDigit then some (c.toNat - '0'.toNat) else none

/-- The digits at the front of a text. -/
def takeDigits (cs : List Char) : List Nat × List Char :=
  ((cs.takeWhile Char.isDigit).filterMap digit?, cs.dropWhile Char.isDigit)

/-- Appends digits to a significand while it fits into 64 bits, and gives the digits for which it
does not. -/
def appendDigits : (significand : Nat) → List Nat → Nat × List Nat
  | s, [] => (s, [])
  | s, d :: ds =>
    if 10 * s + d ≤ maxSignificand then appendDigits (10 * s + d) ds else (s, d :: ds)

/-- The number that digits denote. -/
def digitsValue (ds : List Nat) : Nat :=
  ds.foldl (fun n d => 10 * n + d) 0

/-- The exponent at the front of a text, after its `e`; its sign may be left out. -/
def exponent? (cs : List Char) : Option (Int × List Char) :=
  let (negative, cs) := match cs with
    | '+' :: rest => (false, rest)
    | '-' :: rest => (true, rest)
    | _ => (false, cs)
  match takeDigits cs with
  | ([], _) => none
  | (ds, rest) => some (if negative then -(digitsValue ds : Int) else digitsValue ds, rest)

/-- The value of a significand, an exponent from the places of its digits, and perhaps a written
exponent at the front of the text. A written exponent out of range makes zero or an unreadable
number. -/
def withExponent (negative : Bool) (significand : Nat) (places : Int) (cs : List Char) :
    Option (Json × List Char) :=
  let finish (rest : List Char) := do
    let (written, rest) ← exponent? rest
    if written.natAbs ≤ maxExponent then
      return (floatOf negative significand (places + written), rest)
    else if significand = 0 ∨ written < 0 then
      return (float (signed negative 0), rest)
    else
      return (unreadable, rest)
  match cs with
  | 'e' :: rest => finish rest
  | 'E' :: rest => finish rest
  | _ => some (floatOf negative significand places, cs)

/-- The value of a number whose whole part is read, with `extra` digits of it left out of the
significand, from the text after it. -/
def afterWhole (negative : Bool) (significand extra : Nat) (cs : List Char) :
    Option (Json × List Char) :=
  match cs with
  | '.' :: rest =>
    match takeDigits rest with
    | ([], _) => none
    | (ds, rest) =>
      let (all, dropped) := appendDigits significand ds
      withExponent negative all ((extra : Int) - ((ds.length - dropped.length : Nat) : Int)) rest
  | 'e' :: _ => withExponent negative significand extra cs
  | 'E' :: _ => withExponent negative significand extra cs
  | _ =>
    if extra ≠ 0 then some (floatOf negative significand extra, cs)
    else if !negative then some (int significand, cs)
    else if 0 < significand ∧ significand ≤ 0x8000000000000000 then some (int (-(significand : Int)), cs)
    else some (floatOf negative significand 0, cs)

/-- The number at the front of a text that begins with a digit. A zero has no digit after it. -/
def unsigned? (negative : Bool) (cs : List Char) : Option (Json × List Char) :=
  match takeDigits cs with
  | ([], _) => none
  | (0 :: _ :: _, _) => none
  | (ds, rest) =>
    let (significand, dropped) := appendDigits 0 ds
    afterWhole negative significand dropped.length rest

/-- The number at the front of a text. -/
def number? : List Char → Option (Json × List Char)
  | '-' :: cs => unsigned? true cs
  | cs => unsigned? false cs

end Footprint.Json
