import Footprint.Dict

/-!
# JSON values

A `Json` is a JSON text without its spelling. Whole numbers from -2⁶³ to 2⁶⁴-1 are integers and all
others are floats. The fields of an object keep their order and may repeat until `settle` puts them
into the order of their keys.
-/

namespace Footprint

/-- A JSON value. -/
inductive Json where
  /-- The value `null`. -/
  | null
  /-- A truth value. -/
  | bool (value : Bool)
  /-- A whole number in the range of 64-bit integers, signed or unsigned. -/
  | int (value : Int)
  /-- Any other number. -/
  | float (value : Float)
  /-- A text. -/
  | string (value : String)
  /-- A list of values. -/
  | array (items : List Json)
  /-- Values under text keys. -/
  | object (fields : List (String × Json))
  /-- A well-formed text that stands for no value: a number too large for a float, a string or a key
  with half of a surrogate pair, or a value nested too deeply. It may be skipped but not read. -/
  | unreadable

namespace Json

mutual

/-- The value with the fields of every object in the order of their keys, where the last field of a
key wins; nothing when a part is unreadable. -/
def settle : Json → Option Json
  | unreadable => none
  | array items => (settleItems items).map array
  | object fields => (settleFields fields).map fun fs => object (Dict.ofList fs).entries
  | value => some value

/-- The items of a list, settled. -/
def settleItems : List Json → Option (List Json)
  | [] => some []
  | x :: xs => do return (← settle x) :: (← settleItems xs)

/-- The fields of an object, settled. -/
def settleFields : List (String × Json) → Option (List (String × Json))
  | [] => some []
  | (key, x) :: rest => do return (key, ← settle x) :: (← settleFields rest)

end

/-- The whole number that a value is, if it lies between two bounds. -/
def intBetween? (low high : Int) : Json → Option Int
  | int n => if low ≤ n ∧ n ≤ high then some n else none
  | _ => none

/-- The signed 64-bit number that a value is. -/
def int64? : Json → Option Int := intBetween? Int64.minValue.toInt Int64.maxValue.toInt

/-- The signed 32-bit number that a value is. -/
def int32? : Json → Option Int := intBetween? Int32.minValue.toInt Int32.maxValue.toInt

/-- The unsigned 64-bit number that a value is. -/
def nat64? (j : Json) : Option Nat := (intBetween? 0 (UInt64.size - 1) j).map Int.toNat

/-- The unsigned 32-bit number that a value is. -/
def nat32? (j : Json) : Option Nat := (intBetween? 0 (UInt32.size - 1) j).map Int.toNat

/-- The text that a value is. -/
def string? : Json → Option String
  | string s => some s
  | _ => none

/-- The truth value that a value is. -/
def bool? : Json → Option Bool
  | bool b => some b
  | _ => none

/-- The items of the list that a value is. -/
def array? : Json → Option (List Json)
  | array items => some items
  | _ => none

/-- The fields of the object that a value is. -/
def object? : Json → Option (List (String × Json))
  | object fields => some fields
  | _ => none

/-- The entries of the object that a value is, each value read by `read`; of several entries under
one key the last wins. -/
def dict? {α : Type} (read : Json → Option α) (j : Json) : Option (Dict α) := do
  let fields ← j.object?
  let entries ← fields.mapM fun (key, value) => do return (key, ← read value)
  return .ofList entries

/-- The items of the list that a value is, each read by `read`. -/
def list? {α : Type} (read : Json → Option α) (j : Json) : Option (List α) := do
  (← j.array?).mapM read

end Json

end Footprint
