/-!
# Parts of a separated text

Names and paths are cut into parts by a separator, at the occurrences found from left to right.
`takeParts` keeps leading parts and `dropTrailingParts` removes parts from the end. Neither ever
cuts inside a part.
-/

namespace Footprint.Text

/-- A text without `sep` at its front, if it begins with it. -/
def afterSeparator? : (sep text : List Char) → Option (List Char)
  | [], text => some text
  | s :: sep, c :: text => if s = c then afterSeparator? sep text else none
  | _ :: _, [] => none

/-- The text before the first occurrence of `sep` and the text after it. -/
def splitFirst? (sep : List Char) : List Char → Option (List Char × List Char)
  | [] => none
  | c :: text =>
    match afterSeparator? sep (c :: text) with
    | some rest => some ([], rest)
    | none => (splitFirst? sep text).map fun (before, rest) => (c :: before, rest)

/-- The text before the last occurrence of `sep`. -/
def beforeLast? (sep : List Char) : List Char → Option (List Char)
  | [] => none
  | c :: text =>
    match beforeLast? sep text with
    | some before => some (c :: before)
    | none => (afterSeparator? sep (c :: text)).map fun _ => []

/-- The text before the occurrence number `count` of `sep`, or before the last one when there are
fewer; the whole text when there is none or `count` is 0. -/
def takeParts (sep : List Char) : (count : Nat) → List Char → List Char
  | 0, text => text
  | count + 1, text =>
    match splitFirst? sep text with
    | none => text
    | some (before, rest) =>
      if count = 0 ∨ (splitFirst? sep rest).isNone then before
      else before ++ sep ++ takeParts sep count rest

/-- The text before the last occurrence of `sep`, taken `count` times or until none is left. -/
def dropTrailingParts (sep : List Char) : (count : Nat) → List Char → List Char
  | 0, text => text
  | count + 1, text =>
    match beforeLast? sep text with
    | some before => dropTrailingParts sep count before
    | none => text

end Footprint.Text
