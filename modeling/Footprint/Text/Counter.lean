import Footprint.Unicode.Space

/-!
# Trailing counters

Synthetic names such as `** symbol gap 3 (end of section)` end in a counter: blanks, decimal digits
and perhaps a remark in parentheses. `withoutCounter` writes an `s` for the counter, so that the
fragments of one symbol share a name.
-/

namespace Footprint.Text

/-- Whether a text is a blank and a remark in parentheses on one line: `" (…)"`. -/
def isRemark : List Char → Bool
  | ' ' :: '(' :: rest => rest.getLast? == some ')' && !rest.contains '\n'
  | _ => false

/-- Whether a text is one or more decimal digits, then nothing or a remark. -/
def isNumbered (cs : List Char) : Bool :=
  match cs.span Unicode.isDecimalDigit with
  | ([], _) => false
  | (_, rest) => rest.isEmpty || isRemark rest

/-- Whether a text is a counter: one or more blanks, one or more decimal digits, then nothing or a
remark. -/
def isCounter (cs : List Char) : Bool :=
  match cs.span Unicode.isBlank with
  | ([], _) => false
  | (_, rest) => isNumbered rest

/-- A text with the longest counter at its end replaced by an `s`. -/
def withoutCounter : List Char → List Char
  | [] => []
  | c :: cs => if isCounter (c :: cs) then ['s'] else c :: withoutCounter cs

end Footprint.Text
