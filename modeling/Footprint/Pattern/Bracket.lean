import Footprint.Pattern.Escape

/-!
# Sets in brackets

A pattern lists the characters of a set in brackets: single characters, ranges, escapes, POSIX
classes and sets in further brackets, combined by union, `&&`, `--` and `~~`. The text is first cut
into tokens up to the bracket that closes it.
-/

namespace Footprint.Pattern

/-- A unit of the text of a set in brackets. -/
inductive SetToken where
  /-- A character as it stands. -/
  | plain (c : Char)
  /-- A character that was escaped and is nothing but itself. -/
  | quoted (c : Char)
  /-- An escape that stands for a set. -/
  | set (s : CharSet)
  /-- An escape that stands for a set in brackets. -/
  | bracket (s : CharSet)

namespace SetToken

/-- Whether a token is a character as it stands. -/
def isPlain (c : Char) : SetToken → Bool
  | plain d => c == d
  | _ => false

/-- The character that a token stands for. -/
def char? : SetToken → Option Char
  | plain c | quoted c => some c
  | _ => none

/-- The set that a token stands for. -/
def toSet : SetToken → CharSet
  | plain c | quoted c => .single c
  | set s | bracket s => s

end SetToken

namespace Reader

/-- Reads the tokens of a set up to the bracket that closes the last of `depth` brackets. -/
def setTokens (fuel depth : Nat) : Reader (List SetToken) :=
  match fuel with
  | 0 => failure
  | fuel + 1 => do
    let mut after := depth
    let token ← match ← rest with
      | [] => failure
      | '\\' :: 'h' :: _ => do
        skip 2
        pure (.bracket .hexDigit)
      | '\\' :: 'H' :: _ => do
        skip 2
        pure (.bracket (.compl .hexDigit))
      | '\\' :: _ => do
        skip 1
        match ← escapeInBrackets with
        | .literal c _ => pure (.quoted c)
        | .set s => pure (.set s)
        | _ => failure
      | c :: _ => do
        skip 1
        pure (.plain c)
    if token.isPlain '[' then after := depth + 1
    if token.isPlain ']' then
      if depth = 1 then return [token]
      after := depth - 1
    return token :: (← setTokens fuel after)

end Reader

/-- An operator between two sets. -/
inductive SetOperator where
  /-- The characters of both sets. -/
  | both
  /-- The characters of the first set only. -/
  | without
  /-- The characters of exactly one set. -/
  | either

/-- The set that an operator makes of two sets. -/
def SetOperator.apply : SetOperator → CharSet → CharSet → CharSet
  | both => .inter
  | without => .diff
  | either => .symmDiff

/-- The POSIX class after an opening bracket. -/
def posixSet? (caseless : Bool) : List SetToken → Option (CharSet × List SetToken)
  | .plain ':' :: ts => do
    let (negated, ts) := match ts with
      | .plain '^' :: ts => (true, ts)
      | _ => (false, ts)
    let (name, ts) := ts.span fun t => !t.isPlain ':'
    match ts with
    | .plain ':' :: .plain ']' :: ts => do
      let s ← CharSet.posix? (String.ofList (name.filterMap SetToken.char?))
      return ((s.foldIf caseless).negateIf negated, ts)
    | _ => none
  | _ => none

/-- A set to which an operator is still to be applied. -/
abbrev Operand := Option (SetOperator × CharSet)

/-- Applies the operator that waits for `s`. -/
def Operand.apply (caseless : Bool) : Operand → CharSet → CharSet
  | none, s => s
  | some (op, left), s => op.apply (left.foldIf caseless) (s.foldIf caseless)

mutual

/-- The set after an opening bracket, and the tokens after its closing one. -/
def bracketSet? (caseless : Bool) (fuel : Nat) (ts : List SetToken) :
    Option (CharSet × List SetToken) :=
  match fuel with
  | 0 => none
  | fuel + 1 => do
    let (negated, ts) := match ts with
      | .plain '^' :: ts => (true, ts)
      | _ => (false, ts)
    let (hyphens, ts) := ts.span (SetToken.isPlain '-')
    let (s, ts) ← match hyphens, ts with
      | [], .plain ']' :: ts => setItems? caseless fuel none (.single ']') ts
      | [], ts => setItems? caseless fuel none .empty ts
      | _, ts => setItems? caseless fuel none (.single '-') ts
    return ((s.foldIf caseless).negateIf negated, ts)

/-- The set that the items up to the next closing bracket add to `s`, after the operand `left`. -/
def setItems? (caseless : Bool) (fuel : Nat) (left : Operand) (s : CharSet)
    (ts : List SetToken) : Option (CharSet × List SetToken) :=
  match fuel with
  | 0 => none
  | fuel + 1 =>
    let operator := fun op => setItems? caseless fuel (some (op, left.apply caseless s)) .empty
    match ts with
    | [] => none
    | .plain ']' :: ts => some (left.apply caseless s, ts)
    | .plain '&' :: .plain '&' :: ts => operator .both ts
    | .plain '-' :: .plain '-' :: ts => operator .without ts
    | .plain '~' :: .plain '~' :: ts => operator .either ts
    | .plain '[' :: ts => do
      let (inner, ts) ← posixSet? caseless ts <|> bracketSet? caseless fuel ts
      setItems? caseless fuel left (s.union inner) ts
    | .bracket inner :: ts => setItems? caseless fuel left (s.union inner) ts
    | t :: .plain '-' :: u :: ts =>
      if u.isPlain ']' || u.isPlain '-' then
        setItems? caseless fuel left (s.union t.toSet) (.plain '-' :: u :: ts)
      else do
        let first ← t.char?
        let last ← u.char?
        if first ≤ last then setItems? caseless fuel left (s.union (.range first last)) ts
        else none
    | t :: ts => setItems? caseless fuel left (s.union t.toSet) ts

end

/-- Reads the set after an opening bracket. -/
def Reader.bracket : Reader Tree := do
  let s ← get
  let before ← if ← accept "^" then pure [.plain '^'] else pure []
  let first ← if ← accept "]" then pure [.plain ']'] else pure []
  let tokens := before ++ first ++ (← setTokens (s.rest.length + 1) 1)
  let (set, after) ← bracketSet? s.modes.caseless (2 * tokens.length + 2) tokens
  if after.isEmpty then return .set set else failure

end Footprint.Pattern
