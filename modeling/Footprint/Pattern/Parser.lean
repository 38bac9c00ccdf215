import Footprint.Pattern.Bracket

/-!
# From texts to patterns

A pattern is one or more branches between bars. A branch is a sequence of pieces, and a piece is an
atom that may be repeated. `Tree.parse?` reads a whole text as a pattern.
-/

namespace Footprint.Pattern

/-- One more than the greatest number of parentheses that may enclose each other. -/
def maxNesting : Nat := 64

/-- The bounds of a repetition after an opening brace. -/
def bounds? (spaced : Bool) (cs : List Char) : Option ((Nat × Option Nat) × List Char) := do
  let cs ← afterGap? spaced .none cs
  let (least, cs) ← if cs.head? = some ',' then some (0, cs) else decimal? cs
  match ← afterGap? spaced .none cs with
  | '\x7d' :: cs => some ((least, some least), cs)
  | ',' :: cs => do
    let cs ← afterGap? spaced .none cs
    let (most, cs) := match decimal? cs with
      | some (n, cs) => (some n, cs)
      | none => (none, cs)
    match ← afterGap? spaced .none cs with
    | '\x7d' :: cs => some ((least, most), cs)
    | _ => none
  | _ => none

namespace Tree

/-- Whether the pattern is the empty text. -/
def isEmpty : Tree → Bool
  | empty => true
  | _ => false

/-- The patterns of a list one after the other. -/
def sequence : List Tree → Tree
  | [] => empty
  | [t] => t
  | ts => concat ts

/-- The condition that a group was entered, in place of a reference to it. -/
def asCondition : Tree → Tree
  | backref number => entered number
  | t => t

/-- The choice between the first branch of a pattern and the others. -/
def choose (condition t : Tree) : Tree :=
  let (yes, no) := match t with
    | alt [yes, no] => (yes, no)
    | alt (yes :: others) => (yes, alt others)
    | yes => (yes, empty)
  if yes.isEmpty && no.isEmpty then condition else choice condition yes no

end Tree

namespace Reader

/-- Reads a place at the beginning of the text, or of a line in that mode. -/
def startOrLineStart : Reader Tree := do
  return .assert (if (← get).modes.multiLine then .lineStart else .textStart)

/-- Reads a place at the end of the text, or of a line in that mode. -/
def endOrLineEnd : Reader Tree := do
  return .assert (if (← get).modes.multiLine then .lineEnd else .textEnd)

/-- Reads how often a piece is repeated, if anything says so. -/
def repetition? : Reader (Option (Nat × Option Nat)) := do
  let s ← get
  match s.rest with
  | '?' :: cs =>
    continueAt cs
    return some (0, some 1)
  | '*' :: cs =>
    continueAt cs
    return some (0, none)
  | '+' :: cs =>
    continueAt cs
    return some (1, none)
  | '\x7b' :: cs =>
    match bounds? s.modes.spaced cs with
    | some (bounds, cs) =>
      continueAt cs
      return some bounds
    | none => return none
  | _ => return none

/-- Reads the repetition of a pattern that was read before. -/
def repeated (t : Tree) : Reader Tree := do
  skipGap
  match ← repetition? with
  | none => return t
  | some (least, most) =>
    if !t.isRepeatable then failure
    skipGap
    let lazy ← accept "?"
    let t := t.times least most (lazy == (← get).modes.swapGreed)
    if ← accept "+" then return t.atomic else return t

/-- A reading with a mode switched on or off, by its letter. -/
def setMode? (on : Bool) (c : Char) (m : Modes) : Option Modes :=
  match c with
  | 'i' => some { m with caseless := on }
  | 'm' => some { m with multiLine := on }
  | 's' => some { m with dotAll := on }
  | 'U' => some { m with swapGreed := on }
  | 'x' => some { m with spaced := on }
  | 'u' => if on then some m else none
  | _ => none

/-- Reads the letters of modes, and says whether a colon stands after them and not the closing
parenthesis. `last` is the character before, where that matters: the question mark at the beginning
or the minus sign, which may stand once. -/
def modeLetters (fuel : Nat) (on : Bool) (last : Option Char) : Reader Bool :=
  match fuel with
  | 0 => failure
  | fuel + 1 => do
    let before ← rest
    skipGap
    let after ← rest
    let last := if after.length = before.length then last else none
    match after with
    | ')' :: _ =>
      if last.isSome then failure
      skip 1
      return false
    | ':' :: _ =>
      if last = some '-' then failure
      skip 1
      return true
    | '-' :: _ =>
      if !on then failure
      skip 1
      modeLetters fuel false (some '-')
    | c :: _ =>
      let s ← get
      let modes ← setMode? on c s.modes
      set { s with modes }
      skip 1
      modeLetters fuel on none
    | [] => failure

mutual

/-- Reads branches between bars. -/
def branches (fuel depth : Nat) : Reader Tree :=
  match fuel with
  | 0 => failure
  | fuel + 1 => do
    let first ← branch fuel depth
    let others ← moreBranches fuel depth
    if others.isEmpty then
      let s ← get
      if s.numbered && !s.names.isEmpty then failure
      return first
    else return .alt (first :: others)
termination_by structural fuel

/-- Reads the branches after a branch. -/
def moreBranches (fuel depth : Nat) : Reader (List Tree) :=
  match fuel with
  | 0 => failure
  | fuel + 1 => do
    skipGap
    if ← accept "|" then
      let next ← branch fuel depth
      return next :: (← moreBranches fuel depth)
    else return []
termination_by structural fuel

/-- Reads one branch. -/
def branch (fuel depth : Nat) : Reader Tree :=
  match fuel with
  | 0 => failure
  | fuel + 1 => do return Tree.sequence (← pieces fuel depth)
termination_by structural fuel

/-- Reads pieces until none follows. -/
def pieces (fuel depth : Nat) : Reader (List Tree) :=
  match fuel with
  | 0 => failure
  | fuel + 1 => do
    let before ← rest
    if before.isEmpty then return []
    let t ← repeated (← atom fuel depth)
    if (← rest).length = before.length then return []
    let others ← pieces fuel depth
    return if t.isEmpty then others else t :: others
termination_by structural fuel

/-- Reads what a repetition may follow. -/
def atom (fuel depth : Nat) : Reader Tree :=
  match fuel with
  | 0 => failure
  | fuel + 1 => do
    skipGap
    let s ← get
    match s.rest with
    | [] => return .empty
    | '.' :: _ => do
      skip 1
      return .any s.modes.dotAll
    | '^' :: _ => do
      skip 1
      startOrLineStart
    | '$' :: _ => do
      skip 1
      endOrLineEnd
    | '(' :: _ => do
      skip 1
      parenthesised fuel (depth + 1)
    | '\\' :: _ => do
      skip 1
      escape
    | '[' :: _ => do
      skip 1
      bracket
    | c :: _ =>
      if ['+', '*', '?', '|', ')'].contains c then return .empty
      skip 1
      return .literal c s.modes.caseless
termination_by structural fuel

/-- Reads what follows an opening parenthesis, up to the closing one. -/
def parenthesised (fuel depth : Nat) : Reader Tree :=
  match fuel with
  | 0 => failure
  | fuel + 1 => do
    if depth ≥ maxNesting then failure
    skipGap
    if ← accept "?=" then return .look false false (← closed (branches fuel depth))
    if ← accept "?!" then return .look false true (← closed (branches fuel depth))
    if ← accept "?<=" then return .look true false (← closed (branches fuel depth))
    if ← accept "?<!" then return .look true true (← closed (branches fuel depth))
    if ← accept "?<" then namedGroup fuel depth ">"
    else if ← accept "?'" then namedGroup fuel depth "'"
    else if ← accept "?P<" then namedGroup fuel depth ">"
    else if ← accept "?P=" then return .backref (← namedRef ")" false)
    else if ← accept "?>" then return .atomic (← closed (branches fuel depth))
    else if ← accept "?(" then conditional fuel depth
    else if ← accept "?" then withModes fuel depth
    else
      let number ← openGroup
      return .group number (← closed (branches fuel depth))
termination_by structural fuel

/-- Reads the rest of a group whose name ends at `close`. -/
def namedGroup (fuel depth : Nat) (close : String) : Reader Tree :=
  match fuel with
  | 0 => failure
  | fuel + 1 => do
    let number ← openGroup
    let id ← name close false
    modify fun s => { s with names := (id, number) :: s.names }
    return .group number (← closed (branches fuel depth))
termination_by structural fuel

/-- Reads modes, and the pattern to which they apply if there is a colon. -/
def withModes (fuel depth : Nat) : Reader Tree :=
  match fuel with
  | 0 => failure
  | fuel + 1 => do
    let s ← get
    if ← modeLetters (s.rest.length + 1) true (some '?') then
      let t ← branches fuel depth
      expect ")"
      modify fun after => { after with modes := s.modes }
      return t
    else return .empty
termination_by structural fuel

/-- Reads a condition and the branches between which it chooses. -/
def conditional (fuel depth : Nat) : Reader Tree :=
  match fuel with
  | 0 => failure
  | fuel + 1 => do
    let condition ← match ← rest with
      | '\'' :: _ => do
        skip 1
        .backref <$> namedRef "'" true
      | '<' :: _ => do
        skip 1
        .backref <$> namedRef ">" true
      | c :: _ => if c.isDigit then .backref <$> numberedRef else branches fuel depth
      | [] => failure
    skipGap
    expect ")"
    let before ← rest
    let t ← closed (branches fuel depth)
    if before.head? = some ')' then
      match condition with
      | .backref number => return .entered number
      | _ => failure
    else return condition.asCondition.choose t
termination_by structural fuel

end

end Reader

/-- The pattern that a text is, and the groups to which it refers. -/
def Tree.parse? (pattern : String) : Option (Tree × List Nat) := do
  let (t, s) ← (Reader.branches (8 * pattern.length + 16) 0).run (.start pattern)
  if s.rest.isEmpty then some (t, s.refs) else none

end Footprint.Pattern
