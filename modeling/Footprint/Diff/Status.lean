import Footprint.Symbol.Basic

/-!
# Status of the nodes of a diff

A symbol of a diff is added, removed, changed or unchanged. A group has the status that all its
members have, and is changed when they disagree.
-/

namespace Footprint

/-- How a node of a diff differs between the two sides. -/
inductive DiffStatus where
  /-- Both sides have it, with the same size. -/
  | unchanged
  /-- Both sides have it, with different sizes, or its parts differ in status. -/
  | changed
  /-- Only the second side has it. -/
  | added
  /-- Only the first side has it. -/
  | removed
deriving Repr, DecidableEq

namespace DiffStatus

/-- The word for a status. -/
def text : DiffStatus → String
  | unchanged => "unchanged"
  | changed => "changed"
  | added => "added"
  | removed => "removed"

/-- The status with a given word. -/
def ofText? : String → Option DiffStatus
  | "unchanged" => some unchanged
  | "changed" => some changed
  | "added" => some added
  | "removed" => some removed
  | _ => none

/-- The common status of all parts, `changed` when they disagree and `unchanged` when there are
none. -/
def combine : List DiffStatus → DiffStatus
  | [] => unchanged
  | first :: rest => if rest.all (· == first) then first else changed

/-- A status is found from its word. -/
theorem ofText?_text (s : DiffStatus) : ofText? s.text = some s := by
  cases s <;> rfl

end DiffStatus

/-- The status of a single symbol: a symbol of one side only is added or removed, any other symbol
is changed when its size is not zero. -/
def Symbol.status (s : Symbol) : DiffStatus :=
  match s.delta.map Delta.side with
  | some .added => .added
  | some .removed => .removed
  | _ => if s.size = 0 then .unchanged else .changed

/-- How many leaves of a diff have each status. -/
structure DiffCounts where
  /-- The number of added leaves. -/
  added : Nat
  /-- The number of removed leaves. -/
  removed : Nat
  /-- The number of changed leaves. -/
  changed : Nat
  /-- The number of unchanged leaves. -/
  unchanged : Nat
deriving Repr, DecidableEq

namespace DiffCounts

/-- The number of leaves. -/
def total (c : DiffCounts) : Nat :=
  c.added + c.removed + c.changed + c.unchanged

/-- The counts of a list of statuses. -/
def ofStatuses (statuses : List DiffStatus) : DiffCounts :=
  ⟨statuses.count .added, statuses.count .removed, statuses.count .changed,
    statuses.count .unchanged⟩

/-- Every status is counted once. -/
theorem total_ofStatuses (statuses : List DiffStatus) :
    (ofStatuses statuses).total = statuses.length := by
  induction statuses with
  | nil => rfl
  | cons s rest ih =>
    cases s <;> simp_all [ofStatuses, total] <;> omega

end DiffCounts

end Footprint
