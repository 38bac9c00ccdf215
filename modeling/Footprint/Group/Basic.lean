import Footprint.Group.Leaves

/-!
# Groups of symbols

A group is an ordered list of nodes over one table, with the nodes that its filter left out. No
operation changes a group; each makes a new one by `transformed`, which finds the status of the new
members when the group belongs to a diff.
-/

namespace Footprint

/-- An ordered collection of nodes over one table. -/
structure Group where
  /-- The table of the symbols beneath the group. -/
  table : Table
  /-- The members in order. -/
  members : List Node
  /-- The nodes that the filter which made the group left out. -/
  filteredOut : List Node := []
  /-- The names and the section. -/
  label : Label := {}
  /-- Whether the members are in the order of a sort. -/
  isSorted : Bool := false
  /-- The status within a diff. -/
  status : Option DiffStatus := none

namespace Group

/-- The group of all symbols of a table in order. -/
def ofTable (t : Table) : Group :=
  { table := t, members := t.symbols.toList.map .leaf }

/-- The group of chosen symbols of a table, which may repeat. -/
def ofIds (t : Table) (ids : List SymbolId) : Except Error Group := do
  let symbols ← ids.mapM t.get
  return { table := t, members := symbols.map .leaf }

/-- The number of members. -/
def size (g : Group) : Nat := g.members.length

/-- The facts of a group: those of its members joined. -/
def facts (g : Group) : Facts :=
  .ofMembers g.label (g.members.map Node.facts)

/-- The bytes taken up by the members. -/
def totalSize (g : Group) : Int := g.facts.size

/-- The bytes of padding of the members. -/
def totalPadding (g : Group) : Int := g.facts.padding

/-- The members without those whose alias group occurred before. -/
def uniqueMembers (g : Group) : List Node :=
  onePerAlias Node.aliasGroup g.members

/-- The symbols beneath the group, from left to right. -/
def leaves (g : Group) : List Symbol :=
  Walk.toList [g.members]

/-- Whether the group belongs to a diff. -/
def isDiff (g : Group) : Bool := g.status.isSome

/-- How many leaves have each status. -/
def counts (g : Group) : DiffCounts :=
  .ofStatuses (g.leaves.map Symbol.status)

/-- The label that keeps only the section of the group. -/
def sectionLabel (g : Group) : Label :=
  { sectionName := g.label.sectionName }

/-- The status of a list of nodes in the diff that the group belongs to, if it does. -/
def statusOf (g : Group) (members : List Node) : Option DiffStatus :=
  g.status.map fun _ => .combine (members.map Node.status)

/-- A group over the same table, and in the same diff, with other members. -/
def transformed (g : Group) (members filteredOut : List Node) (label : Label) (isSorted : Bool) :
    Group :=
  { table := g.table, members, filteredOut, label, isSorted, status := g.statusOf members }

/-- A transformation to the same members, label and order changes nothing more after the first
time. -/
theorem transformed_transformed (g : Group) (members filteredOut : List Node) (label : Label)
    (isSorted : Bool) :
    (g.transformed members filteredOut label isSorted).transformed members filteredOut label
      isSorted = g.transformed members filteredOut label isSorted := by
  have hstatus : (g.transformed members filteredOut label isSorted).statusOf members =
      g.statusOf members := by
    simp [transformed, statusOf, Option.map_map, Function.comp_def]
  unfold transformed at hstatus ⊢
  rw [hstatus]

/-- The nested group at a place, as a group of its own. -/
def child? (g : Group) (index : Nat) : Option Group :=
  match g.members[index]? with
  | some (.group h members) =>
    some { table := g.table, members, label := h.label, isSorted := h.isSorted, status := h.status }
  | _ => none

end Group

/-- The line that stands for a group in messages. -/
def describeGroup (label : Label) (status : Option DiffStatus) (members : List Node) : String :=
  let size := (Facts.ofMembers label (members.map Node.facts)).size
  match status with
  | some _ =>
    let c := DiffCounts.ofStatuses ((members.flatMap Node.leaves).map Symbol.status)
    s!"SymbolGroup({c.added} added, {c.removed} removed, {c.changed} changed, " ++
      s!"{c.unchanged} unchanged, size={size})"
  | none => s!"Group(full_name={label.fullName},count={members.length},size={size})"

/-- The line that stands for a node in messages. -/
def Node.describe : Node → String
  | .leaf s => s.describe
  | .group h members => describeGroup h.label h.status members

/-- The line that stands for a group in messages. -/
def Group.describe (g : Group) : String :=
  describeGroup g.label g.status g.members

end Footprint
