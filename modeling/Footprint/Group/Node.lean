import Footprint.Diff.Status
import Footprint.Symbol.Table

/-!
# Nodes of a tree

A node is a single symbol or a group of nodes. Nodes are told apart by identity and not by value:
a symbol by its id, a nested group by the operation that made it and its place among the groups
made there.
-/

namespace Footprint

/-- The identity of a nested group. -/
structure GroupId where
  /-- The operation that made the group. -/
  stamp : Stamp
  /-- The place of the group among those that the operation made. -/
  path : List Nat
deriving Repr, DecidableEq

/-- The identity of a node. -/
inductive NodeId where
  /-- A symbol of the table. -/
  | symbol (id : SymbolId)
  /-- A nested group. -/
  | group (id : GroupId)
deriving Repr, DecidableEq

/-- The identity of a nested group in hexadecimal digits after a `g`. -/
def GroupId.text (id : GroupId) : String :=
  "g" ++ ".".intercalate ((id.stamp.time :: id.path).map Text.hex)

/-- The identity of a node as a text. -/
def NodeId.text : NodeId → String
  | symbol id => id.text
  | group id => id.text

/-- What a nested group is, apart from its members. -/
structure Head where
  /-- The identity of the group. -/
  id : GroupId
  /-- The names and the section. -/
  label : Label
  /-- Whether the members are in the order of a sort. -/
  isSorted : Bool
  /-- The status within a diff. -/
  status : Option DiffStatus

/-- A symbol or a group of nodes. -/
inductive Node where
  /-- A single symbol. -/
  | leaf (symbol : Symbol)
  /-- A nested group with its members in order. -/
  | group (head : Head) (members : List Node)

namespace Node

/-- The identity of a node. -/
def id : Node → NodeId
  | leaf s => .symbol s.id
  | group h _ => .group h.id

/-- Whether a node is a nested group. -/
def isGroup : Node → Bool
  | leaf _ => false
  | group _ _ => true

/-- The number of direct members; a single symbol counts as one. -/
def childCount : Node → Nat
  | leaf _ => 1
  | group _ members => members.length

/-- The alias group of a single symbol. -/
def aliasGroup : Node → Option AliasGroupId
  | leaf s => s.aliasGroup
  | group _ _ => none

/-- The status of a node within a diff: a group has the one it was given when it was made. -/
def status : Node → DiffStatus
  | leaf s => s.status
  | group h _ => h.status.getD .unchanged

mutual

/-- The facts of a node: those of its symbol, or those of its members joined. -/
def facts : Node → Facts
  | leaf s => s.facts
  | group h members => .ofMembers h.label (factsList members)

/-- The facts of each node of a list. -/
def factsList : List Node → List Facts
  | [] => []
  | n :: ns => n.facts :: factsList ns

end

mutual

/-- The symbols beneath a node, from left to right. -/
def leaves : Node → List Symbol
  | leaf s => [s]
  | group _ members => leavesList members

/-- The symbols beneath the nodes of a list, from left to right. -/
def leavesList : List Node → List Symbol
  | [] => []
  | n :: ns => n.leaves ++ leavesList ns

end

/-- The facts of several nodes are those of each. -/
theorem factsList_eq_map (ns : List Node) : factsList ns = ns.map facts := by
  induction ns with
  | nil => rfl
  | cons n ns ih => simp [factsList, ih]

/-- The leaves of several nodes are those of each in order. -/
theorem leavesList_eq_flatMap (ns : List Node) : leavesList ns = ns.flatMap leaves := by
  induction ns with
  | nil => rfl
  | cons n ns ih => simp [leavesList, ih]

/-- The facts of a nested group are those of its members joined. -/
theorem facts_group (h : Head) (members : List Node) :
    (group h members).facts = .ofMembers h.label (members.map facts) := by
  rw [facts, factsList_eq_map]

/-- The leaves of a nested group are those of its members in order. -/
theorem leaves_group (h : Head) (members : List Node) :
    (group h members).leaves = members.flatMap leaves := by
  rw [leaves, leavesList_eq_flatMap]

/-- Only single symbols have an alias group, also in their facts. -/
theorem aliasGroup_facts (n : Node) : n.facts.aliasGroup = n.aliasGroup := by
  cases n with
  | leaf s => rfl
  | group h members => rw [facts_group]; rfl

end Node

end Footprint
