import Footprint.Group.Basic

/-!
# Sorting

Sorts are stable: members that compare equal keep their order, also when the order is reversed.
-/

namespace Footprint

/-- The bit of a float that is set when the float is negative. -/
def signBit : Nat := 0x8000000000000000

/-- A number whose order among the numbers of all floats is their total order: negative zero comes
before zero. -/
def floatRank (x : Float) : Int :=
  let bits := x.toBits.toNat
  if bits < signBit then bits else signBit - 1 - (bits : Int)

/-- Compares by a key. -/
def compareBy {α κ : Type} [Ord κ] (key : α → κ) (a b : α) : Ordering :=
  compare (key a) (key b)

namespace Group

/-- The members in the order of a comparison. With `reverse` the comparison is turned around. -/
def sorted (g : Group) (cmp : Node → Node → Ordering) (reverse : Bool := false) : Group :=
  let cmp := if reverse then fun a b => (cmp a b).swap else cmp
  let members := g.members.mergeSort fun a b => (cmp a b).isLE
  g.transformed members g.filteredOut g.sectionLabel true

/-- The members in the order of a key. -/
def sortedByKey {κ : Type} [Ord κ] (g : Group) (key : Node → κ) (reverse : Bool := false) :
    Group :=
  g.sorted (compareBy key) reverse

/-- Compares nodes outside `.bss` before those in it, then by decreasing absolute proportional
size, then by name. -/
def defaultOrder (a b : Node) : Ordering :=
  let a := a.facts
  let b := b.facts
  (compare a.isBss b.isBss).then <|
    (compare (floatRank b.pss.abs) (floatRank a.pss.abs)).then <|
      compare a.name b.name

/-- Compares by address, then by object path, then by name. -/
def addressOrder (a b : Node) : Ordering :=
  let a := a.facts
  let b := b.facts
  (compare a.address b.address).then <|
    (compare a.objectPath b.objectPath).then <|
      compare a.name b.name

/-- The members in the default order. -/
def sortedDefault (g : Group) (reverse : Bool := false) : Group :=
  g.sorted defaultOrder reverse

/-- The members in the order of their names. -/
def sortedByName (g : Group) (reverse : Bool := false) : Group :=
  g.sortedByKey (fun n => n.facts.name) reverse

/-- The members in the order of their addresses. -/
def sortedByAddress (g : Group) (reverse : Bool := false) : Group :=
  g.sorted addressOrder reverse

/-- The members by their number of direct members, the largest first unless `reverse`. -/
def sortedByCount (g : Group) (reverse : Bool := false) : Group :=
  g.sortedByKey Node.childCount !reverse

/-- The members in the total order of their proportional sizes. -/
def sortedByPss (g : Group) (reverse : Bool := false) : Group :=
  g.sortedByKey (fun n => floatRank n.facts.pss) reverse

end Group

end Footprint
