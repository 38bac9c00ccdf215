import Footprint.Group.Basic

/-!
# Union, difference and complement

The nodes of two groups over one table are compared by identity.
-/

namespace Footprint.Group

/-- Whether a node with the identity of `n` is a member. -/
def hasNode (g : Group) (n : Node) : Bool :=
  g.members.any (·.id == n.id)

/-- Fails when two groups hold symbols of different tables. -/
def checkSameTable (g h : Group) : Except Error Unit :=
  if g.table.stamp = h.table.stamp then .ok () else .error .foreignTable

/-- The members of `g` that are not members of `h`. -/
def difference (g h : Group) : Except Error Group := do
  g.checkSameTable h
  return g.transformed (g.members.filter (!h.hasNode ·)) [] g.sectionLabel g.isSorted

/-- The members of `g`, then the members of `h` that are not members of `g`. -/
def union (g h : Group) : Except Error Group := do
  g.checkSameTable h
  return g.transformed (g.members ++ h.members.filter (!g.hasNode ·)) [] g.sectionLabel false

/-- The nodes that the filter which made the group left out, with the members left out instead. -/
def inverted (g : Group) : Group :=
  g.transformed g.filteredOut g.members g.sectionLabel false

end Footprint.Group
