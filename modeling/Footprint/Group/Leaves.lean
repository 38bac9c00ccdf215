import Footprint.Group.Node

/-!
# Walking over leaves

A walk holds the lists of nodes that are still to be visited, the innermost one first. `next?`
takes the next symbol off it, and `toList` goes on to the end.
-/

namespace Footprint

/-- The nodes still to be visited: the rest of each list that the walk is inside of. -/
abbrev Walk := List (List Node)

namespace Walk

/-- The next symbol of a walk and the walk after it. -/
def next? : Walk → Option (Symbol × Walk)
  | [] => none
  | [] :: outer => next? outer
  | (.leaf s :: rest) :: outer => some (s, rest :: outer)
  | (.group _ members :: rest) :: outer => next? (members :: rest :: outer)
termination_by w => sizeOf w

/-- A walk gets shorter with every symbol. -/
theorem sizeOf_next? {w w' : Walk} {s : Symbol} (h : next? w = some (s, w')) :
    sizeOf w' < sizeOf w := by
  fun_induction next? w with
  | case1 => simp at h
  | case2 outer ih =>
    have := ih h
    simp only [List.cons.sizeOf_spec] at this ⊢
    omega
  | case3 s rest outer =>
    obtain ⟨rfl, rfl⟩ := h
    simp only [List.cons.sizeOf_spec]
    omega
  | case4 head members rest outer ih =>
    have := ih h
    simp only [List.cons.sizeOf_spec, Node.group.sizeOf_spec] at this ⊢
    omega

/-- The symbols of a walk in the order in which it meets them. -/
def toList (w : Walk) : List Symbol :=
  match _h : next? w with
  | none => []
  | some (s, w') => s :: toList w'
termination_by sizeOf w
decreasing_by exact sizeOf_next? _h

end Walk

end Footprint
