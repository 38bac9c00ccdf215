import Mathlib.Algebra.BigOperators.Group.List.Basic
import Mathlib.Algebra.GroupWithZero.Nat
import Footprint.Proofs.Group.Leaves

/-!
# The turns of a walk

The search for the next symbol is a loop over the lists that the walk is inside of. One turn of it
leaves a list that is used up, enters a nested group, or meets a symbol (`Walk.turn?`), so that many
turns may pass before there is a symbol. Each turn lowers `Walk.turnsLeft` by one and keeps the
symbols met followed by those still beneath the walk. Hence the loop ends, and the calls up to the
last one give the flattening of the tree (`Walk.yields_iff`).
-/

namespace Footprint

mutual

/-- The number of nested groups of a node, itself included. -/
def Node.groupCount : Node → Nat
  | .leaf _ => 0
  | .group _ members => 1 + groupCountList members

/-- The number of nested groups of the nodes of a list. -/
def Node.groupCountList : List Node → Nat
  | [] => 0
  | n :: ns => n.groupCount + groupCountList ns

end

/-- The nested groups of a list are those of its nodes. -/
theorem Node.groupCountList_eq_sum (ns : List Node) :
    groupCountList ns = (ns.map groupCount).sum := by
  induction ns with
  | nil => rfl
  | cons n ns ih => rw [groupCountList, ih, List.map_cons, List.sum_cons]

namespace Walk

/-- One turn of the search for the next symbol: the symbol that it meets, if it does, and the walk
after it. There is no turn left when the walk is inside of no list. -/
def turn? : Walk → Option (Option Symbol × Walk)
  | [] => none
  | [] :: outer => some (none, outer)
  | (.leaf s :: rest) :: outer => some (some s, rest :: outer)
  | (.group _ members :: rest) :: outer => some (none, members :: rest :: outer)

/-- A search takes a number of turns until it meets a symbol or the walk is over. -/
inductive Finds : Walk → (turns : Nat) → Option (Symbol × Walk) → Prop where
  /-- No turn is left. -/
  | ended {w : Walk} (h : turn? w = none) : Finds w 0 none
  /-- The next turn meets a symbol. -/
  | met {w w' : Walk} {s : Symbol} (h : turn? w = some (some s, w')) : Finds w 1 (some (s, w'))
  /-- The search goes on after the next turn. -/
  | on {w w' : Walk} {k : Nat} {found : Option (Symbol × Walk)} (h : turn? w = some (none, w'))
    (hrest : Finds w' k found) : Finds w (k + 1) found

/-- Searches, one after the other up to the one that finds nothing, take a number of turns and give
the symbols of a list. -/
inductive Yields : Walk → (turns : Nat) → List Symbol → Prop where
  /-- The search finds nothing. -/
  | nil {w : Walk} {k : Nat} (h : Finds w k none) : Yields w k []
  /-- The search finds a symbol, and others go on from there. -/
  | cons {w w' : Walk} {k n : Nat} {s : Symbol} {symbols : List Symbol}
    (h : Finds w k (some (s, w'))) (hrest : Yields w' n symbols) : Yields w (k + n) (s :: symbols)

/-- The symbols beneath the nodes of a walk. -/
def beneath (w : Walk) : List Symbol :=
  w.flatten.flatMap Node.leaves

/-- The number of turns up to the end of a walk: one for each symbol, one to enter each nested group
and one to leave it, and one to leave each list that the walk is inside of. -/
def turnsLeft (w : Walk) : Nat :=
  w.beneath.length + 2 * (w.flatten.map Node.groupCount).sum + w.length

/-- The search for the next symbol is the loop of its turns. -/
theorem finds_next? (w : Walk) : ∃ k, Finds w k (next? w) := by
  fun_induction next? w with
  | case1 => exact ⟨0, .ended rfl⟩
  | case2 outer ih =>
    obtain ⟨k, hk⟩ := ih
    exact ⟨k + 1, .on rfl hk⟩
  | case3 s rest outer => exact ⟨1, .met rfl⟩
  | case4 head members rest outer ih =>
    obtain ⟨k, hk⟩ := ih
    exact ⟨k + 1, .on rfl hk⟩

/-- A walk without a turn left is over. -/
theorem turn?_eq_none_iff {w : Walk} : turn? w = none ↔ w = [] := by
  constructor
  · intro h
    unfold turn? at h
    split at h
    · rfl
    all_goals cases h
  · rintro rfl
    rfl

/-- A turn takes at most the next symbol off those beneath the walk. -/
theorem beneath_turn? {w w' : Walk} {met : Option Symbol} (h : turn? w = some (met, w')) :
    w.beneath = met.toList ++ w'.beneath := by
  unfold turn? at h
  unfold beneath
  split at h
  · cases h
  · cases h
    simp
  · cases h
    simp [Node.leaves]
  · cases h
    simp [Node.leaves_group]

/-- A turn is one of those left. -/
theorem turnsLeft_turn? {w w' : Walk} {met : Option Symbol} (h : turn? w = some (met, w')) :
    w.turnsLeft = w'.turnsLeft + 1 := by
  have hlength := congrArg List.length (beneath_turn? h)
  unfold turnsLeft
  rw [hlength, List.length_append]
  unfold turn? at h
  split at h
  · cases h
  · cases h
    simp only [List.flatten_cons, List.nil_append, List.length_cons, Option.toList_none,
      List.length_nil]
    omega
  · cases h
    simp only [List.flatten_cons, List.cons_append, List.map_cons, List.sum_cons, List.length_cons,
      Option.toList_some, List.length_nil, Node.groupCount]
    omega
  · cases h
    simp only [List.flatten_cons, List.cons_append, List.map_cons, List.sum_cons, List.map_append,
      List.sum_append, List.length_cons, Option.toList_none, List.length_nil, Node.groupCount,
      Node.groupCountList_eq_sum]
    omega

/-- A search finds the first of the symbols beneath the walk, and leaves the others to the walk
after it; its turns are no longer left. -/
theorem Finds.next {w w' : Walk} {k : Nat} {s : Symbol} {found : Option (Symbol × Walk)}
    (h : Finds w k found) (hfound : found = some (s, w')) :
    w.beneath = s :: w'.beneath ∧ w.turnsLeft = k + w'.turnsLeft := by
  induction h with
  | ended => cases hfound
  | met hturn =>
    cases hfound
    exact ⟨beneath_turn? hturn, by rw [turnsLeft_turn? hturn, Nat.add_comm]⟩
  | on hturn _ ih =>
    obtain ⟨hbeneath, hturns⟩ := ih hfound
    exact ⟨(beneath_turn? hturn).trans hbeneath, by rw [turnsLeft_turn? hturn, hturns]; omega⟩

/-- A search that finds nothing uses up the turns left, and there was no symbol. -/
theorem Finds.last {w : Walk} {k : Nat} {found : Option (Symbol × Walk)} (h : Finds w k found)
    (hfound : found = none) : w.beneath = [] ∧ w.turnsLeft = k := by
  induction h with
  | ended hturn =>
    obtain rfl := turn?_eq_none_iff.mp hturn
    exact ⟨rfl, rfl⟩
  | met => cases hfound
  | on hturn _ ih =>
    obtain ⟨hbeneath, hturns⟩ := ih hfound
    exact ⟨(beneath_turn? hturn).trans hbeneath, by rw [turnsLeft_turn? hturn, hturns]⟩

/-- The searches of a walk give the symbols beneath it in order, within the turns left. -/
theorem yields (w : Walk) : w.Yields w.turnsLeft w.beneath := by
  -- The recursion of `toList` is that of the calls: each walk has fewer turns left than the last.
  fun_induction toList w with
  | case1 w hnext =>
    obtain ⟨k, hk⟩ := w.finds_next?
    rw [hnext] at hk
    obtain ⟨hbeneath, hturns⟩ := hk.last rfl
    rw [hbeneath, hturns]
    exact .nil hk
  | case2 w s w' hnext ih =>
    obtain ⟨k, hk⟩ := w.finds_next?
    rw [hnext] at hk
    obtain ⟨hbeneath, hturns⟩ := hk.next rfl
    rw [hbeneath, hturns]
    exact .cons hk ih

/-- The searches of a walk take the turns left and give the symbols beneath it. -/
theorem yields_iff {w : Walk} {n : Nat} {symbols : List Symbol} :
    w.Yields n symbols ↔ n = w.turnsLeft ∧ symbols = w.beneath := by
  constructor
  · intro h
    induction h with
    | nil h =>
      obtain ⟨hbeneath, hturns⟩ := h.last rfl
      exact ⟨hturns.symm, hbeneath.symm⟩
    | cons h _ ih =>
      obtain ⟨hbeneath, hturns⟩ := h.next rfl
      obtain ⟨rfl, rfl⟩ := ih
      exact ⟨hturns.symm, hbeneath.symm⟩
  · rintro ⟨rfl, rfl⟩
    exact w.yields

end Walk

/-- Every search for a leaf is a number of turns. Iterating over the leaves of a group ends, after
one turn for each leaf, two for each nested group and one for the group itself, and gives the leaves
of its members in order: the flattening of the tree. -/
theorem Group.iteration_flattens (g : Group) :
    (∀ w : Walk, ∃ k, w.Finds k w.next?) ∧
      (∀ n symbols, Walk.Yields [g.members] n symbols ↔
        n = (Node.leavesList g.members).length + 2 * Node.groupCountList g.members + 1 ∧
          symbols = Node.leavesList g.members) ∧
      g.leaves = Node.leavesList g.members := by
  have hbeneath : Walk.beneath [g.members] = Node.leavesList g.members := by
    rw [Walk.beneath, List.flatten_singleton, Node.leavesList_eq_flatMap]
  have hturns : Walk.turnsLeft [g.members] =
      (Node.leavesList g.members).length + 2 * Node.groupCountList g.members + 1 := by
    rw [Walk.turnsLeft, hbeneath, List.flatten_singleton, Node.groupCountList_eq_sum]
    rfl
  refine ⟨Walk.finds_next?, fun n symbols => ?_, ?_⟩
  · rw [Walk.yields_iff, hbeneath, hturns]
  · rw [Group.leaves_eq_flatMap, Node.leavesList_eq_flatMap]

end Footprint
