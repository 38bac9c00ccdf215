import Footprint.Proofs.Group.Leaves

/-!
# Fields on which all leaves agree

A group has a value of its address, its flags or a path when its members agree on it, and the
default when they disagree or there are none. A nested group has its value in the same way, so that
a value other than the default is the value of every leaf (`CommonField.of_node`). The converse
needs that no nested group is empty: an empty one has the default, whatever the leaves beside it
have.
-/

namespace Footprint

/-- The members agree on a value other than the default exactly when there is one and all have the
value. -/
theorem unanimous_eq_iff {α β : Type} [BEq β] [LawfulBEq β] {value : α → β} {default v : β}
    (hv : v ≠ default) {xs : List α} :
    unanimous value default xs = v ↔ xs ≠ [] ∧ ∀ x ∈ xs, value x = v := by
  cases xs with
  | nil => exact iff_of_false hv.symm fun h => h.1 rfl
  | cons x xs =>
    have hagree : (xs.all fun y => value y == value x) = true ↔ ∀ y ∈ xs, value y = value x := by
      simp only [List.all_eq_true, beq_iff_eq]
    rw [unanimous]
    split_ifs with hall
    all_goals rw [hagree] at hall
    · constructor
      · rintro rfl
        exact ⟨List.cons_ne_nil _ _, List.forall_mem_cons.mpr ⟨rfl, hall⟩⟩
      · exact fun h => h.2 x List.mem_cons_self
    · refine iff_of_false hv.symm fun h => hall fun y hy => ?_
      rw [h.2 y (List.mem_cons_of_mem _ hy), h.2 x List.mem_cons_self]

/-- A field of which a group has the value on which its members agree. -/
structure CommonField (β : Type) [BEq β] where
  /-- The value among the facts of a node. -/
  of : Facts → β
  /-- The value of a group whose members disagree. -/
  default : β
  /-- A group has the common value of its members. -/
  of_ofMembers : ∀ (label : Label) (members : List Facts),
    of (.ofMembers label members) = unanimous of default members

/-- No nested group of a node, itself included, is empty. -/
inductive Node.Populated : Node → Prop where
  /-- A single symbol. -/
  | leaf (s : Symbol) : Populated (.leaf s)
  /-- A group with a member, and no empty group beneath it. -/
  | group {h : Head} {members : List Node} (hne : members ≠ [])
    (hmembers : ∀ n ∈ members, Populated n) : Populated (.group h members)

/-- There is a leaf beneath a node without empty groups. -/
theorem Node.Populated.leaves_ne_nil {n : Node} (h : n.Populated) : n.leaves ≠ [] := by
  induction h with
  | leaf s => exact List.cons_ne_nil _ _
  | group hne _ ih =>
    obtain ⟨n, hn⟩ := List.exists_mem_of_ne_nil _ hne
    obtain ⟨s, hs⟩ := List.exists_mem_of_ne_nil _ (ih n hn)
    rw [leaves_group]
    exact List.ne_nil_of_mem (List.mem_flatMap.mpr ⟨n, hn, hs⟩)

/-- No nested group beneath a group is empty. -/
def Group.Populated (g : Group) : Prop :=
  ∀ n ∈ g.members, n.Populated

/-- There is a leaf beneath a group, and all its leaves have a value. -/
def Group.AllLeavesHave {β : Type} (g : Group) (value : Symbol → β) (v : β) : Prop :=
  g.leaves ≠ [] ∧ ∀ s ∈ g.leaves, value s = v

namespace CommonField

/-- The start address. -/
def address : CommonField UInt64 := ⟨Facts.address, 0, fun _ _ => rfl⟩

/-- The attributes. -/
def flags : CommonField Flags := ⟨Facts.flags, .none, fun _ _ => rfl⟩

/-- The object file. -/
def objectPath : CommonField String := ⟨Facts.objectPath, "", fun _ _ => rfl⟩

/-- The source file. -/
def sourcePath : CommonField String := ⟨Facts.sourcePath, "", fun _ _ => rfl⟩

variable {β : Type} [BEq β] [LawfulBEq β] (F : CommonField β)

/-- What holds of the members holds of a group of them, if there are leaves beneath each. -/
theorem of_ofMembers_nodes {v : β} (hv : v ≠ F.default) (label : Label) {members : List Node}
    (hne : ∀ n ∈ members, n.leaves ≠ [])
    (hmembers : ∀ n ∈ members, F.of n.facts = v ↔ ∀ s ∈ n.leaves, F.of s.facts = v) :
    F.of (.ofMembers label (members.map Node.facts)) = v ↔
      members.flatMap Node.leaves ≠ [] ∧ ∀ s ∈ members.flatMap Node.leaves, F.of s.facts = v := by
  rw [F.of_ofMembers, unanimous_eq_iff hv, List.forall_mem_map, List.forall_mem_flatMap]
  refine and_congr (not_congr ?_) (forall₂_congr hmembers)
  rw [List.map_eq_nil_iff, List.flatMap_eq_nil_iff]
  constructor
  · rintro rfl
    exact List.forall_mem_nil _
  · intro hall
    exact List.eq_nil_iff_forall_not_mem.mpr fun n hn => hne n hn (hall n hn)

/-- A node without empty groups has a value other than the default exactly when all its leaves
have it. -/
theorem of_node {v : β} (hv : v ≠ F.default) {n : Node} (h : n.Populated) :
    F.of n.facts = v ↔ ∀ s ∈ n.leaves, F.of s.facts = v := by
  induction h with
  | leaf s => rw [Node.facts, Node.leaves, List.forall_mem_singleton]
  | @group head members hne hmembers ih =>
    have hleaves := (Node.Populated.group (h := head) hne hmembers).leaves_ne_nil
    rw [Node.leaves_group] at hleaves
    rw [Node.facts_group, Node.leaves_group,
      F.of_ofMembers_nodes hv head.label (fun n hn => (hmembers n hn).leaves_ne_nil) ih]
    exact and_iff_right hleaves

/-- The same of a group, of which there may also be no leaf at all. -/
theorem of_group {v : β} (hv : v ≠ F.default) {g : Group} (h : g.Populated) :
    F.of g.facts = v ↔ g.AllLeavesHave (fun s => F.of s.facts) v := by
  unfold Group.AllLeavesHave
  rw [Group.facts, Group.leaves_eq_flatMap]
  exact F.of_ofMembers_nodes hv g.label (fun n hn => (h n hn).leaves_ne_nil) fun n hn =>
    F.of_node hv (h n hn)

end CommonField

/-- The address, the flags and the paths of a group without empty nested groups have a value other
than the default exactly when the group has a leaf and all its leaves have the value. -/
theorem Group.fields_speak_for_leaves {g : Group} (h : g.Populated) :
    (∀ v, v ≠ 0 → (g.facts.address = v ↔ g.AllLeavesHave Symbol.address v)) ∧
      (∀ v, v ≠ Flags.none → (g.facts.flags = v ↔ g.AllLeavesHave Symbol.flags v)) ∧
      (∀ v, v ≠ "" → (g.facts.objectPath = v ↔ g.AllLeavesHave Symbol.objectPath v)) ∧
      ∀ v, v ≠ "" → (g.facts.sourcePath = v ↔ g.AllLeavesHave Symbol.sourcePath v) :=
  ⟨fun _ hv => CommonField.address.of_group hv h, fun _ hv => CommonField.flags.of_group hv h,
    fun _ hv => CommonField.objectPath.of_group hv h,
    fun _ hv => CommonField.sourcePath.of_group hv h⟩

/-- Two parts of a cold function in a nested group, and a third beside them that comes from another
source file. -/
def coldParts : Group :=
  let part (place : Nat) (source : String) : Node := .leaf <| .ofRecord ⟨place⟩
    { sectionName := ".text", size := 4, address := 16, objectPath := "run.o",
      sourcePath := source, flags := 4 }
  { table := ⟨⟨0⟩, #[], #[]⟩
    members :=
      [.group ⟨⟨⟨1⟩, [0]⟩, .named "run", false, none⟩
        [part 0 "run.cc", .group ⟨⟨⟨2⟩, [0]⟩, .named "run", false, none⟩ [part 1 "run.cc"]],
        part 2 "run.h"] }

/-- All three parts have one address, one set of flags and one object file, but not one source
file. -/
theorem fields_speak_for_leaves_coldParts :
    coldParts.Populated ∧ coldParts.facts.address = 16 ∧
      coldParts.facts.flags = Flags.none.set .unlikely true ∧
      coldParts.facts.objectPath = "run.o" ∧ coldParts.facts.sourcePath ≠ "run.cc" := by
  have h : coldParts.Populated := by
    simp only [Group.Populated, coldParts, List.forall_mem_cons]
    refine ⟨.group (by simp) ?_, .leaf _, List.forall_mem_nil _⟩
    simp only [List.forall_mem_cons]
    exact ⟨.leaf _, .group (by simp) (by simpa using .leaf _), List.forall_mem_nil _⟩
  have hleaves : coldParts.leaves = coldParts.members.flatMap Node.leaves :=
    coldParts.leaves_eq_flatMap
  have hne : coldParts.leaves ≠ [] := by
    rw [hleaves]
    exact List.cons_ne_nil _ _
  obtain ⟨haddress, hflags, hobject, hsource⟩ := Group.fields_speak_for_leaves h
  refine ⟨h, (haddress 16 (by decide)).mpr ⟨hne, ?_⟩, (hflags _ (by decide)).mpr ⟨hne, ?_⟩,
    (hobject _ (by decide)).mpr ⟨hne, ?_⟩, fun hv => ?_⟩
  · rw [hleaves]
    decide
  · rw [hleaves]
    decide
  · rw [hleaves]
    decide
  · have hall := ((hsource _ (by decide)).mp hv).2
    rw [hleaves] at hall
    revert hall
    decide

end Footprint
