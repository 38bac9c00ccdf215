import Mathlib.Data.Set.Insert
import Footprint.Proofs.Symbol.Shares

/-!
# Aliases as an equivalence relation

The symbols that share the bytes of a symbol are those of its alias group, or only itself without
one (`map_id_aliasesOf`). Since a built table lists no symbol in two alias groups, being an alias is
an equivalence relation on the ids of the table, with the alias groups and the symbols outside of
them as classes (`Built.aliasClasses`).
-/

namespace Footprint

namespace Table

/-- The ids of the symbols of a table. -/
abbrev KnownId (t : Table) : Type :=
  { id : SymbolId // ∃ s, t.get? id = some s }

/-- One symbol shares the bytes of another. -/
def IsAlias (t : Table) (x y : t.KnownId) : Prop :=
  y.val ∈ (t.aliasesOf x.val).map Symbol.id

/-- The alias relation of a table is one of classes that the table lists. -/
structure AliasClasses (t : Table) : Prop where
  /-- Being an alias is an equivalence relation. -/
  equivalence : Equivalence t.IsAlias
  /-- The classes are the alias groups, and one for each symbol outside of them. -/
  classes : Set.range (fun x => {y | t.IsAlias x y}) =
    {c | ∃ ms ∈ t.aliasGroups.toList, c = {y | y.val ∈ ms}} ∪
      {c | ∃ x : t.KnownId, (∀ ms ∈ t.aliasGroups.toList, x.val ∉ ms) ∧ c = {x}}
  /-- A symbol knows how many symbols share its bytes. -/
  numAliases_eq : ∀ {id : SymbolId} {s : Symbol}, t.get? id = some s →
    s.numAliases = (t.aliasesOf id).length

namespace Built

variable {t : Table}

/-- The symbols that share the bytes of a symbol are those of its alias group. -/
theorem map_id_aliasesOf (h : t.Built) {id : SymbolId} {s : Symbol} (hs : t.get? id = some s) :
    (t.aliasesOf id).map Symbol.id = s.aliasGroup.elim [id] t.aliasMembers := by
  unfold aliasesOf
  rw [hs]
  cases hg : s.aliasGroup with
  | none => simp [hg, h.id_of_get? hs]
  | some g =>
    simp only [hg, Option.elim_some]
    exact h.map_id_filterMap_get? fun i hi =>
      (h.exists_of_mem_aliasMembers hi).imp fun _ => And.left

/-- The alias groups are those that some alias group id has as members. -/
theorem mem_aliasGroups_iff (t : Table) {ms : List SymbolId} (hne : ms ≠ []) :
    ms ∈ t.aliasGroups.toList ↔ ∃ g, t.aliasMembers g = ms := by
  unfold aliasMembers
  constructor
  · intro hms
    obtain ⟨i, hi, rfl⟩ := Array.getElem_of_mem (Array.mem_toList_iff.mp hms)
    exact ⟨⟨i⟩, by simp [hi]⟩
  · rintro ⟨g, rfl⟩
    obtain ⟨id, hid⟩ := List.exists_mem_of_ne_nil _ hne
    obtain ⟨ms, hms, hget, -⟩ := exists_group_of_mem_getD hid
    rwa [Array.getD_eq_getD_getElem?, hget]

/-- Two symbols are aliases when they are the same or some alias group lists both. -/
theorem isAlias_iff (h : t.Built) (x y : t.KnownId) :
    t.IsAlias x y ↔ x = y ∨ ∃ g, x.val ∈ t.aliasMembers g ∧ y.val ∈ t.aliasMembers g := by
  obtain ⟨s, hs⟩ := x.property
  unfold IsAlias
  rw [h.map_id_aliasesOf hs]
  cases hg : s.aliasGroup with
  | none =>
    -- No alias group lists a symbol that has none.
    have hnone : ∀ g, x.val ∉ t.aliasMembers g := by
      intro g hin
      have := (h.aliasGroup_iff hs g).mpr hin
      simp [hg] at this
    simp [hnone, Subtype.ext_iff, eq_comm]
  | some g =>
    have hin : x.val ∈ t.aliasMembers g := (h.aliasGroup_iff hs g).mp hg
    rw [Option.elim_some]
    constructor
    · exact fun hy => .inr ⟨g, hin, hy⟩
    · rintro (rfl | ⟨g', hin', hy⟩)
      · exact hin
      · rwa [h.eq_of_mem_aliasMembers hin hin']

/-- Being an alias is an equivalence relation. -/
theorem equivalence_isAlias (h : t.Built) : Equivalence t.IsAlias := by
  constructor
  · intro x
    exact (h.isAlias_iff x x).mpr (.inl rfl)
  · intro x y hxy
    rw [h.isAlias_iff] at hxy ⊢
    exact hxy.imp Eq.symm fun ⟨g, hx, hy⟩ => ⟨g, hy, hx⟩
  · intro x y z hxy hyz
    rw [h.isAlias_iff] at hxy hyz ⊢
    rcases hxy with rfl | ⟨g, hx, hy⟩
    · exact hyz
    · rcases hyz with rfl | ⟨g', hy', hz⟩
      · exact .inr ⟨g, hx, hy⟩
      -- The symbol in the middle has one alias group only.
      · obtain rfl := h.eq_of_mem_aliasMembers hy hy'
        exact .inr ⟨g, hx, hz⟩

/-- The aliases of a member of an alias group are the members. -/
theorem setOf_isAlias_of_mem (h : t.Built) {x : t.KnownId} {g : AliasGroupId}
    (hx : x.val ∈ t.aliasMembers g) : {y | t.IsAlias x y} = {y | y.val ∈ t.aliasMembers g} := by
  ext y
  rw [Set.mem_ofPred_eq, Set.mem_ofPred_eq, h.isAlias_iff]
  constructor
  · rintro (rfl | ⟨g', hx', hy⟩)
    · exact hx
    · rwa [h.eq_of_mem_aliasMembers hx hx']
  · exact fun hy => .inr ⟨g, hx, hy⟩

/-- A symbol outside of the alias groups is its own alias only. -/
theorem setOf_isAlias_of_not_mem (h : t.Built) {x : t.KnownId}
    (hx : ∀ g, x.val ∉ t.aliasMembers g) : {y | t.IsAlias x y} = {x} := by
  ext y
  rw [Set.mem_ofPred_eq, h.isAlias_iff, Set.mem_singleton_iff]
  simp [hx, eq_comm]

/-- The alias relation of a built table is an equivalence relation, with the alias groups and the
symbols outside of them as classes. -/
theorem aliasClasses (h : t.Built) : t.AliasClasses := by
  have hne : ∀ ms ∈ t.aliasGroups.toList, ms ≠ [] := fun ms hms hnil => by
    have := h.arena.two_le ms hms
    simp [hnil] at this
  refine ⟨h.equivalence_isAlias, ?classes, ?numAliases⟩
  case classes =>
    ext c
    constructor
    · rintro ⟨x, rfl⟩
      by_cases hx : ∃ g, x.val ∈ t.aliasMembers g
      · obtain ⟨g, hg⟩ := hx
        refine .inl ⟨t.aliasMembers g, ?_, h.setOf_isAlias_of_mem hg⟩
        exact (mem_aliasGroups_iff t (List.ne_nil_of_mem hg)).mpr ⟨g, rfl⟩
      · rw [not_exists] at hx
        refine .inr ⟨x, fun ms hms => ?_, h.setOf_isAlias_of_not_mem hx⟩
        obtain ⟨g, rfl⟩ := (mem_aliasGroups_iff t (hne ms hms)).mp hms
        exact hx g
    · rintro (⟨ms, hms, rfl⟩ | ⟨x, hx, rfl⟩)
      -- An alias group is the class of its first member.
      · obtain ⟨g, rfl⟩ := (mem_aliasGroups_iff t (hne ms hms)).mp hms
        obtain ⟨id, hid⟩ := List.exists_mem_of_ne_nil _ (hne _ hms)
        have hknown := (h.exists_of_mem_aliasMembers hid).imp fun _ => And.left
        exact ⟨⟨id, hknown⟩, h.setOf_isAlias_of_mem hid⟩
      · refine ⟨x, h.setOf_isAlias_of_not_mem fun g hg => ?_⟩
        exact hx _ ((mem_aliasGroups_iff t (List.ne_nil_of_mem hg)).mpr ⟨g, rfl⟩) hg
  case numAliases =>
    intro id s hs
    have hlength := congrArg List.length (h.map_id_aliasesOf hs)
    rw [List.length_map] at hlength
    rw [h.arena.numAliases_eq hs, hlength]
    cases s.aliasGroup <;> rfl

end Built

end Table

end Footprint
