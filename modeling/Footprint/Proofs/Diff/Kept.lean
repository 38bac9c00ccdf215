import Mathlib.Data.List.Forall2
import Mathlib.Data.List.Perm.Subperm
import Footprint.Diff.Delta
import Footprint.Proofs.Symbol.Arena

/-!
# Alias groups that live on

The diff decides by lookups and a comparison of lengths whether an alias group has the same members
on both sides. For a pairing that lists no symbol twice the decision is the plain one: an alias
group of the second table lives on when its members are all added (`WholeAdded`), or all paired with
exactly the members of one alias group of the first (`WholePaired`).
-/

namespace Footprint

/-- The symbols of the second table that a pairing lists. -/
def Pairing.afterIds (p : Pairing) : List SymbolId :=
  p.added ++ p.similar.map Prod.snd

/-- The symbols of the first table that a pairing lists. -/
def Pairing.beforeIds (p : Pairing) : List SymbolId :=
  p.removed ++ p.similar.map Prod.fst

namespace Comparison

/-- The pairing lists symbols of the two tables only. -/
structure Known (c : Comparison) : Prop where
  /-- The symbols of the second tree are in the second table. -/
  after : ∀ id ∈ c.pairing.afterIds, ∃ s, c.after.get? id = some s
  /-- The symbols of the first tree are in the first table. -/
  before : ∀ id ∈ c.pairing.beforeIds, ∃ s, c.before.get? id = some s

/-- Looking the symbols up decides whether they are known. -/
instance (c : Comparison) : Decidable c.Known :=
  decidable_of_iff ((∀ id ∈ c.pairing.afterIds, (c.after.get? id).isSome) ∧
      ∀ id ∈ c.pairing.beforeIds, (c.before.get? id).isSome)
    ⟨fun h => ⟨fun id hid => Option.isSome_iff_exists.mp (h.1 id hid),
      fun id hid => Option.isSome_iff_exists.mp (h.2 id hid)⟩,
    fun h => ⟨fun id hid => Option.isSome_iff_exists.mpr (h.after id hid),
      fun id hid => Option.isSome_iff_exists.mpr (h.before id hid)⟩⟩

/-- The pairing lists no symbol of a table twice. -/
structure Distinct (c : Comparison) : Prop where
  /-- No symbol of the second tree is listed twice. -/
  after : c.pairing.afterIds.Nodup
  /-- No symbol of the first tree is listed twice. -/
  before : c.pairing.beforeIds.Nodup

/-- The pairing lists every symbol of the two tables exactly once. -/
structure Exact (c : Comparison) : Prop where
  /-- The symbols of the second tree are those of the second table. -/
  after : c.pairing.afterIds.Perm c.after.ids
  /-- The symbols of the first tree are those of the first table. -/
  before : c.pairing.beforeIds.Perm c.before.ids

/-- An exact pairing lists known symbols. -/
theorem Exact.known {c : Comparison} (h : c.Exact) (ha : c.after.Built) (hb : c.before.Built) :
    c.Known :=
  ⟨fun id hid => (ha.mem_ids_iff id).mp (h.after.subset hid),
    fun id hid => (hb.mem_ids_iff id).mp (h.before.subset hid)⟩

/-- An exact pairing lists no symbol twice. -/
theorem Exact.distinct {c : Comparison} (h : c.Exact) (ha : c.after.Built) (hb : c.before.Built) :
    c.Distinct :=
  ⟨h.after.nodup_iff.mpr ha.nodup_ids, h.before.nodup_iff.mpr hb.nodup_ids⟩

/-- The members of an alias group of the second table are all added. -/
def WholeAdded (c : Comparison) (g : AliasGroupId) : Prop :=
  ∀ id ∈ c.after.aliasMembers g, id ∈ c.pairing.added

/-- The members of an alias group of the first table are all removed. -/
def WholeRemoved (c : Comparison) (g : AliasGroupId) : Prop :=
  ∀ id ∈ c.before.aliasMembers g, id ∈ c.pairing.removed

/-- The members of an alias group of the second table are all paired, and their partners are exactly
the members of an alias group of the first. -/
structure WholePaired (c : Comparison) (g h : AliasGroupId) : Prop where
  /-- Every member has a partner. -/
  paired : ∀ id ∈ c.after.aliasMembers g, ∃ old, (old, id) ∈ c.pairing.similar
  /-- The partners are the members of the other alias group. -/
  partners : ∀ old, old ∈ c.before.aliasMembers h ↔
    ∃ id ∈ c.after.aliasMembers g, (old, id) ∈ c.pairing.similar

namespace Distinct

variable {c : Comparison}

/-- No symbol of the second tree has two partners. -/
theorem old_eq (h : c.Distinct) {id old old' : SymbolId} (ho : (old, id) ∈ c.pairing.similar)
    (ho' : (old', id) ∈ c.pairing.similar) : old = old' := by
  have hnodup := (List.nodup_append.mp h.after).2.1
  exact congrArg Prod.fst (List.inj_on_of_nodup_map hnodup ho ho' rfl)

/-- No symbol of the first tree is the partner of two symbols. -/
theorem new_eq (h : c.Distinct) {id id' old : SymbolId} (ho : (old, id) ∈ c.pairing.similar)
    (ho' : (old, id') ∈ c.pairing.similar) : id = id' := by
  have hnodup := (List.nodup_append.mp h.before).2.1
  exact congrArg Prod.snd (List.inj_on_of_nodup_map hnodup ho ho' rfl)

/-- No added symbol is paired. -/
theorem not_paired_of_added (h : c.Distinct) {id old : SymbolId} (ha : id ∈ c.pairing.added) :
    (old, id) ∉ c.pairing.similar := fun hp =>
  (List.nodup_append.mp h.after).2.2 id ha id (List.mem_map_of_mem hp) rfl

/-- The partner that is looked up is the one that the pairing lists. -/
theorem partner?_eq_some_iff (h : c.Distinct) (id old : SymbolId) :
    c.partner? id = some old ↔ (old, id) ∈ c.pairing.similar := by
  unfold partner?
  rw [List.findRev?_eq_findRev?TR, List.findRev?TR, Option.map_eq_some_iff]
  constructor
  · rintro ⟨⟨o, i⟩, hfind, rfl⟩
    have hi : i = id := by simpa using List.find?_some hfind
    rw [← hi]
    exact List.mem_reverse.mp (List.mem_of_find?_eq_some hfind)
  · intro hin
    -- The lookup goes from the end, but no other entry has the same new symbol.
    cases hfind : c.pairing.similar.reverse.find? (·.2 == id) with
    | none =>
      rw [List.find?_eq_none] at hfind
      exact absurd (hfind _ (List.mem_reverse.mpr hin)) (by simp)
    | some p =>
      have hp := List.mem_reverse.mp (List.mem_of_find?_eq_some hfind)
      have hi : p.2 = id := by simpa using List.find?_some hfind
      rw [← hi] at hin
      exact ⟨p, rfl, h.old_eq hp hin⟩

end Distinct

/-- The alias groups of the partners of some symbols, one by one. -/
theorem partnerGroups?_eq_some_iff (c : Comparison) (ids : List SymbolId)
    (groups : List AliasGroupId) :
    c.partnerGroups? ids = some groups ↔
      List.Forall₂ (fun id g => ∃ old s, c.partner? id = some old ∧ c.before.get? old = some s ∧
        s.aliasGroup = some g) ids groups := by
  unfold partnerGroups?
  induction ids generalizing groups with
  | nil => cases groups <;> simp
  | cons id ids ih =>
    cases groups with
    | nil => simp [List.mapM_cons, Option.bind_eq_some_iff]
    | cons g groups =>
      rw [List.forall₂_cons, ← ih, List.mapM_cons]
      simp only [Option.bind_eq_bind, Option.pure_def, Option.bind_eq_some_iff]
      constructor
      · rintro ⟨g', ⟨old, hold, s, hs, hg⟩, groups', hgroups, heq⟩
        obtain ⟨rfl, rfl⟩ := List.cons.inj (Option.some.inj heq)
        exact ⟨⟨old, s, hold, hs, hg⟩, hgroups⟩
      · rintro ⟨⟨old, s, hold, hs, hg⟩, hgroups⟩
        exact ⟨g, ⟨old, hold, s, hs, hg⟩, groups, hgroups, rfl⟩

/-- The test for an unchanged membership asks for partners in one alias group, as many as it has
members. -/
theorem sameMembership_iff (c : Comparison) (hb : c.before.Built) {members : List SymbolId}
    (hne : members ≠ []) :
    c.sameMembership members = true ↔ ∃ h,
      (∀ id ∈ members, ∃ old ∈ c.before.aliasMembers h, c.partner? id = some old) ∧
        (c.before.aliasMembers h).length = members.length := by
  unfold sameMembership
  constructor
  · intro hsame
    cases hgroups : c.partnerGroups? members with
    | none => simp [hgroups] at hsame
    | some groups =>
      rw [hgroups] at hsame
      cases groups with
      | nil => simp at hsame
      | cons h rest =>
        simp only [Bool.and_eq_true, List.all_eq_true, beq_iff_eq] at hsame
        refine ⟨h, ?_, hsame.2⟩
        -- All partners are in the group of the first one.
        have hall : ∀ g ∈ h :: rest, g = h := by
          intro g hg
          rcases List.mem_cons.mp hg with rfl | hg
          · rfl
          · exact hsame.1 g hg
        rw [partnerGroups?_eq_some_iff] at hgroups
        intro id hid
        obtain ⟨g, hg, old, s, hold, hs, hsg⟩ :
            ∃ g ∈ h :: rest, ∃ old s, c.partner? id = some old ∧ c.before.get? old = some s ∧
              s.aliasGroup = some g := by
          obtain ⟨i, hi, rfl⟩ := List.getElem_of_mem hid
          have hi' : i < (h :: rest).length := hgroups.length_eq ▸ hi
          exact ⟨_, List.getElem_mem hi', hgroups.get hi hi'⟩
        rw [hall g hg] at hsg
        exact ⟨old, (hb.aliasGroup_iff hs h).mp hsg, hold⟩
  · rintro ⟨h, hmem, hlen⟩
    -- The lookup of the partners yields the one group again and again.
    have hgroups : c.partnerGroups? members = some (List.replicate members.length h) := by
      rw [partnerGroups?_eq_some_iff, List.forall₂_iff_get]
      refine ⟨by simp, fun i hi hi' => ?_⟩
      obtain ⟨old, hold, hpartner⟩ := hmem _ (List.get_mem members ⟨i, hi⟩)
      obtain ⟨s, hs, hsg⟩ := hb.exists_of_mem_aliasMembers hold
      exact ⟨old, s, hpartner, hs, by simpa using hsg⟩
    obtain ⟨n, hn⟩ : ∃ n, members.length = n + 1 :=
      Nat.exists_eq_succ_of_ne_zero (List.length_eq_zero_iff.not.mpr hne)
    rw [hgroups, hn, List.replicate_succ]
    simp [hlen, hn]

/-- The partner of a symbol of the second table that has one. -/
def partnerOf (c : Comparison) (id : SymbolId) : SymbolId :=
  (c.partner? id).getD id

/-- The partner is the one that the pairing lists. -/
theorem Distinct.partnerOf_eq {c : Comparison} (hd : c.Distinct) {id old : SymbolId}
    (h : (old, id) ∈ c.pairing.similar) : c.partnerOf id = old := by
  rw [partnerOf, (hd.partner?_eq_some_iff id old).mpr h, Option.getD_some]

/-- Distinct members have distinct partners. -/
theorem Distinct.nodup_map_partnerOf {c : Comparison} (hd : c.Distinct) {ids : List SymbolId}
    (hnodup : ids.Nodup) (h : ∀ id ∈ ids, ∃ old, (old, id) ∈ c.pairing.similar) :
    (ids.map c.partnerOf).Nodup := by
  refine List.Nodup.map_on ?_ hnodup
  intro i hi j hj hij
  obtain ⟨old, hold⟩ := h i hi
  obtain ⟨old', hold'⟩ := h j hj
  rw [hd.partnerOf_eq hold, hd.partnerOf_eq hold'] at hij
  subst hij
  exact hd.new_eq hold hold'

/-- The partners of an alias group that is paired with a whole one are the members of that one. -/
theorem Distinct.map_partnerOf_perm {c : Comparison} (hd : c.Distinct) (ha : c.after.Built)
    (hb : c.before.Built) {g h : AliasGroupId} (hw : c.WholePaired g h) :
    ((c.after.aliasMembers g).map c.partnerOf).Perm (c.before.aliasMembers h) := by
  rw [List.perm_ext_iff_of_nodup (hd.nodup_map_partnerOf (ha.nodup_aliasMembers g) hw.paired)
    (hb.nodup_aliasMembers h)]
  intro old
  rw [hw.partners, List.mem_map]
  refine exists_congr fun i => and_congr_right fun hi => ?_
  obtain ⟨old', hold'⟩ := hw.paired i hi
  rw [hd.partnerOf_eq hold']
  exact ⟨fun heq => heq ▸ hold', fun hold => hd.old_eq hold' hold⟩

/-- An alias group that is paired with a whole one has as many members. -/
theorem Distinct.length_eq_of_wholePaired {c : Comparison} (hd : c.Distinct) (ha : c.after.Built)
    (hb : c.before.Built) {g h : AliasGroupId} (hw : c.WholePaired g h) :
    (c.before.aliasMembers h).length = (c.after.aliasMembers g).length := by
  rw [← (hd.map_partnerOf_perm ha hb hw).length_eq, List.length_map]

/-- For a pairing that lists no symbol twice, the membership of an alias group is unchanged exactly
when it is paired with a whole alias group of the first table. -/
theorem Distinct.sameMembership_iff_wholePaired {c : Comparison} (hd : c.Distinct)
    (ha : c.after.Built) (hb : c.before.Built) {g : AliasGroupId} {id : SymbolId}
    (hid : id ∈ c.after.aliasMembers g) :
    c.sameMembership (c.after.aliasMembers g) = true ↔ ∃ h, c.WholePaired g h := by
  rw [sameMembership_iff c hb (List.ne_nil_of_mem hid)]
  constructor
  · rintro ⟨h, hmem, hlen⟩
    have hpaired : ∀ id ∈ c.after.aliasMembers g, ∃ old, (old, id) ∈ c.pairing.similar := by
      intro i hi
      obtain ⟨old, -, hold⟩ := hmem i hi
      exact ⟨old, (hd.partner?_eq_some_iff i old).mp hold⟩
    -- As many distinct partners in the other group as it has members are all its members.
    have hnodup := hd.nodup_map_partnerOf (ha.nodup_aliasMembers g) hpaired
    have hsub : (c.after.aliasMembers g).map c.partnerOf ⊆ c.before.aliasMembers h := by
      intro old hold
      obtain ⟨i, hi, rfl⟩ := List.mem_map.mp hold
      obtain ⟨old, hold, hp⟩ := hmem i hi
      rw [hd.partnerOf_eq ((hd.partner?_eq_some_iff i old).mp hp)]
      exact hold
    have hperm := (hnodup.subperm hsub).perm_of_length_le (by simp [hlen])
    refine ⟨h, hpaired, fun old => ⟨fun hold => ?_, ?_⟩⟩
    · obtain ⟨i, hi, rfl⟩ := List.mem_map.mp (hperm.symm.subset hold)
      obtain ⟨old, hold⟩ := hpaired i hi
      exact ⟨i, hi, by rwa [hd.partnerOf_eq hold]⟩
    · rintro ⟨i, hi, hold⟩
      rw [← hd.partnerOf_eq hold]
      exact hsub (List.mem_map_of_mem hi)
  · rintro ⟨h, hw⟩
    refine ⟨h, fun i hi => ?_, hd.length_eq_of_wholePaired ha hb hw⟩
    obtain ⟨old, hold⟩ := hw.paired i hi
    exact ⟨old, (hw.partners old).mpr ⟨i, hi, hold⟩, (hd.partner?_eq_some_iff i old).mpr hold⟩

/-- An alias group of the first table lives on exactly when all its members are removed. -/
theorem keepsBefore_iff (c : Comparison) (g : AliasGroupId) :
    c.keepsBefore g = true ↔ c.WholeRemoved g := by
  simp [keepsBefore, WholeRemoved]

/-- An alias group with an added member lives on exactly when all its members are added. -/
theorem Distinct.keepsAfter_iff_of_added {c : Comparison} (hd : c.Distinct) (ha : c.after.Built)
    (hb : c.before.Built) {g : AliasGroupId} {id : SymbolId}
    (hid : id ∈ c.after.aliasMembers g) (hadded : id ∈ c.pairing.added) :
    c.keepsAfter g = true ↔ c.WholeAdded g := by
  unfold keepsAfter
  rw [Bool.or_eq_true, hd.sameMembership_iff_wholePaired ha hb hid]
  simp only [List.all_eq_true, List.contains_iff_mem]
  -- An added member has no partner, which rules out the second way to live on.
  refine or_iff_left ?_
  rintro ⟨h, hw⟩
  obtain ⟨old, hold⟩ := hw.paired id hid
  exact hd.not_paired_of_added hadded hold

/-- An alias group with a paired member lives on exactly when it is paired with a whole alias group
of the first table. -/
theorem Distinct.keepsAfter_iff_of_paired {c : Comparison} (hd : c.Distinct) (ha : c.after.Built)
    (hb : c.before.Built) {g : AliasGroupId} {id old : SymbolId}
    (hid : id ∈ c.after.aliasMembers g) (hold : (old, id) ∈ c.pairing.similar) :
    c.keepsAfter g = true ↔ ∃ h, c.WholePaired g h := by
  unfold keepsAfter
  rw [Bool.or_eq_true, hd.sameMembership_iff_wholePaired ha hb hid]
  simp only [List.all_eq_true, List.contains_iff_mem]
  -- A paired member is not added, which rules out the first way to live on.
  refine or_iff_right fun hadded => ?_
  exact hd.not_paired_of_added (hadded id hid) hold

end Comparison

end Footprint
