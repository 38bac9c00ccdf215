import Mathlib.Data.List.NodupEquivFin
import Footprint.Proofs.Diff.Matching
import Footprint.Proofs.Diff.Survival
import Footprint.Proofs.Group.Leaves

/-!
# Diffing in the other order

A diff of two trees and the diff of the trees in the other order have the same leaves with the sides
swapped and the amounts negated. An alias group is taken along by a leaf of one exactly when one of
as many members is by the leaf of the other (`Mirrors.livesOn`), although the test of the diff looks
at the alias groups of the second tree only.
-/

namespace Footprint

/-- The side in a diff in the other order. -/
def Side.swap : Side → Side
  | added => removed
  | removed => added
  | paired => paired

/-- The source in a diff in the other order. -/
def Source.swap : Source → Source
  | added new => removed new
  | removed old => added old
  | paired old new => paired new old

/-- The status in a diff in the other order. -/
def DiffStatus.swap : DiffStatus → DiffStatus
  | added => removed
  | removed => added
  | s => s

/-- The counts of a diff in the other order. -/
def DiffCounts.swap (c : DiffCounts) : DiffCounts :=
  { c with added := c.removed, removed := c.added }

/-- Swapping twice changes nothing. -/
theorem Source.swap_swap (src : Source) : src.swap.swap = src := by
  cases src <;> rfl

/-- The side of a swapped source. -/
theorem Source.side_swap (src : Source) : src.swap.side = src.side.swap := by
  cases src <;> rfl

/-- The counts of swapped statuses. -/
theorem DiffCounts.ofStatuses_map_swap (statuses : List DiffStatus) :
    ofStatuses (statuses.map DiffStatus.swap) = (ofStatuses statuses).swap := by
  have hcount : ∀ s : DiffStatus, (statuses.map DiffStatus.swap).count s =
      statuses.count s.swap := by
    intro s
    unfold List.count
    rw [List.countP_map]
    refine List.countP_congr fun t _ => ?_
    cases s <;> cases t <;> decide
  simp only [ofStatuses, hcount]
  rfl

/-- The swapped sources are those of the mirrored pairing. -/
theorem Pairing.Mirrors.swap_mem_sources {p q : Pairing} (h : p.Mirrors q) (src : Source) :
    src.swap ∈ q.sources ↔ src ∈ p.sources := by
  cases src with
  | added new => simp [Source.swap, h.added new]
  | removed old => simp [Source.swap, h.removed old]
  | paired old new => simp [Source.swap, h.similar old new]

namespace Comparison

/-- One comparison is the other with the two sides swapped. -/
structure Mirrors (c d : Comparison) : Prop where
  /-- The second table of one is the first of the other. -/
  after : c.after = d.before
  /-- The first table of one is the second of the other. -/
  before : c.before = d.after
  /-- The pairings mirror each other. -/
  pairing : c.pairing.Mirrors d.pairing

variable {c d : Comparison}

/-- Two comparisons mirror each other. -/
theorem Mirrors.symm (h : c.Mirrors d) : d.Mirrors c :=
  ⟨h.before.symm, h.after.symm, h.pairing.symm⟩

/-- The new symbol of a swapped source is the old one of the source. -/
theorem Mirrors.newOf_swap (h : c.Mirrors d) (src : Source) : d.newOf src.swap = c.oldOf src := by
  unfold newOf oldOf
  rw [h.before]
  cases src <;> rfl

/-- The old symbol of a swapped source is the new one of the source. -/
theorem Mirrors.oldOf_swap (h : c.Mirrors d) (src : Source) : d.oldOf src.swap = c.newOf src := by
  unfold newOf oldOf
  rw [h.after]
  cases src <;> rfl

/-- When a source lives on in an alias group, the swapped source does in one of as many members. -/
theorem Mirrors.livesOn (h : c.Mirrors d) (hd : c.Distinct) (ha : c.after.Built)
    (hb : c.before.Built) {src : Source} {side : Side} {g : AliasGroupId}
    (hsrc : src ∈ c.pairing.sources) (hlives : c.LivesOn src side g) :
    ∃ g', d.LivesOn src.swap side.swap g' ∧
      (d.membersOf side.swap g').length = (c.membersOf side g).length := by
  cases hlives with
  | added hin hwhole =>
    rw [h.after] at hin
    refine ⟨g, .removed hin fun id hid => ?_,
      congrArg (fun t : Table => (t.aliasMembers g).length) h.after.symm⟩
    rw [← h.after] at hid
    exact (h.pairing.added id).mp (hwhole id hid)
  | removed hin hwhole =>
    rw [h.before] at hin
    refine ⟨g, .added hin fun id hid => ?_,
      congrArg (fun t : Table => (t.aliasMembers g).length) h.before.symm⟩
    rw [← h.before] at hid
    exact (h.pairing.removed id).mp (hwhole id hid)
  | @paired old new _ g' hin hwhole =>
    have hpair := Pairing.paired_mem_sources.mp hsrc
    have hold : old ∈ c.before.aliasMembers g' := (hwhole.partners old).mpr ⟨new, hin, hpair⟩
    -- The partners of the members of `g'` are the members of `g`, so that the roles can be swapped.
    have hlen := hd.length_eq_of_wholePaired ha hb hwhole
    rw [h.before] at hold hlen
    refine ⟨g', .paired hold (h := g) ⟨fun id hid => ?_, fun id => ⟨fun hid => ?_, ?_⟩⟩, hlen⟩
    · rw [← h.before] at hid
      obtain ⟨i, -, hi⟩ := (hwhole.partners id).mp hid
      exact ⟨i, (h.pairing.similar id i).mp hi⟩
    · rw [← h.after] at hid
      obtain ⟨o, ho⟩ := hwhole.paired id hid
      refine ⟨o, ?_, (h.pairing.similar o id).mp ho⟩
      rw [← h.before]
      exact (hwhole.partners o).mpr ⟨id, hid, ho⟩
    · rintro ⟨o, ho, hi⟩
      rw [← h.before] at ho
      rw [← h.after]
      -- The partner of a member is the only symbol that is paired with it.
      obtain ⟨i, hin', hi'⟩ := (hwhole.partners o).mp ho
      rwa [← hd.new_eq hi' ((h.pairing.similar o id).mpr hi)]

/-- A leaf takes an alias group along exactly when its source lives on. -/
theorem isSome_keptOf_iff (hd : c.Distinct) (ha : c.after.Built) (hb : c.before.Built)
    {src : Source} (hsrc : src ∈ c.pairing.sources) :
    (c.keptOf src).isSome ↔ ∃ side g, c.LivesOn src side g := by
  rw [Option.isSome_iff_exists]
  constructor
  · rintro ⟨g, hg⟩
    exact ⟨src.side, g, (keptOf_eq_some_iff hd ha hb hsrc g).mp hg⟩
  · rintro ⟨side, g, hlives⟩
    refine ⟨g, (keptOf_eq_some_iff hd ha hb hsrc g).mpr ?_⟩
    rwa [hlives.side_eq]

/-- The status of the leaf of a source. -/
def statusOf (c : Comparison) (src : Source) : DiffStatus :=
  match src.side with
  | .added => .added
  | .removed => .removed
  | .paired => if c.change Symbol.size src = 0 then .unchanged else .changed

/-- A leaf has the status of its source. -/
theorem DeltaOf.status_eq {src : Source} {s : Symbol} (h : c.DeltaOf src s) :
    s.status = c.statusOf src := by
  rw [Symbol.status, h.side, statusOf, h.size_eq]
  cases src.side <;> rfl

section

variable (h : c.Mirrors d) (hd : c.Distinct) (hd' : d.Distinct) (ha : c.after.Built)
  (hb : c.before.Built)

include h hd hd' ha hb

/-- A source lives on exactly when the swapped source does. -/
theorem Mirrors.exists_livesOn_iff {src : Source} (hsrc : src ∈ c.pairing.sources) :
    (∃ side g, d.LivesOn src.swap side g) ↔ ∃ side g, c.LivesOn src side g := by
  constructor
  · rintro ⟨side, g, hlives⟩
    have hsrc' := (h.pairing.swap_mem_sources src).mpr hsrc
    obtain ⟨g', hlives', -⟩ := h.symm.livesOn hd' (h.before ▸ hb) (h.after ▸ ha) hsrc' hlives
    rw [Source.swap_swap] at hlives'
    exact ⟨_, g', hlives'⟩
  · rintro ⟨side, g, hlives⟩
    obtain ⟨g', hlives', -⟩ := h.livesOn hd ha hb hsrc hlives
    exact ⟨_, g', hlives'⟩

/-- A leaf stands for the whole amounts exactly when the leaf of the swapped source does. -/
theorem Mirrors.wholeOf_swap {src : Source} (hsrc : src ∈ c.pairing.sources) :
    d.wholeOf src.swap = c.wholeOf src := by
  have hkept : (d.keptOf src.swap).isSome = (c.keptOf src).isSome := by
    have hsrc' := (h.pairing.swap_mem_sources src).mpr hsrc
    rw [Bool.eq_iff_iff, isSome_keptOf_iff hd ha hb hsrc,
      isSome_keptOf_iff hd' (h.before ▸ hb) (h.after ▸ ha) hsrc',
      h.exists_livesOn_iff hd hd' ha hb hsrc]
  have hside : (src.swap.side == .paired) = (src.side == .paired) := by
    cases src <;> rfl
  rw [wholeOf, wholeOf, hkept, hside, h.newOf_swap, h.oldOf_swap, Bool.and_right_comm]

/-- The leaf of the swapped source stands for the opposite difference. -/
theorem Mirrors.change_swap (value : Symbol → Int) {src : Source}
    (hsrc : src ∈ c.pairing.sources) : d.change value src.swap = -c.change value src := by
  rw [change, change, h.wholeOf_swap hd hd' ha hb hsrc, h.newOf_swap, h.oldOf_swap, ← h.before,
    ← h.after, Int.neg_sub]

/-- The leaf of the swapped source has as many aliases. -/
theorem Mirrors.aliasCount_swap {src : Source} (hsrc : src ∈ c.pairing.sources) :
    d.aliasCount src.swap = c.aliasCount src := by
  have ha' : d.after.Built := h.before ▸ hb
  have hb' : d.before.Built := h.after ▸ ha
  have hsrc' := (h.pairing.swap_mem_sources src).mpr hsrc
  -- A leaf that lives on has the aliases of its alias group, any other leaf only itself.
  by_cases hlives : ∃ side g, c.LivesOn src side g
  · obtain ⟨side, g, hlives⟩ := hlives
    obtain ⟨g', hlives', hlen⟩ := h.livesOn hd ha hb hsrc hlives
    rw [aliasCount_of_livesOn hd ha hb hsrc hlives, aliasCount_of_livesOn hd' ha' hb' hsrc' hlives',
      hlen]
  · have hlives' := (h.exists_livesOn_iff hd hd' ha hb hsrc).not.mpr hlives
    simp only [not_exists] at hlives hlives'
    rw [aliasCount, aliasCount, keyOf_eq_none hd ha hb hsrc hlives,
      keyOf_eq_none hd' ha' hb' hsrc' hlives']
    rfl

/-- The leaf of the swapped source has the swapped status. -/
theorem Mirrors.statusOf_swap {src : Source} (hsrc : src ∈ c.pairing.sources) :
    d.statusOf src.swap = (c.statusOf src).swap := by
  have hchange := h.change_swap hd hd' ha hb Symbol.size hsrc
  rw [statusOf, statusOf, Source.side_swap, hchange]
  cases src.side with
  | added => rfl
  | removed => rfl
  | paired =>
    by_cases hzero : c.change Symbol.size src = 0
    · simp [Side.swap, hzero, DiffStatus.swap]
    · simp [Side.swap, hzero, DiffStatus.swap]

end

/-- No source is listed twice. -/
theorem Distinct.nodup_sources (hd : c.Distinct) : c.pairing.sources.Nodup := by
  obtain ⟨hadded, hsimilar, -⟩ := List.nodup_append.mp hd.after
  obtain ⟨hremoved, -, -⟩ := List.nodup_append.mp hd.before
  unfold Pairing.sources
  refine List.nodup_append.mpr ⟨List.nodup_append.mpr ⟨?_, ?_, ?_⟩, ?_, ?_⟩
  · exact hadded.map fun _ _ => Source.added.inj
  · exact hremoved.map fun _ _ => Source.removed.inj
  · simp
  · refine hsimilar.of_map.map fun p q hpq => ?_
    exact Prod.ext (Source.paired.inj hpq).1 (Source.paired.inj hpq).2
  · intro src hsrc src' hsrc' heq
    -- A pair is neither added nor removed.
    simp only [List.mem_append, List.mem_map] at hsrc hsrc'
    grind

/-- The places of the sources of two mirrored comparisons correspond to each other. -/
theorem Mirrors.exists_equiv (h : c.Mirrors d) (hd : c.Distinct) (hd' : d.Distinct) :
    ∃ σ : Fin c.pairing.sources.length ≃ Fin d.pairing.sources.length,
      ∀ i, d.pairing.sources.get (σ i) = (c.pairing.sources.get i).swap := by
  let swapped : Source ≃ Source := Function.Involutive.toPerm Source.swap Source.swap_swap
  have hmem : ∀ src, src ∈ c.pairing.sources ↔ swapped src ∈ d.pairing.sources := fun src =>
    (h.pairing.swap_mem_sources src).symm
  refine ⟨(hd.nodup_sources.getEquiv _).trans ((swapped.subtypeEquiv hmem).trans
    (hd'.nodup_sources.getEquiv _).symm), fun i => ?_⟩
  simp only [Equiv.trans_apply, List.Nodup.getEquiv_symm_apply_val, List.get_eq_getElem,
    List.getElem_idxOf]
  rfl

/-- The statuses of the leaves are those of the sources. -/
theorem Outcome.map_status_leaves {root : Group} (h : c.Outcome root) :
    root.leaves.map Symbol.status = c.pairing.sources.map c.statusOf := by
  rw [Group.leaves_of_flat h.members]
  exact map_eq_map_of_forall₂ (h.leaves.flip.imp fun _ _ hs => hs.status_eq)

/-- The counts of the root are those of the sources. -/
theorem Outcome.counts_eq {root : Group} (h : c.Outcome root) :
    root.counts = .ofStatuses (c.pairing.sources.map c.statusOf) := by
  rw [Group.counts, h.map_status_leaves]

/-- The counts of the diff in the other order are swapped. -/
theorem Mirrors.counts_swap (h : c.Mirrors d) (hd : c.Distinct) (hd' : d.Distinct)
    (ha : c.after.Built) (hb : c.before.Built) {root root' : Group} (ho : c.Outcome root)
    (ho' : d.Outcome root') : root'.counts = root.counts.swap := by
  -- The counts do not depend on the order of the leaves.
  have hperm : (c.pairing.sources.map Source.swap).Perm d.pairing.sources := by
    have hnodup := hd.nodup_sources.map
      (Function.Involutive.injective (f := Source.swap) Source.swap_swap)
    rw [List.perm_ext_iff_of_nodup hnodup hd'.nodup_sources]
    intro src
    rw [← h.pairing.symm.swap_mem_sources src, List.mem_map]
    constructor
    · rintro ⟨src', hsrc', rfl⟩
      rwa [Source.swap_swap]
    · exact fun hsrc => ⟨src.swap, hsrc, Source.swap_swap src⟩
  have hmap : (c.pairing.sources.map Source.swap).map d.statusOf =
      (c.pairing.sources.map c.statusOf).map DiffStatus.swap := by
    rw [List.map_map, List.map_map]
    exact List.map_congr_left fun src hsrc => h.statusOf_swap hd hd' ha hb hsrc
  have hcounts := hperm.map d.statusOf
  rw [hmap] at hcounts
  rw [ho.counts_eq, ho'.counts_eq, ← DiffCounts.ofStatuses_map_swap]
  simp only [DiffCounts.ofStatuses, hcounts.count_eq]

end Comparison

/-- One symbol stands for the opposite change of another, with as many aliases. -/
structure Symbol.Opposite (s t : Symbol) : Prop where
  /-- The sizes are opposite. -/
  size : t.size = -s.size
  /-- The paddings are opposite. -/
  padding : t.padding = -s.padding
  /-- The numbers of aliases are equal. -/
  numAliases : t.numAliases = s.numAliases

/-- The leaves of the diffs in both orders correspond to each other. -/
theorem Comparison.Mirrors.exists_leaves {c d : Comparison} (h : c.Mirrors d) (hd : c.Distinct)
    (hd' : d.Distinct) (ha : c.after.Built) (hb : c.before.Built) {leaves leaves' : List Symbol}
    (hl : List.Forall₂ c.LeafOf c.pairing.sources leaves)
    (hl' : List.Forall₂ d.LeafOf d.pairing.sources leaves') :
    ∃ σ : Fin leaves.length ≃ Fin leaves'.length, ∀ i,
      d.pairing.sources[(σ i).val]? = c.pairing.sources[i.val]?.map Source.swap ∧
        (leaves.get i).Opposite (leaves'.get (σ i)) := by
  obtain ⟨σ, hσ⟩ := h.exists_equiv hd hd'
  refine ⟨(finCongr hl.length_eq.symm).trans (σ.trans (finCongr hl'.length_eq)), fun i => ?_⟩
  -- The leaf at a place is that of the source at the same place.
  let j : Fin c.pairing.sources.length := finCongr hl.length_eq.symm i
  have hsrc : c.pairing.sources.get j ∈ c.pairing.sources := List.get_mem _ _
  have hleaf : c.LeafOf (c.pairing.sources.get j) (leaves.get i) := hl.get j.isLt i.isLt
  have hleaf' : d.LeafOf (c.pairing.sources.get j).swap
      (leaves'.get (finCongr hl'.length_eq (σ j))) := by
    rw [← hσ j]
    exact hl'.get (σ j).isLt (finCongr hl'.length_eq (σ j)).isLt
  have hplace : d.pairing.sources[(σ j).val]? = c.pairing.sources[j.val]?.map Source.swap := by
    have hget := hσ j
    rw [List.get_eq_getElem, List.get_eq_getElem] at hget
    rw [List.getElem?_eq_getElem (σ j).isLt, List.getElem?_eq_getElem j.isLt, Option.map_some, hget]
  refine ⟨hplace, ?_, ?_, ?_⟩
  · exact hleaf'.size_eq.trans ((h.change_swap hd hd' ha hb _ hsrc).trans
      (congrArg Neg.neg hleaf.size_eq.symm))
  · exact hleaf'.padding_eq.trans ((h.change_swap hd hd' ha hb _ hsrc).trans
      (congrArg Neg.neg hleaf.padding_eq.symm))
  · exact hleaf'.numAliases.trans ((h.aliasCount_swap hd hd' ha hb hsrc).trans
      hleaf.numAliases.symm)

/-- The comparisons of two groups by names in both orders mirror each other, and list each leaf
once. -/
theorem Matcher.mirrors_compare_byName {b a : Group} (hnb : (b.leaves.map Symbol.id).Nodup)
    (hna : (a.leaves.map Symbol.id).Nodup) :
    (byName.compare b a).Mirrors (byName.compare a b) ∧ (byName.compare b a).Distinct := by
  refine ⟨⟨rfl, rfl, Pairing.mirrors_byName hnb hna⟩, ?_, ?_⟩
  · exact (Pairing.afterIds_byName_perm b.leaves a.leaves).nodup_iff.mpr hna
  · exact (Pairing.beforeIds_byName_perm a.leaves hnb).nodup_iff.mpr hnb

/-- The comparison of two groups by names lists symbols of their tables. -/
theorem Matcher.known_compare_byName {b a : Group} (hb : b.Owned) (ha : a.Owned)
    (hnb : (b.leaves.map Symbol.id).Nodup) : (byName.compare b a).Known := by
  constructor
  · intro id hid
    obtain ⟨s, hs, rfl⟩ := List.mem_map.mp
      ((Pairing.afterIds_byName_perm b.leaves a.leaves).subset hid)
    exact ⟨s, ha s hs⟩
  · intro id hid
    obtain ⟨s, hs, rfl⟩ := List.mem_map.mp
      ((Pairing.beforeIds_byName_perm a.leaves hnb).subset hid)
    exact ⟨s, hb s hs⟩

/-- Diffing is antisymmetric: the leaves of the diffs in both orders correspond to each other, with
the sides swapped, opposite amounts and equal numbers of aliases, so that the counts are swapped,
too. There is neither diff when there are more leaves than a table can hold. -/
theorem diffWith_byName_antisymm {b a : Group} (hb : b.table.Built) (ha : a.table.Built)
    (hob : b.Owned) (hoa : a.Owned) (hnb : (b.leaves.map Symbol.id).Nodup)
    (hna : (a.leaves.map Symbol.id).Nodup) (stamp stamp' : Stamp) :
    ((Matcher.byName.pair b a).sources.length ≤ tableCapacity →
      ∃ D R leavesD leavesR,
        diffWith .byName b a stamp = .ok D ∧ diffWith .byName a b stamp' = .ok R ∧
        D.value.members = leavesD.map Node.leaf ∧ R.value.members = leavesR.map Node.leaf ∧
        List.Forall₂ (Matcher.byName.compare b a).DeltaOf (Matcher.byName.pair b a).sources
          leavesD ∧
        List.Forall₂ (Matcher.byName.compare a b).DeltaOf (Matcher.byName.pair a b).sources
          leavesR ∧
        (∃ σ : Fin leavesD.length ≃ Fin leavesR.length, ∀ i,
          (Matcher.byName.pair a b).sources[(σ i).val]? =
              (Matcher.byName.pair b a).sources[i.val]?.map Source.swap ∧
            (leavesD.get i).Opposite (leavesR.get (σ i))) ∧
        R.value.counts = D.value.counts.swap) ∧
    (tableCapacity < (Matcher.byName.pair b a).sources.length →
      diffWith .byName b a stamp = .error (.tableFull tableCapacity) ∧
        diffWith .byName a b stamp' = .error (.tableFull tableCapacity)) := by
  obtain ⟨hmirrors, hd⟩ := Matcher.mirrors_compare_byName hnb hna
  obtain ⟨-, hd'⟩ := Matcher.mirrors_compare_byName hna hnb
  obtain ⟨hokD, herrorD⟩ := Comparison.exists_diff (Matcher.known_compare_byName hob hoa hnb) ha hb
    "name" stamp
  obtain ⟨hokR, herrorR⟩ := Comparison.exists_diff (Matcher.known_compare_byName hoa hob hna) hb ha
    "name" stamp'
  -- Both diffs have as many leaves, so that both or neither fit in a table.
  have hlength : (Matcher.byName.pair b a).sources.length =
      (Matcher.byName.pair a b).sources.length := by
    obtain ⟨σ, -⟩ := hmirrors.exists_equiv hd hd'
    exact Fin.equiv_iff_eq.mp ⟨σ⟩
  refine ⟨fun hcap => ?_, fun hcap => ⟨herrorD hcap, herrorR (hlength ▸ hcap)⟩⟩
  obtain ⟨D, hD, houtD⟩ := hokD hcap
  obtain ⟨R, hR, houtR⟩ := hokR (hlength ▸ hcap)
  exact ⟨D, R, D.value.table.symbols.toList, R.value.table.symbols.toList, hD, hR, houtD.members,
    houtR.members, houtD.leaves.imp fun _ _ => Comparison.LeafOf.toDeltaOf,
    houtR.leaves.imp fun _ _ => Comparison.LeafOf.toDeltaOf,
    hmirrors.exists_leaves hd hd' ha hb houtD.leaves houtR.leaves,
    hmirrors.counts_swap hd hd' ha hb houtD houtR⟩

/-- Two aliases and three aliases that all have one name, compared in both orders. -/
theorem diffWith_byName_antisymm_clones :
    let b := Group.ofTable (.clones { sectionName := ".text", size := 41 } 2)
    let a := Group.ofTable (.clones { sectionName := ".text", size := 50 } 3)
    ∃ D R, diffWith .byName b a ⟨1⟩ = .ok D ∧ diffWith .byName a b ⟨2⟩ = .ok R ∧
      R.value.counts = D.value.counts.swap := by
  intro b a
  have hb : b.table.Built := Table.built_clones _ (by decide) (by decide)
  have ha : a.table.Built := Table.built_clones _ (by decide) (by decide)
  have hlb : b.leaves.map Symbol.id = [⟨0⟩, ⟨1⟩] := congrArg _ (Group.leaves_ofTable b.table)
  have hla : a.leaves.map Symbol.id = [⟨0⟩, ⟨1⟩, ⟨2⟩] := congrArg _ (Group.leaves_ofTable a.table)
  have hnb : (b.leaves.map Symbol.id).Nodup := by
    rw [hlb]
    decide
  have hna : (a.leaves.map Symbol.id).Nodup := by
    rw [hla]
    decide
  have hcap : (Matcher.byName.pair b a).sources.length ≤ tableCapacity := by
    have hlength := (Matcher.byName.pair b a).length_sources_le
    have hafter := (Pairing.afterIds_byName_perm b.leaves a.leaves).length_eq
    have hbefore := (Pairing.beforeIds_byName_perm a.leaves hnb).length_eq
    rw [hla] at hafter
    rw [hlb] at hbefore
    refine hlength.trans (le_of_eq_of_le (congrArg₂ _ hafter hbefore) (by decide))
  obtain ⟨D, R, -, -, hD, hR, -, -, -, -, -, hcounts⟩ := (diffWith_byName_antisymm hb ha
    (Group.owned_ofTable hb) (Group.owned_ofTable ha) hnb hna ⟨1⟩ ⟨2⟩).1 hcap
  exact ⟨D, R, hD, hR, hcounts⟩

end Footprint
