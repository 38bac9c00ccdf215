import Footprint.Proofs.Diff.Outcome
import Footprint.Proofs.Symbol.Shares

/-!
# Which alias groups survive a diff

`LivesOn` says of a leaf which alias group of its source is taken along whole. The leaves with one
key are those of one such group (`keyOf_eq_some_iff`), one for each of its members
(`filterMap_new_perm`, `filterMap_old_perm_of_removed`, `filterMap_old_perm_of_paired`). So leaves
become aliases of each other exactly when they live on in one group (`AliasesSurvive`).
-/

namespace Footprint

/-- The comparison of two groups that a matcher makes. -/
def Matcher.compare (m : Matcher) (before after : Group) : Comparison :=
  ⟨before.table, after.table, m.pair before after⟩

namespace Pairing

variable {p : Pairing}

/-- An added symbol is a source. -/
@[simp]
theorem added_mem_sources {new : SymbolId} : .added new ∈ p.sources ↔ new ∈ p.added := by
  simp [sources]

/-- A removed symbol is a source. -/
@[simp]
theorem removed_mem_sources {old : SymbolId} : .removed old ∈ p.sources ↔ old ∈ p.removed := by
  simp [sources]

/-- A pair is a source. -/
@[simp]
theorem paired_mem_sources {old new : SymbolId} :
    .paired old new ∈ p.sources ↔ (old, new) ∈ p.similar := by
  simp [sources]

/-- The symbols of the second tree that the sources name are those that the pairing lists. -/
theorem filterMap_new_sources (p : Pairing) : p.sources.filterMap Source.new? = p.afterIds := by
  simp [sources, afterIds, List.filterMap_append, List.filterMap_map, Function.comp_def,
    Source.new?, List.filterMap_eq_map']

/-- The symbols of the first tree that the sources name are those that the pairing lists. -/
theorem filterMap_old_sources (p : Pairing) : p.sources.filterMap Source.old? = p.beforeIds := by
  simp [sources, beforeIds, List.filterMap_append, List.filterMap_map, Function.comp_def,
    Source.old?, List.filterMap_eq_map']

/-- A pairing has at most as many sources as it lists symbols. -/
theorem length_sources_le (p : Pairing) :
    p.sources.length ≤ p.afterIds.length + p.beforeIds.length := by
  simp only [sources, afterIds, beforeIds, List.length_append, List.length_map]
  omega

end Pairing

/-- The symbol with an id belongs to the alias group that lists it. -/
theorem Table.Built.bind_aliasGroup_iff {t : Table} (h : t.Built) (id : SymbolId)
    (g : AliasGroupId) : (t.get? id).bind Symbol.aliasGroup = some g ↔ id ∈ t.aliasMembers g := by
  rw [Option.bind_eq_some_iff]
  constructor
  · rintro ⟨s, hs, hg⟩
    exact (h.aliasGroup_iff hs g).mp hg
  · exact h.exists_of_mem_aliasMembers

namespace Comparison

/-- The leaf of a source takes an alias group along whole: one with added members, one with removed
members, or one of the second table that is paired with one of the first. -/
inductive LivesOn (c : Comparison) : Source → Side → AliasGroupId → Prop where
  /-- The symbol is in an alias group whose members are all added. -/
  | added {new : SymbolId} {g : AliasGroupId} :
    new ∈ c.after.aliasMembers g → c.WholeAdded g → LivesOn c (.added new) .added g
  /-- The symbol is in an alias group whose members are all removed. -/
  | removed {old : SymbolId} {g : AliasGroupId} :
    old ∈ c.before.aliasMembers g → c.WholeRemoved g → LivesOn c (.removed old) .removed g
  /-- The symbol is in an alias group whose members are all paired, with exactly the members of an
  alias group of the first table. -/
  | paired {old new : SymbolId} {g h : AliasGroupId} :
    new ∈ c.after.aliasMembers g → c.WholePaired g h → LivesOn c (.paired old new) .paired g

/-- The members of an alias group that lives on: of the first table for removed symbols, and else
of the second. -/
def membersOf (c : Comparison) (side : Side) (g : AliasGroupId) : List SymbolId :=
  match side with
  | .removed => c.before.aliasMembers g
  | _ => c.after.aliasMembers g

variable {c : Comparison}

/-- A source lives on at its own side only. -/
theorem LivesOn.side_eq {src : Source} {side : Side} {g : AliasGroupId}
    (h : c.LivesOn src side g) : src.side = side := by
  cases h <;> rfl

/-- Sources that live on in one alias group of one table are on one side: an alias group of the
second table has either added or paired members. -/
theorem LivesOn.side_unique (hd : c.Distinct) {src src' : Source} {side side' : Side}
    {g : AliasGroupId} (h : c.LivesOn src side g) (h' : c.LivesOn src' side' g)
    (hsides : (side == .removed) = (side' == .removed)) : side = side' := by
  -- The two ways to live on in the second table exclude each other.
  have hnot : ∀ {new h}, new ∈ c.after.aliasMembers g → c.WholeAdded g → ¬ c.WholePaired g h := by
    intro new h hin hadded hpaired
    obtain ⟨old, hold⟩ := hpaired.paired new hin
    exact hd.not_paired_of_added (hadded new hin) hold
  cases h with
  | added hin hadded =>
    cases h' with
    | added => rfl
    | removed => simp at hsides
    | paired _ hpaired => exact absurd hpaired (hnot hin hadded)
  | removed =>
    cases h' with
    | added => simp at hsides
    | removed => rfl
    | paired => simp at hsides
  | paired hin hpaired =>
    cases h' with
    | added _ hadded => exact absurd hpaired (hnot hin hadded)
    | removed => simp at hsides
    | paired => rfl

/-- The sources with a key. -/
def sourcesWith (c : Comparison) (key : Bool × AliasGroupId) : List Source :=
  c.pairing.sources.filter fun src => c.keyOf src == some key

section

variable (hd : c.Distinct) (ha : c.after.Built) (hb : c.before.Built)

include hd ha hb

/-- A leaf takes an alias group along exactly when its source lives on in it. -/
theorem keptOf_eq_some_iff {src : Source} (hsrc : src ∈ c.pairing.sources) (g : AliasGroupId) :
    c.keptOf src = some g ↔ c.LivesOn src src.side g := by
  unfold keptOf
  cases src with
  | added new =>
    have hnew : new ∈ c.pairing.added := Pairing.added_mem_sources.mp hsrc
    have hgroup : (c.newOf (.added new)).bind Symbol.aliasGroup = some g ↔
        new ∈ c.after.aliasMembers g := ha.bind_aliasGroup_iff new g
    refine Iff.trans Option.filter_eq_some_iff ?_
    rw [hgroup]
    constructor
    · rintro ⟨hin, hkeeps⟩
      exact .added hin ((hd.keepsAfter_iff_of_added ha hb hin hnew).mp hkeeps)
    · intro hlives
      cases hlives with
      | added hin hwhole =>
        exact ⟨hin, (hd.keepsAfter_iff_of_added ha hb hin hnew).mpr hwhole⟩
  | removed old =>
    have hgroup : (c.oldOf (.removed old)).bind Symbol.aliasGroup = some g ↔
        old ∈ c.before.aliasMembers g := hb.bind_aliasGroup_iff old g
    refine Iff.trans Option.filter_eq_some_iff ?_
    rw [hgroup, keepsBefore_iff]
    constructor
    · rintro ⟨hin, hwhole⟩
      exact .removed hin hwhole
    · intro hlives
      cases hlives with
      | removed hin hwhole => exact ⟨hin, hwhole⟩
  | paired old new =>
    have hnew : (old, new) ∈ c.pairing.similar := Pairing.paired_mem_sources.mp hsrc
    have hgroup : (c.newOf (.paired old new)).bind Symbol.aliasGroup = some g ↔
        new ∈ c.after.aliasMembers g := ha.bind_aliasGroup_iff new g
    refine Iff.trans Option.filter_eq_some_iff ?_
    rw [hgroup]
    constructor
    · rintro ⟨hin, hkeeps⟩
      obtain ⟨h, hwhole⟩ := (hd.keepsAfter_iff_of_paired ha hb hin hnew).mp hkeeps
      exact .paired hin hwhole
    · intro hlives
      cases hlives with
      | paired hin hwhole =>
        exact ⟨hin, (hd.keepsAfter_iff_of_paired ha hb hin hnew).mpr ⟨_, hwhole⟩⟩

/-- A leaf has a key exactly when its source lives on in the alias group of the key. -/
theorem keyOf_eq_some_iff {src : Source} (hsrc : src ∈ c.pairing.sources)
    (key : Bool × AliasGroupId) :
    c.keyOf src = some key ↔
      c.LivesOn src src.side key.2 ∧ key.1 = (src.side == .removed) := by
  unfold keyOf
  rw [Option.map_eq_some_iff, ← keptOf_eq_some_iff hd ha hb hsrc]
  constructor
  · rintro ⟨g, hg, rfl⟩
    exact ⟨hg, rfl⟩
  · rintro ⟨hg, hside⟩
    exact ⟨key.2, hg, Prod.ext hside.symm rfl⟩

/-- The key of a leaf that lives on is made of its side and its alias group. -/
theorem LivesOn.keyOf_eq {src : Source} (hsrc : src ∈ c.pairing.sources) {side : Side}
    {g : AliasGroupId} (h : c.LivesOn src side g) : c.keyOf src = some (side == .removed, g) := by
  rw [keyOf_eq_some_iff hd ha hb hsrc, h.side_eq]
  exact ⟨h, rfl⟩

/-- A source with the key of a source that lives on lives on in the same group. -/
theorem mem_sourcesWith {src : Source} {side : Side} {g : AliasGroupId}
    (h : c.LivesOn src side g) (src' : Source) :
    src' ∈ c.sourcesWith (side == .removed, g) ↔
      src' ∈ c.pairing.sources ∧ c.LivesOn src' side g := by
  unfold sourcesWith
  rw [List.mem_filter, beq_iff_eq]
  refine and_congr_right fun hsrc' => ?_
  rw [keyOf_eq_some_iff hd ha hb hsrc']
  constructor
  · rintro ⟨hlives, hside⟩
    -- A source with the same key could only be on another side of the same table.
    rwa [h.side_unique hd hlives hside]
  · intro hlives
    exact (keyOf_eq_some_iff hd ha hb hsrc' _).mp (hlives.keyOf_eq hd ha hb hsrc')

/-- The new symbols of the leaves that live on in an alias group of the second table are its
members. -/
theorem filterMap_new_perm {src : Source} {side : Side} {g : AliasGroupId}
    (h : c.LivesOn src side g) (hside : side ≠ .removed) :
    ((c.sourcesWith (side == .removed, g)).filterMap Source.new?).Perm
      (c.after.aliasMembers g) := by
  have hsub : ((c.sourcesWith (side == .removed, g)).filterMap Source.new?).Sublist
      c.pairing.afterIds := by
    rw [← Pairing.filterMap_new_sources]
    exact List.filter_sublist.filterMap _
  have hmem := mem_sourcesWith hd ha hb h
  rw [List.perm_ext_iff_of_nodup (hd.after.sublist hsub) (ha.nodup_aliasMembers g)]
  intro id
  rw [List.mem_filterMap]
  constructor
  · rintro ⟨src', hsrc', hid⟩
    obtain ⟨-, hlives⟩ := (hmem src').mp hsrc'
    cases hlives with
    | added hin => exact Option.some.inj hid ▸ hin
    | removed => exact absurd rfl hside
    | paired hin => exact Option.some.inj hid ▸ hin
  · intro hid
    cases h with
    | added hin hwhole =>
      refine ⟨.added id, ?_, rfl⟩
      exact (hmem _).mpr ⟨Pairing.added_mem_sources.mpr (hwhole id hid), .added hid hwhole⟩
    | removed => exact absurd rfl hside
    | paired hin hwhole =>
      obtain ⟨old, hold⟩ := hwhole.paired id hid
      refine ⟨.paired old id, ?_, rfl⟩
      exact (hmem _).mpr ⟨Pairing.paired_mem_sources.mpr hold, .paired hid hwhole⟩

/-- The old symbols of the leaves that live on in an alias group of the first table are its
members. -/
theorem filterMap_old_perm_of_removed {src : Source} {g : AliasGroupId}
    (h : c.LivesOn src .removed g) :
    ((c.sourcesWith (true, g)).filterMap Source.old?).Perm (c.before.aliasMembers g) := by
  have hsub : ((c.sourcesWith (true, g)).filterMap Source.old?).Sublist c.pairing.beforeIds := by
    rw [← Pairing.filterMap_old_sources]
    exact List.filter_sublist.filterMap _
  have hmem := mem_sourcesWith hd ha hb h
  rw [List.perm_ext_iff_of_nodup (hd.before.sublist hsub) (hb.nodup_aliasMembers g)]
  intro id
  rw [List.mem_filterMap]
  constructor
  · rintro ⟨src', hsrc', hid⟩
    obtain ⟨-, hlives⟩ := (hmem src').mp hsrc'
    cases hlives with
    | removed hin => exact Option.some.inj hid ▸ hin
  · intro hid
    cases h with
    | removed hin hwhole =>
      refine ⟨.removed id, ?_, rfl⟩
      exact (hmem _).mpr ⟨Pairing.removed_mem_sources.mpr (hwhole id hid), .removed hid hwhole⟩

/-- The old symbols of the leaves that live on in a paired alias group are the members of the alias
group that it is paired with. -/
theorem filterMap_old_perm_of_paired {new : SymbolId} {g h : AliasGroupId} (hin : new ∈ c.after.aliasMembers g)
    (hwhole : c.WholePaired g h) :
    ((c.sourcesWith (false, g)).filterMap Source.old?).Perm (c.before.aliasMembers h) := by
  obtain ⟨old, -⟩ := hwhole.paired new hin
  have hlives : c.LivesOn (.paired old new) .paired g := .paired hin hwhole
  have hsub : ((c.sourcesWith (false, g)).filterMap Source.old?).Sublist c.pairing.beforeIds := by
    rw [← Pairing.filterMap_old_sources]
    exact List.filter_sublist.filterMap _
  have hmem := mem_sourcesWith hd ha hb hlives
  rw [List.perm_ext_iff_of_nodup (hd.before.sublist hsub) (hb.nodup_aliasMembers h)]
  intro id
  rw [List.mem_filterMap, hwhole.partners]
  constructor
  · rintro ⟨src', hsrc', hid⟩
    obtain ⟨hsrc', hlives'⟩ := (hmem src').mp hsrc'
    cases hlives' with
    | paired hin' =>
      exact ⟨_, hin', Option.some.inj hid ▸ Pairing.paired_mem_sources.mp hsrc'⟩
  · rintro ⟨new', hin', hold⟩
    refine ⟨.paired id new', ?_, rfl⟩
    exact (hmem _).mpr ⟨Pairing.paired_mem_sources.mpr hold, .paired hin' hwhole⟩

/-- A leaf that lives on has as many aliases as its source. -/
theorem aliasCount_of_livesOn {src : Source} (hsrc : src ∈ c.pairing.sources) {side : Side}
    {g : AliasGroupId} (h : c.LivesOn src side g) : c.aliasCount src = (c.membersOf side g).length := by
  rw [aliasCount, h.keyOf_eq hd ha hb hsrc, Option.elim_some, List.countP_eq_length_filter]
  -- Each leaf of the group has one symbol on the side whose members are counted.
  have hall : ∀ {f : Source → Option SymbolId}, (∀ src', c.LivesOn src' side g → (f src').isSome) →
      (c.sourcesWith (side == .removed, g)).length =
        ((c.sourcesWith (side == .removed, g)).filterMap f).length := by
    intro f hf
    rw [List.length_filterMap_eq_countP, eq_comm, List.countP_eq_length]
    exact fun src' hsrc' => hf src' ((mem_sourcesWith hd ha hb h src').mp hsrc').2
  by_cases hside : side = .removed
  · subst hside
    refine (hall (f := Source.old?) fun src' hlives => ?_).trans
      (filterMap_old_perm_of_removed hd ha hb h).length_eq
    cases hlives
    rfl
  · have hmembers : c.membersOf side g = c.after.aliasMembers g := by
      cases side <;> simp_all [membersOf]
    rw [hmembers]
    refine (hall (f := Source.new?) fun src' hlives => ?_).trans
      (filterMap_new_perm hd ha hb h hside).length_eq
    cases hlives <;> simp_all [Source.new?]

/-- A leaf that lives on in no alias group has no key. -/
theorem keyOf_eq_none {src : Source} (hsrc : src ∈ c.pairing.sources)
    (h : ∀ side g, ¬ c.LivesOn src side g) : c.keyOf src = none := by
  refine Option.eq_none_iff_forall_ne_some.mpr fun key hkey => ?_
  exact h _ _ ((keyOf_eq_some_iff hd ha hb hsrc key).mp hkey).1

end

/-- Which leaves of a diff are aliases of each other. -/
structure AliasesSurvive (c : Comparison) (leaves : List Symbol) : Prop where
  /-- There is one leaf for each source, in order. -/
  deltas : List.Forall₂ c.DeltaOf c.pairing.sources leaves
  /-- Two leaves have a common alias group exactly when their sources live on in one. -/
  shared_iff : ∀ {i j : Nat} {src src' : Source} {s s' : Symbol}, i ≠ j →
    c.pairing.sources[i]? = some src → leaves[i]? = some s →
    c.pairing.sources[j]? = some src' → leaves[j]? = some s' →
    ((∃ g, s.aliasGroup = some g ∧ s'.aliasGroup = some g) ↔
      ∃ side g, c.LivesOn src side g ∧ c.LivesOn src' side g)
  /-- A leaf whose source lives on has an alias group of the size of its source's. -/
  living : ∀ {i : Nat} {src : Source} {s : Symbol} {side : Side} {g : AliasGroupId},
    c.pairing.sources[i]? = some src → leaves[i]? = some s → c.LivesOn src side g →
    s.aliasGroup.isSome ∧ s.numAliases = (c.membersOf side g).length
  /-- Any other leaf is alone. -/
  alone : ∀ {i : Nat} {src : Source} {s : Symbol}, c.pairing.sources[i]? = some src →
    leaves[i]? = some s → (∀ side g, ¬ c.LivesOn src side g) →
    s.aliasGroup = none ∧ s.numAliases = 1

/-- An alias group that lives on has two or more members. -/
theorem LivesOn.two_le_length (ha : c.after.Built) (hb : c.before.Built) {src : Source}
    {side : Side} {g : AliasGroupId} (h : c.LivesOn src side g) :
    2 ≤ (c.membersOf side g).length := by
  cases h with
  | added hin => exact ha.two_le_length hin
  | removed hin => exact hb.two_le_length hin
  | paired hin => exact ha.two_le_length hin

/-- The leaves of an outcome are aliases of each other as far as their sources live on. -/
theorem Outcome.aliasesSurvive (hd : c.Distinct) (ha : c.after.Built) (hb : c.before.Built)
    {root : Group} (h : c.Outcome root) : c.AliasesSurvive root.table.symbols.toList := by
  have hleaf : ∀ {i : Nat} {src : Source} {s : Symbol}, c.pairing.sources[i]? = some src →
      root.table.symbols.toList[i]? = some s → c.LeafOf src s := by
    intro i src s hsrc hs
    -- The leaf at a place is that of the source at the place.
    obtain ⟨hi, rfl⟩ := List.getElem?_eq_some_iff.mp hsrc
    obtain ⟨hi', rfl⟩ := List.getElem?_eq_some_iff.mp hs
    exact h.leaves.get hi hi'
  refine { deltas := h.leaves.imp fun _ _ => LeafOf.toDeltaOf, shared_iff := ?shared_iff,
           living := ?living, alone := ?alone }
  case shared_iff =>
    intro i j src src' s s' hij hsrc hs hsrc' hs'
    rw [(hleaf hsrc hs).aliasGroup, (hleaf hsrc' hs').aliasGroup,
      c.exists_handleOf_iff hij hsrc hsrc']
    have hmem := List.mem_of_getElem? hsrc
    have hmem' := List.mem_of_getElem? hsrc'
    constructor
    · rintro ⟨key, hkey, hkey'⟩
      obtain ⟨hlives, hside⟩ := (keyOf_eq_some_iff hd ha hb hmem key).mp hkey
      obtain ⟨hlives', hside'⟩ := (keyOf_eq_some_iff hd ha hb hmem' key).mp hkey'
      refine ⟨src.side, key.2, hlives, ?_⟩
      rwa [hlives.side_unique hd hlives' (hside.symm.trans hside')]
    · rintro ⟨side, g, hlives, hlives'⟩
      exact ⟨(side == .removed, g), hlives.keyOf_eq hd ha hb hmem,
        hlives'.keyOf_eq hd ha hb hmem'⟩
  case living =>
    intro i src s side g hsrc hs hlives
    have hmem := List.mem_of_getElem? hsrc
    have hcount := aliasCount_of_livesOn hd ha hb hmem hlives
    have htwo := hlives.two_le_length ha hb
    rw [(hleaf hsrc hs).aliasGroup, (hleaf hsrc hs).numAliases, c.isSome_handleOf_iff hmem]
    exact ⟨by omega, hcount⟩
  case alone =>
    intro i src s hsrc hs hlives
    have hkey := keyOf_eq_none hd ha hb (List.mem_of_getElem? hsrc) hlives
    rw [(hleaf hsrc hs).aliasGroup, (hleaf hsrc hs).numAliases, handleOf, aliasCount, hkey]
    exact ⟨rfl, rfl⟩

end Comparison

/-- Alias groups survive a diff exactly when their membership is unchanged: the leaves of the diff
are aliases of each other as far as their sources live on in one alias group. There is no diff when
there are more leaves than a table can hold. -/
theorem diffWith_aliasesSurvive (m : Matcher) {before after : Group} (hb : before.table.Built)
    (ha : after.table.Built) (hk : (m.compare before after).Known)
    (hd : (m.compare before after).Distinct) (stamp : Stamp) :
    ((m.pair before after).sources.length ≤ tableCapacity →
      ∃ root leaves, diffWith m before after stamp = .ok root ∧
        root.value.members = leaves.map Node.leaf ∧
        (m.compare before after).AliasesSurvive leaves) ∧
    (tableCapacity < (m.pair before after).sources.length →
      diffWith m before after stamp = .error (.tableFull tableCapacity)) := by
  obtain ⟨hok, herror⟩ := Comparison.exists_diff hk ha hb m.name stamp
  refine ⟨fun hcap => ?_, herror⟩
  obtain ⟨root, hroot, houtcome⟩ := hok hcap
  exact ⟨root, root.value.table.symbols.toList, hroot, houtcome.members,
    houtcome.aliasesSurvive hd ha hb⟩

/-- Three aliases, two of which are paired crosswise with two aliases. -/
theorem diffWith_aliasesSurvive_clones :
    let m : Matcher := .always { similar := [(⟨0⟩, ⟨1⟩), (⟨1⟩, ⟨0⟩)], added := [⟨2⟩] }
    let before := Group.ofTable (.clones { sectionName := ".text", size := 6 } 2)
    let after := Group.ofTable (.clones { sectionName := ".text", size := 6 } 3)
    ∃ root leaves, diffWith m before after ⟨1⟩ = .ok root ∧
      root.value.members = leaves.map Node.leaf ∧
      (m.compare before after).AliasesSurvive leaves := by
  intro m before after
  have hb : before.table.Built := Table.built_clones _ (by decide) (by decide)
  have ha : after.table.Built := Table.built_clones _ (by decide) (by decide)
  have hexact : (m.compare before after).Exact := ⟨by decide, by decide⟩
  exact (diffWith_aliasesSurvive m hb ha (hexact.known ha hb) (hexact.distinct ha hb) ⟨1⟩).1
    (by decide)

end Footprint
