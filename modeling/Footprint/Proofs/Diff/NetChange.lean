import Footprint.Proofs.Diff.Survival
import Footprint.Proofs.Group.Totals

/-!
# The net change of a diff

When a pairing lists every symbol of two tables once, the total of the diff is the difference of the
totals. A leaf that lives on stands for the whole change of its alias group, which is the sum of the
shares of all leaves of the group (`change_eq_sum_shareChange`), and any other leaf stands for its
own share. So the total is a sum of shares, which add up on each side.
-/

namespace Footprint

namespace Comparison

variable {c : Comparison} {value : Symbol → Int}

/-- The difference of the shares that the symbols of a source own. -/
def shareChange (c : Comparison) (value : Symbol → Int) (src : Source) : Int :=
  ((c.newOf src).elim 0 fun s => c.after.aliasShare s (value s)) -
    (c.oldOf src).elim 0 fun s => c.before.aliasShare s (value s)

/-- A sum over sources splits into the sum over their new symbols less that over their old ones. -/
theorem sum_shareChange (c : Comparison) (value : Symbol → Int) (srcs : List Source) :
    (srcs.map (c.shareChange value)).sum =
      (((srcs.filterMap Source.new?).filterMap c.after.get?).map fun s =>
        c.after.aliasShare s (value s)).sum -
      (((srcs.filterMap Source.old?).filterMap c.before.get?).map fun s =>
        c.before.aliasShare s (value s)).sum := by
  induction srcs with
  | nil => rfl
  | cons src srcs ih =>
    rw [List.map_cons, List.sum_cons, ih, shareChange, newOf, oldOf, List.filterMap_filterMap,
      List.filterMap_filterMap, List.filterMap_filterMap, List.filterMap_filterMap,
      List.filterMap_cons, List.filterMap_cons]
    cases src.new?.bind c.after.get? <;> cases src.old?.bind c.before.get? <;>
      simp <;> omega

/-- A leaf stands for the difference of the shares of its symbols, unless its source lives on in an
alias group. -/
theorem change_eq_shareChange {src : Source} (hkey : c.keyOf src = none) :
    c.change value src = c.shareChange value src := by
  have hkept : c.keptOf src = none := Option.map_eq_none_iff.mp hkey
  unfold change shareChange amount
  cases hwhole : c.wholeOf src with
  | false => rfl
  | true =>
    -- The source is a pair of two symbols without alias group.
    simp only [wholeOf, hkept, Option.isSome_none, Bool.false_or, Bool.and_eq_true,
      Option.isNone_iff_eq_none] at hwhole
    obtain ⟨⟨-, hold⟩, hnew⟩ := hwhole
    congr 1
    · cases hs : c.newOf src with
      | none => rfl
      | some s =>
        rw [hs, Option.bind_some] at hnew
        exact (Table.aliasShare_of_none hnew _).symm
    · cases hs : c.oldOf src with
      | none => rfl
      | some s =>
        rw [hs, Option.bind_some] at hold
        exact (Table.aliasShare_of_none hold _).symm

/-- The leaves with an alias group of the diff are those with one key. -/
theorem filter_handleOf_eq {src : Source} {g : AliasGroupId} (h : c.handleOf src = some g) :
    ∃ key, c.keyOf src = some key ∧
      (c.pairing.sources.filter fun src' => c.handleOf src' = some g) = c.sourcesWith key := by
  obtain ⟨key, hkey, hdeclared⟩ := (c.handleOf_eq_some_iff src g).mp h
  refine ⟨key, hkey, List.filter_congr fun src' _ => ?_⟩
  rw [← beq_eq_decide, beq_eq_beq, handleOf_eq_some_iff, hdeclared]
  constructor
  · rintro ⟨key', hkey', heq⟩
    rw [hkey', heq]
  · exact fun hkey' => ⟨key, hkey', rfl⟩

/-- When the symbols of some sources on one side are the members of an alias group, the value of one
of them is the sum of all shares. -/
theorem elim_eq_sum_aliasShare {t : Table} (ht : t.Built) {f : Source → Option SymbolId}
    {srcs : List Source} (hagree : Table.AliasesAgree value ((srcs.filterMap f).filterMap t.get?))
    {src : Source} (hsrc : src ∈ srcs)
    (hknown : ∀ id ∈ f src, ∃ s, t.get? id = some s) (hnone : f src = none → srcs.filterMap f = [])
    (hsome : (f src).isSome → ∃ g, (srcs.filterMap f).Perm (t.aliasMembers g)) :
    ((f src).bind t.get?).elim 0 value =
      (((srcs.filterMap f).filterMap t.get?).map fun s => t.aliasShare s (value s)).sum := by
  cases hid : f src with
  | none =>
    rw [hnone hid]
    rfl
  | some id =>
    obtain ⟨s, hs⟩ := hknown id hid
    obtain ⟨g, hperm⟩ := hsome (by simp [hid])
    have hin : id ∈ srcs.filterMap f := List.mem_filterMap.mpr ⟨src, hsrc, hid⟩
    rw [Option.bind_some, hs, Option.elim_some]
    exact (ht.sum_filterMap_aliasShare hagree hperm hin hs).symm

/-- The symbols of the second table that the pairing lists agree on a value. -/
def AgreeAfter (c : Comparison) (value : Symbol → Int) : Prop :=
  Table.AliasesAgree value (c.pairing.afterIds.filterMap c.after.get?)

/-- The symbols of the first table that the pairing lists agree on a value. -/
def AgreeBefore (c : Comparison) (value : Symbol → Int) : Prop :=
  Table.AliasesAgree value (c.pairing.beforeIds.filterMap c.before.get?)

/-- The new symbols of the leaves with a key agree as well. -/
theorem AgreeAfter.sourcesWith (h : c.AgreeAfter value) (key : Bool × AliasGroupId) :
    Table.AliasesAgree value
      (((c.sourcesWith key).filterMap Source.new?).filterMap c.after.get?) := by
  unfold AgreeAfter at h
  rw [← Pairing.filterMap_new_sources] at h
  exact h.mono ((List.filter_sublist.filterMap _).filterMap _).subset

/-- The old symbols of the leaves with a key agree as well. -/
theorem AgreeBefore.sourcesWith (h : c.AgreeBefore value) (key : Bool × AliasGroupId) :
    Table.AliasesAgree value
      (((c.sourcesWith key).filterMap Source.old?).filterMap c.before.get?) := by
  unfold AgreeBefore at h
  rw [← Pairing.filterMap_old_sources] at h
  exact h.mono ((List.filter_sublist.filterMap _).filterMap _).subset

section

variable (hk : c.Known) (hd : c.Distinct) (ha : c.after.Built) (hb : c.before.Built)

include hk hd ha hb

/-- What a leaf that lives on has of the second table is the sum of the shares of all leaves of its
alias group. -/
theorem new_eq_sum_aliasShare (hagree : c.AgreeAfter value) {src : Source} {side : Side}
    {g : AliasGroupId} (hsrc : src ∈ c.pairing.sources) (h : c.LivesOn src side g) :
    (c.newOf src).elim 0 value =
      ((((c.sourcesWith (side == .removed, g)).filterMap Source.new?).filterMap c.after.get?).map
        fun s => c.after.aliasShare s (value s)).sum := by
  have hmem := mem_sourcesWith hd ha hb h
  refine elim_eq_sum_aliasShare ha (hagree.sourcesWith _) ((hmem src).mpr ⟨hsrc, h⟩) (hk.source hsrc).1
    (fun hnone => ?_) fun hsome => ⟨g, filterMap_new_perm hd ha hb h ?_⟩
  · -- A removed leaf has no new symbol, and no other leaf of its group has one.
    have hremoved : side = .removed := by cases h <;> trivial
    rw [List.filterMap_eq_nil_iff]
    intro src' hsrc'
    have hlives := ((hmem src').mp hsrc').2
    rw [hremoved] at hlives
    cases hlives
    rfl
  · rintro rfl
    cases h
    simp [Source.new?] at hsome

/-- What a leaf that lives on has of the first table is the sum of the shares of all leaves of its
alias group. -/
theorem old_eq_sum_aliasShare (hagree : c.AgreeBefore value) {src : Source} {side : Side}
    {g : AliasGroupId} (hsrc : src ∈ c.pairing.sources) (h : c.LivesOn src side g) :
    (c.oldOf src).elim 0 value =
      ((((c.sourcesWith (side == .removed, g)).filterMap Source.old?).filterMap c.before.get?).map
        fun s => c.before.aliasShare s (value s)).sum := by
  have hmem := mem_sourcesWith hd ha hb h
  refine elim_eq_sum_aliasShare hb (hagree.sourcesWith _) ((hmem src).mpr ⟨hsrc, h⟩) (hk.source hsrc).2
    (fun hnone => ?_) fun hsome => ?_
  · -- An added leaf has no old symbol, and no other leaf of its group has one.
    have hadded : side = .added := by cases h <;> trivial
    rw [List.filterMap_eq_nil_iff]
    intro src' hsrc'
    have hlives := ((hmem src').mp hsrc').2
    rw [hadded] at hlives
    cases hlives
    rfl
  · -- The old symbols are those of the removed group, or of the group that is paired with it.
    cases h with
    | added => simp [Source.old?] at hsome
    | removed hg hwhole => exact ⟨g, filterMap_old_perm_of_removed hd ha hb (.removed hg hwhole)⟩
    | paired hg hwhole => exact ⟨_, filterMap_old_perm_of_paired hd ha hb hg hwhole⟩

variable (hea : c.AgreeAfter value) (heb : c.AgreeBefore value)

include hea heb

/-- A leaf that lives on stands for the sum of the shares of all leaves of its alias group. -/
theorem change_eq_sum_shareChange {src : Source} (hsrc : src ∈ c.pairing.sources)
    {key : Bool × AliasGroupId} (hkey : c.keyOf src = some key) :
    c.change value src = ((c.sourcesWith key).map (c.shareChange value)).sum := by
  have hwhole : c.wholeOf src = true := by
    obtain ⟨g, hg, -⟩ := Option.map_eq_some_iff.mp hkey
    rw [wholeOf, hg]
    rfl
  obtain ⟨removed, g⟩ := key
  obtain ⟨hlives, rfl⟩ := (keyOf_eq_some_iff hd ha hb hsrc _).mp hkey
  rw [sum_shareChange, ← new_eq_sum_aliasShare hk hd ha hb hea hsrc hlives,
    ← old_eq_sum_aliasShare hk hd ha hb heb hsrc hlives, change, hwhole]
  rfl

/-- The changes of one leaf of each alias group are in total the changes of the shares of all
leaves. -/
theorem sum_onePerAlias_change :
    ((onePerAlias c.handleOf c.pairing.sources).map (c.change value)).sum =
      (c.pairing.sources.map (c.shareChange value)).sum := by
  refine sum_onePerAlias_eq_sum_shares _ _ _ (fun src hsrc hnone => ?_) fun src hsrc g hg => ?_
  · refine change_eq_shareChange (Option.eq_none_iff_forall_ne_some.mpr fun key hkey => ?_)
    -- A source that lives on has other leaves beside it, and with them an alias group.
    obtain ⟨hlives, -⟩ := (keyOf_eq_some_iff hd ha hb hsrc key).mp hkey
    have hcount := aliasCount_of_livesOn hd ha hb hsrc hlives
    have htwo := hlives.two_le_length ha hb
    have hsome := (c.isSome_handleOf_iff hsrc).mpr (by omega)
    simp [hnone] at hsome
  · obtain ⟨key, hkey, hfilter⟩ := filter_handleOf_eq hg
    rw [hfilter, change_eq_sum_shareChange hk hd ha hb hea heb hsrc hkey]

end

/-- The total of the leaves is the change of the shares of all symbols that the pairing lists. -/
theorem Outcome.total_eq_sum_shares {root : Group} (h : c.Outcome root) (hk : c.Known)
    (hd : c.Distinct) (ha : c.after.Built) (hb : c.before.Built) (hea : c.AgreeAfter value)
    (heb : c.AgreeBefore value) (hvalue : ∀ src s, c.DeltaOf src s → value s = c.change value src) :
    root.table.total value =
      ((c.pairing.afterIds.filterMap c.after.get?).map fun s =>
        c.after.aliasShare s (value s)).sum -
      ((c.pairing.beforeIds.filterMap c.before.get?).map fun s =>
        c.before.aliasShare s (value s)).sum := by
  have hleaves : List.Forall₂ (fun s src => s.aliasGroup = c.handleOf src ∧
      value s = c.change value src) root.table.symbols.toList c.pairing.sources :=
    h.leaves.flip.imp fun s src hs => ⟨hs.aliasGroup, hvalue src s hs.toDeltaOf⟩
  calc root.table.total value
      = ((onePerAlias c.handleOf c.pairing.sources).map (c.change value)).sum := by
        rw [Table.total, map_onePerAlias_of_forall₂ hleaves]
    _ = (c.pairing.sources.map (c.shareChange value)).sum :=
        sum_onePerAlias_change hk hd ha hb hea heb
    _ = _ := by
        rw [sum_shareChange, Pairing.filterMap_new_sources, Pairing.filterMap_old_sources]

/-- When each symbol is listed once, the total of the leaves is the difference of the totals. -/
theorem Outcome.total_eq {root : Group} (h : c.Outcome root) (hx : c.Exact) (ha : c.after.Built)
    (hb : c.before.Built) (hea : c.after.Even value) (heb : c.before.Even value)
    (hvalue : ∀ src s, c.DeltaOf src s → value s = c.change value src) :
    root.table.total value = c.after.total value - c.before.total value := by
  have hafter : ((c.pairing.afterIds).filterMap c.after.get?).Perm c.after.symbols.toList := by
    rw [← ha.filterMap_get?_ids]
    exact hx.after.filterMap _
  have hbefore : ((c.pairing.beforeIds).filterMap c.before.get?).Perm
      c.before.symbols.toList := by
    rw [← hb.filterMap_get?_ids]
    exact hx.before.filterMap _
  rw [h.total_eq_sum_shares (hx.known ha hb) (hx.distinct ha hb) ha hb (hea.filterMap_get? _)
    (heb.filterMap_get? _) hvalue, ha.total_eq_sum_shares hea, hb.total_eq_sum_shares heb,
    (hafter.map _).sum_eq, (hbefore.map _).sum_eq]

end Comparison

/-- Net change: when the members of each alias group agree on size and padding and the pairing lists
every symbol once, the diff of two tables has the difference of their sizes as its size, and the
difference of their paddings as its padding. There is no diff when there are more leaves than a
table can hold. -/
theorem diffWith_totals (m : Matcher) {before after : Table} (hb : before.Built) (ha : after.Built)
    (hsizeb : before.Even Symbol.size) (hsizea : after.Even Symbol.size)
    (hpaddingb : before.Even Symbol.padding) (hpaddinga : after.Even Symbol.padding)
    (hx : (m.compare (.ofTable before) (.ofTable after)).Exact) (stamp : Stamp) :
    ((m.pair (.ofTable before) (.ofTable after)).sources.length ≤ tableCapacity →
      ∃ root, diffWith m (.ofTable before) (.ofTable after) stamp = .ok root ∧
        root.value.totalSize =
          (Group.ofTable after).totalSize - (Group.ofTable before).totalSize ∧
        root.value.totalPadding =
          (Group.ofTable after).totalPadding - (Group.ofTable before).totalPadding) ∧
    (tableCapacity < (m.pair (.ofTable before) (.ofTable after)).sources.length →
      diffWith m (.ofTable before) (.ofTable after) stamp = .error (.tableFull tableCapacity)) := by
  obtain ⟨hok, herror⟩ := Comparison.exists_diff (hx.known ha hb) ha hb m.name stamp
  refine ⟨fun hcap => ?_, herror⟩
  obtain ⟨root, hroot, houtcome⟩ := hok hcap
  refine ⟨root, hroot, ?_, ?_⟩
  · rw [Table.totalSize_eq houtcome.members houtcome.label, Table.totalSize_ofTable,
      Table.totalSize_ofTable]
    exact houtcome.total_eq hx ha hb hsizea hsizeb fun _ _ => Comparison.DeltaOf.size_eq
  · rw [Table.totalPadding_eq houtcome.members, Table.totalPadding_ofTable,
      Table.totalPadding_ofTable]
    exact houtcome.total_eq hx ha hb hpaddinga hpaddingb fun _ _ => Comparison.DeltaOf.padding_eq

/-- Two aliases of 41 bytes grow to three of 50: the diff has 9 bytes. -/
theorem diffWith_totals_clones :
    let m : Matcher := .always { similar := [(⟨0⟩, ⟨1⟩), (⟨1⟩, ⟨0⟩)], added := [⟨2⟩] }
    let before : Table := .clones { sectionName := ".text", size := 41 } 2
    let after : Table := .clones { sectionName := ".text", size := 50 } 3
    ∃ root, diffWith m (.ofTable before) (.ofTable after) ⟨1⟩ = .ok root ∧
      root.value.totalSize = 50 - 41 ∧ root.value.totalPadding = 0 - 0 := by
  intro m before after
  have hb : before.Built := Table.built_clones _ (by decide) (by decide)
  have ha : after.Built := Table.built_clones _ (by decide) (by decide)
  exact (diffWith_totals m hb ha (by decide) (by decide) (by decide) (by decide)
    ⟨by decide, by decide⟩ ⟨1⟩).1 (by decide)

end Footprint
