import Mathlib.Algebra.Order.BigOperators.Group.List
import Footprint.Group.Filter
import Footprint.Proofs.Group.Gathering
import Footprint.Proofs.Group.Totals

/-!
# Totals of one section

The symbols of a section are found in two ways, as a nested group of the list grouped by sections and
as the list filtered by the section. Both have the same members. The label makes the difference: only
the filtered list is labelled with the section, so that the rules for `.bss`, where all symbols
count, apply to it and not to the nested group (`section_totals`).
-/

namespace Footprint

section OnePerAlias

variable {α : Type} (aliasOf : α → Option AliasGroupId)

/-- The elements whose alias group occurred before or is in `seen`. -/
def aliasRepeatsAux : (seen : List AliasGroupId) → List α → List α
  | _, [] => []
  | seen, x :: xs =>
    match aliasOf x with
    | none => aliasRepeatsAux seen xs
    | some g =>
      if g ∈ seen then x :: aliasRepeatsAux seen xs
      else aliasRepeatsAux (g :: seen) xs

/-- The elements whose alias group occurred before. -/
def aliasRepeats (xs : List α) : List α :=
  aliasRepeatsAux aliasOf [] xs

/-- What is kept of each alias group and what is repeated add up to all elements. -/
theorem sum_onePerAlias_add (f : α → Int) (xs : List α) :
    ((onePerAlias aliasOf xs).map f).sum + ((aliasRepeats aliasOf xs).map f).sum =
      (xs.map f).sum := by
  unfold onePerAlias aliasRepeats
  generalize [] = seen
  induction xs generalizing seen with
  | nil => rfl
  | cons x xs ih =>
    rw [onePerAliasAux, aliasRepeatsAux]
    cases aliasOf x with
    | none =>
      simp only [List.map_cons, List.sum_cons, ← ih seen]
      omega
    | some g =>
      by_cases hg : g ∈ seen
      · simp only [hg, if_true, List.map_cons, List.sum_cons, ← ih seen]
        omega
      · simp only [hg, if_false, List.map_cons, List.sum_cons, ← ih (g :: seen)]
        omega

/-- A repeated element is one of the list. -/
theorem aliasRepeats_sublist (xs : List α) : (aliasRepeats aliasOf xs).Sublist xs := by
  unfold aliasRepeats
  generalize [] = seen
  induction xs generalizing seen with
  | nil => exact List.nil_sublist _
  | cons x xs ih =>
    rw [aliasRepeatsAux]
    cases aliasOf x with
    | none => exact (ih seen).cons x
    | some g =>
      by_cases hg : g ∈ seen
      · simpa only [hg, if_true] using (ih seen).cons_cons x
      · simpa only [hg, if_false] using (ih (g :: seen)).cons x

end OnePerAlias

namespace Group

/-- The nested group of a token, when the members are grouped by tokens. -/
def partOf (g : Group) (token : Node → Option String) (t : String) : Group :=
  { table := g.table, members := withToken token g.members t, label := .named t g.label.sectionName,
    isSorted := g.isSorted, status := g.statusOf (withToken token g.members t) }

/-- A list that is grouped by tokens has one nested group for each token in order. -/
theorem members_groupedBy (g : Group) (stamp : Stamp) (token : Node → Option String) :
    (g.groupedBy stamp token).members = (gather token g.members).zipIdx.map
      fun p => g.nest ⟨stamp, [p.2]⟩ (.named p.1.1 g.label.sectionName) p.1.2 := by
  change (gather token g.members).zipIdx.flatMap _ = _
  simp only [Int.natAbs_zero, Nat.zero_le, if_true]
  exact (List.map_eq_flatMap ..).symm

/-- The nested groups of a list that is grouped by tokens are those of its tokens in order. -/
theorem child?_groupedBy (g : Group) (stamp : Stamp) (token : Node → Option String) (place : Nat) :
    (g.groupedBy stamp token).child? place =
      (tokensOf token g.members)[place]?.map (g.partOf token) := by
  unfold child?
  rw [members_groupedBy, List.getElem?_map, List.getElem?_zipIdx, gather, List.getElem?_map]
  cases (tokensOf token g.members)[place]? <;> rfl

/-- There is just one nested group of a token that a member has. -/
theorem exists_child?_groupedBy {g : Group} (stamp : Stamp) {token : Node → Option String}
    {t : String} (h : t ∈ tokensOf token g.members) :
    ∃ place, (g.groupedBy stamp token).child? place = some (g.partOf token t) ∧
      ∀ place' d, (g.groupedBy stamp token).child? place' = some d →
        d.label.fullName = t → place' = place := by
  obtain ⟨place, hplace⟩ := List.mem_iff_getElem?.mp h
  refine ⟨place, by rw [child?_groupedBy, hplace, Option.map_some], fun place' d hd hfull => ?_⟩
  rw [child?_groupedBy] at hd
  obtain ⟨u, hu, rfl⟩ := Option.map_eq_some_iff.mp hd
  -- The name of a nested group is its token, and no token is gathered twice.
  obtain rfl : u = t := hfull
  have hlt : place' < (tokensOf token g.members).length := (List.getElem?_eq_some_iff.mp hu).1
  exact (List.getElem?_inj hlt (nodup_tokensOf token g.members)).mp (hu.trans hplace.symm)

/-- The filter by a section that is not given by a letter. -/
theorem whereInSection_eq (g : Group) {name : String} (h : name.length ≠ 1) :
    g.whereInSection name =
      .ok { g.filterFacts fun f => f.sectionName == name with
        label := { g.sectionLabel with sectionName := name } } := by
  unfold whereInSection
  split
  · next letter hletter => exact absurd (by simp [← String.length_toList, hletter]) h
  · rfl

/-- Two groups of the symbols of a section, the first of which is not labelled with the section. -/
structure SectionViews (d w : Group) (name : String) (xs : List Symbol) : Prop where
  /-- The members of the first group are the symbols. -/
  nested : d.members = xs.map .leaf
  /-- The members of the second group are the symbols. -/
  filtered : w.members = xs.map .leaf
  /-- The first group has the section as its name and is labelled as one of several sections. -/
  label : d.label = .named name
  /-- The second group is labelled with the section. -/
  sectionName : w.label.sectionName = name
  /-- The symbols are those of the section. -/
  inSection : ∀ s ∈ xs, s.sectionName = name

namespace SectionViews

variable {d w : Group} {name : String} {xs : List Symbol} (h : SectionViews d w name xs)

include h

/-- The first group counts one symbol of each alias group. -/
theorem totalSize_nested :
    d.totalSize = ((onePerAlias Symbol.aliasGroup xs).map Symbol.size).sum := by
  have hbss : d.label.sectionName ≠ bssSection := h.label ▸ mixedSection_ne_bssSection
  rw [totalSize, facts, Facts.size_ofMembers hbss, h.nested, onePerAlias_leaf, List.map_map]
  rfl

/-- The paddings are the same. -/
theorem totalPadding_eq : d.totalPadding = w.totalPadding := by
  rw [totalPadding, totalPadding, facts, facts, Facts.padding_ofMembers, Facts.padding_ofMembers,
    h.nested, h.filtered]

/-- In any other section than `.bss` the sizes are the same. -/
theorem totalSize_eq (hname : name ≠ bssSection) : d.totalSize = w.totalSize := by
  have hbss : w.label.sectionName ≠ bssSection := h.sectionName ▸ hname
  rw [h.totalSize_nested, totalSize, facts, Facts.size_ofMembers hbss, h.filtered,
    onePerAlias_leaf, List.map_map]
  rfl

/-- In `.bss` the second group has more, by the sizes of the symbols whose alias group occurred
before. -/
theorem totalSize_eq_add (hname : name = bssSection) :
    w.totalSize = d.totalSize + ((aliasRepeats Symbol.aliasGroup xs).map Symbol.size).sum := by
  have hbss : w.label.sectionName = bssSection := h.sectionName.trans hname
  rw [h.totalSize_nested, sum_onePerAlias_add, totalSize, facts, Facts.size_ofMembers_bss hbss,
    h.filtered, List.map_map]
  rfl

/-- When no symbol has a negative size, the sizes are the same except when a symbol of `.bss` with
bytes has an alias before it. -/
theorem totalSize_eq_iff (hpos : ∀ s ∈ xs, 0 ≤ s.size) : d.totalSize = w.totalSize ↔
    (name = bssSection → ∀ s ∈ aliasRepeats Symbol.aliasGroup xs, s.size = 0) := by
  by_cases hname : name = bssSection
  · have hnonneg : ∀ x ∈ (aliasRepeats Symbol.aliasGroup xs).map Symbol.size, 0 ≤ x :=
      List.forall_mem_map.mpr fun s hs => hpos s ((aliasRepeats_sublist _ xs).subset hs)
    have hsum : ((aliasRepeats Symbol.aliasGroup xs).map Symbol.size).sum = 0 ↔
        ∀ s ∈ aliasRepeats Symbol.aliasGroup xs, s.size = 0 := by
      rw [← List.forall_mem_map (P := (· = 0))]
      exact ⟨fun hsum x hx => List.all_zero_of_le_zero_le_of_sum_eq_zero hnonneg hsum hx,
        List.sum_eq_zero⟩
    rw [h.totalSize_eq_add hname, forall_prop_of_true hname, ← hsum]
    omega
  · exact iff_of_true (h.totalSize_eq hname) fun heq => absurd heq hname

/-- In any other section than `.bss` the proportional sizes are the same. -/
theorem pss_eq (hname : name ≠ bssSection) : d.facts.pss = w.facts.pss := by
  have hd : (d.label.sectionName == bssSection) = false := by
    rw [h.label]
    rfl
  have hw : (w.label.sectionName == bssSection) = false := by simpa [h.sectionName] using hname
  simp only [facts, Facts.ofMembers, hd, hw, h.nested, h.filtered]

/-- In `.bss` the first group leaves all its members out of its proportional size, and the second one
adds up those of all its members. -/
theorem pss_of_bss (hname : name = bssSection) :
    d.facts.pss = sumFloats [] ∧ w.facts.pss = sumFloats (xs.map Symbol.pss) := by
  have hd : (d.label.sectionName == bssSection) = false := by
    rw [h.label]
    rfl
  have hw : (w.label.sectionName == bssSection) = true := by simp [h.sectionName, hname]
  have hnone : (xs.map fun s => s.facts).filter (!·.isBss) = [] := by
    refine List.filter_eq_nil_iff.mpr (List.forall_mem_map.mpr fun s hs => ?_)
    simp [Facts.isBss, Symbol.facts, h.inSection s hs, hname]
  have hfacts : (xs.map Node.leaf).map Node.facts = xs.map fun s => s.facts := by
    rw [List.map_map]
    rfl
  constructor
  · simp only [facts, Facts.ofMembers, hd, h.nested, hfacts, hnone]
    rfl
  · simp only [facts, Facts.ofMembers, hw, h.filtered, hfacts, if_true, List.map_map]
    rfl

end SectionViews

/-- The nested group of a section and the filter by it have the symbols of the section. -/
theorem sectionViews {g : Group} {symbols : List Symbol} (hflat : g.members = symbols.map .leaf)
    (hlabel : g.label.sectionName = mixedSection) (name : String) :
    SectionViews (g.partOf (fun n => some n.facts.sectionName) name)
      { g.filterFacts fun f => f.sectionName == name with
        label := { g.sectionLabel with sectionName := name } }
      name (symbols.filter (·.sectionName == name)) := by
  have hkept : (g.members.filter fun n => n.facts.sectionName == name) =
      (symbols.filter (·.sectionName == name)).map .leaf := by
    rw [hflat, List.filter_map]
    rfl
  exact {
    nested := by
      rw [← hkept]
      exact List.filter_congr fun n _ => by simp
    filtered := hkept
    label := congrArg (Label.named name ·) hlabel
    sectionName := rfl
    inSection := fun s hs => by simpa using (List.mem_filter.mp hs).2 }

end Group

/-- Grouping a flat list by sections makes just one nested group for each section that occurs, with
the members and the padding of the filter by the section. The size and the proportional size are the
same, too, in any other section than `.bss`. In `.bss` the nested group still counts one of each alias
group, and its proportional size is an empty sum. -/
theorem section_totals {g : Group} {symbols : List Symbol} (hflat : g.members = symbols.map .leaf)
    (hlabel : g.label.sectionName = mixedSection) {name : String} (hname : name.length ≠ 1)
    (hin : ∃ s ∈ symbols, s.sectionName = name) (stamp : Stamp) :
    ∃ place d w, (g.groupedBySectionName stamp).child? place = some d ∧
      (∀ place' d', (g.groupedBySectionName stamp).child? place' = some d' →
        d'.label.fullName = name → place' = place) ∧
      g.whereInSection name = .ok w ∧
      let xs := symbols.filter (·.sectionName == name)
      d.SectionViews w name xs ∧ d.totalPadding = w.totalPadding ∧
      (name ≠ bssSection → d.totalSize = w.totalSize ∧ d.facts.pss = w.facts.pss) ∧
      (name = bssSection →
        w.totalSize = d.totalSize + ((aliasRepeats Symbol.aliasGroup xs).map Symbol.size).sum ∧
        d.facts.pss = sumFloats [] ∧ w.facts.pss = sumFloats (xs.map Symbol.pss)) ∧
      ((∀ s ∈ xs, 0 ≤ s.size) → (d.totalSize = w.totalSize ↔
        (name = bssSection → ∀ s ∈ aliasRepeats Symbol.aliasGroup xs, s.size = 0))) := by
  have htoken : name ∈ tokensOf (fun n : Node => some n.facts.sectionName) g.members := by
    obtain ⟨s, hs, rfl⟩ := hin
    rw [mem_tokensOf, hflat]
    exact ⟨.leaf s, List.mem_map_of_mem hs, rfl⟩
  obtain ⟨place, hplace, hunique⟩ := Group.exists_child?_groupedBy stamp htoken
  have hviews := Group.sectionViews hflat hlabel name
  exact ⟨place, _, _, hplace, hunique, g.whereInSection_eq hname, hviews, hviews.totalPadding_eq,
    fun hne => ⟨hviews.totalSize_eq hne, hviews.pss_eq hne⟩,
    fun heq => ⟨hviews.totalSize_eq_add heq, hviews.pss_of_bss heq⟩, hviews.totalSize_eq_iff⟩

/-- Two aliases of `.text` count once in both groups. -/
theorem section_totals_text :
    let g := Group.ofTable (.clones { sectionName := ".text", size := 10 } 2)
    ∃ place d w, (g.groupedBySectionName ⟨1⟩).child? place = some d ∧
      g.whereInSection ".text" = .ok w ∧ d.members = w.members ∧ d.totalSize = w.totalSize ∧
      d.facts.pss = w.facts.pss := by
  intro g
  have hname : ".text".length ≠ 1 := by decide
  obtain ⟨place, d, w, hd, -, hw, hviews, -, hother, -⟩ :=
    section_totals (g := g) rfl rfl hname (by decide) ⟨1⟩
  obtain ⟨hsize, hpss⟩ := hother (by decide)
  exact ⟨place, d, w, hd, hw, hviews.nested.trans hviews.filtered.symm, hsize, hpss⟩

/-- Two aliases of `.bss` count once in the nested group, which has no proportional size, and twice in
the filtered list. -/
theorem section_totals_bss :
    let g := Group.ofTable (.clones { sectionName := ".bss", size := 4 } 2)
    ∃ d w, (g.groupedBySectionName ⟨1⟩).child? 0 = some d ∧ g.whereInSection ".bss" = .ok w ∧
      d.members = w.members ∧ d.totalSize = 4 ∧ w.totalSize = 8 ∧ d.facts.pss == 0.0 ∧
      w.facts.pss == 4.0 := by
  refine ⟨_, _, rfl, rfl, rfl, ?_⟩
  decide +kernel

end Footprint
