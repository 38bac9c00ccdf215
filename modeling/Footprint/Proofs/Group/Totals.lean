import Mathlib.Algebra.BigOperators.Group.Finset.Piecewise
import Footprint.Group.Basic
import Footprint.Proofs.Symbol.Shares

/-!
# Totals over aliases

The totals of a group count one member of each alias group. `onePerAlias` is described by what it
keeps of each alias group, its first member (`filter_onePerAlias`), and a sum over it by one summand
for each alias group, the value of that member (`sum_onePerAlias_eq_firsts`). When the members of an
alias group agree on a value, it does not matter which of them comes first (`sum_onePerAlias`), and
the summand is also the sum of any shares that add up to it (`sum_onePerAlias_eq_sum_shares`).
-/

namespace Footprint

/-- The value of a list of lists, one by one. -/
theorem sum_map_flatMap {α β : Type} (f : α → List β) (value : β → Int) (xs : List α) :
    ((xs.flatMap f).map value).sum = (xs.map fun x => ((f x).map value).sum).sum := by
  induction xs with
  | nil => rfl
  | cons x xs ih => simp [ih]

section OnePerAlias

variable {α : Type} {aliasOf : α → Option AliasGroupId}

/-- Elements without alias group are all kept. -/
theorem filter_none_onePerAlias (xs : List α) :
    (onePerAlias aliasOf xs).filter (fun x => aliasOf x = none) =
      xs.filter (fun x => aliasOf x = none) := by
  unfold onePerAlias
  -- What was seen does not matter for elements without alias group.
  generalize [] = seen
  induction xs generalizing seen with
  | nil => rfl
  | cons x xs ih =>
    rw [onePerAliasAux]
    cases hx : aliasOf x with
    | none => simp [hx, ih]
    | some g =>
      by_cases hg : g ∈ seen
      · simp [hx, hg, ih]
      · simp [hx, hg, ih]

/-- Of an alias group that is in `seen` no element is kept, of any other the first. -/
theorem filter_onePerAliasAux (g : AliasGroupId) (xs : List α) (seen : List AliasGroupId) :
    (onePerAliasAux aliasOf seen xs).filter (fun x => aliasOf x = some g) =
      if g ∈ seen then [] else (xs.find? fun x => aliasOf x = some g).toList := by
  induction xs generalizing seen with
  | nil => simp [onePerAliasAux]
  | cons x xs ih =>
    rw [onePerAliasAux]
    cases hx : aliasOf x with
    | none => simp [hx, ih]
    | some h =>
      by_cases hseen : h ∈ seen
      · simp only [hseen, if_true, ih]
        by_cases hg : g ∈ seen
        · simp [hg]
        · have hne : h ≠ g := fun e => hg (e ▸ hseen)
          simp [hg, hx, hne]
      · by_cases hg : h = g
        · subst hg
          simp [hseen, hx, ih]
        · have hg' : g ≠ h := fun e => hg e.symm
          simp [hseen, hx, ih, hg, hg']

/-- Of each alias group the first element is kept. -/
theorem filter_onePerAlias (g : AliasGroupId) (xs : List α) :
    (onePerAlias aliasOf xs).filter (fun x => aliasOf x = some g) =
      (xs.find? fun x => aliasOf x = some g).toList := by
  rw [onePerAlias, filter_onePerAliasAux, if_neg List.not_mem_nil]

/-- What is kept is among the elements. -/
theorem mem_of_mem_onePerAlias {xs : List α} {x : α} (h : x ∈ onePerAlias aliasOf xs) :
    x ∈ xs := by
  unfold onePerAlias at h
  generalize [] = seen at h
  induction xs generalizing seen with
  | nil => simp [onePerAliasAux] at h
  | cons y xs ih =>
    rw [onePerAliasAux] at h
    split at h
    · rcases List.mem_cons.mp h with rfl | h
      · exact List.mem_cons_self
      · exact List.mem_cons_of_mem _ (ih _ h)
    · split at h
      · exact List.mem_cons_of_mem _ (ih _ h)
      · rcases List.mem_cons.mp h with rfl | h
        · exact List.mem_cons_self
        · exact List.mem_cons_of_mem _ (ih _ h)

/-- Of lists whose elements correspond and have the same alias groups, corresponding elements are
kept. -/
theorem map_onePerAlias_of_forall₂ {β γ : Type} {aliasOf' : β → Option AliasGroupId} {f : α → γ}
    {f' : β → γ} {xs : List α} {ys : List β}
    (h : List.Forall₂ (fun x y => aliasOf x = aliasOf' y ∧ f x = f' y) xs ys) :
    (onePerAlias aliasOf xs).map f = (onePerAlias aliasOf' ys).map f' := by
  unfold onePerAlias
  generalize [] = seen
  induction h generalizing seen with
  | nil => rfl
  | @cons x y xs ys hxy _ ih =>
    rw [onePerAliasAux, onePerAliasAux, hxy.1]
    cases aliasOf' y with
    | none => simp [ih, hxy.2]
    | some g =>
      by_cases hg : g ∈ seen
      · simp [hg, ih]
      · simp [hg, ih, hxy.2]

/-- Of alias groups that are in `seen` or in the list no further element is kept. -/
theorem onePerAliasAux_append {xs ys : List α} {seen : List AliasGroupId}
    (h : ∀ y ∈ ys, ∃ g ∈ seen ++ xs.filterMap aliasOf, aliasOf y = some g) :
    onePerAliasAux aliasOf seen (xs ++ ys) = onePerAliasAux aliasOf seen xs := by
  induction xs generalizing seen with
  | nil =>
    rw [List.filterMap_nil, List.append_nil] at h
    rw [List.nil_append]
    induction ys with
    | nil => rfl
    | cons y ys ih =>
      obtain ⟨⟨g, hseen, hg⟩, hrest⟩ := List.forall_mem_cons.mp h
      simp only [onePerAliasAux, hg, if_pos hseen]
      exact ih hrest
  | cons x xs ih =>
    simp only [List.cons_append, onePerAliasAux]
    cases hx : aliasOf x with
    | none =>
      -- An element without alias group is no reason to drop another.
      rw [List.filterMap_cons_none hx] at h
      exact congrArg (x :: ·) (ih h)
    | some g' =>
      have h : ∀ y ∈ ys, ∃ g ∈ g' :: (seen ++ xs.filterMap aliasOf), aliasOf y = some g := by
        rw [List.filterMap_cons_some hx] at h
        exact fun y hy => (h y hy).imp fun _ => And.imp_left List.perm_middle.mem_iff.mp
      by_cases hg' : g' ∈ seen
      · simp only [if_pos hg']
        refine ih fun y hy => (h y hy).imp fun g => And.imp_left fun hg => ?_
        rcases List.mem_cons.mp hg with rfl | hg
        · exact List.mem_append_left _ hg'
        · exact hg
      · simp only [if_neg hg']
        exact congrArg (x :: ·) (ih h)

/-- Further elements of alias groups that occur in the list are not kept. -/
theorem onePerAlias_append {xs ys : List α}
    (h : ∀ y ∈ ys, ∃ g, aliasOf y = some g ∧ ∃ x ∈ xs, aliasOf x = some g) :
    onePerAlias aliasOf (xs ++ ys) = onePerAlias aliasOf xs :=
  onePerAliasAux_append fun y hy => (h y hy).imp fun _ h =>
    ⟨List.mem_filterMap.mpr h.2, h.1⟩

/-- A function that keeps the alias group commutes with the choice of one element. -/
theorem onePerAlias_map {β : Type} {aliasOf' : β → Option AliasGroupId} (f : α → β)
    (h : ∀ x, aliasOf' (f x) = aliasOf x) (xs : List α) :
    onePerAlias aliasOf' (xs.map f) = (onePerAlias aliasOf xs).map f := by
  have hsame : List.Forall₂ (fun y x => aliasOf' y = aliasOf x ∧ id y = f x) (xs.map f) xs := by
    rw [List.forall₂_map_left_iff, List.forall₂_same]
    exact fun x _ => ⟨h x, rfl⟩
  rw [← map_onePerAlias_of_forall₂ hsame, List.map_id]

/-- A sum over all elements splits into those without alias group and one sum for each group. -/
theorem sum_eq_sum_groups (aliasOf : α → Option AliasGroupId) (f : α → Int) (xs : List α)
    (S : Finset AliasGroupId) (hS : ∀ x ∈ xs, ∀ g, aliasOf x = some g → g ∈ S) :
    (xs.map f).sum = ((xs.filter fun x => aliasOf x = none).map f).sum +
      ∑ g ∈ S, ((xs.filter fun x => aliasOf x = some g).map f).sum := by
  induction xs with
  | nil => simp
  | cons x xs ih =>
    have ih := ih fun y hy => hS y (List.mem_cons_of_mem _ hy)
    rw [List.map_cons, List.sum_cons, ih]
    cases hx : aliasOf x with
    | none =>
      simp [hx, add_assoc]
    | some h =>
      have hmem := hS x List.mem_cons_self h hx
      have hsplit : ∀ g ∈ S, (((x :: xs).filter fun y => aliasOf y = some g).map f).sum =
          (if h = g then f x else 0) + ((xs.filter fun y => aliasOf y = some g).map f).sum := by
        intro g _
        by_cases hg : h = g
        · simp [hx, hg]
        · simp [hx, hg]
      rw [Finset.sum_congr rfl hsplit, Finset.sum_add_distrib, Finset.sum_ite_eq, if_pos hmem,
        add_left_comm]
      simp [hx]

/-- The value of the first element of an alias group. -/
def firstValue (aliasOf : α → Option AliasGroupId) (f : α → Int) (xs : List α)
    (g : AliasGroupId) : Int :=
  (xs.find? fun x => aliasOf x = some g).elim 0 f

/-- A sum over one element of each alias group has the value of the first one. -/
theorem sum_onePerAlias_eq_firsts (f : α → Int) (xs : List α) (S : Finset AliasGroupId)
    (hS : ∀ x ∈ xs, ∀ g, aliasOf x = some g → g ∈ S) :
    ((onePerAlias aliasOf xs).map f).sum = ((xs.filter fun x => aliasOf x = none).map f).sum +
      ∑ g ∈ S, firstValue aliasOf f xs g := by
  rw [sum_eq_sum_groups aliasOf f _ S fun x hx => hS x (mem_of_mem_onePerAlias hx),
    filter_none_onePerAlias]
  congr 1
  refine Finset.sum_congr rfl fun g _ => ?_
  rw [filter_onePerAlias, firstValue]
  cases xs.find? fun x => aliasOf x = some g <;> simp

/-- When the elements of an alias group have one value, a sum over one element of each alias group
has one summand for each group that occurs. -/
theorem sum_onePerAlias (f : α → Int) (value : AliasGroupId → Int) (xs : List α)
    (S : Finset AliasGroupId) (hS : ∀ x ∈ xs, ∀ g, aliasOf x = some g → g ∈ S)
    (hvalue : ∀ x ∈ xs, ∀ g, aliasOf x = some g → f x = value g) :
    ((onePerAlias aliasOf xs).map f).sum = ((xs.filter fun x => aliasOf x = none).map f).sum +
      ∑ g ∈ S, if ∃ x ∈ xs, aliasOf x = some g then value g else 0 := by
  rw [sum_onePerAlias_eq_firsts f xs S hS]
  congr 1
  refine Finset.sum_congr rfl fun g _ => ?_
  unfold firstValue
  cases hfind : xs.find? fun x => aliasOf x = some g with
  | none =>
    rw [List.find?_eq_none] at hfind
    rw [if_neg]
    · rfl
    · rintro ⟨x, hx, hg⟩
      exact hfind x hx (by simpa using hg)
  | some x =>
    have hx := List.mem_of_find?_eq_some hfind
    have hg : aliasOf x = some g := by simpa using List.find?_some hfind
    rw [if_pos ⟨x, hx, hg⟩]
    exact hvalue x hx g hg

/-- The elements of each alias group agree on a function. -/
def AgreeOnAliases {β : Type} (aliasOf : α → Option AliasGroupId) (f : α → β) (xs : List α) :
    Prop :=
  ∀ x ∈ xs, ∀ y ∈ xs, (aliasOf x).isSome → aliasOf x = aliasOf y → f x = f y

instance {β : Type} [DecidableEq β] (f : α → β) (xs : List α) :
    Decidable (AgreeOnAliases aliasOf f xs) := by
  unfold AgreeOnAliases
  infer_instance

/-- When the elements of an alias group agree on a value, each of them has that of the first. -/
theorem AgreeOnAliases.eq_firstValue {f : α → Int} {xs : List α} (h : AgreeOnAliases aliasOf f xs)
    {x : α} {g : AliasGroupId} (hx : x ∈ xs) (hg : aliasOf x = some g) :
    f x = firstValue aliasOf f xs g := by
  unfold firstValue
  cases hfind : xs.find? fun x => aliasOf x = some g with
  | none => exact absurd hg (by simpa using List.find?_eq_none.mp hfind x hx)
  | some y =>
    have hg' : aliasOf y = some g := by simpa using List.find?_some hfind
    exact h x hx y (List.mem_of_find?_eq_some hfind) (by simp [hg]) (hg.trans hg'.symm)

/-- When the value of an element with aliases is the sum of the shares of its alias group, and that
of any other element its own share, a sum over one element of each alias group is the sum of all
shares. -/
theorem sum_onePerAlias_eq_sum_shares (f share : α → Int) (xs : List α)
    (hnone : ∀ x ∈ xs, aliasOf x = none → f x = share x)
    (hsome : ∀ x ∈ xs, ∀ g, aliasOf x = some g →
      f x = ((xs.filter fun y => aliasOf y = some g).map share).sum) :
    ((onePerAlias aliasOf xs).map f).sum = (xs.map share).sum := by
  -- Both sums have one summand for each alias group that occurs.
  let S := (xs.filterMap aliasOf).toFinset
  have hS : ∀ x ∈ xs, ∀ g, aliasOf x = some g → g ∈ S := fun x hx g hg =>
    List.mem_toFinset.mpr (List.mem_filterMap.mpr ⟨x, hx, hg⟩)
  rw [sum_onePerAlias f (fun g => ((xs.filter fun y => aliasOf y = some g).map share).sum) xs S hS
    hsome, sum_eq_sum_groups aliasOf share xs S hS]
  congr 1
  · refine congrArg List.sum (List.map_congr_left fun x hx => ?_)
    obtain ⟨hx, hg⟩ := List.mem_filter.mp hx
    exact hnone x hx (by simpa using hg)
  · refine Finset.sum_congr rfl fun g hg => ?_
    obtain ⟨x, hx, hxg⟩ := List.mem_filterMap.mp (List.mem_toFinset.mp hg)
    rw [if_pos ⟨x, hx, hxg⟩]

end OnePerAlias

/-- One symbol of each alias group, as nodes. -/
theorem onePerAlias_leaf (symbols : List Symbol) :
    onePerAlias Node.aliasGroup (symbols.map Node.leaf) =
      (onePerAlias Symbol.aliasGroup symbols).map Node.leaf :=
  onePerAlias_map Node.leaf (fun _ => rfl) symbols

/-- The facts of one member of each alias group. -/
theorem onePerAlias_facts (ns : List Node) :
    onePerAlias Facts.aliasGroup (ns.map Node.facts) =
      (onePerAlias Node.aliasGroup ns).map Node.facts :=
  onePerAlias_map Node.facts Node.aliasGroup_facts ns

namespace Facts

/-- The size of members that are not labelled `.bss` counts one of each alias group. -/
theorem size_ofMembers {label : Label} (h : label.sectionName ≠ bssSection) (ns : List Node) :
    (ofMembers label (ns.map Node.facts)).size =
      ((onePerAlias Node.aliasGroup ns).map fun n => n.facts.size).sum := by
  have hbss : (label.sectionName == bssSection) = false := by simpa using h
  simp only [ofMembers, hbss, onePerAlias_facts, Bool.false_eq_true, if_false, List.map_map]
  rfl

/-- The size of members that are labelled `.bss` counts them all. -/
theorem size_ofMembers_bss {label : Label} (h : label.sectionName = bssSection)
    (ns : List Node) :
    (ofMembers label (ns.map Node.facts)).size = (ns.map fun n => n.facts.size).sum := by
  have hbss : (label.sectionName == bssSection) = true := by simpa using h
  simp only [ofMembers, hbss, if_true, List.map_map]
  rfl

/-- The padding of members counts one of each alias group. -/
theorem padding_ofMembers (label : Label) (ns : List Node) :
    (ofMembers label (ns.map Node.facts)).padding =
      ((onePerAlias Node.aliasGroup ns).map fun n => n.facts.padding).sum := by
  simp only [ofMembers, onePerAlias_facts, List.map_map]
  rfl

end Facts

namespace Table

/-- A value summed over one symbol of each alias group. -/
def total (t : Table) (value : Symbol → Int) : Int :=
  ((onePerAlias Symbol.aliasGroup t.symbols.toList).map value).sum

/-- A value that is zero for every symbol has the total zero. -/
theorem total_eq_zero {t : Table} {value : Symbol → Int}
    (h : ∀ s ∈ t.symbols.toList, value s = 0) : t.total value = 0 := by
  unfold total
  refine List.sum_eq_zero fun x hx => ?_
  obtain ⟨s, hs, rfl⟩ := List.mem_map.mp hx
  exact h s (mem_of_mem_onePerAlias hs)

/-- The size of a group without a section that has the symbols of its table as members. -/
theorem totalSize_eq {g : Group} (hmembers : g.members = g.table.symbols.toList.map Node.leaf)
    (hlabel : g.label = {}) : g.totalSize = g.table.total Symbol.size := by
  have hbss : g.label.sectionName ≠ bssSection := hlabel ▸ mixedSection_ne_bssSection
  rw [Group.totalSize, Group.facts, Facts.size_ofMembers hbss, hmembers, onePerAlias_leaf,
    List.map_map]
  rfl

/-- The padding of a group that has the symbols of its table as members. -/
theorem totalPadding_eq {g : Group} (hmembers : g.members = g.table.symbols.toList.map Node.leaf) :
    g.totalPadding = g.table.total Symbol.padding := by
  rw [Group.totalPadding, Group.facts, Facts.padding_ofMembers, hmembers, onePerAlias_leaf,
    List.map_map]
  rfl

/-- The size of all symbols of a table. -/
theorem totalSize_ofTable (t : Table) : (Group.ofTable t).totalSize = t.total Symbol.size :=
  totalSize_eq rfl rfl

/-- The padding of all symbols of a table. -/
theorem totalPadding_ofTable (t : Table) :
    (Group.ofTable t).totalPadding = t.total Symbol.padding :=
  totalPadding_eq rfl

/-- When some symbols agree on the value and have each of their alias groups whole, the sum over one
symbol of each alias group is the sum of all shares. -/
theorem Built.sum_onePerAlias_eq_sum_shares {t : Table} (h : t.Built) {value : Symbol → Int}
    {xs : List Symbol} (hagree : AliasesAgree value xs)
    (hwhole : ∀ s ∈ xs, ∀ g, s.aliasGroup = some g →
      ((xs.filter fun s => s.aliasGroup = some g).map Symbol.id).Perm (t.aliasMembers g)) :
    ((onePerAlias Symbol.aliasGroup xs).map value).sum =
      (xs.map fun s => t.aliasShare s (value s)).sum := by
  refine Footprint.sum_onePerAlias_eq_sum_shares value _ _ (fun s _ hg => ?_) fun s hs g hg => ?_
  · exact (aliasShare_of_none hg _).symm
  -- The value of the first member is shared by all of them.
  · have heq : ∀ s' ∈ xs.filter fun s => s.aliasGroup = some g,
        t.aliasShare s' (value s') = t.aliasShare s' (value s) := by
      intro s' hs'
      obtain ⟨hs', hg'⟩ := List.mem_filter.mp hs'
      have hg' : s'.aliasGroup = some g := by simpa using hg'
      rw [hagree s hs s' hs' (by simp [hg]) (hg.trans hg'.symm)]
    rw [List.map_congr_left heq, h.sum_aliasShare (hwhole s hs g hg)]
    · exact List.ne_nil_of_mem (List.mem_filter.mpr ⟨hs, by simpa using hg⟩)
    · intro s' hs'
      simpa using (List.mem_filter.mp hs').2

/-- The total of a table whose alias groups agree on the value is the sum of the shares of its
symbols. -/
theorem Built.total_eq_sum_shares {t : Table} (h : t.Built) {value : Symbol → Int}
    (he : t.Even value) :
    t.total value = (t.symbols.toList.map fun s => t.aliasShare s (value s)).sum :=
  h.sum_onePerAlias_eq_sum_shares he fun _ _ g _ => h.perm_aliasMembers g

end Table

end Footprint
