import Footprint.Proofs.Group.Counting
import Footprint.Proofs.Group.Sorting
import Footprint.Proofs.Snapshot.Loading

/-!
# Totals of a sorted list

Of an alias group the first member counts, and a sort may put another one first. Aliases share an
address, but nothing makes their sizes equal. So a total does not depend on the order exactly when
the members of each alias group agree on it, or all members count (`sorted_totals_iff`). When two of
them do not agree, a sort that only tells one from the other puts either of them first
(`agreeOnAliases_of_sort`).
-/

namespace Footprint

section OnePerAlias

variable {α : Type} {aliasOf : α → Option AliasGroupId} {f : α → Int} {xs ys zs : List α}

/-- The order does not matter to a sum over one element of each alias group when the elements of an
alias group have one value. -/
theorem sum_onePerAlias_perm (h : AgreeOnAliases aliasOf f xs) (hperm : ys.Perm xs) :
    ((onePerAlias aliasOf ys).map f).sum = ((onePerAlias aliasOf xs).map f).sum := by
  let S := (xs.filterMap aliasOf).toFinset
  have hS : ∀ x ∈ xs, ∀ g, aliasOf x = some g → g ∈ S := fun x hx g hg =>
    List.mem_toFinset.mpr (List.mem_filterMap.mpr ⟨x, hx, hg⟩)
  have hvalue : ∀ x ∈ xs, ∀ g, aliasOf x = some g → f x = firstValue aliasOf f xs g :=
    fun x hx g hg => h.eq_firstValue hx hg
  rw [sum_onePerAlias f _ xs S hS hvalue, sum_onePerAlias f _ ys S
    (fun y hy => hS y (hperm.subset hy)) fun y hy => hvalue y (hperm.subset hy),
    ((hperm.filter _).map f).sum_eq]
  simp only [hperm.mem_iff]

/-- When two orders of a list have the elements of all alias groups but one in the same order, the
sums over one element of each alias group differ by the first elements of that group. -/
theorem sum_onePerAlias_sub {a : AliasGroupId} (hperm : ys.Perm zs)
    (hother : ∀ g, g ≠ a → (ys.filter fun x => aliasOf x = some g) =
      zs.filter fun x => aliasOf x = some g) :
    ((onePerAlias aliasOf ys).map f).sum - ((onePerAlias aliasOf zs).map f).sum =
      firstValue aliasOf f ys a - firstValue aliasOf f zs a := by
  let S := insert a (zs.filterMap aliasOf).toFinset
  have hS : ∀ x ∈ zs, ∀ g, aliasOf x = some g → g ∈ S := fun x hx g hg =>
    Finset.mem_insert_of_mem (List.mem_toFinset.mpr (List.mem_filterMap.mpr ⟨x, hx, hg⟩))
  have hrest : ∑ g ∈ S.erase a, firstValue aliasOf f ys g =
      ∑ g ∈ S.erase a, firstValue aliasOf f zs g := by
    refine Finset.sum_congr rfl fun g hg => ?_
    unfold firstValue
    rw [← List.head?_filter, ← List.head?_filter, hother g (Finset.ne_of_mem_erase hg)]
  have ha : a ∈ S := Finset.mem_insert_self _ _
  rw [sum_onePerAlias_eq_firsts f ys S fun y hy => hS y (hperm.subset hy),
    sum_onePerAlias_eq_firsts f zs S hS, ((hperm.filter _).map f).sum_eq,
    ← Finset.add_sum_erase S _ ha, ← Finset.add_sum_erase S (firstValue aliasOf f zs) ha, hrest]
  omega

/-- Whether an element of an alias group has another value than a given one. -/
def deviates (aliasOf : α → Option AliasGroupId) (f : α → Int) (a : AliasGroupId) (v : Int)
    (x : α) : Bool :=
  aliasOf x = some a ∧ f x ≠ v

/-- The elements of another alias group do not move when those that deviate come last, or first. -/
theorem IsStableSort.filter_aliasOf {reverse : Bool} {a g : AliasGroupId} {v : Int}
    (h : IsStableSort (directed reverse (compareBy (deviates aliasOf f a v))) xs ys) (hne : g ≠ a) :
    (ys.filter fun x => aliasOf x = some g) = xs.filter fun x => aliasOf x = some g := by
  have hkey : ∀ x, aliasOf x = some g → deviates aliasOf f a v x = false := fun x hx => by
    simp [deviates, hx, hne]
  refine h.filter_eq fun x _ y _ hx hy => ?_
  have hx := hkey x (of_decide_eq_true hx)
  have hy := hkey y (of_decide_eq_true hy)
  cases reverse <;> simp [directed, compareBy, hx, hy]

/-- When those that deviate come last, the first element of the alias group does not. -/
theorem IsStableSort.firstValue_eq {a : AliasGroupId} {x : α} (hx : x ∈ xs)
    (ha : aliasOf x = some a)
    (h : IsStableSort (directed false (compareBy (deviates aliasOf f a (f x)))) xs ys) :
    firstValue aliasOf f ys a = f x := by
  obtain ⟨y, hy, hya, hle⟩ := h.find?_eq (p := fun z => aliasOf z = some a) hx (by simpa)
  rw [firstValue, hy, Option.elim_some]
  by_contra hne
  have hkey := isLE_compareBy_iff.mp hle (decide_eq_true ⟨of_decide_eq_true hya, hne⟩)
  exact (of_decide_eq_true hkey).2 rfl

/-- When those that deviate come first, the first element of the alias group does. -/
theorem IsStableSort.firstValue_ne {a : AliasGroupId} {v : Int} {x : α} (hx : x ∈ xs)
    (ha : aliasOf x = some a) (hne : f x ≠ v)
    (h : IsStableSort (directed true (compareBy (deviates aliasOf f a v))) xs ys) :
    firstValue aliasOf f ys a ≠ v := by
  obtain ⟨y, hy, -, hle⟩ := h.find?_eq (p := fun z => aliasOf z = some a) hx (by simpa)
  have hswap : directed true (compareBy (deviates aliasOf f a v)) y x =
      compareBy (deviates aliasOf f a v) x y := Std.OrientedCmp.eq_swap.symm
  rw [hswap] at hle
  have hkey := isLE_compareBy_iff.mp hle (decide_eq_true ⟨ha, hne⟩)
  rw [firstValue, hy, Option.elim_some]
  exact (of_decide_eq_true hkey).2

/-- When no sort changes the sum over one element of each alias group, the elements of an alias
group have one value. -/
theorem agreeOnAliases_of_sort (h : ∀ cmp : α → α → Ordering, Std.TransCmp cmp →
    ∀ ys, IsStableSort cmp xs ys →
      ((onePerAlias aliasOf ys).map f).sum = ((onePerAlias aliasOf xs).map f).sum) :
    AgreeOnAliases aliasOf f xs := by
  intro x hx y hy hsome heq
  obtain ⟨a, ha⟩ := Option.isSome_iff_exists.mp hsome
  by_contra hne
  -- The elements that deviate from `x` are sorted behind it, and in front of it.
  have hsort : ∀ reverse, ∃ zs,
      IsStableSort (directed reverse (compareBy (deviates aliasOf f a (f x)))) xs zs :=
    fun reverse => ⟨_, isStableSort_mergeSort xs⟩
  obtain ⟨us, hup⟩ := hsort false
  obtain ⟨ds, hdown⟩ := hsort true
  have hsub : ((onePerAlias aliasOf us).map f).sum - ((onePerAlias aliasOf ds).map f).sum =
      firstValue aliasOf f us a - firstValue aliasOf f ds a :=
    sum_onePerAlias_sub (hup.perm.trans hdown.perm.symm) fun g hg =>
      (hup.filter_aliasOf hg).trans (hdown.filter_aliasOf hg).symm
  have hfirst : firstValue aliasOf f us a = f x := hup.firstValue_eq hx ha
  have hother : firstValue aliasOf f ds a ≠ f x :=
    hdown.firstValue_ne hy (heq.symm.trans ha) (Ne.symm hne)
  rw [h _ inferInstance us hup, h _ inferInstance ds hdown] at hsub
  omega

end OnePerAlias

/-- No sort by a total preorder, in either direction, changes a value of a group. -/
def Group.UnchangedBySorts (value : Group → Int) (g : Group) : Prop :=
  ∀ cmp : Node → Node → Ordering, Std.TransCmp cmp →
    ∀ reverse, value (g.sorted cmp reverse) = value g

namespace Total

variable (T : Total)

/-- No sort of a group changes a total exactly when the members that count for each other agree on
it. -/
theorem unchangedBySorts_iff (g : Group) :
    g.UnchangedBySorts T.ofGroup ↔
      AgreeOnAliases (Node.countedAs (T.countsAll g.label.sectionName)) (fun n => T.of n.facts)
        g.members := by
  -- A sort keeps the section, so that the same rule decides who counts.
  have hsorted : ∀ cmp reverse, T.ofGroup (g.sorted cmp reverse) =
      ((onePerAlias (Node.countedAs (T.countsAll g.label.sectionName))
        (g.sorted cmp reverse).members).map fun n => T.of n.facts).sum := fun cmp reverse =>
    T.ofGroup_eq (g.sorted cmp reverse)
  constructor
  · intro h
    refine agreeOnAliases_of_sort fun cmp hcmp ns hns => ?_
    rw [hns.unique (g.isStableSort_sorted cmp false), ← hsorted, h cmp hcmp false, T.ofGroup_eq]
  · intro h cmp _ reverse
    rw [hsorted, sum_onePerAlias_perm h (g.isStableSort_sorted cmp reverse).perm, T.ofGroup_eq]

end Total

/-- No sort changes the size of a group exactly when it is labelled `.bss`, where all members count,
or the members of each alias group have one size, and none changes the padding exactly when those
have one padding. -/
theorem sorted_totals_iff (g : Group) :
    (g.UnchangedBySorts Group.totalSize ↔ g.label.sectionName = bssSection ∨
      AgreeOnAliases Node.aliasGroup (fun n => n.facts.size) g.members) ∧
    (g.UnchangedBySorts Group.totalPadding ↔
      AgreeOnAliases Node.aliasGroup (fun n => n.facts.padding) g.members) := by
  constructor
  · refine (Total.size.unchangedBySorts_iff g).trans (agreeOnAliases_countedAs_iff.trans ?_)
    exact or_congr_left beq_iff_eq
  · refine (Total.padding.unchangedBySorts_iff g).trans (agreeOnAliases_countedAs_iff.trans ?_)
    exact or_iff_right Bool.false_ne_true

/-- Two aliases of different sizes, the larger one second but first by name. -/
def unevenPair : SnapshotRecord :=
  { symbols :=
      [{ sectionName := ".text", size := 4, padding := 1, name := "b" },
        { sectionName := ".text", size := 10, padding := 2, name := "a" }]
    aliasGroups := [[0, 1]] }

/-- A sort by name can make another alias count. -/
theorem sorted_totals_unevenPair :
    ∃ snapshot, Snapshot.ofRecord unevenPair ⟨0⟩ = .ok snapshot ∧
      let raw := snapshot.value.listing.raw
      let byName := compareBy fun n : Node => n.facts.name
      raw.table.Built ∧ Std.TransCmp byName ∧
        raw.totalSize = 4 ∧ (raw.sorted byName).totalSize = 10 ∧
        raw.totalPadding = 1 ∧ (raw.sorted byName).totalPadding = 2 := by
  have h : Snapshot.ofRecord unevenPair ⟨0⟩ = .ok _ := rfl
  obtain ⟨t, ht, hlisting⟩ := Snapshot.exists_table_of_ofRecord h
  refine ⟨_, h, ?_⟩
  intro raw byName
  have hraw : raw = .ofTable t := congrArg Listing.raw hlisting
  have hbuilt : raw.table.Built := by rw [hraw]; exact ht
  have hmembers : (raw.sorted byName).members = raw.members.reverse := by
    have hnames : raw.members.map (fun n => n.facts.name) = ["b", "a"] := by decide +kernel
    have hlength : raw.members.length = 2 := by simpa using congrArg List.length hnames
    obtain ⟨m, n, hpair⟩ := List.length_eq_two.mp hlength
    have hgt : (byName m n).isLE = false := by
      obtain ⟨hm, hn⟩ : m.facts.name = "b" ∧ n.facts.name = "a" := by simpa [hpair] using hnames
      simp only [byName, compareBy, hm, hn]
      decide
    change raw.members.mergeSort (fun m n => (byName m n).isLE) = raw.members.reverse
    simp [hpair, List.mergeSort, hgt]
  have hfacts : (raw.sorted byName).facts = .ofMembers {} (raw.members.reverse.map Node.facts) := by
    rw [← hmembers]
    rfl
  refine ⟨hbuilt, inferInstance, by decide +kernel, ?_, by decide +kernel, ?_⟩
  · rw [Group.totalSize, hfacts]
    decide +kernel
  · rw [Group.totalPadding, hfacts]
    decide +kernel

end Footprint
