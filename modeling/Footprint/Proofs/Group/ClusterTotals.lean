import Mathlib.Algebra.BigOperators.Option
import Mathlib.Algebra.BigOperators.Ring.Finset
import Mathlib.Algebra.Order.BigOperators.Group.Finset
import Mathlib.Algebra.Order.Ring.Int
import Mathlib.Tactic.Ring
import Footprint.Proofs.Group.Clustering
import Footprint.Proofs.Snapshot.Loading

/-!
# Totals of a clustered list

A total counts the members of an alias group once when they are next to each other. Clustering moves
some of them into nested groups, so that an alias group is counted once at each place where it has a
member, and in a nested group of `.bss` symbols as often as it has members there (`timesCounted`).
The totals are those of the plain list exactly when each alias group that has bytes stays at one
place.
-/

namespace Footprint

/-- Where clustering puts a symbol: into the nested group of its bucket, or directly into the
list. -/
def spot (xs : List Symbol) (s : Symbol) : Option (String × String) :=
  if 2 ≤ (bucket xs s.clusterToken).length then some s.clusterToken else none

/-- Where the members of an alias group are put. -/
def spotsOf (xs : List Symbol) (g : AliasGroupId) : List (Option (String × String)) :=
  (xs.filter fun s => s.aliasGroup = some g).map (spot xs)

/-- How often an alias group is counted: once at each place of its members, and as often as it has
members there in a nested group in which all symbols count. -/
def timesCounted (full : String × String → Bool) (xs : List Symbol) (g : AliasGroupId) : Nat :=
  ∑ place ∈ (spotsOf xs g).toFinset, if place.any full then (spotsOf xs g).count place else 1

/-- The alias groups of some symbols. -/
def groupsOf (xs : List Symbol) : Finset AliasGroupId :=
  (xs.filterMap Symbol.aliasGroup).toFinset

/-- The value of the first member of an alias group. -/
def groupValue (value : Symbol → Int) (xs : List Symbol) (g : AliasGroupId) : Int :=
  (xs.find? fun s => s.aliasGroup = some g).elim 0 value

/-- The alias groups of some symbols are those that they have. -/
theorem mem_groupsOf {xs : List Symbol} {g : AliasGroupId} :
    g ∈ groupsOf xs ↔ ∃ s ∈ xs, s.aliasGroup = some g := by
  simp [groupsOf]

/-- A symbol is in the nested group of a bucket when it is in the bucket and not alone there. -/
theorem spot_eq_some_iff {xs : List Symbol} {s : Symbol} (token : String × String) :
    spot xs s = some token ↔ s.clusterToken = token ∧ 2 ≤ (bucket xs token).length := by
  unfold spot
  split
  · next h =>
    rw [Option.some.injEq]
    exact ⟨fun heq => ⟨heq, heq ▸ h⟩, And.left⟩
  · next h => exact iff_of_false (by simp) fun hs => h (hs.1 ▸ hs.2)

/-- A symbol is directly in the list when it is alone in its bucket. -/
theorem spot_eq_none_iff {xs : List Symbol} {s : Symbol} :
    spot xs s = none ↔ ¬ 2 ≤ (bucket xs s.clusterToken).length := by
  unfold spot
  split <;> simp [*]

/-- How often an alias group is counted in the nodes of a bucket that is nested. -/
def timesNested (full : String × String → Bool) (xs : List Symbol) (g : AliasGroupId)
    (token : String × String) : Nat :=
  if 2 ≤ (bucket xs token).length then
    if full token then (bucket xs token).countP fun s => s.aliasGroup = some g
    else if ∃ s ∈ bucket xs token, s.aliasGroup = some g then 1 else 0
  else 0

/-- In a nested group an alias group has the members that are in its bucket. -/
theorem count_spotsOf {xs : List Symbol} (g : AliasGroupId) {token : String × String}
    (h : 2 ≤ (bucket xs token).length) :
    (spotsOf xs g).count (some token) =
      (bucket xs token).countP fun s => s.aliasGroup = some g := by
  unfold spotsOf bucket
  rw [List.count, List.countP_map, List.countP_filter, List.countP_filter]
  refine List.countP_congr fun s _ => ?_
  simp [spot_eq_some_iff, h, and_comm]

/-- How often an alias group is counted is how often it is in the nested groups, and once more when
it has a member directly in the list. -/
theorem timesCounted_eq (full : String × String → Bool) (xs : List Symbol) (g : AliasGroupId) :
    timesCounted full xs g =
      (if ∃ s ∈ xs, spot xs s = none ∧ s.aliasGroup = some g then 1 else 0) +
        ∑ token ∈ (clusterTokens xs).toFinset, timesNested full xs g token := by
  have hmem : ∀ place, place ∈ (spotsOf xs g).toFinset ↔
      ∃ s ∈ xs, spot xs s = place ∧ s.aliasGroup = some g := by
    intro place
    simp only [spotsOf, List.mem_toFinset, List.mem_map, List.mem_filter, decide_eq_true_eq]
    exact exists_congr fun s => ⟨fun h => ⟨h.1.1, h.2, h.1.2⟩, fun h => ⟨⟨h.1, h.2.2⟩, h.2.1⟩⟩
  -- A place is the list itself or the nested group of a bucket.
  have hsub : (spotsOf xs g).toFinset ⊆ (clusterTokens xs).toFinset.insertNone := by
    intro place hplace
    obtain ⟨s, hs, rfl, -⟩ := (hmem place).mp hplace
    rw [Finset.mem_insertNone]
    intro token htoken
    obtain ⟨rfl, -⟩ := (spot_eq_some_iff token).mp htoken
    exact List.mem_toFinset.mpr ((mem_clusterTokens xs _).mpr ⟨s, hs, rfl⟩)
  unfold timesCounted
  rw [← Finset.inter_eq_right.mpr hsub, ← Finset.sum_ite_mem, Finset.sum_insertNone]
  congr 1
  · simp only [hmem, Option.any_none, Bool.false_eq_true, if_false]
  · refine Finset.sum_congr rfl fun token _ => ?_
    unfold timesNested
    -- A bucket of one symbol is no place of its own.
    by_cases hbig : 2 ≤ (bucket xs token).length
    · have hnested : some token ∈ (spotsOf xs g).toFinset ↔
          ∃ s ∈ bucket xs token, s.aliasGroup = some g := by
        rw [hmem]
        refine exists_congr fun s => ?_
        rw [spot_eq_some_iff, mem_bucket, and_iff_left hbig, and_assoc]
      rw [if_pos hbig, Option.any_some, count_spotsOf g hbig]
      by_cases hfull : full token
      · rw [if_pos hfull, if_pos hfull]
        split_ifs with hin
        · rfl
        · rw [hnested] at hin
          exact (List.countP_eq_zero.mpr fun s hs hg => hin ⟨s, hs, by simpa using hg⟩).symm
      · simp only [if_neg hfull, hnested]
    · rw [if_neg hbig, if_neg]
      intro hin
      obtain ⟨s, -, hspot, -⟩ := (hmem _).mp hin
      exact hbig ((spot_eq_some_iff token).mp hspot).2

variable {xs : List Symbol} {value : Symbol → Int} {full : String × String → Bool}

/-- The members of an alias group have the value of the group. -/
theorem eq_groupValue (heven : Table.AliasesAgree value xs) {s : Symbol} {g : AliasGroupId}
    (hs : s ∈ xs) (hg : s.aliasGroup = some g) : value s = groupValue value xs g :=
  AgreeOnAliases.eq_firstValue heven hs hg

/-- The values of the nested group of a bucket, of which each alias group has a share as often as it
is counted there. -/
theorem sum_nested (heven : Table.AliasesAgree value xs) {token : String × String}
    (hbig : 2 ≤ (bucket xs token).length) :
    ((if full token then bucket xs token
        else onePerAlias Symbol.aliasGroup (bucket xs token)).map value).sum =
      (((bucket xs token).filter fun s => s.aliasGroup = none).map value).sum +
        ∑ g ∈ groupsOf xs, timesNested full xs g token * groupValue value xs g := by
  have hS : ∀ s ∈ bucket xs token, ∀ g, s.aliasGroup = some g → g ∈ groupsOf xs := fun s hs g hg =>
    mem_groupsOf.mpr ⟨s, (mem_bucket.mp hs).1, hg⟩
  have hvalue : ∀ s ∈ bucket xs token, ∀ g, s.aliasGroup = some g →
      value s = groupValue value xs g := fun s hs g hg =>
    eq_groupValue heven (mem_bucket.mp hs).1 hg
  unfold timesNested
  -- Where all symbols count, an alias group has its value once for each member in the bucket.
  by_cases hfull : full token
  · rw [if_pos hfull, sum_eq_sum_groups Symbol.aliasGroup value _ _ hS]
    congr 1
    refine Finset.sum_congr rfl fun g _ => ?_
    have hsame : ∀ s ∈ (bucket xs token).filter fun s => s.aliasGroup = some g,
        value s = groupValue value xs g := by
      intro s hs
      obtain ⟨hs, hg⟩ := List.mem_filter.mp hs
      exact hvalue s hs g (by simpa using hg)
    rw [List.map_congr_left hsame, List.map_const', List.sum_replicate, if_pos hbig, if_pos hfull,
      List.countP_eq_length_filter, nsmul_eq_mul]
  · rw [if_neg hfull, sum_onePerAlias value (groupValue value xs) _ _ hS hvalue]
    congr 1
    refine Finset.sum_congr rfl fun g _ => ?_
    rw [if_pos hbig, if_neg hfull]
    split_ifs <;> simp

/-- What a nested group counts: all symbols of its bucket, or one of each alias group. -/
def CountsNested (full : String × String → Bool) (value : Symbol → Int) (measure : Facts → Int)
    (xs : List Symbol) : Prop :=
  ∀ token ∈ clusterTokens xs,
    measure (.ofMembers (clusterLabel token.2 ((bucket xs token).map Node.leaf))
      (((bucket xs token).map Node.leaf).map Node.facts)) =
    ((if full token then bucket xs token
      else onePerAlias Symbol.aliasGroup (bucket xs token)).map value).sum

/-- The nodes of a bucket without alias group have the values of the symbols without one, and of
each alias group its value as often as it is counted in a nested group. -/
theorem sum_bucketFacts {measure : Facts → Int} (heven : Table.AliasesAgree value xs)
    (hleaf : ∀ s : Symbol, measure s.facts = value s)
    (hnested : CountsNested full value measure xs) {token : String × String}
    (htoken : token ∈ clusterTokens xs) :
    (((bucketFacts xs token).filter fun f => f.aliasGroup = none).map measure).sum =
      (((bucket xs token).filter fun s => s.aliasGroup = none).map value).sum +
        ∑ g ∈ groupsOf xs, timesNested full xs g token * groupValue value xs g := by
  unfold bucketFacts nestedFacts
  rw [List.length_map]
  -- A nested group has no alias group itself, and the symbol of a small bucket stays as it is.
  by_cases hbig : 2 ≤ (bucket xs token).length
  · rw [if_pos hbig, ← sum_nested heven hbig, ← hnested token htoken]
    simp [Facts.ofMembers]
  · have hzero : ∑ g ∈ groupsOf xs, timesNested full xs g token * groupValue value xs g = 0 :=
      Finset.sum_eq_zero fun g _ => by simp [timesNested, hbig]
    rw [if_neg hbig, if_pos rfl, hzero, add_zero, List.map_map, List.filter_map, List.map_map]
    refine congrArg List.sum (List.map_congr_left fun s _ => ?_)
    exact hleaf s

/-- The total of the nodes of a clustered list has the values of the symbols without alias group,
and the value of each alias group as often as it is counted. -/
theorem sum_clustered {measure : Facts → Int} (heven : Table.AliasesAgree value xs)
    (hleaf : ∀ s : Symbol, measure s.facts = value s)
    (hnested : CountsNested full value measure xs) :
    ((onePerAlias Facts.aliasGroup ((clusterTokens xs).flatMap (bucketFacts xs))).map measure).sum =
      ((xs.filter fun s => s.aliasGroup = none).map value).sum +
        ∑ g ∈ groupsOf xs, timesCounted full xs g * groupValue value xs g := by
  -- The nodes with an alias group are the symbols that are directly in the list.
  have hdirect : ∀ f ∈ (clusterTokens xs).flatMap (bucketFacts xs), ∀ g, f.aliasGroup = some g →
      ∃ s ∈ xs, spot xs s = none ∧ s.aliasGroup = some g ∧ f = s.facts := by
    intro f hf g hg
    obtain ⟨token, -, hf⟩ := List.mem_flatMap.mp hf
    unfold bucketFacts nestedFacts at hf
    rw [List.length_map] at hf
    by_cases hbig : 2 ≤ (bucket xs token).length
    · rw [if_pos hbig, List.mem_singleton] at hf
      simp [hf, Facts.ofMembers] at hg
    · rw [if_neg hbig, if_pos rfl, List.map_map] at hf
      obtain ⟨s, hs, rfl⟩ := List.mem_map.mp hf
      obtain ⟨hin, rfl⟩ := mem_bucket.mp hs
      exact ⟨s, hin, spot_eq_none_iff.mpr hbig, hg, rfl⟩
  have hiff : ∀ g, (∃ f ∈ (clusterTokens xs).flatMap (bucketFacts xs), f.aliasGroup = some g) ↔
      ∃ s ∈ xs, spot xs s = none ∧ s.aliasGroup = some g := by
    intro g
    constructor
    · rintro ⟨f, hf, hg⟩
      obtain ⟨s, hs, hspot, hsg, -⟩ := hdirect f hf g hg
      exact ⟨s, hs, hspot, hsg⟩
    · rintro ⟨s, hs, hspot, hg⟩
      refine ⟨s.facts, List.mem_flatMap.mpr ⟨s.clusterToken, ?_, ?_⟩, hg⟩
      · exact (mem_clusterTokens xs _).mpr ⟨s, hs, rfl⟩
      · unfold bucketFacts nestedFacts
        rw [List.length_map, if_neg (spot_eq_none_iff.mp hspot), if_pos rfl, List.map_map]
        exact List.mem_map.mpr ⟨s, mem_bucket.mpr ⟨hs, rfl⟩, rfl⟩
  rw [sum_onePerAlias measure (groupValue value xs) _ (groupsOf xs)]
  · have hnone : ((((clusterTokens xs).flatMap (bucketFacts xs)).filter
        fun f => f.aliasGroup = none).map measure).sum =
        ((xs.filter fun s => s.aliasGroup = none).map value).sum +
          ∑ g ∈ groupsOf xs, ∑ token ∈ (clusterTokens xs).toFinset,
            timesNested full xs g token * groupValue value xs g := by
      rw [List.filter_flatMap, sum_map_flatMap, ← List.sum_toFinset _ (nodup_clusterTokens xs),
        Finset.sum_congr rfl fun token htoken =>
          sum_bucketFacts heven hleaf hnested (List.mem_toFinset.mp htoken),
        Finset.sum_add_distrib, Finset.sum_comm]
      congr 1
      rw [List.sum_toFinset _ (nodup_clusterTokens xs), ← sum_map_flatMap, ← List.filter_flatMap]
      exact (((flatMap_bucket_perm xs).filter _).map value).sum_eq
    rw [hnone, add_assoc, ← Finset.sum_add_distrib]
    congr 1
    refine Finset.sum_congr rfl fun g _ => ?_
    rw [timesCounted_eq, ← Finset.sum_mul]
    simp only [hiff]
    push_cast
    split_ifs <;> ring
  · intro f hf g hg
    obtain ⟨s, hs, -, hsg, -⟩ := hdirect f hf g hg
    exact mem_groupsOf.mpr ⟨s, hs, hsg⟩
  · intro f hf g hg
    obtain ⟨s, hs, -, hsg, rfl⟩ := hdirect f hf g hg
    rw [hleaf]
    exact eq_groupValue heven hs hsg

/-- The total of a plain list has the values of the symbols without alias group, and the value of
each alias group once. -/
theorem sum_plain (heven : Table.AliasesAgree value xs) :
    ((onePerAlias Symbol.aliasGroup xs).map value).sum =
      ((xs.filter fun s => s.aliasGroup = none).map value).sum +
        ∑ g ∈ groupsOf xs, groupValue value xs g := by
  rw [sum_onePerAlias value (groupValue value xs) xs (groupsOf xs)]
  · congr 1
    exact Finset.sum_congr rfl fun g hg => if_pos (mem_groupsOf.mp hg)
  · exact fun s hs g hg => mem_groupsOf.mpr ⟨s, hs, hg⟩
  · exact fun s hs g hg => eq_groupValue heven hs hg

/-- The total of a clustered list exceeds that of the plain list by the values that are counted more
than once. -/
theorem sum_clustered_eq {measure : Facts → Int} (heven : Table.AliasesAgree value xs)
    (hleaf : ∀ s : Symbol, measure s.facts = value s)
    (hnested : CountsNested full value measure xs) :
    ((onePerAlias Facts.aliasGroup ((clusterTokens xs).flatMap (bucketFacts xs))).map measure).sum =
      ((onePerAlias Symbol.aliasGroup xs).map value).sum +
        ∑ g ∈ groupsOf xs, ((timesCounted full xs g : Int) - 1) * groupValue value xs g := by
  rw [sum_clustered heven hleaf hnested, sum_plain heven, add_assoc, ← Finset.sum_add_distrib]
  congr 1
  exact Finset.sum_congr rfl fun g _ => by ring

/-- What an alias group is counted for at a place of its members is not nothing. -/
theorem one_le_of_mem_spotsOf {g : AliasGroupId} {place : Option (String × String)}
    (h : place ∈ spotsOf xs g) :
    1 ≤ if place.any full then (spotsOf xs g).count place else 1 := by
  split_ifs
  · exact List.count_pos_iff.mpr h
  · exact le_refl 1

/-- An alias group is counted at least as often as at one place of its members. -/
theorem le_timesCounted {g : AliasGroupId} {place : Option (String × String)}
    (h : place ∈ spotsOf xs g) :
    (if place.any full then (spotsOf xs g).count place else 1) ≤ timesCounted full xs g :=
  Finset.single_le_sum
    (f := fun p : Option (String × String) => if p.any full then (spotsOf xs g).count p else 1)
    (fun _ _ => Nat.zero_le _) (List.mem_toFinset.mpr h)

/-- An alias group with a member is counted. -/
theorem one_le_timesCounted {g : AliasGroupId} (h : g ∈ groupsOf xs) :
    1 ≤ timesCounted full xs g := by
  obtain ⟨s, hs, hg⟩ := mem_groupsOf.mp h
  have hspot : spot xs s ∈ spotsOf xs g :=
    List.mem_map_of_mem (List.mem_filter.mpr ⟨hs, by simpa using hg⟩)
  exact (one_le_of_mem_spotsOf hspot).trans (le_timesCounted hspot)

/-- An alias group of two or more members is counted once exactly when its members are at one place
where not all symbols count. -/
theorem timesCounted_eq_one_iff {g : AliasGroupId} (htwo : 2 ≤ (spotsOf xs g).length) :
    timesCounted full xs g = 1 ↔
      ∃ place, (∀ p ∈ spotsOf xs g, p = place) ∧ ¬ place.any full := by
  constructor
  · intro hone
    -- Each place counts at least once, so that there is only one.
    have hcard : (spotsOf xs g).toFinset.card ≤ 1 := by
      rw [← hone, Finset.card_eq_sum_ones]
      exact Finset.sum_le_sum fun p hp => one_le_of_mem_spotsOf (List.mem_toFinset.mp hp)
    obtain ⟨place, hplace⟩ := List.exists_mem_of_length_pos (Nat.zero_lt_of_lt htwo)
    have hall : ∀ p ∈ spotsOf xs g, p = place := fun p hp =>
      Finset.card_le_one.mp hcard p (List.mem_toFinset.mpr hp) place (List.mem_toFinset.mpr hplace)
    refine ⟨place, hall, fun hfull => ?_⟩
    -- All members would count at the one place.
    have hcount : (spotsOf xs g).count place = (spotsOf xs g).length :=
      List.count_eq_length.mpr fun p hp => (hall p hp).symm
    have hle : (spotsOf xs g).count place ≤ timesCounted full xs g := by
      calc (spotsOf xs g).count place
          = if place.any full then (spotsOf xs g).count place else 1 := (if_pos hfull).symm
        _ ≤ timesCounted full xs g := le_timesCounted hplace
    omega
  · rintro ⟨place, hall, hfull⟩
    obtain ⟨p, hp⟩ := List.exists_mem_of_length_pos (Nat.zero_lt_of_lt htwo)
    have hsingle : (spotsOf xs g).toFinset = {place} := by
      rw [Finset.eq_singleton_iff_unique_mem]
      exact ⟨List.mem_toFinset.mpr (hall p hp ▸ hp), fun q hq => hall q (List.mem_toFinset.mp hq)⟩
    rw [timesCounted, hsingle, Finset.sum_singleton, if_neg hfull]

/-- The members of each alias group with a value that is not 0 are put at one place, and not into a
nested group in which all symbols count. -/
def StaysTogether (full : String × String → Bool) (value : Symbol → Int) (xs : List Symbol) :
    Prop :=
  ∀ s ∈ xs, ∀ s' ∈ xs, s.aliasGroup.isSome → s.aliasGroup = s'.aliasGroup → value s ≠ 0 →
    spot xs s = spot xs s' ∧ ¬ (spot xs s).any full

instance (full : String × String → Bool) (value : Symbol → Int) (xs : List Symbol) :
    Decidable (StaysTogether full value xs) := by
  unfold StaysTogether
  infer_instance

/-- Without negative values nothing is counted more than once exactly when the alias groups stay
together. -/
theorem surplus_eq_zero_iff (heven : Table.AliasesAgree value xs) (hpos : ∀ s ∈ xs, 0 ≤ value s)
    (htwo : ∀ g ∈ groupsOf xs, 2 ≤ (spotsOf xs g).length) :
    ∑ g ∈ groupsOf xs, ((timesCounted full xs g : Int) - 1) * groupValue value xs g = 0 ↔
      StaysTogether full value xs := by
  -- No summand is negative, so that the sum is 0 only if all of them are.
  have hterm : ∀ g ∈ groupsOf xs,
      0 ≤ ((timesCounted full xs g : Int) - 1) * groupValue value xs g := by
    intro g hg
    obtain ⟨s, hs, hsg⟩ := mem_groupsOf.mp hg
    have hone : 1 ≤ timesCounted full xs g := one_le_timesCounted hg
    have hvalue := hpos s hs
    rw [eq_groupValue heven hs hsg] at hvalue
    exact mul_nonneg (by omega) hvalue
  have hmem : ∀ {s g}, s ∈ xs → s.aliasGroup = some g → spot xs s ∈ spotsOf xs g :=
    fun hs hg => List.mem_map_of_mem (List.mem_filter.mpr ⟨hs, by simpa using hg⟩)
  rw [Finset.sum_eq_zero_iff_of_nonneg hterm]
  constructor
  · intro hzero s hs s' hs' hsome heq hvalue
    obtain ⟨g, hg⟩ := Option.isSome_iff_exists.mp hsome
    have hgroup := mem_groupsOf.mpr ⟨s, hs, hg⟩
    rw [eq_groupValue heven hs hg] at hvalue
    have hone : timesCounted full xs g = 1 := by
      have := (mul_eq_zero.mp (hzero g hgroup)).resolve_right hvalue
      omega
    obtain ⟨place, hall, hfull⟩ := (timesCounted_eq_one_iff (htwo g hgroup)).mp hone
    have hs_place := hall _ (hmem hs hg)
    rw [hs_place, hall _ (hmem hs' (heq ▸ hg))]
    exact ⟨rfl, hfull⟩
  · intro htogether g hg
    obtain ⟨s, hs, hsg⟩ := mem_groupsOf.mp hg
    by_cases hvalue : value s = 0
    · rw [← eq_groupValue heven hs hsg, hvalue, mul_zero]
    · have hone : timesCounted full xs g = 1 := by
        refine (timesCounted_eq_one_iff (htwo g hg)).mpr ⟨spot xs s, fun p hp => ?_, ?_⟩
        · obtain ⟨s', hs', rfl⟩ := List.mem_map.mp hp
          obtain ⟨hs', hsg'⟩ := List.mem_filter.mp hs'
          have hsg' : s'.aliasGroup = some g := by simpa using hsg'
          exact (htogether s hs s' hs' (by simp [hsg]) (hsg.trans hsg'.symm) hvalue).1.symm
        · exact (htogether s hs s hs (by simp [hsg]) rfl hvalue).2
      rw [hone]
      simp

end Footprint
