import Mathlib.Algebra.BigOperators.Group.List.Basic
import Mathlib.Algebra.Order.Group.Int
import Mathlib.Algebra.Ring.Int.Defs
import Footprint.Diff.Delta
import Footprint.Proofs.Symbol.Arena

/-!
# Shares of an alias group

The integer shares of the members of an alias group add up to the amount that is shared
(`Table.Built.sum_aliasShare`), also for negative amounts: the floor division leaves a remainder
that is not negative, and as many members as it says get one more.
-/

namespace Footprint

/-- Equal parts, of which the first `r` are greater by one. -/
theorem sum_range_shares (q r : Int) (hr : 0 ≤ r) (n : Nat) :
    ((List.range n).map fun i : Nat => q + if (i : Int) < r then 1 else 0).sum =
      n * q + min r n := by
  induction n with
  | zero => simp [hr]
  | succ n ih =>
    rw [List.range_succ, List.map_append, List.sum_append, ih]
    have hmul : ((n + 1 : Nat) : Int) * q = n * q + q := by
      push_cast
      rw [add_mul, one_mul]
    rw [hmul, List.map_singleton, List.sum_singleton]
    split <;> omega

/-- The part at a place when an amount is divided into `n` parts: the quotient, rounded down, and
one more at as many of the first places as the remainder says. -/
def shareAt (v : Int) (n place : Nat) : Int :=
  v / n + if (place : Int) < v % n then 1 else 0

/-- The parts add up to the amount. -/
theorem sum_range_shareAt (v : Int) {n : Nat} (hn : 0 < n) :
    ((List.range n).map (shareAt v n)).sum = v := by
  have hpos : (0 : Int) < n := by omega
  unfold shareAt
  rw [sum_range_shares _ _ (Int.emod_nonneg v hpos.ne')]
  have hlt := Int.emod_lt_of_pos v hpos
  have hdiv := Int.mul_ediv_add_emod v n
  rw [min_eq_left hlt.le, hdiv]

namespace Table

/-- A symbol without alias group owns the whole amount. -/
theorem aliasShare_of_none {t : Table} {s : Symbol} (hg : s.aliasGroup = none) (v : Int) :
    t.aliasShare s v = v := by
  simp [aliasShare, hg]

/-- The share of a member depends on its position in the alias group. -/
theorem aliasShare_of_mem {t : Table} {s : Symbol} {g : AliasGroupId}
    (hg : s.aliasGroup = some g) (hin : s.id ∈ t.aliasMembers g) (v : Int) :
    t.aliasShare s v =
      shareAt v (t.aliasMembers g).length ((t.aliasMembers g).idxOf s.id) := by
  have hne : (t.aliasMembers g).isEmpty = false :=
    List.isEmpty_eq_false_iff.mpr (List.ne_nil_of_mem hin)
  obtain ⟨place, hplace⟩ := Option.isSome_iff_exists.mp (List.isSome_idxOf?.mpr hin)
  have hidx : (t.aliasMembers g).idxOf s.id = place := by
    rw [List.idxOf_eq_getD_idxOf?, hplace, Option.getD_some]
  simp [aliasShare, shareAt, hg, hne, hplace, hidx]

/-- The shares of members of an alias group are a function of their places only. -/
theorem map_aliasShare {t : Table} {g : AliasGroupId} {members : List Symbol}
    (hg : ∀ s ∈ members, s.aliasGroup = some g) (hin : ∀ s ∈ members, s.id ∈ t.aliasMembers g)
    (v : Int) :
    members.map (fun s => t.aliasShare s v) = (members.map Symbol.id).map fun id =>
      shareAt v (t.aliasMembers g).length ((t.aliasMembers g).idxOf id) := by
  rw [List.map_map]
  exact List.map_congr_left fun s hs => aliasShare_of_mem (hg s hs) (hin s hs) v

/-- The share of an amount that is not negative lies between 0 and the amount. -/
theorem aliasShare_mem_Icc (t : Table) (s : Symbol) {v : Int} (hv : 0 ≤ v) :
    0 ≤ t.aliasShare s v ∧ t.aliasShare s v ≤ v := by
  unfold aliasShare
  cases s.aliasGroup with
  | none => exact ⟨hv, le_refl v⟩
  | some g =>
    dsimp only
    by_cases hempty : (t.aliasMembers g).isEmpty
    · rw [if_pos hempty]
      exact ⟨hv, le_refl v⟩
    · rw [if_neg hempty]
      have hpos : (0 : Int) < (t.aliasMembers g).length := by
        have := List.length_pos_iff.mpr fun h => hempty (List.isEmpty_iff.mpr h)
        omega
      have hquotient := Int.ediv_nonneg hv hpos.le
      have hdiv := Int.mul_ediv_add_emod v (t.aliasMembers g).length
      -- The parts of all members together are the amount, and there is one member at least.
      have hle := Int.mul_le_mul_of_nonneg_right (Int.add_one_le_of_lt hpos) hquotient
      rw [zero_add, one_mul] at hle
      have hrest := Int.emod_nonneg v hpos.ne'
      split_ifs with hlt
      · omega
      · omega

/-- The positions of the elements of a list without repetitions count up from 0. -/
theorem map_idxOf_self {ids : List SymbolId} (h : ids.Nodup) :
    ids.map (fun id => ids.idxOf id) = List.range ids.length := by
  refine List.ext_getElem (by simp) fun i h1 h2 => ?_
  rw [List.getElem_map, List.getElem_range, h.idxOf_getElem]

namespace Built

variable {t : Table}

/-- The shares of the members of an alias group add up to the amount. -/
theorem sum_aliasShare (h : t.Built) {g : AliasGroupId} {members : List Symbol}
    (hperm : (members.map Symbol.id).Perm (t.aliasMembers g)) (hne : members ≠ [])
    (hg : ∀ s ∈ members, s.aliasGroup = some g) (v : Int) :
    (members.map fun s => t.aliasShare s v).sum = v := by
  have hpos : 0 < (t.aliasMembers g).length := by
    rw [← hperm.length_eq, List.length_map]
    exact List.length_pos_iff.mpr hne
  have hin : ∀ s ∈ members, s.id ∈ t.aliasMembers g := fun s hs =>
    hperm.subset (List.mem_map_of_mem hs)
  calc (members.map fun s => t.aliasShare s v).sum
      = ((members.map Symbol.id).map fun id => shareAt v (t.aliasMembers g).length
          ((t.aliasMembers g).idxOf id)).sum := by
        rw [map_aliasShare hg hin]
    _ = ((t.aliasMembers g).map fun id => shareAt v (t.aliasMembers g).length
          ((t.aliasMembers g).idxOf id)).sum := (hperm.map _).sum_eq
    _ = ((List.range (t.aliasMembers g).length).map
          (shareAt v (t.aliasMembers g).length)).sum := by
        rw [← map_idxOf_self (h.nodup_aliasMembers g), List.map_map]
        rfl
    _ = v := sum_range_shareAt v hpos

/-- The symbols of a table that have an alias group are its members. -/
theorem perm_aliasMembers (h : t.Built) (g : AliasGroupId) :
    ((t.symbols.toList.filter fun s => s.aliasGroup = some g).map Symbol.id).Perm
      (t.aliasMembers g) := by
  have hsub : ((t.symbols.toList.filter fun s => s.aliasGroup = some g).map Symbol.id).Sublist
      t.ids := List.filter_sublist.map _
  rw [List.perm_ext_iff_of_nodup (h.nodup_ids.sublist hsub) (h.nodup_aliasMembers g)]
  intro id
  simp only [List.mem_map, List.mem_filter, decide_eq_true_eq, Array.mem_toList_iff]
  constructor
  · rintro ⟨s, ⟨hs, hg⟩, rfl⟩
    exact (h.aliasGroup_iff (h.get?_id hs) g).mp hg
  · intro hin
    obtain ⟨s, hs, hg⟩ := h.exists_of_mem_aliasMembers hin
    exact ⟨s, ⟨Array.mem_of_getElem? hs, hg⟩, h.id_of_get? hs⟩

end Built

/-- Symbols of one alias group agree on a value. -/
def AliasesAgree (value : Symbol → Int) (xs : List Symbol) : Prop :=
  ∀ s ∈ xs, ∀ s' ∈ xs, s.aliasGroup.isSome → s.aliasGroup = s'.aliasGroup → value s = value s'

instance (value : Symbol → Int) (xs : List Symbol) : Decidable (AliasesAgree value xs) := by
  unfold AliasesAgree
  infer_instance

/-- Fewer symbols agree on the value, too. -/
theorem AliasesAgree.mono {value : Symbol → Int} {xs ys : List Symbol} (h : AliasesAgree value xs)
    (hsub : ys ⊆ xs) : AliasesAgree value ys :=
  fun s hs s' hs' => h s (hsub hs) s' (hsub hs')

/-- The members of each alias group of a table agree on a value. -/
abbrev Even (t : Table) (value : Symbol → Int) : Prop :=
  AliasesAgree value t.symbols.toList

/-- In an even table the symbols of any ids agree on the value. -/
theorem Even.filterMap_get? {t : Table} {value : Symbol → Int} (h : t.Even value)
    (ids : List SymbolId) : AliasesAgree value (ids.filterMap t.get?) :=
  h.mono fun s hs => by
    obtain ⟨id, -, hget⟩ := List.mem_filterMap.mp hs
    exact Array.mem_toList_iff.mpr (Array.mem_of_getElem? hget)

namespace Built

variable {t : Table}

/-- The symbols of known ids have those ids. -/
theorem map_id_filterMap_get? (h : t.Built) {ids : List SymbolId}
    (hids : ∀ id ∈ ids, ∃ s, t.get? id = some s) : (ids.filterMap t.get?).map Symbol.id = ids := by
  induction ids with
  | nil => rfl
  | cons id ids ih =>
    obtain ⟨s, hs⟩ := hids id List.mem_cons_self
    rw [List.filterMap_cons_some hs, List.map_cons, h.id_of_get? hs,
      ih fun i hi => hids i (List.mem_cons_of_mem _ hi)]

/-- The symbols of the ids of a table are its symbols. -/
theorem filterMap_get?_ids (h : t.Built) : t.ids.filterMap t.get? = t.symbols.toList := by
  unfold ids
  rw [List.filterMap_map]
  have hget : ∀ s ∈ t.symbols.toList, (t.get? ∘ Symbol.id) s = some s := fun s hs =>
    h.get?_id (Array.mem_toList_iff.mp hs)
  rw [List.filterMap_congr hget, List.filterMap_some]

/-- The shares of all members of an alias group add up to the value on which they agree. -/
theorem sum_filterMap_aliasShare (h : t.Built) {value : Symbol → Int} {ids : List SymbolId}
    (hagree : AliasesAgree value (ids.filterMap t.get?)) {g : AliasGroupId}
    (hperm : ids.Perm (t.aliasMembers g)) {id : SymbolId} {s : Symbol} (hid : id ∈ ids)
    (hs : t.get? id = some s) :
    ((ids.filterMap t.get?).map fun s => t.aliasShare s (value s)).sum = value s := by
  have hknown : ∀ i ∈ ids, ∃ s, t.get? i = some s := fun i hi =>
    (h.exists_of_mem_aliasMembers (hperm.subset hi)).imp fun _ => And.left
  have hgroup : ∀ s' ∈ ids.filterMap t.get?, s'.aliasGroup = some g := by
    intro s' hs'
    obtain ⟨i, hi, hget⟩ := List.mem_filterMap.mp hs'
    exact (h.aliasGroup_iff hget g).mpr (hperm.subset hi)
  have hmem : s ∈ ids.filterMap t.get? := List.mem_filterMap.mpr ⟨id, hid, hs⟩
  have hsame : ∀ s' ∈ ids.filterMap t.get?, t.aliasShare s' (value s') =
      t.aliasShare s' (value s) := by
    intro s' hs'
    have hg := hgroup s' hs'
    rw [hagree s' hs' s hmem (by simp [hg]) (hg.trans (hgroup s hmem).symm)]
  rw [List.map_congr_left hsame]
  refine h.sum_aliasShare ?_ (List.ne_nil_of_mem hmem) hgroup _
  rwa [h.map_id_filterMap_get? hknown]

end Built

/-- A table of symbols with one record that are all aliases of each other. -/
def clones (r : SymbolRecord) (count : Nat) : Table :=
  { stamp := ⟨0⟩
    symbols := ((List.range count).map fun i =>
      { Symbol.ofRecord ⟨i⟩ r with aliasGroup := some ⟨0⟩, numAliases := count }).toArray
    aliasGroups := #[(List.range count).map SymbolId.mk] }

/-- Aliases of one record are made by pushing it again and again and declaring the symbols an alias
group. -/
theorem built_clones (r : SymbolRecord) {count : Nat} (htwo : 2 ≤ count)
    (hcap : count ≤ tableCapacity) : (clones r count).Built := by
  -- The builder after `n` records, which the run joins to one alias group.
  let pushed (n : Nat) : Builder :=
    { symbols := ((List.range n).map fun i => Symbol.ofRecord ⟨i⟩ r).toArray }
  have hsize : ∀ n, (pushed n).size = n := fun n => by simp [pushed, Builder.size]
  have hpushed : ∀ n ≤ tableCapacity, (pushed n).Built := by
    intro n
    induction n with
    | zero => exact fun _ => .empty
    | succ n ih =>
      intro hn
      have hpush : (pushed n).push r = .ok (⟨n⟩, pushed (n + 1)) := by
        rw [Builder.push_eq, hsize, if_pos (by omega)]
        simp [pushed, Builder.pushed, Builder.size, List.range_succ, Symbol.ofRecord]
      exact (ih (by omega)).push hpush
  have hjoin := ((pushed count).addAliasGroup_eq_ok_iff ((List.range count).map SymbolId.mk) ⟨0⟩
    ((pushed count).joined ((List.range count).map SymbolId.mk))).mpr
  refine ⟨_, (hpushed count hcap).addAliasGroup
    (hjoin ⟨⟨by simpa, ?_, ?_, r.address, ?_⟩, rfl, rfl⟩), ⟨0⟩, ?_⟩
  · exact List.nodup_range.map fun a b hab => congrArg SymbolId.index hab
  · simp [pushed, tableCapacity]
  · intro id hid
    obtain ⟨i, hi, rfl⟩ := List.mem_map.mp hid
    have hlt := List.mem_range.mp hi
    exact ⟨Symbol.ofRecord ⟨i⟩ r, by simp [pushed, hlt], rfl, rfl⟩
  · have hsymbols : (pushed count).symbols.map
        (Symbol.join ⟨0⟩ ((List.range count).map SymbolId.mk)) = (clones r count).symbols := by
      rw [List.map_toArray, List.map_map]
      refine congrArg List.toArray (List.map_congr_left fun i hi => ?_)
      simp [Symbol.join, Symbol.ofRecord, List.mem_range.mp hi]
    exact congrArg (Table.mk ⟨0⟩ · #[(List.range count).map SymbolId.mk]) hsymbols

end Table

end Footprint
