import Mathlib.Data.List.Zip
import Footprint.Proofs.Diff.Kept

/-!
# The pairing by names

`matchUp` goes through the second list and takes partners off the first. What it pairs under one key
is nonetheless symmetric in the two lists: the first elements with the key, one by one
(`filter_matched`). So the pairing of two trees mirrors the pairing of the trees in the other order
(`mirrors_byName`).
-/

namespace Footprint

namespace Pairing

/-- One pairing is the other with the two sides swapped. -/
structure Mirrors (p q : Pairing) : Prop where
  /-- What is added on one side is removed on the other. -/
  added : ∀ id, id ∈ p.added ↔ id ∈ q.removed
  /-- What is removed on one side is added on the other. -/
  removed : ∀ id, id ∈ p.removed ↔ id ∈ q.added
  /-- The pairs are swapped. -/
  similar : ∀ old new, (old, new) ∈ p.similar ↔ (new, old) ∈ q.similar

/-- Two pairings mirror each other. -/
theorem Mirrors.symm {p q : Pairing} (h : p.Mirrors q) : q.Mirrors p :=
  ⟨fun id => (h.removed id).symm, fun id => (h.added id).symm,
    fun old new => (h.similar new old).symm⟩

/-- The symbols that `matchUp` pairs. -/
def matched : (before after : List Symbol) → List (Symbol × Symbol)
  | _, [] => []
  | before, a :: after =>
    match before.find? (·.matchKey == a.matchKey) with
    | some b => (b, a) :: matched (before.eraseP (·.matchKey == a.matchKey)) after
    | none => matched before after

/-- The pairs are those of the matched symbols. -/
theorem similar_matchUp (before after : List Symbol) :
    (matchUp before after).similar = (matched before after).map fun p => (p.1.id, p.2.id) := by
  fun_induction matched before after with
  | case1 => rfl
  | case2 before a after b hfind ih => simp [matchUp, hfind, ih]
  | case3 before a after hfind ih => simp [matchUp, hfind, ih]

/-- The element that is found, between those before it, which are not of the kind, and the others,
which stay when it is taken off. -/
theorem exists_append_of_find? {α : Type} {p : α → Bool} {xs : List α} {x : α}
    (h : xs.find? p = some x) : ∃ as bs, xs = as ++ x :: bs ∧ xs.eraseP p = as ++ bs ∧
      p x ∧ ∀ a ∈ as, p a = false := by
  obtain ⟨hx, as, bs, rfl, has⟩ := List.find?_eq_some_iff_append.mp h
  have has : ∀ a ∈ as, p a = false := fun a ha => by simpa using has a ha
  refine ⟨as, bs, rfl, ?_, hx, has⟩
  rw [List.eraseP_append_right _ fun a ha => by simp [has a ha], List.eraseP_cons_of_pos hx]

/-- The pairs under a key are made of the first elements with the key of both lists. -/
theorem filter_matched (k : MatchKey) (before after : List Symbol) :
    (matched before after).filter (·.2.matchKey == k) =
      (before.filter (·.matchKey == k)).zip (after.filter (·.matchKey == k)) := by
  fun_induction matched before after with
  | case1 => simp
  | case2 before a after b hfind ih =>
    obtain ⟨as, bs, hbefore, herase, hb, has⟩ := exists_append_of_find? hfind
    have hkey : b.matchKey = a.matchKey := by simpa using hb
    rw [herase] at ih ⊢
    rw [hbefore]
    -- The pair that is made counts for its own key only, and no symbol before `b` has that key.
    by_cases hk : a.matchKey = k
    · have hnil : as.filter (·.matchKey == k) = [] := by
        rw [List.filter_eq_nil_iff]
        intro s hs
        rw [← hk, has s hs]
        exact Bool.false_ne_true
      simp [hkey, hk, hnil, ih]
    · simp [hkey, hk, ih]
  | case3 before a after hfind ih =>
    -- Without a partner the first list has no symbol with the key of `a`.
    by_cases hk : a.matchKey = k
    · have hnil : before.filter (·.matchKey == k) = [] := by
        rw [List.filter_eq_nil_iff, ← hk]
        exact List.find?_eq_none.mp hfind
      simp [hk, hnil, ih]
    · simp [hk, ih]

/-- Symbols that are matched are among those of the lists with their key. -/
theorem mem_zip_of_mem_matched {before after : List Symbol} {b a : Symbol}
    (h : (b, a) ∈ matched before after) : (b, a) ∈ (before.filter (·.matchKey == a.matchKey)).zip
      (after.filter (·.matchKey == a.matchKey)) := by
  rw [← filter_matched]
  exact List.mem_filter.mpr ⟨h, by simp⟩

/-- Symbols that are matched are one of each list, with the same key. -/
theorem of_mem_matched {before after : List Symbol} {b a : Symbol}
    (h : (b, a) ∈ matched before after) : b ∈ before ∧ a ∈ after ∧ b.matchKey = a.matchKey := by
  obtain ⟨hb, ha⟩ := List.of_mem_zip (mem_zip_of_mem_matched h)
  obtain ⟨hb, hkey⟩ := List.mem_filter.mp hb
  exact ⟨hb, List.mem_of_mem_filter ha, by simpa using hkey⟩

/-- Symbols that are matched are matched with the lists in the other order, too. -/
theorem mem_matched_of_mem {before after : List Symbol} {b a : Symbol}
    (h : (b, a) ∈ matched before after) : (a, b) ∈ matched after before := by
  have hzip := mem_zip_of_mem_matched h
  have hswap : (a, b) ∈ (after.filter (·.matchKey == a.matchKey)).zip
      (before.filter (·.matchKey == a.matchKey)) := by
    rw [← List.zip_swap]
    exact List.mem_map.mpr ⟨(b, a), hzip, rfl⟩
  rw [← filter_matched] at hswap
  exact (List.mem_filter.mp hswap).1

/-- The pairs with the lists in the other order are swapped. -/
theorem mem_similar_matchUp (before after : List Symbol) (old new : SymbolId) :
    (old, new) ∈ (matchUp before after).similar ↔ (new, old) ∈ (matchUp after before).similar := by
  -- One direction is the other for the lists in the other order.
  have hswap : ∀ {before after : List Symbol} {old new : SymbolId},
      (old, new) ∈ (matchUp before after).similar →
        (new, old) ∈ (matchUp after before).similar := by
    intro before after old new h
    rw [similar_matchUp] at h ⊢
    obtain ⟨⟨b, a⟩, hmem, heq⟩ := List.mem_map.mp h
    obtain ⟨rfl, rfl⟩ := Prod.mk.inj heq
    exact List.mem_map.mpr ⟨(a, b), mem_matched_of_mem hmem, rfl⟩
  exact ⟨hswap, hswap⟩

/-- Every symbol of the second list is added or paired. -/
theorem afterIds_byName_perm (before after : List Symbol) :
    (byName before after).afterIds.Perm (after.map Symbol.id) := by
  have hmatch : ((matchUp before after).added ++ (matchUp before after).similar.map Prod.snd).Perm
      (after.map Symbol.id) := by
    fun_induction matchUp before after with
    | case1 => exact .nil
    | case2 before a after b hfind rest ih =>
      -- The symbol goes to the pairs, which come after what is added.
      exact List.perm_middle.trans (ih.cons a.id)
    | case3 before a after hfind rest ih => exact ih.cons a.id
  exact hmatch

/-- The symbols that are taken off the first list are distinct ones of it. -/
theorem subperm_matched (before after : List Symbol) :
    ((matched before after).map Prod.fst).Subperm before := by
  fun_induction matched before after with
  | case1 => exact List.nil_subperm
  | case2 before a after b hfind ih =>
    obtain ⟨as, bs, hbefore, herase, -, -⟩ := exists_append_of_find? hfind
    rw [herase] at ih ⊢
    rw [hbefore]
    exact ((List.subperm_cons b).mpr ih).trans List.perm_middle.symm.subperm
  | case3 before a after hfind ih => exact ih

/-- Every symbol of the first list is removed or paired, when no two have one id. -/
theorem beforeIds_byName_perm {before : List Symbol} (after : List Symbol)
    (h : (before.map Symbol.id).Nodup) :
    (byName before after).beforeIds.Perm (before.map Symbol.id) := by
  have hfst : (matchUp before after).similar.map Prod.fst =
      ((matched before after).map Prod.fst).map Symbol.id := by
    rw [similar_matchUp, List.map_map, List.map_map]
    rfl
  obtain ⟨taken, htaken, hsub⟩ := subperm_matched before after
  have htaken := htaken.map Symbol.id
  have hsub := hsub.map Symbol.id
  have hnodup : ((matchUp before after).similar.map Prod.fst).Nodup := by
    rw [hfst]
    exact htaken.nodup_iff.mp (h.sublist hsub)
  have hsubset : (matchUp before after).similar.map Prod.fst ⊆ before.map Symbol.id := by
    rw [hfst]
    exact List.Subset.trans htaken.symm.subset hsub.subset
  have hpaired : ((before.map Symbol.id).filter
      ((matchUp before after).similar.map Prod.fst).contains).Perm
      ((matchUp before after).similar.map Prod.fst) := by
    rw [List.perm_ext_iff_of_nodup (h.filter _) hnodup]
    intro id
    rw [List.mem_filter, List.contains_iff_mem]
    exact and_iff_right_of_imp fun hid => hsubset hid
  -- What is removed is all that is not paired.
  have hsplit := List.filter_append_perm ((matchUp before after).similar.map Prod.fst).contains
    (before.map Symbol.id)
  exact List.perm_append_comm.trans ((hpaired.symm.append_right _).trans hsplit)

/-- The pairing by names mirrors the one of the lists in the other order. -/
theorem mirrors_byName {before after : List Symbol} (hb : (before.map Symbol.id).Nodup)
    (ha : (after.map Symbol.id).Nodup) : (byName before after).Mirrors (byName after before) := by
  -- What is added on one side and what is removed on the other are both what is not paired.
  have hadded : ∀ {before after : List Symbol}, (after.map Symbol.id).Nodup →
      ∀ id, id ∈ (byName before after).added ↔ id ∈ (byName after before).removed := by
    intro before after ha id
    have hperm := afterIds_byName_perm before after
    have hdisjoint := (List.nodup_append.mp (hperm.nodup_iff.mpr ha)).2.2
    have hpaired : id ∈ (matchUp before after).similar.map Prod.snd ↔
        id ∈ (matchUp after before).similar.map Prod.fst := by
      simp only [List.mem_map, Prod.exists, exists_eq_right, exists_and_right]
      exact exists_congr fun old => mem_similar_matchUp _ _ old id
    have hlisted : id ∈ after.map Symbol.id ↔ id ∈ (byName before after).added ∨
        id ∈ (matchUp before after).similar.map Prod.snd := by
      rw [← hperm.mem_iff, afterIds, List.mem_append]
      rfl
    have hremoved : id ∈ (byName after before).removed ↔ id ∈ after.map Symbol.id ∧
        id ∉ (matchUp after before).similar.map Prod.fst := by
      simp [byName]
    rw [hremoved, hlisted, ← hpaired]
    constructor
    · exact fun hid => ⟨.inl hid, fun hid' => hdisjoint id hid id hid' rfl⟩
    · exact fun hid => hid.1.resolve_right hid.2
  exact ⟨hadded ha, fun id => (hadded hb id).symm, fun old new => mem_similar_matchUp _ _ old new⟩

end Pairing

end Footprint
