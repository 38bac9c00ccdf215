import Footprint.Proofs.Diff.Matching
import Footprint.Proofs.Group.Leaves

/-!
# Ranks within a key

The pairing by names goes by rank: of the symbols with one key, the first of one list is paired with
the first of the other, the second with the second, and those of the longer list that are left stay
without a partner (`Pairing.ByRank`). `matched` and `unmatched` are what `matchUp` makes of the
second list, and under each key they are its first and its last symbols. The removed symbols are
found in a second pass over the first list, by their ids, which is why no two symbols of it may have
one id (`exists_removed_byName`).
-/

namespace Footprint

/-- The ids of the symbols with a key, in their order. -/
def idsWith (symbols : List Symbol) (k : MatchKey) : List SymbolId :=
  (symbols.filter (·.matchKey == k)).map Symbol.id

/-- The symbols of a list whose ids are distinct are those under their keys. -/
theorem mem_idsWith_iff {symbols : List Symbol} (h : (symbols.map Symbol.id).Nodup) {s : Symbol}
    (hs : s ∈ symbols) (k : MatchKey) : s.id ∈ idsWith symbols k ↔ s.matchKey = k := by
  simp only [idsWith, List.mem_map, List.mem_filter, beq_iff_eq]
  constructor
  · rintro ⟨t, ⟨ht, hkey⟩, hid⟩
    obtain rfl := List.inj_on_of_nodup_map h ht hs hid
    exact hkey
  · exact fun hkey => ⟨s, ⟨hs, hkey⟩, rfl⟩

/-- The ids under a key of some symbols of a list are those of their symbols with the key. -/
theorem filter_mem_idsWith {symbols part : List Symbol} (h : (symbols.map Symbol.id).Nodup)
    (hpart : part ⊆ symbols) (k : MatchKey) :
    ((part.map Symbol.id).filter fun id => id ∈ idsWith symbols k) = idsWith part k := by
  unfold idsWith
  rw [List.filter_map]
  refine congrArg _ (List.filter_congr fun s hs => ?_)
  rw [Bool.eq_iff_iff, beq_iff_eq, Function.comp_apply, decide_eq_true_eq]
  exact mem_idsWith_iff h (hpart hs) k

/-- The first components of the pairs of two lists. -/
theorem map_fst_zip_eq_take {α β : Type} (xs : List α) (ys : List β) :
    (xs.zip ys).map Prod.fst = xs.take ys.length := by
  induction xs generalizing ys with
  | nil => simp
  | cons x xs ih =>
    cases ys with
    | nil => rfl
    | cons y ys => simp [ih]

/-- A test that fails for just the first elements of a list without repetitions leaves the other
ones. -/
theorem filter_eq_drop {α : Type} {p : α → Bool} {xs : List α} (h : xs.Nodup) (n : Nat)
    (hp : ∀ x ∈ xs, p x = false ↔ x ∈ xs.take n) : xs.filter p = xs.drop n := by
  have hdisjoint := List.disjoint_take_drop h (Nat.le_refl n)
  have hfirst : (xs.take n).filter p = [] := by
    refine List.filter_eq_nil_iff.mpr fun x hx => ?_
    simpa using (hp x (List.mem_of_mem_take hx)).mpr hx
  have hrest : (xs.drop n).filter p = xs.drop n := by
    refine List.filter_eq_self.mpr fun x hx => ?_
    rw [← Bool.not_eq_false, hp x (List.mem_of_mem_drop hx)]
    exact fun hx' => hdisjoint hx' hx
  calc xs.filter p = (xs.take n ++ xs.drop n).filter p := by rw [List.take_append_drop]
    _ = xs.drop n := by rw [List.filter_append, hfirst, hrest, List.nil_append]

namespace Pairing

/-- A pairing of two lists of symbols goes by rank within each key and loses nothing. -/
structure ByRank (p : Pairing) (before after : List Symbol) : Prop where
  /-- The symbols of a pair have one key. -/
  sameKey : ∀ q ∈ p.similar, ∀ k, q.1 ∈ idsWith before k ↔ q.2 ∈ idsWith after k
  /-- The pairs under a key are those of the symbols of the same rank. -/
  similar : ∀ k, (p.similar.filter fun q => q.2 ∈ idsWith after k) =
    (idsWith before k).zip (idsWith after k)
  /-- The added symbols under a key are the ones after those that the first list has partners
  for. -/
  added : ∀ k, (p.added.filter fun id => id ∈ idsWith after k) =
    (idsWith after k).drop (idsWith before k).length
  /-- The removed symbols under a key are the ones after those that the second list has partners
  for. -/
  removed : ∀ k, (p.removed.filter fun id => id ∈ idsWith before k) =
    (idsWith before k).drop (idsWith after k).length
  /-- The pairs are in the order of the second list. -/
  similar_sublist : (p.similar.map Prod.snd).Sublist (after.map Symbol.id)
  /-- The added symbols are in the order of the second list. -/
  added_sublist : p.added.Sublist (after.map Symbol.id)
  /-- The removed symbols are in the order of the first list. -/
  removed_sublist : p.removed.Sublist (before.map Symbol.id)
  /-- Each symbol of the second list is added or paired once. -/
  after_perm : p.afterIds.Perm (after.map Symbol.id)
  /-- Each symbol of the first list is removed or paired once. -/
  before_perm : p.beforeIds.Perm (before.map Symbol.id)

/-- The symbols of the second list for which `matchUp` finds no partner. -/
def unmatched : (before after : List Symbol) → List Symbol
  | _, [] => []
  | before, a :: after =>
    match before.find? (·.matchKey == a.matchKey) with
    | some _ => unmatched (before.eraseP (·.matchKey == a.matchKey)) after
    | none => a :: unmatched before after

/-- The added symbols are those without a partner. -/
theorem added_matchUp (before after : List Symbol) :
    (matchUp before after).added = (unmatched before after).map Symbol.id := by
  fun_induction unmatched before after with
  | case1 => rfl
  | case2 before a after b hfind ih => simp [matchUp, hfind, ih]
  | case3 before a after hfind ih => simp [matchUp, hfind, ih]

/-- The symbols without a partner are in the order of the second list. -/
theorem unmatched_sublist (before after : List Symbol) : (unmatched before after).Sublist after := by
  fun_induction unmatched before after with
  | case1 => exact List.nil_sublist _
  | case2 before a after b hfind ih => exact ih.cons a
  | case3 before a after hfind ih => exact ih.cons_cons a

/-- The partners in the second list are in its order. -/
theorem map_snd_matched_sublist (before after : List Symbol) :
    ((matched before after).map Prod.snd).Sublist after := by
  fun_induction matched before after with
  | case1 => exact List.nil_sublist _
  | case2 before a after b hfind ih => exact ih.cons_cons a
  | case3 before a after hfind ih => exact ih.cons a

/-- Under a key the symbols without a partner come after as many as the first list has. -/
theorem filter_unmatched (k : MatchKey) (before after : List Symbol) :
    (unmatched before after).filter (·.matchKey == k) =
      (after.filter (·.matchKey == k)).drop (before.filter (·.matchKey == k)).length := by
  fun_induction unmatched before after with
  | case1 => simp
  | case2 before a after b hfind ih =>
    obtain ⟨as, bs, hbefore, herase, hb, -⟩ := exists_append_of_find? hfind
    have hkey : b.matchKey = a.matchKey := by simpa using hb
    rw [ih, herase, hbefore]
    -- The partner that is taken makes up for the symbol that is passed over.
    by_cases hk : a.matchKey = k
    · simp [hkey, hk, ← Nat.add_assoc]
    · simp [hkey, hk]
  | case3 before a after hfind ih =>
    by_cases hk : a.matchKey = k
    -- Without a partner the first list has no symbol with the key of `a`.
    · have hnil : before.filter (·.matchKey == k) = [] := by
        rw [List.filter_eq_nil_iff, ← hk]
        exact List.find?_eq_none.mp hfind
      simp [hk, ih, hnil]
    · simp [hk, ih]

/-- The removed symbols are those of the first list that have no partner: in its order, and under
each key the ones after as many as the second list has. -/
theorem exists_removed_byName {before : List Symbol} (after : List Symbol)
    (h : (before.map Symbol.id).Nodup) :
    ∃ left : List Symbol, (byName before after).removed = left.map Symbol.id ∧
      left.Sublist before ∧ ∀ k, left.filter (·.matchKey == k) =
        (before.filter (·.matchKey == k)).drop (after.filter (·.matchKey == k)).length := by
  let partners := (matched before after).map fun p => p.1.id
  refine ⟨before.filter fun s => !partners.contains s.id, ?_, List.filter_sublist, fun k => ?_⟩
  · simp only [byName, similar_matchUp, List.map_map, List.filter_map]
    rfl
  -- A symbol with the key has a partner exactly when its rank is one that the second list has.
  have hpaired : ∀ s ∈ before.filter (·.matchKey == k), (!partners.contains s.id) = false ↔
      s ∈ (before.filter (·.matchKey == k)).take (after.filter (·.matchKey == k)).length := by
    intro s hs
    obtain ⟨hs, hkey⟩ := List.mem_filter.mp hs
    rw [Bool.not_eq_false', List.contains_iff_mem, ← map_fst_zip_eq_take, ← filter_matched,
      List.mem_map, List.mem_map]
    constructor
    · rintro ⟨⟨b, a⟩, hmem, hid⟩
      obtain ⟨hb, -, hsame⟩ := of_mem_matched hmem
      obtain rfl := List.inj_on_of_nodup_map h hb hs hid
      exact ⟨(b, a), List.mem_filter.mpr ⟨hmem, by simpa [← hsame] using hkey⟩, rfl⟩
    · rintro ⟨p, hp, rfl⟩
      exact ⟨p, List.mem_of_mem_filter hp, rfl⟩
  rw [← filter_eq_drop (h.of_map.filter _) _ hpaired, List.filter_filter, List.filter_filter]
  exact List.filter_congr fun s _ => Bool.and_comm _ _

/-- The pairing by names goes by rank. -/
theorem byRank_byName {before after : List Symbol} (hb : (before.map Symbol.id).Nodup)
    (ha : (after.map Symbol.id).Nodup) : (byName before after).ByRank before after := by
  have hsimilar : (byName before after).similar =
      (matched before after).map fun p => (p.1.id, p.2.id) := similar_matchUp before after
  have hadded : (byName before after).added = (unmatched before after).map Symbol.id :=
    added_matchUp before after
  have hsnd : (byName before after).similar.map Prod.snd =
      ((matched before after).map Prod.snd).map Symbol.id := by
    rw [hsimilar, List.map_map, List.map_map]
    rfl
  obtain ⟨left, hremoved, hleft, hdrop⟩ := exists_removed_byName after hb
  refine { sameKey := ?sameKey, similar := ?similar, added := ?added, removed := ?removed,
           similar_sublist := ?similar_sublist, added_sublist := ?added_sublist,
           removed_sublist := ?removed_sublist, after_perm := afterIds_byName_perm before after,
           before_perm := beforeIds_byName_perm after hb }
  case sameKey =>
    intro q hq k
    rw [hsimilar] at hq
    obtain ⟨⟨b, a⟩, hmem, rfl⟩ := List.mem_map.mp hq
    obtain ⟨hb', ha', hkey⟩ := of_mem_matched hmem
    rw [mem_idsWith_iff hb hb', mem_idsWith_iff ha ha', hkey]
  case similar =>
    intro k
    have hkey : ((matched before after).filter fun p => p.2.id ∈ idsWith after k) =
        (matched before after).filter fun p => p.2.matchKey == k := by
      refine List.filter_congr fun p hp => ?_
      rw [Bool.eq_iff_iff, beq_iff_eq, decide_eq_true_eq]
      exact mem_idsWith_iff ha (of_mem_matched hp).2.1 k
    calc ((byName before after).similar.filter fun q => q.2 ∈ idsWith after k)
        = ((matched before after).filter fun p => p.2.id ∈ idsWith after k).map
            fun p => (p.1.id, p.2.id) := by
          rw [hsimilar, List.filter_map]
          rfl
      _ = ((before.filter (·.matchKey == k)).zip (after.filter (·.matchKey == k))).map
            fun p => (p.1.id, p.2.id) := by rw [hkey, filter_matched]
      _ = (idsWith before k).zip (idsWith after k) := by
          rw [idsWith, idsWith, List.zip_map]
          rfl
  case added =>
    intro k
    rw [hadded, filter_mem_idsWith ha (unmatched_sublist before after).subset, idsWith,
      filter_unmatched, List.map_drop, idsWith, idsWith, List.length_map]
  case removed =>
    intro k
    rw [hremoved, filter_mem_idsWith hb hleft.subset, idsWith, hdrop, List.map_drop, idsWith,
      idsWith, List.length_map]
  case similar_sublist =>
    rw [hsnd]
    exact (map_snd_matched_sublist before after).map _
  case added_sublist =>
    rw [hadded]
    exact (unmatched_sublist before after).map _
  case removed_sublist =>
    rw [hremoved]
    exact hleft.map _

end Pairing

/-- The pairing of two trees by names goes by rank within each key, follows the order of the leaves
and has every leaf once, however the trees are nested. -/
theorem pair_byName_byRank {before after : Group} (hb : (before.leaves.map Symbol.id).Nodup)
    (ha : (after.leaves.map Symbol.id).Nodup) :
    (Matcher.byName.pair before after).ByRank before.leaves after.leaves :=
  Pairing.byRank_byName hb ha

/-- Some symbols of `.text`, named in the order of their ids. -/
def textSymbols (names : List String) : List Symbol :=
  names.zipIdx.map fun (fullName, place) =>
    .ofRecord ⟨place⟩ { sectionName := ".text", size := 0, fullName }

/-- A tree of two nested groups, the first of which has the first two of some symbols. -/
def splitTree (symbols : List Symbol) : Group :=
  let nested (place : Nat) (members : List Symbol) : Node :=
    .group ⟨⟨⟨0⟩, [place]⟩, {}, false, none⟩ (members.map Node.leaf)
  { table := ⟨⟨0⟩, symbols.toArray, #[]⟩
    members := [nested 0 (symbols.take 2), nested 1 (symbols.drop 2)] }

/-- The leaves of the tree are the symbols. -/
theorem leaves_splitTree (symbols : List Symbol) : (splitTree symbols).leaves = symbols := by
  rw [Group.leaves_eq_flatMap]
  simp only [splitTree, List.flatMap_cons, List.flatMap_nil, Node.leaves_group,
    flatMap_leaves_map_leaf, List.append_nil, List.take_append_drop]

/-- Three symbols of one name against two of it, with other names in between. -/
theorem pair_byName_byRank_split :
    let before := splitTree (textSymbols ["f", "g", "f", "f"])
    let after := splitTree (textSymbols ["f", "h", "f"])
    (Matcher.byName.pair before after).ByRank before.leaves after.leaves ∧
      Matcher.byName.pair before after =
        { similar := [(⟨0⟩, ⟨0⟩), (⟨2⟩, ⟨2⟩)], added := [⟨1⟩], removed := [⟨1⟩, ⟨3⟩] } := by
  intro before after
  have hbefore : before.leaves = textSymbols ["f", "g", "f", "f"] := leaves_splitTree _
  have hafter : after.leaves = textSymbols ["f", "h", "f"] := leaves_splitTree _
  refine ⟨pair_byName_byRank ?_ ?_, ?_⟩
  · rw [hbefore]
    decide
  · rw [hafter]
    decide
  · calc Matcher.byName.pair before after
        = .byName (textSymbols ["f", "g", "f", "f"]) (textSymbols ["f", "h", "f"]) := by
          rw [← hbefore, ← hafter]
          rfl
      _ = _ := by decide +kernel

end Footprint
