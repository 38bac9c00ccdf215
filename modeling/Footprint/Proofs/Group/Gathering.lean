import Mathlib.Data.List.Nodup
import Mathlib.Data.Option.Basic
import Footprint.Group.Grouping

/-!
# Gathering by a token

`gather` lists every token once and every element that has a token once, under its token. So the
gathered lists are a partition of the elements that have one (`flatMap_gather_perm`). Gathering moves
elements, but it keeps the order of those that pass a test when none of them has to move in front of
another one (`filter_flatMap_gather`).

Elements that are gathered by one token and then by another one end up under pairs of tokens
(`nestedTokens`), in the order in which the outer and then the inner ones are first seen
(`pairwise_nestedTokens`).
-/

namespace Footprint

/-- Induction over a list for proofs that leave out some of the elements behind the first one. -/
@[elab_as_elim]
theorem filterInduction {α : Type} {motive : List α → Prop} (nil : motive [])
    (cons : ∀ x xs, (∀ p : α → Bool, motive (xs.filter p)) → motive (x :: xs)) (xs : List α) :
    motive xs := by
  induction hn : xs.length using Nat.strongRecOn generalizing xs with
  | ind n ih =>
  cases xs with
  | nil => exact nil
  | cons x xs =>
    refine cons x xs fun p => ih (xs.filter p).length ?_ _ rfl
    rw [← hn]
    exact Nat.lt_succ_of_le (List.length_filter_le p xs)

/-- What is left of a list without its repetitions has none. -/
theorem nodup_eraseDups {α : Type} [BEq α] [LawfulBEq α] (xs : List α) : xs.eraseDups.Nodup := by
  induction xs using filterInduction with
  | nil => exact List.nodup_nil
  | cons x xs ih =>
    rw [List.eraseDups_cons, List.nodup_cons, List.mem_eraseDups]
    exact ⟨by simp, ih _⟩

/-- A list without repetitions is left as it is. -/
theorem eraseDups_of_nodup {α : Type} [BEq α] [LawfulBEq α] {xs : List α} (h : xs.Nodup) :
    xs.eraseDups = xs := by
  induction xs with
  | nil => rfl
  | cons x xs ih =>
    obtain ⟨hx, hxs⟩ := List.nodup_cons.mp h
    have hothers : (xs.filter fun y => !y == x) = xs := by
      refine List.filter_eq_self.mpr fun y hy => ?_
      have hne : y ≠ x := fun heq => hx (heq ▸ hy)
      simp [hne]
    rw [List.eraseDups_cons, hothers, ih hxs]

/-- The parts of a list under each of its keys, of which none is listed twice, are a partition of
the list. -/
theorem flatMap_filter_perm {α β : Type} [BEq β] [LawfulBEq β] (key : α → β) (keys : List β)
    (xs : List α) (hnodup : keys.Nodup) (hkeys : ∀ x ∈ xs, key x ∈ keys) :
    (keys.flatMap fun k => xs.filter fun x => key x == k).Perm xs := by
  induction keys generalizing xs with
  | nil =>
    have hxs : xs = [] := List.eq_nil_iff_forall_not_mem.mpr fun x hx => by simpa using hkeys x hx
    simp [hxs]
  | cons k keys ih =>
    obtain ⟨hk, hnodup⟩ := List.nodup_cons.mp hnodup
    have hrest := ih (xs.filter fun x => !key x == k) hnodup fun x hx => by
      obtain ⟨hx, hne⟩ := List.mem_filter.mp hx
      exact (List.mem_cons.mp (hkeys x hx)).resolve_left (by simpa using hne)
    -- The elements under the other keys are all among those that are not under this one.
    have hother : ∀ k' ∈ keys, ((xs.filter fun x => !key x == k).filter fun x => key x == k') =
        xs.filter fun x => key x == k' := by
      intro k' hk'
      rw [List.filter_filter]
      refine List.filter_congr fun x _ => ?_
      have hne : k' ≠ k := fun h => hk (h ▸ hk')
      by_cases hx : key x = k'
      · simp [hx, hne]
      · simp [hx]
    rw [List.flatMap_congr hother] at hrest
    rw [List.flatMap_cons]
    exact (hrest.append_left _).trans (List.filter_append_perm _ xs)

/-- A list that is made of numbered elements without regard to their numbers. -/
theorem flatMap_zipIdx {α β : Type} (xs : List α) (F : α × Nat → List β) (G : α → List β)
    (h : ∀ p, F p = G p.1) : xs.zipIdx.flatMap F = xs.flatMap G := by
  conv_rhs => rw [← List.zipIdx_map_fst 0 xs, List.flatMap_map]
  exact List.flatMap_congr fun p _ => h p

/-- A list that is made of the elements that pass a test. -/
theorem flatMap_filter {α β : Type} (p : α → Bool) (f : α → List β) (xs : List α) :
    (xs.filter p).flatMap f = xs.flatMap fun x => if p x then f x else [] := by
  induction xs with
  | nil => rfl
  | cons x xs ih =>
    rw [List.filter_cons, List.flatMap_cons, ← ih]
    split <;> simp

/-- Two tests in a row are the second one when that implies the first. -/
theorem filter_filter_of_imp {α : Type} {p q : α → Bool} {xs : List α}
    (h : ∀ x ∈ xs, p x → q x) : (xs.filter q).filter p = xs.filter p := by
  rw [List.filter_filter]
  refine List.filter_congr fun x hx => ?_
  cases hp : p x with
  | false => rfl
  | true => exact h x hx hp

/-- An element is the only one with its key when no key occurs twice. -/
theorem filter_key_eq_singleton {α β : Type} [BEq β] [LawfulBEq β] {key : α → β} {xs : List α}
    (h : (xs.map key).Nodup) {x : α} (hx : x ∈ xs) : xs.filter (key · == key x) = [x] := by
  obtain ⟨front, rest, rfl⟩ := List.append_of_mem hx
  have hother : ∀ y, y ∈ front ∨ y ∈ rest → key y ≠ key x := by
    rw [List.map_append, List.map_cons, List.nodup_middle, List.nodup_cons, ← List.map_append] at h
    exact fun y hy heq => h.1 (heq ▸ List.mem_map_of_mem (List.mem_append.mpr hy))
  have hfront : front.filter (key · == key x) = [] :=
    List.filter_eq_nil_iff.mpr fun y hy => by simp [hother y (.inl hy)]
  have hrest : rest.filter (key · == key x) = [] :=
    List.filter_eq_nil_iff.mpr fun y hy => by simp [hother y (.inr hy)]
  rw [List.filter_append, List.filter_cons_of_pos (by simp), hfront, hrest, List.nil_append]

/-- What passes a test is rid of its repetitions before the test or after it. -/
theorem eraseDups_filter {α : Type} [BEq α] [LawfulBEq α] (q : α → Bool) (xs : List α) :
    (xs.filter q).eraseDups = xs.eraseDups.filter q := by
  induction xs using filterInduction with
  | nil => rfl
  | cons x xs ih =>
    have hothers := ih fun y => !y == x
    rw [List.eraseDups_cons, List.filter_cons, List.filter_cons, ← hothers]
    split
    · rw [List.eraseDups_cons, List.filter_filter, List.filter_filter]
      simp only [Bool.and_comm]
    · next hx =>
      -- The first element does not pass, so that those that do are other ones.
      rw [filter_filter_of_imp]
      intro y _ hy
      have hne : y ≠ x := fun heq => hx (heq ▸ hy)
      simp [hne]

/-- Nothing passes two tests that exclude each other. -/
theorem filter_filter_eq_nil {α : Type} {p q : α → Bool} {xs : List α}
    (h : ∀ x ∈ xs, p x → ¬ q x) : (xs.filter q).filter p = [] := by
  rw [List.filter_eq_nil_iff]
  intro x hx hp
  obtain ⟨hx, hq⟩ := List.mem_filter.mp hx
  exact h x hx hp hq

section Gather

variable {α : Type} (token : α → Option String) (xs : List α)

/-- No token is gathered twice. -/
theorem nodup_tokensOf : (tokensOf token xs).Nodup :=
  nodup_eraseDups _

/-- The gathered tokens are those that the elements have. -/
theorem mem_tokensOf {t : String} : t ∈ tokensOf token xs ↔ ∃ x ∈ xs, token x = some t := by
  simp [tokensOf, List.mem_eraseDups]

/-- An element is gathered under its token only. -/
theorem mem_withToken {t : String} {x : α} :
    x ∈ withToken token xs t ↔ x ∈ xs ∧ token x = some t := by
  simp [withToken]

/-- No gathered list is empty. -/
theorem ne_nil_of_mem_gather {p : String × List α} (h : p ∈ gather token xs) : p.2 ≠ [] := by
  obtain ⟨t, ht, rfl⟩ := List.mem_map.mp h
  obtain ⟨x, hx, hxt⟩ := (mem_tokensOf token xs).mp ht
  exact List.ne_nil_of_mem ((mem_withToken token xs).mpr ⟨hx, hxt⟩)

/-- The gathered lists have elements of the list only. -/
theorem subset_of_mem_gather {p : String × List α} (h : p ∈ gather token xs) : p.2 ⊆ xs := by
  obtain ⟨t, -, rfl⟩ := List.mem_map.mp h
  exact List.filter_subset_self _

/-- The elements of a gathered list have its token. -/
theorem token_of_mem_gather {p : String × List α} (h : p ∈ gather token xs) {x : α}
    (hx : x ∈ p.2) : token x = some p.1 := by
  obtain ⟨t, -, rfl⟩ := List.mem_map.mp h
  exact ((mem_withToken token xs).mp hx).2

/-- The gathered lists together have the elements that have a token. -/
theorem flatMap_gather_perm :
    ((gather token xs).flatMap Prod.snd).Perm (xs.filter fun x => (token x).isSome) := by
  have hperm := flatMap_filter_perm token ((tokensOf token xs).map some)
    (xs.filter fun x => (token x).isSome)
    ((nodup_tokensOf token xs).map (Option.some_injective _)) fun x hx => by
      obtain ⟨hx, hsome⟩ := List.mem_filter.mp hx
      obtain ⟨t, ht⟩ := Option.isSome_iff_exists.mp hsome
      exact List.mem_map.mpr ⟨t, (mem_tokensOf token xs).mpr ⟨x, hx, ht⟩, ht.symm⟩
  -- An element with a given token has one.
  have hpart : ∀ t ∈ tokensOf token xs,
      ((xs.filter fun x => (token x).isSome).filter fun x => token x == some t) =
        withToken token xs t := by
    intro t _
    rw [List.filter_filter]
    refine List.filter_congr fun x _ => ?_
    cases token x with
    | none => rfl
    | some t' => simp
  rw [List.flatMap_map, List.flatMap_congr hpart] at hperm
  rw [gather, List.flatMap_map]
  exact hperm

/-- When every element has a token, the gathered lists together have the elements of the list. -/
theorem flatMap_gather_perm_of_isSome (h : ∀ x ∈ xs, (token x).isSome) :
    ((gather token xs).flatMap Prod.snd).Perm xs := by
  have hperm := flatMap_gather_perm token xs
  rwa [List.filter_eq_self.mpr h] at hperm

/-- The token of the first element comes first, and then the others. -/
theorem tokensOf_cons {x : α} {t : String} (hx : token x = some t) :
    tokensOf token (x :: xs) = t :: tokensOf token (xs.filter fun y => token y != some t) := by
  have hothers : (xs.filter fun y => token y != some t).filterMap token =
      (xs.filterMap token).filter fun u => !u == t := by
    rw [List.filterMap_filter, List.filter_filterMap]
    refine List.filterMap_congr fun y _ => ?_
    cases token y with
    | none => rfl
    | some u => by_cases hu : u = t <;> simp [hu, Option.filter]
  unfold tokensOf
  rw [List.filterMap_cons_some hx, List.eraseDups_cons, hothers]

/-- The other tokens are other ones than that of the first element. -/
theorem ne_of_mem_tokensOf_filter {t u : String}
    (h : u ∈ tokensOf token (xs.filter fun y => token y != some t)) : u ≠ t := by
  obtain ⟨y, hy, hyu⟩ := (mem_tokensOf token _).mp h
  rintro rfl
  simp [hyu] at hy

/-- The first element comes with all that share its token, and then the others are gathered. -/
theorem gather_cons {x : α} {t : String} (hx : token x = some t) :
    gather token (x :: xs) =
      (t, x :: withToken token xs t) :: gather token (xs.filter fun y => token y != some t) := by
  unfold gather
  rw [tokensOf_cons token xs hx, List.map_cons]
  congr 1
  · simp [withToken, hx]
  · refine List.map_congr_left fun u hu => ?_
    have hne : u ≠ t := ne_of_mem_tokensOf_filter token xs hu
    -- The elements with another token are all among the others.
    have hwith : withToken token (x :: xs) u = withToken token xs u := by
      simp [withToken, hx, hne.symm]
    rw [hwith, withToken, withToken, List.filter_filter]
    refine congrArg (Prod.mk u) (List.filter_congr fun z _ => ?_)
    by_cases hz : token z = some u
    · simp [hz, hne]
    · simp [hz]

/-- Lists that stand under different tokens, one after the other, are gathered as they are. -/
theorem gather_flatMap {parts : List (String × List α)} (hkeys : (parts.map Prod.fst).Nodup)
    (hne : ∀ p ∈ parts, p.2 ≠ []) (htoken : ∀ p ∈ parts, ∀ x ∈ p.2, token x = some p.1) :
    gather token (parts.flatMap Prod.snd) = parts := by
  induction parts with
  | nil => rfl
  | cons part parts ih =>
    obtain ⟨t, xs⟩ := part
    rw [List.map_cons, List.nodup_cons] at hkeys
    rw [List.forall_mem_cons] at hne htoken
    obtain ⟨x, xs, rfl⟩ := List.exists_cons_of_ne_nil hne.1
    obtain ⟨hx, hxs⟩ := List.forall_mem_cons.mp htoken.1
    have hothers : ∀ y ∈ parts.flatMap Prod.snd, token y ≠ some t := by
      intro y hy ht
      obtain ⟨p, hp, hy⟩ := List.mem_flatMap.mp hy
      rw [htoken.2 p hp y hy, Option.some.injEq] at ht
      exact hkeys.1 (List.mem_map.mpr ⟨p, hp, ht⟩)
    have hwith : withToken token (xs ++ parts.flatMap Prod.snd) t = xs := by
      rw [withToken, List.filter_append,
        List.filter_eq_self.mpr fun y hy => by simp [hxs y hy],
        List.filter_eq_nil_iff.mpr fun y hy => by simp [hothers y hy], List.append_nil]
    have hrest : (xs ++ parts.flatMap Prod.snd).filter (fun y => token y != some t) =
        parts.flatMap Prod.snd := by
      rw [List.filter_append, List.filter_eq_nil_iff.mpr fun y hy => by simp [hxs y hy],
        List.filter_eq_self.mpr fun y hy => by simp [hothers y hy], List.nil_append]
    rw [List.flatMap_cons, List.cons_append, gather_cons token _ hx, hwith, hrest,
      ih hkeys.2 hne.2 htoken.2]

/-- The elements whose token passes a test are gathered as they are among all elements. -/
theorem gather_filter (q : String → Bool) :
    gather token (xs.filter fun x => (token x).any q) = (gather token xs).filter fun p => q p.1 := by
  have htokens : tokensOf token (xs.filter fun x => (token x).any q) =
      (tokensOf token xs).filter q := by
    unfold tokensOf
    rw [← eraseDups_filter, List.filterMap_filter, List.filter_filterMap]
    refine congrArg List.eraseDups (List.filterMap_congr fun x _ => ?_)
    cases token x with
    | none => rfl
    | some t => simp [Option.filter]
  unfold gather
  rw [htokens, List.filter_map]
  refine List.map_congr_left fun t ht => congrArg (Prod.mk t) ?_
  have hq : q t := (List.mem_filter.mp ht).2
  unfold withToken
  refine filter_filter_of_imp fun x _ hx => ?_
  rw [beq_iff_eq.mp hx]
  exact hq

/-- Gathering keeps the order of the elements that pass a test if no such element has the token of
an earlier one, unless they all have it. -/
theorem filter_flatMap_gather (p : α → Bool) {xs : List α} (hsome : ∀ x ∈ xs, (token x).isSome)
    (hp : xs.Pairwise fun x y => p y → token x = token y → ∀ z ∈ xs, p z → token z = token y) :
    ((gather token xs).flatMap Prod.snd).filter p = xs.filter p := by
  induction xs using filterInduction with
  | nil => rfl
  | cons x xs ih =>
    obtain ⟨t, hx⟩ := Option.isSome_iff_exists.mp (hsome x List.mem_cons_self)
    obtain ⟨hfirst, hrest⟩ := List.pairwise_cons.mp hp
    have hsub : (xs.filter fun y => token y != some t) ⊆ xs := List.filter_subset_self _
    have hothers : ((gather token (xs.filter fun y => token y != some t)).flatMap Prod.snd).filter p =
        (xs.filter fun y => token y != some t).filter p := by
      refine ih _ (fun y hy => hsome y (List.mem_cons_of_mem x (hsub hy))) ?_
      refine (hrest.imp fun hyz hpz heq w hw => ?_).sublist List.filter_sublist
      exact hyz hpz heq w (List.mem_cons_of_mem x (hsub hw))
    rw [gather_cons token xs hx, List.flatMap_cons, List.filter_append, hothers, List.filter_cons,
      List.filter_cons]
    by_cases hshared : ∃ y ∈ xs, p y ∧ token y = some t
    · -- All that pass the test have the first token.
      obtain ⟨y, hy, hpy, hyt⟩ := hshared
      have hall : ∀ z ∈ xs, p z → token z = some t := fun z hz hpz =>
        (hfirst y hy hpy (hx.trans hyt.symm) z (List.mem_cons_of_mem x hz) hpz).trans hyt
      have hwith : (withToken token xs t).filter p = xs.filter p :=
        filter_filter_of_imp fun z hz hpz => by simp [hall z hz hpz]
      have hnone : (xs.filter fun y => token y != some t).filter p = [] :=
        filter_filter_eq_nil fun z hz hpz => by simp [hall z hz hpz]
      rw [hwith, hnone, List.append_nil]
    · -- Nothing that passes the test moves to the front.
      have hne : ∀ z ∈ xs, p z → token z ≠ some t := fun z hz hpz ht =>
        hshared ⟨z, hz, hpz, ht⟩
      have hwith : (withToken token xs t).filter p = [] :=
        filter_filter_eq_nil fun z hz hpz => by simp [hne z hz hpz]
      have hkeep : (xs.filter fun y => token y != some t).filter p = xs.filter p :=
        filter_filter_of_imp fun z hz hpz => by simp [hne z hz hpz]
      rw [hwith, hkeep]
      split <;> rfl

end Gather

/-- The tokens of the images of elements. -/
theorem tokensOf_map {α β : Type} (token : β → Option String) (f : α → β) (xs : List α) :
    tokensOf token (xs.map f) = tokensOf (fun x => token (f x)) xs := by
  rw [tokensOf, List.filterMap_map]
  rfl

/-- The images of elements with a token. -/
theorem withToken_map {α β : Type} (token : β → Option String) (f : α → β) (xs : List α)
    (t : String) :
    withToken token (xs.map f) t = (withToken (fun x => token (f x)) xs t).map f := by
  rw [withToken, List.filter_map]
  rfl

/-- Gathering the images of elements. -/
theorem gather_map {α β : Type} (token : β → Option String) (f : α → β) (xs : List α) :
    gather token (xs.map f) =
      (gather (fun x => token (f x)) xs).map fun q => (q.1, q.2.map f) := by
  unfold gather
  rw [tokensOf_map, List.map_map]
  exact List.map_congr_left fun t _ => congrArg (Prod.mk t) (withToken_map token f xs t)

/-- Which of two elements comes first is the same after a filter that keeps both. -/
theorem findIdx_filter_lt_iff {α : Type} (keep p q : α → Bool) (xs : List α) :
    (xs.filter keep).findIdx p < (xs.filter keep).findIdx q ↔
      xs.findIdx (fun x => keep x && p x) < xs.findIdx (fun x => keep x && q x) := by
  induction xs with
  | nil => rfl
  | cons x xs ih =>
    cases hk : keep x with
    | false => simp [List.findIdx_cons, hk, ih]
    | true => cases hp : p x <;> cases hq : q x <;> simp [List.findIdx_cons, hk, hp, hq, ih]

/-- The tokens are in the order in which they are first seen. -/
theorem pairwise_tokensOf {α : Type} (token : α → Option String) (xs : List α) :
    (tokensOf token xs).Pairwise fun t u =>
      xs.findIdx (token · == some t) < xs.findIdx (token · == some u) := by
  induction xs using filterInduction with
  | nil => exact .nil
  | cons x xs ih =>
    have hlater : ∀ v, token x ≠ some v →
        (x :: xs).findIdx (token · == some v) = xs.findIdx (token · == some v) + 1 := by
      intro v hv
      simp [List.findIdx_cons, beq_false_of_ne hv]
    cases hx : token x with
    | none =>
      have hnone : ∀ v, token x ≠ some v := fun v => by simp [hx]
      have hrest := ih fun _ => true
      rw [List.filter_true] at hrest
      rw [tokensOf, List.filterMap_cons_none hx]
      refine hrest.imp fun {t u} hlt => ?_
      rw [hlater t (hnone t), hlater u (hnone u)]
      exact Nat.succ_lt_succ hlt
    | some s =>
      have hother : ∀ v, v ≠ s → token x ≠ some v := fun v hv => by simpa [hx] using hv.symm
      rw [tokensOf_cons token xs hx, List.pairwise_cons]
      constructor
      · intro u hu
        rw [hlater u (hother u (ne_of_mem_tokensOf_filter _ xs hu))]
        simp [List.findIdx_cons, hx]
      · refine (ih _).imp_of_mem fun {t u} ht hu hlt => ?_
        have hskip : ∀ v, v ≠ s →
            (fun y => (token y != some s) && token y == some v) = (token · == some v) := by
          intro v hv
          funext y
          by_cases hy : token y = some v
          · simp [hy, hv]
          · simp [hy]
        have hne : t ≠ s := ne_of_mem_tokensOf_filter _ xs ht
        have hne' : u ≠ s := ne_of_mem_tokensOf_filter _ xs hu
        rw [findIdx_filter_lt_iff, hskip t hne, hskip u hne'] at hlt
        rw [hlater t (hother t hne), hlater u (hother u hne')]
        exact Nat.succ_lt_succ hlt

/-- The elements of two lists correspond when those that are made of each numbered element do,
whatever its number. -/
theorem forall₂_flatMap_zipIdx {α β γ : Type} {R : β → γ → Prop} {G : α → List β}
    {F : α × Nat → List γ} {xs : List α}
    (h : ∀ x ∈ xs, ∀ place, List.Forall₂ R (G x) (F (x, place))) :
    List.Forall₂ R (xs.flatMap G) (xs.zipIdx.flatMap F) := by
  generalize 0 = place
  induction xs generalizing place with
  | nil => exact .nil
  | cons x xs ih =>
    obtain ⟨hx, hxs⟩ := List.forall_mem_cons.mp h
    rw [List.zipIdx_cons, List.flatMap_cons, List.flatMap_cons]
    exact List.rel_append (hx place) (ih hxs (place + 1))

section NestedTokens

variable {α : Type} (outer inner : α → String) (xs : List α)

/-- The outer tokens with the inner tokens of their elements, in the order in which they are first
seen. -/
def nestedTokens : List (String × String) :=
  (tokensOf (fun x => some (outer x)) xs).flatMap fun t =>
    (tokensOf (fun x => some (inner x)) (withToken (fun x => some (outer x)) xs t)).map fun u =>
      (t, u)

/-- The elements with an outer token and with an inner one are those with both. -/
theorem withToken_withToken (t u : String) :
    withToken (fun x => some (inner x)) (withToken (fun x => some (outer x)) xs t) u =
      xs.filter fun x => (outer x, inner x) == (t, u) := by
  unfold withToken
  rw [List.filter_filter]
  refine List.filter_congr fun x _ => ?_
  rw [Bool.and_comm, Bool.eq_iff_iff]
  simp

/-- No pair of tokens is listed twice. -/
theorem nodup_nestedTokens : (nestedTokens outer inner xs).Nodup := by
  unfold nestedTokens
  rw [List.nodup_flatMap]
  constructor
  · intro t _
    exact (nodup_tokensOf _ _).map fun a b hab => congrArg Prod.snd hab
  · refine (nodup_tokensOf _ _).imp fun {a b} hne token ha hb => hne ?_
    obtain ⟨_, -, rfl⟩ := List.mem_map.mp ha
    obtain ⟨_, -, hb⟩ := List.mem_map.mp hb
    exact (congrArg Prod.fst hb).symm

/-- The pairs of tokens are those of the elements. -/
theorem mem_nestedTokens (token : String × String) :
    token ∈ nestedTokens outer inner xs ↔ ∃ x ∈ xs, (outer x, inner x) = token := by
  obtain ⟨t, u⟩ := token
  simp only [nestedTokens, List.mem_flatMap, List.mem_map, mem_tokensOf, mem_withToken,
    Option.some.injEq, Prod.mk.injEq]
  constructor
  · rintro ⟨_, -, _, ⟨x, ⟨hx, houter⟩, hinner⟩, rfl, rfl⟩
    exact ⟨x, hx, houter, hinner⟩
  · rintro ⟨x, hx, houter, hinner⟩
    exact ⟨t, ⟨x, hx, houter⟩, u, ⟨x, ⟨hx, houter⟩, hinner⟩, rfl, rfl⟩

/-- The pairs of tokens of the elements that are gathered under each outer token. -/
theorem nestedTokens_eq_flatMap_gather : nestedTokens outer inner xs =
    (gather (fun x => some (outer x)) xs).flatMap fun p =>
      (tokensOf (fun x => some (inner x)) p.2).map (Prod.mk p.1) := by
  rw [gather, List.flatMap_map]
  rfl

/-- The pairs of tokens of the images of elements. -/
theorem nestedTokens_map {β : Type} (outer inner : β → String) (f : α → β) (xs : List α) :
    nestedTokens outer inner (xs.map f) =
      nestedTokens (fun x => outer (f x)) (fun x => inner (f x)) xs := by
  unfold nestedTokens
  rw [tokensOf_map]
  refine List.flatMap_congr fun t _ => congrArg (List.map (Prod.mk t)) ?_
  rw [withToken_map, tokensOf_map]

/-- The pairs of tokens, listed as they are first seen, are first seen as they are listed. -/
theorem nestedTokens_nestedTokens :
    nestedTokens Prod.fst Prod.snd (nestedTokens outer inner xs) = nestedTokens outer inner xs := by
  let inners (t : String) :=
    tokensOf (fun x => some (inner x)) (withToken (fun x => some (outer x)) xs t)
  let parts := (tokensOf (fun x => some (outer x)) xs).map fun t => (t, (inners t).map (Prod.mk t))
  have hlist : nestedTokens outer inner xs = parts.flatMap Prod.snd := by
    rw [List.flatMap_map]
    rfl
  have hgather : gather (fun token : String × String => some token.1) (parts.flatMap Prod.snd) =
      parts := by
    refine gather_flatMap _ ?_ ?_ ?_
    · rw [List.map_map]
      exact (List.map_id _).symm ▸ nodup_tokensOf _ xs
    · intro p hp
      obtain ⟨t, ht, rfl⟩ := List.mem_map.mp hp
      obtain ⟨x, hx, hxt⟩ := (mem_tokensOf _ xs).mp ht
      have hinner : inner x ∈ inners t :=
        (mem_tokensOf _ _).mpr ⟨x, (mem_withToken _ xs).mpr ⟨hx, hxt⟩, rfl⟩
      exact List.ne_nil_of_mem (List.mem_map_of_mem hinner)
    · intro p hp token htoken
      obtain ⟨t, -, rfl⟩ := List.mem_map.mp hp
      obtain ⟨u, -, rfl⟩ := List.mem_map.mp htoken
      rfl
  rw [nestedTokens_eq_flatMap_gather, hlist, hgather, List.flatMap_map, List.flatMap_map]
  refine List.flatMap_congr fun t _ => congrArg (List.map (Prod.mk t)) ?_
  -- The inner tokens are listed once each.
  rw [tokensOf_map, tokensOf, List.filterMap_some]
  exact eraseDups_of_nodup (nodup_tokensOf _ _)

/-- Of two pairs of tokens the one comes first whose outer token is first seen first, and when they
have one outer token, the one that is first seen first. -/
def SeenBefore (a b : String × String) : Prop :=
  xs.findIdx (outer · == a.1) < xs.findIdx (outer · == b.1) ∨
    a.1 = b.1 ∧ xs.findIdx (fun x => (outer x, inner x) == a) <
      xs.findIdx (fun x => (outer x, inner x) == b)

/-- The pairs of tokens are in the order in which they are first seen, one outer token after the
other. -/
theorem pairwise_nestedTokens :
    (nestedTokens outer inner xs).Pairwise (SeenBefore outer inner xs) := by
  unfold nestedTokens
  rw [List.pairwise_flatMap]
  constructor
  · intro t _
    rw [List.pairwise_map]
    refine (pairwise_tokensOf _ _).imp fun {u v} hlt => .inr ⟨rfl, ?_⟩
    have hboth : ∀ w, (fun x => (some (outer x) == some t) && some (inner x) == some w) =
        fun x => (outer x, inner x) == (t, w) := by
      intro w
      funext x
      rw [Bool.eq_iff_iff]
      simp
    unfold withToken at hlt
    rwa [findIdx_filter_lt_iff, hboth u, hboth v] at hlt
  · refine (pairwise_tokensOf _ xs).imp fun {t u} hlt a ha b hb => .inl ?_
    obtain ⟨_, -, rfl⟩ := List.mem_map.mp ha
    obtain ⟨_, -, rfl⟩ := List.mem_map.mp hb
    exact hlt

end NestedTokens

end Footprint
