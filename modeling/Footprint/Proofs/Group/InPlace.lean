import Footprint.Group.Order
import Footprint.Proofs.Group.Destinations

/-!
# The order of the members that a grouping keeps direct

The members with a rare token that a grouping keeps come out token by token. Those with one token stay in
their order, but all of them do only if they stand next to each other before
(`groupedByWith_inPlace_iff`): in a list that lists tokens alternately, members move, also when the list is
in the order of a sort and the result is said to be so, too (`groupedBy_scattered`).
-/

namespace Footprint

/-- No element with another token stands between two elements with one token. -/
def Contiguous {α : Type} (token : α → Option String) (xs : List α) : Prop :=
  ∀ x y z, [x, y, z].Sublist xs → token x = token z → token y = token x

section Contiguous

variable {α : Type} {token : α → Option String} {xs : List α}

/-- A part of a contiguous list is contiguous. -/
theorem Contiguous.sublist {ys : List α} (h : Contiguous token xs) (hys : ys.Sublist xs) :
    Contiguous token ys := fun x y z hxyz => h x y z (hxyz.trans hys)

/-- Lists that stand under different tokens are contiguous, one after the other. -/
theorem contiguous_flatMap {parts : List (String × List α)} (hkeys : (parts.map Prod.fst).Nodup)
    (htoken : ∀ p ∈ parts, ∀ x ∈ p.2, token x = some p.1) :
    Contiguous token (parts.flatMap Prod.snd) := by
  induction parts with
  | nil => exact fun x y z h => nomatch h
  | cons p parts ih =>
    rw [List.map_cons, List.nodup_cons] at hkeys
    rw [List.forall_mem_cons] at htoken
    intro x y z hxyz hxz
    rw [List.flatMap_cons, List.sublist_append_iff] at hxyz
    obtain ⟨front, rest, hsplit, hfront, hrest⟩ := hxyz
    cases front with
    | nil =>
      rw [List.nil_append] at hsplit
      exact ih hkeys.2 htoken.2 x y z (hsplit ▸ hrest) hxz
    | cons a front =>
      rw [List.cons_append, List.cons.injEq] at hsplit
      obtain ⟨rfl, htail⟩ := hsplit
      have hx : token x = some p.1 := htoken.1 x (hfront.subset List.mem_cons_self)
      -- The last one has the token of the first one, so that all three are under it.
      have hz : z ∉ rest := by
        intro hz
        obtain ⟨q, hq, hzq⟩ := List.mem_flatMap.mp (hrest.subset hz)
        rw [htoken.2 q hq z hzq, hx, Option.some.injEq] at hxz
        exact hkeys.1 (List.mem_map.mpr ⟨q, hq, hxz.symm⟩)
      have hnil : rest = [] := by
        obtain hnil | ⟨init, w, rfl⟩ := List.eq_nil_or_concat' rest
        · exact hnil
        · have hlast : z = w := by simpa using congrArg List.getLast? htail
          exact absurd (hlast ▸ List.mem_concat_self) hz
      subst hnil
      rw [List.append_nil] at htail
      have hy : y ∈ x :: front := by simp [← htail]
      rw [htoken.1 y (hfront.subset hy), hx]

/-- The elements that pass a test stand before the others if none of the others stands before one that
passes. -/
theorem filter_append_filter_not {p : α → Bool} (h : ∀ y z, [y, z].Sublist xs → p z → p y) :
    xs.filter p ++ xs.filter (!p ·) = xs := by
  induction xs with
  | nil => rfl
  | cons x xs ih =>
    have hxs := ih fun y z hyz => h y z (hyz.cons x)
    by_cases hx : p x
    · simp [hx, hxs]
    · have hnone : ∀ z ∈ xs, p z = false := fun z hz => by
        simpa [hx] using h x z (.cons_cons x (List.singleton_sublist.mpr hz))
      have hnil : xs.filter p = [] := List.filter_eq_nil_iff.mpr fun z hz => by simp [hnone z hz]
      have hself : xs.filter (!p ·) = xs := List.filter_eq_self.mpr fun z hz => by simp [hnone z hz]
      simp [hx, hnil, hself]

/-- Gathering elements that all have a token leaves them in their places exactly when they are
contiguous. -/
theorem flatMap_gather_eq_self_iff (hsome : ∀ x ∈ xs, (token x).isSome) :
    (gather token xs).flatMap Prod.snd = xs ↔ Contiguous token xs := by
  constructor
  · intro h
    rw [← h]
    refine contiguous_flatMap ?_ fun p hp x hx => token_of_mem_gather token xs hp hx
    rw [gather, List.map_map]
    exact (List.map_id _).symm ▸ nodup_tokensOf token xs
  · intro h
    induction xs using filterInduction with
    | nil => rfl
    | cons x xs ih =>
      obtain ⟨t, hx⟩ := Option.isSome_iff_exists.mp (hsome x List.mem_cons_self)
      have hothers := ih (fun y => token y != some t)
        (fun y hy => hsome y (List.mem_cons_of_mem x (List.mem_of_mem_filter hy)))
        (h.sublist (List.filter_sublist.trans (List.sublist_cons_self x xs)))
      have hfront : ∀ y z, [y, z].Sublist xs → token z == some t → token y == some t := by
        intro y z hyz hz
        rw [beq_iff_eq] at hz ⊢
        exact (h x y z (hyz.cons_cons x) (hx.trans hz.symm)).trans hx
      rw [gather_cons token xs hx, List.flatMap_cons, hothers, List.cons_append]
      exact congrArg (List.cons x) (filter_append_filter_not hfront)

/-- Gathering keeps the order of the elements with one token. -/
theorem withToken_flatMap_gather (hsome : ∀ x ∈ xs, (token x).isSome) (t : String) :
    withToken token ((gather token xs).flatMap Prod.snd) t = withToken token xs t := by
  refine filter_flatMap_gather token _ hsome (List.pairwise_of_forall fun x y hy _ z _ hz => ?_)
  rw [beq_iff_eq.mp hz, beq_iff_eq.mp hy]

end Contiguous

namespace Group

/-- The direct members of a grouping that are not new are those that stay, token by token. -/
theorem others_groupedByWith {g : Group} {stamp : Stamp} (hfresh : g.Fresh stamp)
    (token : Node → Option String) (minCount : Int) (label : String → List Node → Label) :
    (g.groupedByWith stamp token minCount label).others stamp =
      (gather token (g.boundFor token minCount .direct)).flatMap Prod.snd := by
  have hothers : (g.groupedByWith stamp token minCount label).others stamp =
      if decide (0 ≤ minCount) then rareNodes token minCount.natAbs g.members else [] :=
    g.filter_not_madeBy_nestByToken (fun place => ⟨stamp, [place]⟩) token _ _ label g.members
      (fun _ => rfl) hfresh
  rw [hothers, g.boundFor_direct]
  by_cases hmin : 0 ≤ minCount
  · simp [hmin, rareNodes]
  · simp [hmin, gather, tokensOf]

/-- The members that stay direct have tokens. -/
theorem isSome_of_mem_boundFor_direct {g : Group} {token : Node → Option String} {minCount : Int}
    {n : Node} (hn : n ∈ g.boundFor token minCount .direct) : (token n).isSome := by
  have hdirect := beq_iff_eq.mp (List.mem_filter.mp hn).2
  obtain ⟨-, t, ht, -⟩ := (g.destination_eq_direct_iff token minCount).mp hdirect
  exact Option.isSome_of_mem ht

/-- When all members stay, the result has the lists of their tokens one after the other. -/
theorem members_groupedByWith_of_direct {g : Group} {token : Node → Option String} {minCount : Int}
    (h : ∀ n ∈ g.members, g.destination token minCount n = .direct) (stamp : Stamp)
    (label : String → List Node → Label) :
    (g.groupedByWith stamp token minCount label).members =
      (gather token g.members).flatMap Prod.snd := by
  rw [← flatMap_zipIdx (gather token g.members) (fun q => q.1.2) Prod.snd fun _ => rfl]
  refine List.flatMap_congr fun ⟨p, place⟩ hq => ?_
  have hp : p ∈ gather token g.members := List.fst_mem_of_mem_zipIdx hq
  -- Any one of the members with the token tells that it is a rare one.
  obtain ⟨n, hn⟩ := List.exists_mem_of_ne_nil _ (ne_nil_of_mem_gather token _ hp)
  obtain ⟨t, -, rfl⟩ := List.mem_map.mp hp
  obtain ⟨hn, ht⟩ := (mem_withToken token _).mp hn
  obtain ⟨hmin, t', ht', hrare⟩ := (g.destination_eq_direct_iff token minCount).mp (h n hn)
  obtain rfl := Option.some.inj (ht'.symm.trans ht)
  simp [hmin, hrare]

end Group

/-- The members that a grouping keeps direct keep their order token by token, and as a whole just when
none of them with another token stands between two with one token. The same goes for the whole list
when no token is grouped: the result is said to be sorted when the list is, but it only has the members
in their order when the list is contiguous. -/
theorem groupedByWith_inPlace_iff {g : Group} {stamp : Stamp} (hfresh : g.Fresh stamp)
    (token : Node → Option String) (minCount : Int) (label : String → List Node → Label) :
    let r := g.groupedByWith stamp token minCount label
    let ungrouped := g.boundFor token minCount .direct
    (∀ t, withToken token (r.others stamp) t = withToken token ungrouped t) ∧
      (r.others stamp = ungrouped ↔ Contiguous token ungrouped) ∧
      ((∀ n ∈ g.members, g.destination token minCount n = .direct) →
        r.isSorted = g.isSorted ∧ (r.members = g.members ↔ Contiguous token g.members)) := by
  intro r ungrouped
  have hothers : r.others stamp = (gather token ungrouped).flatMap Prod.snd :=
    Group.others_groupedByWith hfresh token minCount label
  have hsome : ∀ n ∈ ungrouped, (token n).isSome := fun _ => Group.isSome_of_mem_boundFor_direct
  have hiff : r.others stamp = ungrouped ↔ Contiguous token ungrouped := by
    rw [hothers]
    exact flatMap_gather_eq_self_iff hsome
  refine ⟨fun t => ?_, hiff, fun hdirect => ⟨rfl, ?_⟩⟩
  · rw [hothers]
    exact withToken_flatMap_gather hsome t
  · have hungrouped : ungrouped = g.members :=
      List.filter_eq_self.mpr fun n hn => beq_iff_eq.mpr (hdirect n hn)
    rw [Group.members_groupedByWith_of_direct hdirect, ← hungrouped]
    exact flatMap_gather_eq_self_iff hsome

/-- Two symbols of `.text` around three of `.data`, of which only the latter are grouped: the two are
next to each other among the rest, so that they stay as they are. -/
theorem groupedByWith_around :
    let token (n : Node) := some n.facts.sectionName
    let g := Group.ofTable ⟨⟨0⟩, #[.ofRecord ⟨0⟩ { sectionName := ".text", size := 4 },
      .ofRecord ⟨1⟩ { sectionName := ".data", size := 4 },
      .ofRecord ⟨2⟩ { sectionName := ".data", size := 4 },
      .ofRecord ⟨3⟩ { sectionName := ".data", size := 4 },
      .ofRecord ⟨4⟩ { sectionName := ".text", size := 4 }], #[]⟩
    let r := g.groupedByWith ⟨1⟩ token 3 fun t _ => .named t
    (r.made ⟨1⟩).length = 1 ∧ Contiguous token (g.boundFor token 3 .direct) ∧
      r.others ⟨1⟩ = g.boundFor token 3 .direct := by
  intro token g r
  have hfresh : g.Fresh ⟨1⟩ := by decide
  obtain ⟨-, hiff, -⟩ := groupedByWith_inPlace_iff hfresh token 3 fun t _ => .named t
  have hinPlace : r.others ⟨1⟩ = g.boundFor token 3 .direct := rfl
  exact ⟨by decide +kernel, hiff.mp hinPlace, hinPlace⟩

/-- A symbol of `.data` between two of `.text`, sorted by name. No section has three members, so that
none is grouped, but the second symbol of `.text` moves in front of the one of `.data`, in a list that
is said to be sorted. -/
theorem groupedBy_scattered :
    let token (n : Node) := some n.facts.sectionName
    let list := Group.ofTable ⟨⟨0⟩,
      #[.ofRecord ⟨0⟩ { sectionName := ".text", size := 4, name := "a" },
        .ofRecord ⟨1⟩ { sectionName := ".data", size := 4, name := "b" },
        .ofRecord ⟨2⟩ { sectionName := ".text", size := 4, name := "c" }], #[]⟩
    let g := list.sortedByName
    let r := g.groupedBy ⟨1⟩ token 3
    (∀ n ∈ g.members, g.destination token 3 n = .direct) ∧
      g.members.map (·.facts.name) = ["a", "b", "c"] ∧
      r.members.map (·.facts.name) = ["a", "c", "b"] ∧ r.isSorted = true := by
  intro token list g r
  have hsorted : g = list.transformed list.members [] list.sectionLabel true := by
    refine congrArg (list.transformed · [] list.sectionLabel true) ?_
    exact List.mergeSort_of_pairwise (by decide +kernel)
  clear_value g
  subst hsorted
  decide +kernel

end Footprint
