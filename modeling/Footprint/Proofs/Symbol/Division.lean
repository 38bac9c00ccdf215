import Mathlib.Data.Rat.Floor
import Footprint.Proofs.Snapshot.Loading
import Footprint.Proofs.Symbol.Shares

/-!
# How an amount is divided among aliases

The shares of an alias group, in the order of its declaration, are the parts of a division with
remainder (`Built.shares_eq`), also when the amount is negative: the quotient is rounded down, so
that the remainder is not negative and as many of the first members own one more.
-/

namespace Footprint

namespace Table

/-- The symbols of an alias group in the order of its declaration. -/
def aliasSymbols (t : Table) (g : AliasGroupId) : List Symbol :=
  (t.aliasMembers g).filterMap t.get?

/-- The shares of the members of an alias group in the order of its declaration. -/
def shares (t : Table) (g : AliasGroupId) (v : Int) : List Int :=
  (t.aliasSymbols g).map fun s => t.aliasShare s v

/-- The amount divided by the number of members of an alias group, rounded down. -/
def evenPart (t : Table) (g : AliasGroupId) (v : Int) : Int :=
  ⌊(v : ℚ) / (t.aliasMembers g).length⌋

/-- An amount is divided exactly, and as evenly as whole numbers can be. -/
structure DividesEvenly (t : Table) (g : AliasGroupId) (v : Int) : Prop where
  /-- Each declared member owns one share. -/
  members : (t.aliasSymbols g).map Symbol.id = t.aliasMembers g
  /-- The shares add up to the amount. -/
  sum_eq : (t.shares g v).sum = v
  /-- Every share is the even part or that plus one. -/
  even_or_succ : ∀ x ∈ t.shares g v, x = t.evenPart g v ∨ x = t.evenPart g v + 1
  /-- No member owns less than a later one. -/
  nonincreasing : (t.shares g v).Pairwise (· ≥ ·)
  /-- It is the first members that own one more, as many as the remainder says. -/
  succ_iff : ∀ {i : Nat} {x : Int}, (t.shares g v)[i]? = some x →
    (x = t.evenPart g v + 1 ↔ (i : Int) < v % (t.aliasMembers g).length)

/-- The even part is the quotient of the floor division. -/
theorem evenPart_eq (t : Table) (g : AliasGroupId) (v : Int) :
    t.evenPart g v = v / (t.aliasMembers g).length :=
  Rat.floor_intCast_div_natCast v _

/-- The earlier of two places gets no smaller part. -/
theorem shareAt_antitone (v : Int) (n : Nat) {i j : Nat} (h : i ≤ j) :
    shareAt v n j ≤ shareAt v n i := by
  unfold shareAt
  split_ifs <;> omega

namespace Built

variable {t : Table}

/-- The symbols of an alias group are its members. -/
theorem map_id_aliasSymbols (h : t.Built) (g : AliasGroupId) :
    (t.aliasSymbols g).map Symbol.id = t.aliasMembers g :=
  h.map_id_filterMap_get? fun _ hid => (h.exists_of_mem_aliasMembers hid).imp fun _ => And.left

/-- The symbols of an alias group belong to it. -/
theorem aliasGroup_of_mem_aliasSymbols (h : t.Built) {g : AliasGroupId} {s : Symbol}
    (hs : s ∈ t.aliasSymbols g) : s.aliasGroup = some g := by
  obtain ⟨id, hid, hget⟩ := List.mem_filterMap.mp hs
  exact (h.aliasGroup_iff hget g).mpr hid

/-- The shares are the parts of the division, from the first member to the last. -/
theorem shares_eq (h : t.Built) (g : AliasGroupId) (v : Int) :
    t.shares g v =
      (List.range (t.aliasMembers g).length).map (shareAt v (t.aliasMembers g).length) := by
  have hin : ∀ s ∈ t.aliasSymbols g, s.id ∈ t.aliasMembers g := fun s hs => by
    rw [← h.map_id_aliasSymbols g]
    exact List.mem_map_of_mem hs
  unfold shares
  rw [map_aliasShare (fun s hs => h.aliasGroup_of_mem_aliasSymbols hs) hin, h.map_id_aliasSymbols,
    ← map_idxOf_self (h.nodup_aliasMembers g), List.map_map]
  rfl

/-- An alias group of a table has members. -/
theorem length_aliasMembers_pos (h : t.Built) {g : AliasGroupId}
    (hg : g.index < t.aliasGroups.size) : 0 < (t.aliasMembers g).length := by
  have hget : t.aliasMembers g = t.aliasGroups[g.index] := by
    unfold aliasMembers
    rw [Array.getD_eq_getD_getElem?, Array.getElem?_eq_getElem hg, Option.getD_some]
  have htwo := h.arena.two_le _ (Array.mem_toList_iff.mpr (Array.getElem_mem hg))
  rw [hget]
  omega

/-- The division of an amount among the members of an alias group. -/
theorem dividesEvenly (h : t.Built) {g : AliasGroupId} (hg : g.index < t.aliasGroups.size)
    (v : Int) : t.DividesEvenly g v := by
  have hpos := h.length_aliasMembers_pos hg
  have hparts : ∀ {i : Nat} {x : Int}, (t.shares g v)[i]? = some x →
      x = t.evenPart g v + if (i : Int) < v % (t.aliasMembers g).length then 1 else 0 := by
    intro i x hx
    rw [h.shares_eq] at hx
    obtain ⟨hi, rfl⟩ := List.getElem?_eq_some_iff.mp hx
    rw [List.getElem_map, List.getElem_range, evenPart_eq]
    rfl
  refine { members := h.map_id_aliasSymbols g, sum_eq := ?sum_eq, even_or_succ := ?even_or_succ,
           nonincreasing := ?nonincreasing, succ_iff := ?succ_iff }
  case sum_eq =>
    rw [h.shares_eq]
    exact sum_range_shareAt v hpos
  case even_or_succ =>
    intro x hx
    obtain ⟨i, hi⟩ := List.getElem?_of_mem hx
    rw [hparts hi]
    split_ifs
    · exact .inr rfl
    · exact .inl (add_zero _)
  case nonincreasing =>
    rw [h.shares_eq, List.pairwise_map]
    exact List.pairwise_le_range.imp fun hij => shareAt_antitone v _ hij
  case succ_iff =>
    intro i x hx
    rw [hparts hx]
    split_ifs with hlt
    · exact iff_of_true rfl hlt
    · exact iff_of_false (by omega) hlt

end Built

/-- The shares of every alias group of a built table divide every amount exactly, with the remainder
at the first members, and a symbol without aliases owns the whole amount. -/
theorem Built.shares_divide {t : Table} (h : t.Built) :
    (∀ g : AliasGroupId, g.index < t.aliasGroups.size → ∀ v, t.DividesEvenly g v) ∧
      ∀ s ∈ t.symbols, s.aliasGroup = none → ∀ v, t.aliasShare s v = v :=
  ⟨fun _ hg v => h.dividesEvenly hg v, fun _ _ hnone v => aliasShare_of_none hnone v⟩

/-- Three aliases, declared in another order than that of their places, and a symbol of its own. -/
def threeAliases : SnapshotRecord :=
  { symbols :=
      [{ sectionName := ".text", size := 4, address := 16, fullName := "a" },
        { sectionName := ".text", size := 9, address := 32, fullName := "run" },
        { sectionName := ".text", size := 4, address := 16, fullName := "b" },
        { sectionName := ".text", size := 4, address := 16, fullName := "c" }]
    aliasGroups := [[3, 0, 2]] }

/-- An amount below zero: a third of -7 is rounded down to -3, and the first two declared members
own one more. -/
theorem shares_divide_negative :
    ∃ snapshot, Snapshot.ofRecord threeAliases ⟨0⟩ = .ok snapshot ∧
      let t := snapshot.value.listing.raw.table
      t.Built ∧ ⟨3⟩ ∈ t.aliasMembers ⟨0⟩ ∧ t.shares ⟨0⟩ (-7) = [-2, -2, -3] ∧
        t.DividesEvenly ⟨0⟩ (-7) ∧
        ∃ s, t.get? ⟨1⟩ = some s ∧ s.aliasGroup = none ∧ t.aliasShare s (-7) = -7 := by
  have hcomputed : ((Snapshot.ofRecord threeAliases ⟨0⟩).toOption.map fun snapshot =>
      let t := snapshot.value.listing.raw.table
      (t.aliasGroups.size, t.aliasMembers ⟨0⟩, t.shares ⟨0⟩ (-7),
        (t.get? ⟨1⟩).map Symbol.aliasGroup)) =
      some (1, [⟨3⟩, ⟨0⟩, ⟨2⟩], [-2, -2, -3], some none) := by
    decide +kernel
  obtain ⟨snapshot, h, hvalues⟩ := exists_ok_of_map_toOption hcomputed
  simp only [Prod.mk.injEq] at hvalues
  obtain ⟨hsize, hmembers, hshares, hsecond⟩ := hvalues
  obtain ⟨s, hs, hnone⟩ := Option.map_eq_some_iff.mp hsecond
  obtain ⟨t, ht, hlisting⟩ := Snapshot.exists_table_of_ofRecord h
  have hbuilt : snapshot.value.listing.raw.table.Built := by
    rw [hlisting]
    exact ht
  obtain ⟨hgroups, halone⟩ := hbuilt.shares_divide
  refine ⟨snapshot, h, hbuilt, ?_, hshares, hgroups ⟨0⟩ ?_ (-7), s, hs, hnone,
    halone s (Array.mem_of_getElem? hs) hnone (-7)⟩
  · rw [hmembers]
    exact List.mem_cons_self
  · rw [hsize]
    exact Nat.zero_lt_one

end Table

end Footprint
