import Footprint.Proofs.Group.Complement

/-!
# Members at an address

The members that start at an address are found in two ways: by looking the address up, which asks
for just one of them, and by the filter with the range from the address to the next one. No address
comes after the last one, so that its range is empty: a look-up finds what starts there, and the
filter does not (`addressLookup_agrees_iff`).
-/

namespace Footprint

namespace Group

/-- The greatest address. -/
def lastAddress : UInt64 := 0xFFFFFFFFFFFFFFFF

/-- The range from the last address to the next one ends where it begins. -/
theorem nextAddress_lastAddress : nextAddress lastAddress = lastAddress := rfl

/-- The range from any other address to the next one has the address only. -/
theorem lt_nextAddress_iff {a b : UInt64} (h : a ≠ lastAddress) :
    a ≤ b ∧ b < nextAddress a ↔ b = a := by
  have hne : a.toNat ≠ 2 ^ 64 - 1 := fun heq => h (UInt64.toNat_inj.mp heq)
  have hlt : a.toNat < 2 ^ 64 := a.toNat_lt
  have hnat : (a + 1).toNat = a.toNat + 1 := by
    rw [UInt64.toNat_add, UInt64.toNat_one]
    omega
  have hnext : nextAddress a = a + 1 := by
    refine if_neg fun heq => ?_
    rw [← UInt64.toNat_inj, hnat, UInt64.toNat_zero] at heq
    omega
  rw [hnext, UInt64.le_iff_toNat_le, UInt64.lt_iff_toNat_lt, ← UInt64.toNat_inj, hnat]
  omega

/-- Two filters of a group are the same just when they keep the same members. -/
theorem filter_eq_filter_iff {g : Group} {keep keep' : Node → Bool} :
    g.filter keep = g.filter keep' ↔ ∀ n ∈ g.members, keep n = keep' n := by
  constructor
  · intro h
    exact Footprint.filter_eq_filter_iff.mp (congrArg members h)
  · intro h
    have hkept : g.members.filter keep = g.members.filter keep' := List.filter_congr h
    have hout : g.members.filter (!keep ·) = g.members.filter (!keep' ·) :=
      List.filter_congr fun n hn => congrArg (!·) (h n hn)
    rw [filter, filter, hkept, hout]

/-- The members that start at an address. -/
def startingAt (g : Group) (a : UInt64) : Group :=
  g.filterFacts fun f => f.address == a

/-- The filter by the range from an address to the next one. -/
theorem whereAddressInRange_eq (g : Group) (a : UInt64) : g.whereAddressInRange a =
    if a = lastAddress then g.filter fun _ => false else g.startingAt a := by
  change g.filter (fun n => a ≤ n.facts.address && n.facts.address < nextAddress a) = _
  split
  · next hlast =>
    refine filter_eq_filter_iff.mpr fun n _ => ?_
    rw [hlast, nextAddress_lastAddress, Bool.and_eq_false_iff, decide_eq_false_iff_not,
      decide_eq_false_iff_not, ← not_and_or]
    exact fun h => absurd h.2 (UInt64.not_lt.mpr h.1)
  · next hlast =>
    refine filter_eq_filter_iff.mpr fun n _ => ?_
    rw [Bool.eq_iff_iff, Bool.and_eq_true, decide_eq_true_eq, decide_eq_true_eq, beq_iff_eq]
    exact lt_nextAddress_iff hlast

/-- A look-up that answers with the only member of a group, and otherwise with their number. -/
structure Answers (view : Group) (a : UInt64) (answer : Except Error Node) : Prop where
  /-- A node is found just when it is the only member. -/
  found_iff : ∀ n, answer = .ok n ↔ view.members = [n]
  /-- The failure tells the number of members and the address. -/
  notFound : (∀ n, view.members ≠ [n]) → answer = .error (.addressLookup view.size a)

/-- Looking an address up answers from the members that start there. -/
theorem byAddress_answers (g : Group) (a : UInt64) :
    (g.startingAt a).Answers a (g.byAddress a) := by
  have hmembers : (g.startingAt a).members = g.members.filter (·.facts.address == a) := rfl
  unfold byAddress
  constructor
  · intro n
    rw [hmembers]
    split
    · next m hm => rw [hm, Except.ok.injEq, List.singleton_inj]
    · next hm => exact ⟨nofun, fun hn => absurd hn (hm n)⟩
  · intro hne
    split
    · next m hm => exact absurd hm (hne m)
    · rfl

/-- Groups from which one look-up answers have equally many members. -/
theorem Answers.size_eq {view view' : Group} {a : UInt64} {answer : Except Error Node}
    (h : view.Answers a answer) (h' : view'.Answers a answer) : view.size = view'.size := by
  cases answer with
  | ok n => rw [size, size, (h.found_iff n).mp rfl, (h'.found_iff n).mp rfl]
  | error e =>
    have herror := h.notFound fun n hn => nomatch (h.found_iff n).mpr hn
    have herror' := h'.notFound fun n hn => nomatch (h'.found_iff n).mpr hn
    exact (Error.addressLookup.inj (Except.error.inj (herror.symm.trans herror'))).1

/-- An address is the last one, and a member starts there. -/
def HasLast (g : Group) (a : UInt64) : Prop :=
  a = lastAddress ∧ ∃ n ∈ g.members, n.facts.address = a

/-- The filter finds what starts at an address, unless that is the last one. -/
theorem whereAddressInRange_eq_startingAt_iff (g : Group) (a : UInt64) :
    g.whereAddressInRange a = g.startingAt a ↔ ¬ g.HasLast a := by
  rw [whereAddressInRange_eq]
  split
  · next hlast =>
    rw [HasLast, and_iff_right hlast, startingAt, filterFacts, filter_eq_filter_iff]
    push Not
    exact forall₂_congr fun n _ => by rw [eq_comm, beq_eq_false_iff_ne]
  · next hlast => exact iff_of_true rfl fun h => hlast h.1

/-- A look-up answers from what the filter finds, unless that is at the last address. -/
theorem answers_whereAddressInRange_iff (g : Group) (a : UInt64) :
    (g.whereAddressInRange a).Answers a (g.byAddress a) ↔ ¬ g.HasLast a := by
  constructor
  · rintro h ⟨rfl, n, hn, hlast⟩
    have hsize : (g.startingAt lastAddress).size = (g.whereAddressInRange lastAddress).size :=
      (g.byAddress_answers lastAddress).size_eq h
    have hempty : (g.whereAddressInRange lastAddress).members = [] := by
      rw [whereAddressInRange_eq, if_pos rfl]
      exact List.filter_eq_nil_iff.mpr fun _ _ => nofun
    have hfound : n ∈ (g.startingAt lastAddress).members :=
      List.mem_filter.mpr ⟨hn, beq_iff_eq.mpr hlast⟩
    rw [size, size, hempty, List.length_nil, List.length_eq_zero_iff] at hsize
    rw [hsize] at hfound
    exact List.not_mem_nil hfound
  · intro h
    rw [(g.whereAddressInRange_eq_startingAt_iff a).mpr h]
    exact g.byAddress_answers a

end Group

/-- A look-up of an address and the filter by the range from it to the next address agree, except
where a member starts at the last address: its range is empty. The texts of addresses are looked up
and filtered by as the addresses are, and what is no address fails in the same way for both. -/
theorem addressLookup_agrees_iff (g : Group) :
    (∀ a, g.whereAddressInRange a =
        (if a = Group.lastAddress then g.filter fun _ => false else g.startingAt a) ∧
      (g.whereAddressInRange a = g.startingAt a ↔ ¬ g.HasLast a) ∧
      ((g.whereAddressInRange a).Answers a (g.byAddress a) ↔ ¬ g.HasLast a)) ∧
    ∀ text, match Group.address text with
      | .ok a => ∃ view, g.whereHexAddressInRange text = .ok view ∧
          (view = g.startingAt a ↔ ¬ g.HasLast a) ∧
          (view.Answers a (g.byHexAddress text) ↔ ¬ g.HasLast a)
      | .error e => g.whereHexAddressInRange text = .error e ∧ g.byHexAddress text = .error e := by
  refine ⟨fun a => ⟨g.whereAddressInRange_eq a, g.whereAddressInRange_eq_startingAt_iff a,
    g.answers_whereAddressInRange_iff a⟩, fun text => ?_⟩
  unfold Group.whereHexAddressInRange Group.byHexAddress
  cases Group.address text with
  | ok a =>
    exact ⟨g.whereAddressInRange a, rfl, g.whereAddressInRange_eq_startingAt_iff a,
      g.answers_whereAddressInRange_iff a⟩
  | error e => exact ⟨rfl, rfl⟩

/-- A symbol at the last address is found by a look-up, of the address and of its text, and left out
by the filter. -/
theorem whereAddressInRange_misses_last :
    let s := Symbol.ofRecord ⟨0⟩ { sectionName := ".text", size := 0, address := Group.lastAddress }
    let g := Group.ofTable ⟨⟨0⟩, #[s], #[]⟩
    let text := "0xffffffffffffffff"
    g.byAddress Group.lastAddress = .ok (.leaf s) ∧ g.byHexAddress text = .ok (.leaf s) ∧
      (g.whereAddressInRange Group.lastAddress).members = [] ∧
      g.whereHexAddressInRange text = .ok (g.whereAddressInRange Group.lastAddress) := by
  intro s g text
  have hread : Text.readAddress? text = some Group.lastAddress := by decide +kernel
  have htext : Group.address text = .ok Group.lastAddress := by rw [Group.address, hread]
  refine ⟨rfl, ?_, rfl, ?_⟩
  · rw [Group.byHexAddress, htext]
    rfl
  · rw [Group.whereHexAddressInRange, htext]
    rfl

end Footprint
