import Mathlib.Data.List.Nodup
import Footprint.Symbol.Table

/-!
# The arena of symbols and alias groups

A builder stores which symbols are aliases three times: as the lists of its alias groups, as the
group of each symbol, and as the number of its aliases. `Arena` says that the three agree, and
`Builder.Built.arena` that they do after every run of `push`, `addAliasGroup` and
`setGeneratedSource`. The laws of a built table at the end of the module are what the operations on
tables need.
-/

namespace Footprint

/-- The lists of the alias groups, the groups of the symbols and the numbers of aliases agree. -/
structure Arena (symbols : Array Symbol) (groups : Array (List SymbolId)) : Prop where
  /-- The id of a symbol is its place. -/
  id_eq : ∀ {i : Nat} {s : Symbol}, symbols[i]? = some s → s.id = ⟨i⟩
  /-- Every symbol has a 32-bit place. -/
  size_le : symbols.size ≤ tableCapacity
  /-- An alias group has two or more members. -/
  two_le : ∀ ms ∈ groups.toList, 2 ≤ ms.length
  /-- The members of an alias group are symbols of the arena. -/
  known : ∀ ms ∈ groups.toList, ∀ id ∈ ms, id.index < symbols.size
  /-- No symbol is listed twice, neither in one alias group nor in two. -/
  nodup : groups.toList.flatten.Nodup
  /-- A symbol has the alias group that lists it. -/
  aliasGroup_iff : ∀ {i : Nat} {s : Symbol} (g : AliasGroupId), symbols[i]? = some s →
    (s.aliasGroup = some g ↔ ⟨i⟩ ∈ groups.getD g.index [])
  /-- A symbol has as many aliases as its alias group has members, and only itself without one. -/
  numAliases_eq : ∀ {i : Nat} {s : Symbol}, symbols[i]? = some s →
    s.numAliases = s.aliasGroup.elim 1 fun g => (groups.getD g.index []).length
  /-- The members of an alias group have one address. -/
  address_eq : ∀ {i j : Nat} {s t : Symbol} {g : AliasGroupId}, symbols[i]? = some s →
    symbols[j]? = some t → s.aliasGroup = some g → t.aliasGroup = some g → s.address = t.address

/-- A member of the alias group at a place is a member of one of the alias groups. -/
theorem exists_group_of_mem_getD {groups : Array (List SymbolId)} {g : Nat} {id : SymbolId}
    (h : id ∈ groups.getD g []) : ∃ ms ∈ groups.toList, groups[g]? = some ms ∧ id ∈ ms := by
  rw [Array.getD_eq_getD_getElem?] at h
  cases hg : groups[g]? with
  | none => simp [hg] at h
  | some ms =>
    rw [hg, Option.getD_some] at h
    exact ⟨ms, Array.mem_toList_iff.mpr (Array.mem_of_getElem? hg), rfl, h⟩

namespace Arena

variable {symbols : Array Symbol} {groups : Array (List SymbolId)}

/-- An empty arena. -/
theorem empty : Arena #[] #[] := by
  constructor <;> simp [tableCapacity]

/-- There are at most half as many alias groups as symbols, since no two groups share a member. -/
theorem two_mul_groups_le (h : Arena symbols groups) : 2 * groups.size ≤ symbols.size := by
  -- The groups together list at least two ids each.
  have hlen : ∀ L : List (List SymbolId), (∀ ms ∈ L, 2 ≤ ms.length) →
      2 * L.length ≤ L.flatten.length := by
    intro L
    induction L with
    | nil => simp
    | cons ms L ih =>
      intro hL
      have := ih fun m hm => hL m (List.mem_cons_of_mem _ hm)
      have := hL ms List.mem_cons_self
      simp only [List.flatten_cons, List.length_append, List.length_cons]
      omega
  -- The ids are different places of symbols, and there are no more of those than symbols.
  have hmap : (groups.toList.flatten.map SymbolId.index).Nodup :=
    h.nodup.map fun a b hab => by cases a; cases b; simpa using hab
  have hsub : groups.toList.flatten.map SymbolId.index ⊆ List.range symbols.size := by
    intro i hi
    obtain ⟨id, hid, rfl⟩ := List.mem_map.mp hi
    obtain ⟨ms, hms, hin⟩ := List.mem_flatten.mp hid
    exact List.mem_range.mpr (h.known ms hms id hin)
  have hle := hmap.length_le_of_subset hsub
  rw [List.length_map, List.length_range] at hle
  have := hlen groups.toList h.two_le
  rw [Array.length_toList] at this
  omega

/-- A symbol without aliases can be appended. -/
theorem push (h : Arena symbols groups) {s : Symbol} (hid : s.id = ⟨symbols.size⟩)
    (hnone : s.aliasGroup = none) (hone : s.numAliases = 1) (hcap : symbols.size < tableCapacity) :
    Arena (symbols.push s) groups := by
  -- The new symbol is listed in no group, since the members of groups have smaller places.
  have hfresh : ∀ g : Nat, (⟨symbols.size⟩ : SymbolId) ∉ groups.getD g [] := by
    intro g hg
    obtain ⟨ms, hms, -, hin⟩ := exists_group_of_mem_getD hg
    have := h.known ms hms _ hin
    simp at this
  -- A symbol of the longer array is the new one, or an old one with all its laws.
  have hcases : ∀ {i : Nat} {t : Symbol}, (symbols.push s)[i]? = some t →
      (i = symbols.size ∧ t = s) ∨ symbols[i]? = some t := by
    intro i t ht
    rw [Array.getElem?_push] at ht
    split at ht
    · next hi => exact .inl ⟨hi, (Option.some.inj ht).symm⟩
    · exact .inr ht
  refine
    { id_eq := ?id_eq, size_le := ?size_le, two_le := h.two_le, known := ?known, nodup := h.nodup,
      aliasGroup_iff := ?aliasGroup_iff, numAliases_eq := ?numAliases_eq,
      address_eq := ?address_eq }
  case id_eq =>
    intro i t ht
    rcases hcases ht with ⟨rfl, rfl⟩ | ht
    · exact hid
    · exact h.id_eq ht
  case size_le =>
    rw [Array.size_push]
    omega
  case known =>
    intro ms hms id hin
    have := h.known ms hms id hin
    rw [Array.size_push]
    omega
  case aliasGroup_iff =>
    intro i t g ht
    rcases hcases ht with ⟨rfl, rfl⟩ | ht
    · rw [hnone]
      exact iff_of_false (by simp) (hfresh g.index)
    · exact h.aliasGroup_iff g ht
  case numAliases_eq =>
    intro i t ht
    rcases hcases ht with ⟨rfl, rfl⟩ | ht
    · simp [hnone, hone]
    · exact h.numAliases_eq ht
  case address_eq =>
    intro i j t u g ht hu htg hug
    rcases hcases ht with ⟨rfl, rfl⟩ | ht
    · simp [hnone] at htg
    · rcases hcases hu with ⟨rfl, rfl⟩ | hu
      · simp [hnone] at hug
      · exact h.address_eq ht hu htg hug

/-- A symbol can be changed in a way that leaves its id, its address and its aliases. -/
theorem setIfInBounds (h : Arena symbols groups) {place : Nat} {s s' : Symbol}
    (hs : symbols[place]? = some s) (hid : s'.id = s.id) (haddress : s'.address = s.address)
    (hgroup : s'.aliasGroup = s.aliasGroup) (hnum : s'.numAliases = s.numAliases) :
    Arena (symbols.setIfInBounds place s') groups := by
  -- Each symbol agrees with the one before it at its place on all that the laws are about.
  have hold : ∀ {i : Nat} {t' : Symbol}, (symbols.setIfInBounds place s')[i]? = some t' →
      ∃ t, symbols[i]? = some t ∧ t'.id = t.id ∧ t'.address = t.address ∧
        t'.aliasGroup = t.aliasGroup ∧ t'.numAliases = t.numAliases := by
    intro i t' ht'
    rw [Array.getElem?_setIfInBounds] at ht'
    split at ht'
    · next hi =>
      subst hi
      split at ht'
      · obtain rfl := Option.some.inj ht'
        exact ⟨s, hs, hid, haddress, hgroup, hnum⟩
      · simp at ht'
    · exact ⟨t', ht', rfl, rfl, rfl, rfl⟩
  refine
    { id_eq := ?id_eq, size_le := ?size_le, two_le := h.two_le, known := ?known, nodup := h.nodup,
      aliasGroup_iff := ?aliasGroup_iff, numAliases_eq := ?numAliases_eq,
      address_eq := ?address_eq }
  case id_eq =>
    intro i t' ht'
    obtain ⟨t, ht, hi, -⟩ := hold ht'
    rw [hi, h.id_eq ht]
  case size_le =>
    rw [Array.size_setIfInBounds]
    exact h.size_le
  case known =>
    intro ms hms id hin
    rw [Array.size_setIfInBounds]
    exact h.known ms hms id hin
  case aliasGroup_iff =>
    intro i t' g ht'
    obtain ⟨t, ht, -, -, hg, -⟩ := hold ht'
    rw [hg, h.aliasGroup_iff g ht]
  case numAliases_eq =>
    intro i t' ht'
    obtain ⟨t, ht, -, -, hg, hn⟩ := hold ht'
    rw [hg, hn, h.numAliases_eq ht]
  case address_eq =>
    intro i j t' u' g ht' hu' htg hug
    obtain ⟨t, ht, -, hta, htg', -⟩ := hold ht'
    obtain ⟨u, hu, -, hua, hug', -⟩ := hold hu'
    rw [hta, hua]
    exact h.address_eq ht hu (htg' ▸ htg) (hug' ▸ hug)

end Arena

/-- A symbol with a new alias group when it is one of the members. -/
def Symbol.join (g : AliasGroupId) (members : List SymbolId) (s : Symbol) : Symbol :=
  if s.id ∈ members then { s with aliasGroup := some g, numAliases := members.length } else s

/-- Joining an alias group keeps the id. -/
@[simp]
theorem Symbol.join_id (g : AliasGroupId) (members : List SymbolId) (s : Symbol) :
    (s.join g members).id = s.id := by
  unfold Symbol.join
  split <;> rfl

/-- Joining an alias group keeps the address. -/
@[simp]
theorem Symbol.join_address (g : AliasGroupId) (members : List SymbolId) (s : Symbol) :
    (s.join g members).address = s.address := by
  unfold Symbol.join
  split <;> rfl

/-- A symbol without its aliases. -/
def Symbol.bare (s : Symbol) : Symbol :=
  { s with aliasGroup := none, numAliases := 1 }

/-- Joining an alias group changes nothing but the aliases. -/
@[simp]
theorem Symbol.bare_join (g : AliasGroupId) (members : List SymbolId) (s : Symbol) :
    (s.join g members).bare = s.bare := by
  unfold Symbol.join
  split <;> rfl

/-- The members of an alias group at a place, after one more group. -/
theorem getD_push_group (groups : Array (List SymbolId)) (members : List SymbolId) (g : Nat) :
    (groups.push members).getD g [] = if g = groups.size then members else groups.getD g [] := by
  rw [Array.getD_eq_getD_getElem?, Array.getElem?_push, Array.getD_eq_getD_getElem?]
  split <;> rfl

/-- Two or more symbols with one address and without aliases can become an alias group. -/
theorem Arena.join {symbols : Array Symbol} {groups : Array (List SymbolId)}
    (h : Arena symbols groups) {members : List SymbolId} {a : UInt64} (hlen : 2 ≤ members.length)
    (hnodup : members.Nodup)
    (hmem : ∀ id ∈ members, ∃ s, symbols[id.index]? = some s ∧ s.aliasGroup = none ∧
      s.address = a) :
    Arena (symbols.map (Symbol.join ⟨groups.size⟩ members)) (groups.push members) := by
  have hold : ∀ {i : Nat} {t : Symbol},
      (symbols.map (Symbol.join ⟨groups.size⟩ members))[i]? = some t →
      ∃ s, symbols[i]? = some s ∧ t = s.join ⟨groups.size⟩ members := by
    intro i t ht
    rw [Array.getElem?_map, Option.map_eq_some_iff] at ht
    obtain ⟨s, hs, rfl⟩ := ht
    exact ⟨s, hs, rfl⟩
  -- A member had no alias group, so that no group listed it.
  have hnone : ∀ {i : Nat} {s : Symbol}, symbols[i]? = some s → ⟨i⟩ ∈ members →
      s.aliasGroup = none ∧ s.address = a := by
    intro i s hs hi
    obtain ⟨s', hs', hg, ha⟩ := hmem _ hi
    obtain rfl := Option.some.inj (hs.symm.trans hs')
    exact ⟨hg, ha⟩
  have hunlisted : ∀ id ∈ members, ∀ g : Nat, id ∉ groups.getD g [] := by
    intro id hid g hin
    obtain ⟨s, hs, hg, -⟩ := hmem id hid
    have := (h.aliasGroup_iff ⟨g⟩ hs).mpr hin
    simp [hg] at this
  -- The last list is that of the members, and the lists before it hold none of them.
  have hnew : ∀ {i : Nat} {s : Symbol} (g : AliasGroupId), symbols[i]? = some s →
      ((s.join ⟨groups.size⟩ members).aliasGroup = some g ↔
        ⟨i⟩ ∈ (groups.push members).getD g.index []) := by
    intro i s g hs
    have hid := h.id_eq hs
    have hiff := h.aliasGroup_iff g hs
    rw [getD_push_group]
    unfold Symbol.join
    rw [hid]
    by_cases hi : (⟨i⟩ : SymbolId) ∈ members
    · rw [if_pos hi]
      by_cases hg : g.index = groups.size
      · rw [if_pos hg]
        exact iff_of_true (by rw [← hg]) hi
      · rw [if_neg hg]
        refine iff_of_false ?_ (hunlisted _ hi _)
        rintro heq
        exact hg (congrArg AliasGroupId.index (Option.some.inj heq)).symm
    · rw [if_neg hi]
      by_cases hg : g.index = groups.size
      · rw [if_pos hg, hiff, hg, Array.getD_eq_getD_getElem?]
        simp [hi]
      · rw [if_neg hg, hiff]
  refine
    { id_eq := ?id_eq, size_le := ?size_le, two_le := ?two_le, known := ?known, nodup := ?nodup,
      aliasGroup_iff := ?aliasGroup_iff, numAliases_eq := ?numAliases_eq,
      address_eq := ?address_eq }
  case id_eq =>
    intro i t ht
    obtain ⟨s, hs, rfl⟩ := hold ht
    rw [Symbol.join_id, h.id_eq hs]
  case size_le =>
    rw [Array.size_map]
    exact h.size_le
  case two_le =>
    intro ms hms
    rw [Array.toList_push, List.mem_append, List.mem_singleton] at hms
    rcases hms with hms | rfl
    · exact h.two_le ms hms
    · exact hlen
  case known =>
    intro ms hms id hin
    rw [Array.size_map]
    rw [Array.toList_push, List.mem_append, List.mem_singleton] at hms
    rcases hms with hms | rfl
    · exact h.known ms hms id hin
    · obtain ⟨s, hs, -⟩ := hmem id hin
      exact (Array.getElem?_eq_some_iff.mp hs).1
  case nodup =>
    rw [Array.toList_push, List.flatten_append, List.flatten_singleton]
    -- An id that is listed already cannot be a member.
    refine h.nodup.append hnodup fun id hin hid => ?_
    obtain ⟨ms, hms, hid'⟩ := List.mem_flatten.mp hin
    obtain ⟨g, hg, rfl⟩ := Array.getElem_of_mem (Array.mem_toList_iff.mp hms)
    refine hunlisted id hid g ?_
    rw [Array.getD_eq_getD_getElem?, Array.getElem?_eq_getElem hg]
    exact hid'
  case aliasGroup_iff =>
    intro i t g ht
    obtain ⟨s, hs, rfl⟩ := hold ht
    exact hnew g hs
  case numAliases_eq =>
    intro i t ht
    obtain ⟨s, hs, rfl⟩ := hold ht
    have hn := h.numAliases_eq hs
    unfold Symbol.join
    split
    · simp
    · rw [hn]
      cases hg : s.aliasGroup with
      | none => rfl
      | some g =>
        -- The alias group of a symbol that is no member is an old one.
        have hin := (h.aliasGroup_iff g hs).mp hg
        obtain ⟨ms, -, hms, -⟩ := exists_group_of_mem_getD hin
        have hlt := (Array.getElem?_eq_some_iff.mp hms).1
        rw [Option.elim_some, Option.elim_some, getD_push_group, if_neg (Nat.ne_of_lt hlt)]
  case address_eq =>
    intro i j t u g ht hu htg hug
    obtain ⟨s, hs, rfl⟩ := hold ht
    obtain ⟨s', hs', rfl⟩ := hold hu
    rw [Symbol.join_address, Symbol.join_address]
    rw [hnew g hs, getD_push_group] at htg
    rw [hnew g hs', getD_push_group] at hug
    -- Either both symbols are members, or an old group lists both.
    by_cases hg : g.index = groups.size
    · rw [if_pos hg] at htg hug
      rw [(hnone hs htg).2, (hnone hs' hug).2]
    · rw [if_neg hg] at htg hug
      exact h.address_eq hs hs' ((h.aliasGroup_iff g hs).mpr htg)
        ((h.aliasGroup_iff g hs').mpr hug)

namespace Builder

/-- The builders that runs of `push`, `addAliasGroup` and `setGeneratedSource` reach. A call that
fails leaves the builder as it is. -/
inductive Built : Builder → Prop where
  /-- An empty builder. -/
  | empty : Built {}
  /-- A symbol was appended. -/
  | push {b b' : Builder} {r : SymbolRecord} {delta : Option Delta} {id : SymbolId} :
    Built b → b.push r delta = .ok (id, b') → Built b'
  /-- An alias group was declared. -/
  | addAliasGroup {b b' : Builder} {members : List SymbolId} {g : AliasGroupId} :
    Built b → b.addAliasGroup members = .ok (g, b') → Built b'
  /-- The generated source flag of a symbol was set or cleared. -/
  | setGeneratedSource {b b' : Builder} {id : SymbolId} {value : Bool} :
    Built b → b.setGeneratedSource id value = .ok b' → Built b'

/-- The symbol that `push` appends. -/
def pushed (b : Builder) (r : SymbolRecord) (delta : Option Delta) : Symbol :=
  { Symbol.ofRecord ⟨b.size⟩ r with delta }

/-- `push` succeeds exactly below the capacity, and appends one symbol. -/
theorem push_eq (b : Builder) (r : SymbolRecord) (delta : Option Delta) :
    b.push r delta = if b.size < tableCapacity
      then .ok (⟨b.size⟩, { b with symbols := b.symbols.push (b.pushed r delta) })
      else .error (.tableFull b.size) := by
  unfold push SymbolId.ofIndex
  split <;> rfl

/-- The builder with one more alias group. -/
def joined (b : Builder) (members : List SymbolId) : Builder :=
  ⟨b.symbols.map (Symbol.join ⟨b.aliasGroups.size⟩ members), b.aliasGroups.push members⟩

/-- The check passes a member that is a known symbol without aliases, was not seen before, and has
the address of the members before it. -/
theorem checkAliases_cons_eq_ok_iff (b : Builder) (seen : List SymbolId)
    (address : Option UInt64) (id : SymbolId) (ids : List SymbolId) :
    b.checkAliases seen address (id :: ids) = .ok () ↔
      ∃ s, b.symbols[id.index]? = some s ∧ s.aliasGroup = none ∧ id ∉ seen ∧
        address.getD s.address = s.address ∧
        b.checkAliases (id :: seen) (some s.address) ids = .ok () := by
  rw [checkAliases]
  unfold get?
  cases hs : b.symbols[id.index]? with
  | none => simp
  | some s =>
    simp only [Option.some.injEq, exists_eq_left', Option.isSome_iff_ne_none, ne_eq, ite_not]
    split_ifs with hg hseen ha
    · simp [hg, hseen]
    · simp [hg, hseen, ha]
    · simp [ha]
    · simp [hg]

/-- The check of the members passes exactly when they are known symbols without aliases, none of
them twice, and all at one address. -/
theorem checkAliases_eq_ok_iff (b : Builder) (seen : List SymbolId) (address : Option UInt64)
    (ids : List SymbolId) :
    b.checkAliases seen address ids = .ok () ↔ ids.Nodup ∧ (∀ id ∈ ids, id ∉ seen) ∧
      ∃ a, (∀ x, address = some x → x = a) ∧
        ∀ id ∈ ids, ∃ s, b.symbols[id.index]? = some s ∧ s.aliasGroup = none ∧ s.address = a := by
  -- The check carries what it has seen, so that the induction is for any such state.
  induction ids generalizing seen address with
  | nil =>
    simp only [checkAliases, List.nodup_nil, List.not_mem_nil, false_implies, implies_true,
      true_and, and_true, true_iff]
    cases address with
    | none => exact ⟨0, by simp⟩
    | some x => exact ⟨x, by simp⟩
  | cons id ids ih =>
    rw [checkAliases_cons_eq_ok_iff]
    constructor
    · rintro ⟨s, hs, hnone, hseen, haddr, hrest⟩
      obtain ⟨hnodup, hfresh, a, ha, hmem⟩ := (ih _ _).mp hrest
      -- From the first member on the address is known.
      obtain rfl := ha _ rfl
      refine ⟨List.nodup_cons.mpr ⟨fun hin => hfresh id hin List.mem_cons_self, hnodup⟩, ?_,
        s.address, ?_, ?_⟩
      · intro x hx
        rcases List.mem_cons.mp hx with rfl | hx
        · exact hseen
        · exact fun hin => hfresh x hx (List.mem_cons_of_mem _ hin)
      · rintro x rfl
        exact haddr
      · intro x hx
        rcases List.mem_cons.mp hx with rfl | hx
        · exact ⟨s, hs, hnone, rfl⟩
        · exact hmem x hx
    · rintro ⟨hnodup, hfresh, a, ha, hmem⟩
      obtain ⟨hid, hnodup⟩ := List.nodup_cons.mp hnodup
      obtain ⟨s, hs, hnone, rfl⟩ := hmem id List.mem_cons_self
      refine ⟨s, hs, hnone, hfresh id List.mem_cons_self, ?_, (ih _ _).mpr ⟨hnodup, ?_,
        s.address, by simp, fun x hx => hmem x (List.mem_cons_of_mem _ hx)⟩⟩
      · cases address with
        | none => rfl
        | some x => exact ha x rfl
      · intro x hx hin
        rcases List.mem_cons.mp hin with rfl | hin
        · exact hid hx
        · exact hfresh x (List.mem_cons_of_mem _ hx) hin

/-- Declaring an alias group succeeds exactly for two or more known symbols without aliases, none
of them twice, at one address and below the capacity, and joins them. -/
theorem addAliasGroup_eq_ok_iff (b : Builder) (members : List SymbolId) (g : AliasGroupId)
    (b' : Builder) :
    b.addAliasGroup members = .ok (g, b') ↔
      (2 ≤ members.length ∧ members.Nodup ∧ b.aliasGroups.size < tableCapacity ∧
        ∃ a, ∀ id ∈ members, ∃ s, b.symbols[id.index]? = some s ∧ s.aliasGroup = none ∧
          s.address = a) ∧ g = ⟨b.aliasGroups.size⟩ ∧ b' = b.joined members := by
  have hcheck := b.checkAliases_eq_ok_iff [] none members
  simp only [List.not_mem_nil, not_false_eq_true, implies_true, true_and, reduceCtorEq,
    false_implies] at hcheck
  unfold addAliasGroup
  by_cases hlen : members.length < 2
  · rw [if_pos hlen]
    refine iff_of_false (by simp [throw, throwThe, MonadExceptOf.throw, bind, Except.bind]) ?_
    rintro ⟨⟨h, -⟩, -⟩
    omega
  · rw [if_neg hlen]
    cases hc : b.checkAliases [] none members with
    | error e =>
      refine iff_of_false (by simp [bind, Except.bind]) ?_
      rintro ⟨⟨-, h1, -, h2⟩, -⟩
      have := hcheck.mpr ⟨h1, h2⟩
      simp [hc] at this
    | ok u =>
      obtain ⟨hnodup, hmem⟩ := hcheck.mp hc
      by_cases hcap : tableCapacity ≤ b.aliasGroups.size
      · refine iff_of_false ?_ ?_
        · simp [bind, Except.bind, throw, throwThe, MonadExceptOf.throw, hcap]
        · rintro ⟨⟨-, -, h, -⟩, -⟩
          omega
      · have hlt : b.aliasGroups.size < tableCapacity := by omega
        have hle : 2 ≤ members.length := by omega
        simp only [bind, Except.bind, if_neg hcap, pure, Except.pure]
        constructor
        · intro h
          cases h
          exact ⟨⟨hle, hnodup, hlt, hmem⟩, rfl, rfl⟩
        · rintro ⟨-, rfl, rfl⟩
          rfl

/-- The three stores of the alias relation agree in every builder that a run reaches. -/
theorem Built.arena {b : Builder} (h : b.Built) : Arena b.symbols b.aliasGroups := by
  induction h with
  | empty => exact Arena.empty
  | push _ hstep ih =>
    rw [push_eq] at hstep
    split at hstep
    · next hlt =>
      cases hstep
      exact ih.push rfl rfl rfl hlt
    · cases hstep
  | addAliasGroup _ hstep ih =>
    rw [addAliasGroup_eq_ok_iff] at hstep
    obtain ⟨⟨hlen, hnodup, -, a, hmem⟩, -, rfl⟩ := hstep
    exact ih.join hlen hnodup hmem
  | @setGeneratedSource b _ id _ _ hstep ih =>
    unfold Builder.setGeneratedSource Builder.get? at hstep
    cases hs : b.symbols[id.index]? with
    | none => simp [hs] at hstep
    | some s =>
      simp only [hs, Except.ok.injEq] at hstep
      subst hstep
      exact ih.setIfInBounds hs rfl rfl rfl rfl

/-- A builder that a run reaches has room for one more alias group. -/
theorem Built.groups_lt_tableCapacity {b : Builder} (h : b.Built) :
    b.aliasGroups.size < tableCapacity := by
  have hgroups := h.arena.two_mul_groups_le
  have hsymbols := h.arena.size_le
  have hpos : 0 < tableCapacity := by decide
  omega

end Builder

namespace Table

/-- A table that a builder was frozen to. -/
def Built (t : Table) : Prop :=
  ∃ b : Builder, b.Built ∧ ∃ stamp, (b.freeze stamp).value = t

namespace Built

variable {t : Table}

/-- The three stores of the alias relation agree in a built table. -/
theorem arena (h : t.Built) : Arena t.symbols t.aliasGroups := by
  obtain ⟨b, hb, stamp, rfl⟩ := h
  exact hb.arena

/-- The symbol with an id has that id. -/
theorem id_of_get? (h : t.Built) {id : SymbolId} {s : Symbol} (hs : t.get? id = some s) :
    s.id = id :=
  h.arena.id_eq hs

/-- A symbol of a built table is found under its id. -/
theorem get?_id (h : t.Built) {s : Symbol} (hs : s ∈ t.symbols) : t.get? s.id = some s := by
  obtain ⟨i, hi, rfl⟩ := Array.getElem_of_mem hs
  have hget : t.symbols[i]? = some t.symbols[i] := Array.getElem?_eq_getElem hi
  unfold get?
  rw [h.arena.id_eq hget]
  exact hget

/-- A symbol belongs to the alias group that lists it. -/
theorem aliasGroup_iff (h : t.Built) {id : SymbolId} {s : Symbol} (hs : t.get? id = some s)
    (g : AliasGroupId) : s.aliasGroup = some g ↔ id ∈ t.aliasMembers g :=
  h.arena.aliasGroup_iff g hs

/-- The members of an alias group are symbols of the table that belong to the group. -/
theorem exists_of_mem_aliasMembers (h : t.Built) {id : SymbolId} {g : AliasGroupId}
    (hin : id ∈ t.aliasMembers g) : ∃ s, t.get? id = some s ∧ s.aliasGroup = some g := by
  obtain ⟨ms, hms, -, hid⟩ := exists_group_of_mem_getD hin
  have hlt := h.arena.known ms hms id hid
  have hs : t.get? id = some t.symbols[id.index] := Array.getElem?_eq_getElem hlt
  exact ⟨_, hs, (h.aliasGroup_iff hs g).mpr hin⟩

/-- A symbol is in one alias group at most. -/
theorem eq_of_mem_aliasMembers (h : t.Built) {id : SymbolId} {g g' : AliasGroupId}
    (hg : id ∈ t.aliasMembers g) (hg' : id ∈ t.aliasMembers g') : g = g' := by
  obtain ⟨s, hs, hsg⟩ := h.exists_of_mem_aliasMembers hg
  have := (h.aliasGroup_iff hs g').mpr hg'
  exact Option.some.inj (hsg.symm.trans this)

/-- No alias group lists a symbol twice. -/
theorem nodup_aliasMembers (h : t.Built) (g : AliasGroupId) : (t.aliasMembers g).Nodup := by
  unfold aliasMembers
  rw [Array.getD_eq_getD_getElem?]
  cases hg : t.aliasGroups[g.index]? with
  | none => exact List.nodup_nil
  | some ms =>
    have hms : ms ∈ t.aliasGroups.toList := Array.mem_toList_iff.mpr (Array.mem_of_getElem? hg)
    exact (List.nodup_flatten.mp h.arena.nodup).1 ms hms

/-- An alias group with a member has a second one. -/
theorem two_le_length (h : t.Built) {id : SymbolId} {g : AliasGroupId}
    (hin : id ∈ t.aliasMembers g) : 2 ≤ (t.aliasMembers g).length := by
  obtain ⟨ms, hms, hg, -⟩ := exists_group_of_mem_getD hin
  unfold aliasMembers
  rw [Array.getD_eq_getD_getElem?, hg]
  exact h.arena.two_le ms hms

/-- The members of an alias group have one address. -/
theorem address_eq (h : t.Built) {id id' : SymbolId} {s s' : Symbol} {g : AliasGroupId}
    (hs : t.get? id = some s) (hs' : t.get? id' = some s') (hg : s.aliasGroup = some g)
    (hg' : s'.aliasGroup = some g) : s.address = s'.address :=
  h.arena.address_eq hs hs' hg hg'

/-- The ids of a built table are the places of its symbols. -/
theorem ids_eq (h : t.Built) : t.ids = (List.range t.size).map SymbolId.mk := by
  unfold ids
  refine List.ext_getElem? fun i => ?_
  rw [List.getElem?_map, List.getElem?_map, Array.getElem?_toList]
  cases hs : t.symbols[i]? with
  | none =>
    rw [Array.getElem?_eq_none_iff] at hs
    simp [size, hs]
  | some s =>
    have hlt := (Array.getElem?_eq_some_iff.mp hs).1
    rw [Option.map_some, h.arena.id_eq hs]
    simp [size, hlt]

/-- The ids of a built table are distinct. -/
theorem nodup_ids (h : t.Built) : t.ids.Nodup := by
  rw [h.ids_eq]
  exact List.nodup_range.map fun a b hab => congrArg SymbolId.index hab

/-- The ids of a built table are those that it knows. -/
theorem mem_ids_iff (h : t.Built) (id : SymbolId) : id ∈ t.ids ↔ ∃ s, t.get? id = some s := by
  rw [h.ids_eq]
  constructor
  · intro hin
    obtain ⟨i, hi, rfl⟩ := List.mem_map.mp hin
    have hlt : i < t.symbols.size := List.mem_range.mp hi
    exact ⟨_, Array.getElem?_eq_getElem hlt⟩
  · rintro ⟨s, hs⟩
    exact List.mem_map.mpr ⟨id.index, List.mem_range.mpr (Array.getElem?_eq_some_iff.mp hs).1, rfl⟩

end Built

end Table

end Footprint
