import Mathlib.Data.List.Sigma
import Footprint.Proofs.Diff.Drafts
import Footprint.Proofs.Group.Gathering

/-!
# The outcome of a diff

The leaves of a diff that take the same alias group along (`keyOf`) become aliases of each other
when there are two or more of them. `exists_diff` says that the diff of known symbols comes about
below the capacity, with one leaf for each source in order; `LeafOf` says which symbol that is.
-/

namespace Footprint

namespace Comparison

/-- Alias groups without common members, each of symbols with one address that have no aliases yet,
are all declared, apart from those of a single symbol. -/
theorem exists_declareAll {b : Builder} (hb : b.Built) {classes : List (List SymbolId)}
    (hnodup : classes.flatten.Nodup)
    (hfree : ∀ ms ∈ classes, ∃ a, ∀ id ∈ ms, ∃ s, b.symbols[id.index]? = some s ∧
      s.aliasGroup = none ∧ s.address = a) :
    ∃ b', declareAll b classes = .ok b' ∧ b'.Built ∧
      b'.aliasGroups.toList = b.aliasGroups.toList ++ classes.filter (1 < ·.length) ∧
      b'.symbols.map Symbol.bare = b.symbols.map Symbol.bare := by
  induction classes generalizing b with
  | nil => exact ⟨b, rfl, hb, by simp, rfl⟩
  | cons ms rest ih =>
    rw [List.flatten_cons, List.nodup_append] at hnodup
    obtain ⟨hms, hrest, hdisjoint⟩ := hnodup
    unfold declareAll
    rw [List.foldlM_cons]
    -- An alias group of one symbol is passed over.
    by_cases hlen : 1 < ms.length
    · have hadd : b.addAliasGroup ms = .ok (⟨b.aliasGroups.size⟩, b.joined ms) :=
        (b.addAliasGroup_eq_ok_iff _ _ _).mpr
          ⟨⟨hlen, hms, hb.groups_lt_tableCapacity, hfree ms List.mem_cons_self⟩, rfl, rfl⟩
      -- The members of the other groups are not joined, so that they have no aliases yet.
      have hfree' : ∀ ms' ∈ rest, ∃ a, ∀ id ∈ ms', ∃ s, (b.joined ms).symbols[id.index]? = some s ∧
          s.aliasGroup = none ∧ s.address = a := by
        intro ms' hms'
        obtain ⟨a, hmem⟩ := hfree ms' (List.mem_cons_of_mem _ hms')
        refine ⟨a, fun id hid => ?_⟩
        obtain ⟨s, hs, hnone, haddress⟩ := hmem id hid
        have hother : s.id ∉ ms := by
          rw [hb.arena.id_eq hs]
          exact fun hin => hdisjoint id hin id (List.mem_flatten.mpr ⟨ms', hms', hid⟩) rfl
        refine ⟨s, ?_, hnone, haddress⟩
        unfold Builder.joined Symbol.join
        rw [Array.getElem?_map, hs, Option.map_some, if_neg hother]
      obtain ⟨b', hb', hbuilt, hgroups, hbare⟩ := ih (hb.addAliasGroup hadd) hrest hfree'
      refine ⟨b', ?_, hbuilt, ?_, ?_⟩
      · rw [if_pos hlen, hadd]
        exact hb'
      · rw [hgroups, List.filter_cons_of_pos (by simpa using hlen)]
        simp [Builder.joined]
      · rw [hbare]
        simp [Builder.joined, Function.comp_def]
    · obtain ⟨b', hb', hbuilt, hgroups, hbare⟩ :=
        ih hb hrest fun ms' hms' => hfree ms' (List.mem_cons_of_mem _ hms')
      refine ⟨b', ?_, hbuilt, ?_, hbare⟩
      · rw [if_neg hlen]
        exact hb'
      · rw [hgroups, List.filter_cons_of_neg (by simpa using hlen)]

/-- The alias group that a leaf takes along, with whether it is one of the first table. The leaves
with one key become aliases of each other. -/
def keyOf (c : Comparison) (src : Source) : Option (Bool × AliasGroupId) :=
  (c.keptOf src).map fun g => (src.side == .removed, g)

/-- The ids of the leaves with a key. -/
def leavesWith (c : Comparison) (key : Bool × AliasGroupId) : List SymbolId :=
  (c.pairing.sources.zipIdx.filter fun p => c.keyOf p.1 == some key).map fun p => ⟨p.2⟩

/-- The keys of the removed or of the other leaves, in the order in which the leaves have them. -/
def keys (c : Comparison) (removed : Bool) : List (Bool × AliasGroupId) :=
  ((c.pairing.sources.filter fun src => (src.side == .removed) == removed).filterMap
    c.keptOf).eraseDups.map fun g => (removed, g)

/-- The keys of two or more leaves, in the order in which their alias groups are declared. -/
def declared (c : Comparison) : List (Bool × AliasGroupId) :=
  (c.keys false ++ c.keys true).filter fun key => 1 < (c.leavesWith key).length

/-- The alias group of a leaf among the leaves of the diff. -/
def handleOf (c : Comparison) (src : Source) : Option AliasGroupId :=
  (c.keyOf src).bind fun key => (c.declared.idxOf? key).map AliasGroupId.mk

/-- The number of leaves that are aliases of a leaf, itself included. -/
def aliasCount (c : Comparison) (src : Source) : Nat :=
  (c.keyOf src).elim 1 fun key => c.pairing.sources.countP fun src' => c.keyOf src' == some key

/-- A leaf has a key when it is the one of its source. -/
theorem mem_leavesWith (c : Comparison) (key : Bool × AliasGroupId) (i : Nat) :
    ⟨i⟩ ∈ c.leavesWith key ↔
      ∃ src, c.pairing.sources[i]? = some src ∧ c.keyOf src = some key := by
  unfold leavesWith
  rw [List.mem_map]
  constructor
  · rintro ⟨p, hp, heq⟩
    obtain ⟨hp, hkey⟩ := List.mem_filter.mp hp
    have hi : p.2 = i := congrArg SymbolId.index heq
    rw [List.mem_zipIdx_iff_getElem?, hi] at hp
    exact ⟨p.1, hp, by simpa using hkey⟩
  · rintro ⟨src, hsrc, hkey⟩
    exact ⟨(src, i), List.mem_filter.mpr ⟨List.mem_zipIdx_iff_getElem?.mpr hsrc, by simp [hkey]⟩,
      rfl⟩

/-- As many leaves have a key as there are sources with it. -/
theorem length_leavesWith (c : Comparison) (key : Bool × AliasGroupId) :
    (c.leavesWith key).length = c.pairing.sources.countP fun src => c.keyOf src == some key := by
  unfold leavesWith
  rw [List.length_map, ← List.countP_eq_length_filter]
  conv_rhs => rw [← List.zipIdx_map_fst 0 c.pairing.sources, List.countP_map]
  rfl

/-- No leaf is listed twice under a key. -/
theorem nodup_leavesWith (c : Comparison) (key : Bool × AliasGroupId) :
    (c.leavesWith key).Nodup := by
  have hplaces : ((c.pairing.sources.zipIdx.filter fun p => c.keyOf p.1 == some key).map
      Prod.snd).Nodup :=
    (List.nodup_zipIdx_map_snd _).sublist (List.filter_sublist.map _)
  have hids := hplaces.map (f := SymbolId.mk) fun a b hab => congrArg SymbolId.index hab
  rw [List.map_map] at hids
  exact hids

/-- No leaf is listed under two keys. -/
theorem nodup_flatten_leavesWith (c : Comparison) {keys : List (Bool × AliasGroupId)}
    (h : keys.Nodup) : (keys.map c.leavesWith).flatten.Nodup := by
  rw [List.nodup_flatten]
  constructor
  · intro ids hids
    obtain ⟨key, -, rfl⟩ := List.mem_map.mp hids
    exact c.nodup_leavesWith key
  · rw [List.pairwise_map]
    -- A common leaf has one source, and the source one key.
    refine h.imp fun {key key'} hne id hid hid' => hne ?_
    obtain ⟨src, hsrc, hkey⟩ := (c.mem_leavesWith key id.index).mp hid
    obtain ⟨src', hsrc', hkey'⟩ := (c.mem_leavesWith key' id.index).mp hid'
    rw [hsrc, Option.some.injEq] at hsrc'
    rw [← hsrc', hkey, Option.some.injEq] at hkey'
    exact hkey'

/-- No key is listed twice. -/
theorem nodup_keys (c : Comparison) : (c.keys false ++ c.keys true).Nodup := by
  have hside : ∀ removed, (c.keys removed).Nodup := fun removed =>
    (nodup_eraseDups _).map fun a b hab => congrArg Prod.snd hab
  refine (hside false).append (hside true) fun key hkey hkey' => ?_
  obtain ⟨g, -, rfl⟩ := List.mem_map.mp hkey
  obtain ⟨g', -, hg'⟩ := List.mem_map.mp hkey'
  exact absurd (congrArg Prod.fst hg') (by simp)

/-- The keys that are listed are those of the sources. -/
theorem mem_keys (c : Comparison) (key : Bool × AliasGroupId) :
    key ∈ c.keys false ++ c.keys true ↔ ∃ src ∈ c.pairing.sources, c.keyOf src = some key := by
  obtain ⟨removed, g⟩ := key
  -- A key is listed on its own side only.
  have hside : ∀ r, (removed, g) ∈ c.keys r ↔ removed = r ∧
      ∃ src ∈ c.pairing.sources, c.keyOf src = some (r, g) := by
    intro r
    simp only [keys, keyOf, List.mem_map, List.mem_eraseDups, List.mem_filterMap, List.mem_filter,
      Prod.mk.injEq, Option.map_eq_some_iff, beq_iff_eq]
    constructor
    · rintro ⟨g', ⟨src, ⟨hsrc, hr⟩, hg⟩, rfl, rfl⟩
      exact ⟨rfl, src, hsrc, g', hg, hr, rfl⟩
    · rintro ⟨rfl, src, hsrc, g', hg, hr, rfl⟩
      exact ⟨g', ⟨src, ⟨hsrc, hr⟩, hg⟩, rfl, rfl⟩
  rw [List.mem_append, hside, hside]
  cases removed <;> simp

/-- Lists whose elements correspond are processed alike by functions that agree on them. -/
theorem filterMap_eq_of_forall₂ {α β γ : Type} {R : α → β → Prop} {f : α → Option γ}
    {g : β → Option γ} {xs : List α} {ys : List β} (h : List.Forall₂ R xs ys)
    (hfg : ∀ x y, R x y → f x = g y) : xs.filterMap f = ys.filterMap g := by
  induction h with
  | nil => rfl
  | cons hxy _ ih => rw [List.filterMap_cons, List.filterMap_cons, hfg _ _ hxy, ih]

/-- A draft at its id, beside its source at its place. -/
def PlacedAt (c : Comparison) (p : Source × Nat) (q : Draft × SymbolId) : Prop :=
  c.Drafted p.1 q.1 ∧ q.2 = ⟨p.2⟩

/-- The drafts with their ids correspond to the sources with their places. -/
theorem forall₂_placedAt {c : Comparison} {sources : List Source} {drafts : List Draft}
    (h : List.Forall₂ c.Drafted sources drafts) (place : Nat) :
    List.Forall₂ c.PlacedAt (sources.zipIdx place) (drafts.zip (idsFrom place drafts)) := by
  unfold idsFrom
  induction h generalizing place with
  | nil => exact .nil
  | cons hd _ ih => exact .cons ⟨hd, rfl⟩ (ih (place + 1))

/-- The diff collects the leaves of one side by their keys. -/
theorem aliasClasses_eq {c : Comparison} {placed : List (Draft × SymbolId)}
    (h : List.Forall₂ c.PlacedAt c.pairing.sources.zipIdx placed) (removed : Bool) :
    aliasClasses (placed.filter fun q => (q.1.delta.side == .removed) == removed) =
      (c.keys removed).map c.leavesWith := by
  -- The groups that the drafts take along, in order, are those of the sources.
  have hgroups : (placed.filter fun q => (q.1.delta.side == .removed) == removed).filterMap
      (·.1.kept) = (c.pairing.sources.filter fun src => (src.side == .removed) == removed).filterMap
        c.keptOf := by
    conv_rhs => rw [← List.zipIdx_map_fst 0 c.pairing.sources]
    rw [List.filterMap_filter, List.filterMap_filter, List.filterMap_map]
    refine (filterMap_eq_of_forall₂ h fun p q hpq => ?_).symm
    simp [hpq.1.side, hpq.1.kept]
  -- The drafts that take a group along are at the places of the sources that do.
  have hids : ∀ g, ((placed.filter fun q => (q.1.delta.side == .removed) == removed).filter
      (·.1.kept == some g)).map Prod.snd = c.leavesWith (removed, g) := by
    intro g
    unfold leavesWith
    rw [List.filter_filter, ← List.filterMap_eq_map, ← List.filterMap_eq_map,
      List.filterMap_filter, List.filterMap_filter]
    refine (filterMap_eq_of_forall₂ h fun p q hpq => ?_).symm
    rw [hpq.1.side, hpq.1.kept, keyOf]
    cases c.keptOf p.1 with
    | none => simp
    | some g' => simp [and_comm, hpq.2]
  unfold aliasClasses keys
  rw [hgroups, List.map_map]
  exact List.map_congr_left fun g _ => hids g

/-- A leaf with a key has the facts of a symbol in the alias group of the key. -/
theorem exists_of_keyOf {c : Comparison} {src : Source} {key : Bool × AliasGroupId}
    (h : c.keyOf src = some key) : ∃ o id, c.factsOf src = some o ∧
      o.aliasGroup = some key.2 ∧ (if key.1 then c.before else c.after).get? id = some o := by
  unfold keyOf at h
  obtain ⟨g, hg, rfl⟩ := Option.map_eq_some_iff.mp h
  cases src with
  | added new =>
    obtain ⟨s, hs, hsg⟩ := Option.bind_eq_some_iff.mp (Option.filter_eq_some_iff.mp hg).1
    exact ⟨s, new, by rw [factsOf, hs, Option.some_or], hsg, hs⟩
  | removed old =>
    obtain ⟨s, hs, hsg⟩ := Option.bind_eq_some_iff.mp (Option.filter_eq_some_iff.mp hg).1
    exact ⟨s, old, hs, hsg, hs⟩
  | paired old new =>
    obtain ⟨s, hs, hsg⟩ := Option.bind_eq_some_iff.mp (Option.filter_eq_some_iff.mp hg).1
    exact ⟨s, new, by rw [factsOf, hs, Option.some_or], hsg, hs⟩

/-- Leaves with one key have one address. -/
theorem address_eq_of_keyOf {c : Comparison} (ha : c.after.Built) (hb : c.before.Built)
    {src src' : Source} {key : Bool × AliasGroupId} {o o' : Symbol} (hkey : c.keyOf src = some key)
    (hkey' : c.keyOf src' = some key) (ho : c.factsOf src = some o)
    (ho' : c.factsOf src' = some o') : o.address = o'.address := by
  obtain ⟨s, id, hs, hg, hget⟩ := exists_of_keyOf hkey
  obtain ⟨s', id', hs', hg', hget'⟩ := exists_of_keyOf hkey'
  obtain rfl := Option.some.inj (ho.symm.trans hs)
  obtain rfl := Option.some.inj (ho'.symm.trans hs')
  by_cases hside : key.1
  · rw [if_pos hside] at hget hget'
    exact hb.address_eq hget hget' hg hg'
  · rw [if_neg hside] at hget hget'
    exact ha.address_eq hget hget' hg hg'

/-- A symbol has the facts and the differences that a source stands for. -/
structure DeltaOf (c : Comparison) (src : Source) (s : Symbol) : Prop where
  /-- The facts are those of the newer symbol, apart from the amounts. -/
  facts : ∃ o, c.factsOf src = some o ∧ s.record =
    { o.record with size := c.change Symbol.size src, padding := c.change Symbol.padding src }
  /-- The symbol knows which side it came from. -/
  side : s.delta.map Delta.side = some src.side

/-- The leaf of a diff that stands for a source. -/
structure LeafOf (c : Comparison) (src : Source) (s : Symbol) : Prop extends DeltaOf c src s where
  /-- The alias group has the leaves with the same key. -/
  aliasGroup : s.aliasGroup = c.handleOf src
  /-- The number of aliases is that of the leaves with the same key. -/
  numAliases : s.numAliases = c.aliasCount src

/-- The place of an element in a list without repetitions. -/
theorem idxOf?_eq_some_iff_of_nodup {α : Type} [BEq α] [LawfulBEq α] {xs : List α} (h : xs.Nodup)
    (x : α) (i : Nat) : xs.idxOf? x = some i ↔ xs[i]? = some x := by
  rw [List.idxOf?_eq_some_iff, List.getElem?_eq_some_iff]
  refine exists_congr fun hi => and_iff_left_of_imp fun hx j hj hjx => ?_
  exact Nat.ne_of_lt hj ((h.getElem_inj_iff).mp (hjx.trans hx.symm))

/-- The alias group of a leaf is the place at which its key is declared. -/
theorem handleOf_eq_some_iff (c : Comparison) (src : Source) (g : AliasGroupId) :
    c.handleOf src = some g ↔
      ∃ key, c.keyOf src = some key ∧ c.declared[g.index]? = some key := by
  have hnodup : c.declared.Nodup := c.nodup_keys.filter _
  unfold handleOf
  rw [Option.bind_eq_some_iff]
  refine exists_congr fun key => and_congr_right fun _ => ?_
  rw [Option.map_eq_some_iff]
  constructor
  · rintro ⟨i, hi, rfl⟩
    exact (idxOf?_eq_some_iff_of_nodup hnodup key i).mp hi
  · intro hi
    exact ⟨g.index, (idxOf?_eq_some_iff_of_nodup hnodup key _).mpr hi, rfl⟩

/-- Every leaf is an alias of itself. -/
theorem aliasCount_pos (c : Comparison) {src : Source} (hsrc : src ∈ c.pairing.sources) :
    0 < c.aliasCount src := by
  unfold aliasCount
  cases hkey : c.keyOf src with
  | none => exact Nat.one_pos
  | some key => exact List.countP_pos_iff.mpr ⟨src, hsrc, by simp [hkey]⟩

/-- A leaf has an alias group exactly when it has other aliases than itself. -/
theorem isSome_handleOf_iff (c : Comparison) {src : Source} (hsrc : src ∈ c.pairing.sources) :
    (c.handleOf src).isSome ↔ 1 < c.aliasCount src := by
  unfold handleOf aliasCount
  cases hkey : c.keyOf src with
  | none => simp
  | some key =>
    have hkeys : key ∈ c.keys false ++ c.keys true := (c.mem_keys key).mpr ⟨src, hsrc, hkey⟩
    rw [Option.bind_some, Option.isSome_map, List.isSome_idxOf?, Option.elim_some,
      ← length_leavesWith, declared, List.mem_filter, and_iff_right hkeys, decide_eq_true_eq]

/-- A draft with the alias groups of the diff is the leaf of its source. -/
theorem leafOf_of_arena {c : Comparison} {symbols : Array Symbol} {groups : Array (List SymbolId)}
    (h : Arena symbols groups) (hgroups : groups.toList = c.declared.map c.leavesWith) {i : Nat}
    {src : Source} {s : Symbol} {d : Draft} (hsrc : c.pairing.sources[i]? = some src)
    (hs : symbols[i]? = some s) (hd : c.Drafted src d) (hbare : s.bare = (d.symbolAt i).bare) :
    c.LeafOf src s := by
  -- A group lists the leaves with the key that is declared at its place.
  have hgetD : ∀ g, groups.getD g [] = (c.declared[g]?.map c.leavesWith).getD [] := by
    intro g
    rw [Array.getD_eq_getD_getElem?, ← Array.getElem?_toList, hgroups, List.getElem?_map]
  have halias : s.aliasGroup = c.handleOf src := by
    refine Option.ext fun g => ?_
    rw [h.aliasGroup_iff g hs, hgetD, handleOf_eq_some_iff]
    cases hkey : c.declared[g.index]? with
    | none => simp
    | some key =>
      rw [Option.map_some, Option.getD_some, mem_leavesWith, hsrc]
      simp
  refine ⟨⟨?_, ?_⟩, halias, ?_⟩
  · obtain ⟨o, ho, hrecord⟩ := hd.facts
    refine ⟨o, ho, ?_⟩
    -- The flags of a symbol are known ones, so that a table keeps them all.
    have hflags : o.flags.toNat % 128 = o.flags.toNat := Nat.mod_eq_of_lt o.flags.bits.isLt
    calc s.record = s.bare.record := rfl
      _ = (d.symbolAt i).bare.record := by rw [hbare]
      _ = { d.record with flags := d.record.flags % 128 } := Symbol.record_ofRecord ⟨i⟩ _
      _ = _ := by
        rw [hrecord]
        simp [Symbol.record, hflags]
  · rw [← hd.side]
    exact congrArg (fun t : Symbol => t.delta.map Delta.side) hbare
  · rw [h.numAliases_eq hs, halias]
    have hmem := List.mem_of_getElem? hsrc
    cases hhandle : c.handleOf src with
    | none =>
      have hpos := c.aliasCount_pos hmem
      have hnot : ¬ 1 < c.aliasCount src := by simp [← c.isSome_handleOf_iff hmem, hhandle]
      rw [Option.elim_none]
      omega
    | some g =>
      obtain ⟨key, hkey, hdeclared⟩ := (c.handleOf_eq_some_iff src g).mp hhandle
      rw [Option.elim_some, hgetD, hdeclared, Option.map_some, Option.getD_some, length_leavesWith,
        aliasCount, hkey, Option.elim_some]

/-- Two leaves have a common alias group exactly when their sources have a common key. -/
theorem exists_handleOf_iff (c : Comparison) {i j : Nat} {src src' : Source} (hij : i ≠ j)
    (hsrc : c.pairing.sources[i]? = some src) (hsrc' : c.pairing.sources[j]? = some src') :
    (∃ g, c.handleOf src = some g ∧ c.handleOf src' = some g) ↔
      ∃ key, c.keyOf src = some key ∧ c.keyOf src' = some key := by
  constructor
  · rintro ⟨g, hg, hg'⟩
    obtain ⟨key, hkey, hdeclared⟩ := (c.handleOf_eq_some_iff src g).mp hg
    obtain ⟨key', hkey', hdeclared'⟩ := (c.handleOf_eq_some_iff src' g).mp hg'
    rw [hdeclared, Option.some.injEq] at hdeclared'
    exact ⟨key, hkey, hdeclared' ▸ hkey'⟩
  · rintro ⟨key, hkey, hkey'⟩
    -- The two leaves have the key, so that it is declared.
    have hsub : [⟨i⟩, ⟨j⟩] ⊆ c.leavesWith key := by
      intro id hid
      rcases List.mem_pair.mp hid with rfl | rfl
      · exact (c.mem_leavesWith key i).mpr ⟨src, hsrc, hkey⟩
      · exact (c.mem_leavesWith key j).mpr ⟨src', hsrc', hkey'⟩
    have hnodup : [(⟨i⟩ : SymbolId), ⟨j⟩].Nodup := by simpa using hij
    have htwo : 1 < (c.leavesWith key).length := hnodup.length_le_of_subset hsub
    have hcount : 1 < c.aliasCount src := by
      rwa [aliasCount, hkey, Option.elim_some, ← length_leavesWith]
    obtain ⟨g, hg⟩ := Option.isSome_iff_exists.mp
      ((c.isSome_handleOf_iff (List.mem_of_getElem? hsrc)).mpr hcount)
    refine ⟨g, hg, ?_⟩
    rw [← hg, handleOf, handleOf, hkey, hkey']

/-- The size of a leaf is the difference of its source. -/
theorem DeltaOf.size_eq {c : Comparison} {src : Source} {s : Symbol} (h : c.DeltaOf src s) :
    s.size = c.change Symbol.size src := by
  obtain ⟨o, -, hrecord⟩ := h.facts
  exact congrArg SymbolRecord.size hrecord

/-- The padding of a leaf is the difference of its source. -/
theorem DeltaOf.padding_eq {c : Comparison} {src : Source} {s : Symbol} (h : c.DeltaOf src s) :
    s.padding = c.change Symbol.padding src := by
  obtain ⟨o, -, hrecord⟩ := h.facts
  exact congrArg SymbolRecord.padding hrecord

/-- The root of a diff: a flat group of a fresh table, with one leaf for each source in order. -/
structure Outcome (c : Comparison) (root : Group) : Prop where
  /-- The table of the root comes from a builder. -/
  built : root.table.Built
  /-- The members are the symbols of the table. -/
  members : root.members = root.table.symbols.toList.map Node.leaf
  /-- The root has no names and no section. -/
  label : root.label = {}
  /-- The symbols are the leaves of the sources. -/
  leaves : List.Forall₂ c.LeafOf c.pairing.sources root.table.symbols.toList

/-- The alias groups of known symbols are found. -/
theorem exists_keptGroups {t : Table} {ids : List SymbolId} (keeps : AliasGroupId → Bool)
    (h : ∀ id ∈ ids, ∃ s, t.get? id = some s) : ∃ groups, keptGroups t keeps ids = .ok groups := by
  have hget : ∀ id ∈ ids, ∃ s, t.get id = .ok s ∧ True := by
    intro id hid
    obtain ⟨s, hs⟩ := h id hid
    exact ⟨s, by simp [Table.get, hs], trivial⟩
  obtain ⟨symbols, hsymbols, -⟩ := exists_mapM hget
  exact ⟨_, by simp only [keptGroups, hsymbols]; rfl⟩

/-- The drafts of a diff, once they are pushed, can be joined to alias groups by their keys. -/
theorem exists_declareAll_keys {c : Comparison} (ha : c.after.Built) (hb : c.before.Built)
    {b : Builder} (hbuilt : b.Built) {drafts : List Draft}
    (hdrafted : List.Forall₂ c.Drafted c.pairing.sources drafts)
    (hsymbols : b.symbols = (symbolsFrom 0 drafts).toArray) (hgroups : b.aliasGroups = #[]) :
    ∃ b', declareAll b ((c.keys false ++ c.keys true).map c.leavesWith) = .ok b' ∧ b'.Built ∧
      List.Forall₂ c.LeafOf c.pairing.sources b'.symbols.toList := by
  have hlookup : ∀ i, b.symbols[i]? = drafts[i]?.map (Draft.symbolAt · i) := by
    intro i
    rw [hsymbols, List.getElem?_toArray, getElem?_symbolsFrom]
  have hdraft : ∀ {i : Nat} {src : Source}, c.pairing.sources[i]? = some src →
      ∃ d, drafts[i]? = some d ∧ c.Drafted src d := by
    intro i src hsrc
    obtain ⟨hi, rfl⟩ := List.getElem?_eq_some_iff.mp hsrc
    have hi' : i < drafts.length := hdrafted.length_eq ▸ hi
    exact ⟨drafts[i], List.getElem?_eq_getElem hi', hdrafted.get hi hi'⟩
  -- The leaves with one key have the address of their alias group, and no aliases yet.
  have hfree : ∀ ms ∈ (c.keys false ++ c.keys true).map c.leavesWith, ∃ a, ∀ id ∈ ms, ∃ s,
      b.symbols[id.index]? = some s ∧ s.aliasGroup = none ∧ s.address = a := by
    intro ms hms
    obtain ⟨key, hkey, rfl⟩ := List.mem_map.mp hms
    obtain ⟨src, -, hsrc⟩ := (c.mem_keys key).mp hkey
    obtain ⟨o, -, ho, -⟩ := exists_of_keyOf hsrc
    refine ⟨o.address, fun id hid => ?_⟩
    obtain ⟨src', hsrc', hkey'⟩ := (c.mem_leavesWith key id.index).mp hid
    obtain ⟨d, hd, hd'⟩ := hdraft hsrc'
    obtain ⟨o', ho', hrecord⟩ := hd'.facts
    refine ⟨d.symbolAt id.index, by rw [hlookup, hd]; rfl, rfl, ?_⟩
    rw [address_eq_of_keyOf ha hb hsrc hkey' ho ho']
    exact congrArg SymbolRecord.address hrecord
  obtain ⟨b', hdeclare, hbuilt', hgroups', hbare⟩ :=
    exists_declareAll hbuilt (c.nodup_flatten_leavesWith c.nodup_keys) hfree
  rw [hgroups, List.filter_map] at hgroups'
  refine ⟨b', hdeclare, hbuilt', ?_⟩
  -- Joining moves no symbol, so that the leaf at a place is the draft at the place, joined.
  have hsize : b'.symbols.size = b.symbols.size := by
    rw [← Array.size_map (f := Symbol.bare), hbare, Array.size_map]
  have hlength : c.pairing.sources.length = b'.symbols.size := by
    rw [hsize, hsymbols, List.size_toArray, symbolsFrom, List.length_map, List.length_zipIdx,
      hdrafted.length_eq]
  rw [List.forall₂_iff_get]
  refine ⟨by rw [hlength, Array.length_toList], fun i hi hi' => ?_⟩
  rw [Array.length_toList] at hi'
  have hsrc : c.pairing.sources[i]? = some c.pairing.sources[i] := List.getElem?_eq_getElem hi
  have hs : b'.symbols[i]? = some b'.symbols[i] := Array.getElem?_eq_getElem hi'
  obtain ⟨d, hd, hd'⟩ := hdraft hsrc
  refine leafOf_of_arena hbuilt'.arena hgroups' hsrc hs hd' ?_
  have hbare_at : (b'.symbols.map Symbol.bare)[i]? = (b.symbols.map Symbol.bare)[i]? := by
    rw [hbare]
  rw [Array.getElem?_map, Array.getElem?_map, hs, hlookup, hd] at hbare_at
  exact Option.some.inj hbare_at

/-- The diff of known symbols comes about exactly when its leaves fit in a table. -/
theorem exists_diff {c : Comparison} (hk : c.Known) (ha : c.after.Built) (hb : c.before.Built)
    (name : String) (stamp : Stamp) :
    (c.pairing.sources.length ≤ tableCapacity →
      ∃ root, c.diff name stamp = .ok root ∧ c.Outcome root.value) ∧
    (tableCapacity < c.pairing.sources.length →
      c.diff name stamp = .error (.tableFull tableCapacity)) := by
  obtain ⟨added, removed, paired, hadded, hremoved, hpaired, hdrafted⟩ := exists_drafts hk
  obtain ⟨keptAfter, hkeptAfter⟩ := exists_keptGroups c.keepsAfter hk.after
  have hremovedKnown : ∀ id ∈ c.pairing.removed, ∃ s, c.before.get? id = some s :=
    fun id hid => hk.before id (List.mem_append_left _ hid)
  obtain ⟨keptBefore, hkeptBefore⟩ := exists_keptGroups c.keepsBefore hremovedKnown
  unfold Pairing.afterIds at hkeptAfter
  unfold diff
  simp only [hkeptAfter, hkeptBefore, hadded, hremoved, hpaired, bind, Except.bind]
  generalize added ++ removed ++ paired = drafts at hdrafted
  rw [hdrafted.length_eq]
  constructor
  · intro hcap
    have hpush : pushAll {} drafts =
        .ok (idsFrom 0 drafts, ⟨(symbolsFrom 0 drafts).toArray, #[]⟩) := by
      rw [pushAll_eq (by simpa [Builder.size] using hcap)]
      simp [Builder.size]
    obtain ⟨b', hdeclare, ⟨hbuilt, hleaves⟩⟩ := exists_declareAll_keys ha hb
      (built_of_pushAll .empty hpush) hdrafted rfl rfl
    -- The classes that the diff collects are the leaves of the keys.
    have hplaced := forall₂_placedAt hdrafted 0
    have hclasses := aliasClasses_eq hplaced false
    have hclasses' := aliasClasses_eq hplaced true
    simp only [beq_false, beq_true] at hclasses hclasses'
    rw [List.map_append, ← hclasses, ← hclasses'] at hdeclare
    refine ⟨_, by simp only [hpush, hdeclare]; rfl, ?_⟩
    exact ⟨⟨b', hbuilt, stamp, rfl⟩, rfl, rfl, hleaves⟩
  · intro hcap
    rw [pushAll_eq_error (b := {}) (by simp [Builder.size]) (by simpa [Builder.size] using hcap)]

end Comparison

end Footprint
