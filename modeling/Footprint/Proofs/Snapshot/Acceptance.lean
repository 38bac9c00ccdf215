import Footprint.Proofs.Snapshot.Loading

/-!
# Which snapshots are accepted

A record is loaded entry by entry: each alias group is checked against what the ones before it have
left in the builder. `SnapshotRecord.WellFormed` says the same of all entries at once, without a
builder. The bridge between the two is `Builder.Accepts`, which says of a builder in the middle of
the run what the rest of the entries has to satisfy; a step of the run and the predicate go on
together (`Builder.Built.accepts_cons_iff`).
-/

namespace Footprint

namespace Builder

variable {b : Builder} {places : List Nat} {groups : List (List Nat)}

/-- The symbols of some records, the first of which goes to a given place. -/
def recordsFrom (place : Nat) (rs : List SymbolRecord) : List Symbol :=
  (rs.zipIdx place).map fun p => .ofRecord ⟨p.2⟩ p.1

/-- Records that fit in a table are all pushed, in order. -/
theorem pushRecords_eq (b : Builder) {rs : List SymbolRecord}
    (h : b.size + rs.length ≤ tableCapacity) :
    b.pushRecords rs = .ok { b with symbols := b.symbols ++ recordsFrom b.size rs } := by
  induction rs generalizing b with
  | nil => simp [pushRecords, recordsFrom]
  | cons r rs ih =>
    rw [List.length_cons] at h
    have hsize : Builder.size { b with symbols := b.symbols.push (b.pushed r none) } =
        b.size + 1 := Array.size_push _
    rw [pushRecords, push_eq, if_pos (by omega)]
    simp only [bind, Except.bind]
    rw [ih _ (by omega), hsize]
    simp [recordsFrom, pushed, Symbol.ofRecord]

/-- The places of symbols become their ids; otherwise the error names a place without a symbol. -/
theorem Built.mapM_idAt (hb : b.Built) (places : List Nat) :
    ((∀ p ∈ places, p < b.size) ∧ places.mapM b.idAt = .ok (places.map SymbolId.mk)) ∨
      ∃ p ∈ places, b.size ≤ p ∧ places.mapM b.idAt = .error (.unknownSymbol p) := by
  induction places with
  | nil => exact .inl ⟨List.forall_mem_nil _, rfl⟩
  | cons p places ih =>
    rw [List.mapM_cons, idAt]
    cases hs : b.symbols[p]? with
    | none =>
      exact .inr ⟨p, List.mem_cons_self, Array.getElem?_eq_none_iff.mp hs, rfl⟩
    | some s =>
      have hp : p < b.size := (Array.getElem?_eq_some_iff.mp hs).1
      rcases ih with ⟨hlt, hok⟩ | ⟨q, hq, hle, herror⟩
      · refine .inl ⟨List.forall_mem_cons.mpr ⟨hp, hlt⟩, ?_⟩
        simp only [hok, hb.arena.id_eq hs]
        rfl
      · exact .inr ⟨q, List.mem_cons_of_mem _ hq, hle, by rw [herror]; rfl⟩

/-- The check of known members fails with a fault of the alias group, if at all. -/
theorem checkAliases_cases (b : Builder) {ids : List SymbolId}
    (hknown : ∀ id ∈ ids, id.index < b.size) (seen : List SymbolId) (address : Option UInt64) :
    b.checkAliases seen address ids = .ok () ∨
      ∃ fault, b.checkAliases seen address ids = .error (.aliasGroup fault) := by
  induction ids generalizing seen address with
  | nil => exact .inl rfl
  | cons id ids ih =>
    obtain ⟨hid, hknown⟩ := List.forall_mem_cons.mp hknown
    have hs : b.get? id = some b.symbols[id.index] := Array.getElem?_eq_getElem hid
    simp only [checkAliases, hs]
    split_ifs
    · exact .inr ⟨_, rfl⟩
    · exact .inr ⟨_, rfl⟩
    · exact ih hknown _ _
    · exact .inr ⟨_, rfl⟩

/-- Whether some ids can become an alias group: two or more ids of symbols without aliases, none of
them twice, at one address. -/
def Joinable (b : Builder) (members : List SymbolId) : Prop :=
  2 ≤ members.length ∧ members.Nodup ∧ ∃ a, ∀ id ∈ members, ∃ s,
    b.symbols[id.index]? = some s ∧ s.aliasGroup = none ∧ s.address = a

/-- Known members are joined when they can be; otherwise the error is a fault of the alias group. -/
theorem Built.addAliasGroup_cases (hb : b.Built) {members : List SymbolId}
    (hknown : ∀ id ∈ members, id.index < b.size) :
    (b.Joinable members ∧
        b.addAliasGroup members = .ok (⟨b.aliasGroups.size⟩, b.joined members)) ∨
      (¬ b.Joinable members ∧ ∃ fault, b.addAliasGroup members = .error (.aliasGroup fault)) := by
  have hok := b.addAliasGroup_eq_ok_iff members ⟨b.aliasGroups.size⟩ (b.joined members)
  by_cases hjoin : b.Joinable members
  · have ⟨hlen, hnodup, hmem⟩ := hjoin
    exact .inl ⟨hjoin, hok.mpr ⟨⟨hlen, hnodup, hb.groups_lt_tableCapacity, hmem⟩, rfl, rfl⟩⟩
  · refine .inr ⟨hjoin, ?_⟩
    by_cases hlen : members.length < 2
    · exact ⟨.tooFew members.length, by rw [Builder.addAliasGroup, if_pos hlen]; rfl⟩
    · rcases b.checkAliases_cases hknown [] none with hcheck | ⟨fault, hcheck⟩
      · -- The check would pass only members that can be joined.
        obtain ⟨hnodup, -, a, -, hmem⟩ := (b.checkAliases_eq_ok_iff [] none members).mp hcheck
        exact absurd ⟨by omega, hnodup, a, hmem⟩ hjoin
      · exact ⟨fault, by rw [Builder.addAliasGroup, if_neg hlen, hcheck]; rfl⟩

/-- The places of the symbols that have an alias group, in the order of their declaration. -/
def listed (b : Builder) : List Nat :=
  b.aliasGroups.toList.flatten.map SymbolId.index

/-- The address of the symbol at a place. -/
def addressAt (b : Builder) (p : Nat) : Option UInt64 :=
  (b.symbols[p]?).map Symbol.address

/-- What entries have to satisfy to become alias groups beside those that the builder has. -/
structure Accepts (b : Builder) (groups : List (List Nat)) : Prop where
  /-- An entry has two or more places. -/
  two_le : ∀ places ∈ groups, 2 ≤ places.length
  /-- There is a symbol at each place. -/
  lt_size : ∀ places ∈ groups, ∀ p ∈ places, p < b.size
  /-- No place is listed twice, neither in one entry nor in two nor in an entry and a group of the
  builder. -/
  nodup : (b.listed ++ groups.flatten).Nodup
  /-- The symbols of an entry have one address. -/
  addressAt_eq : ∀ places ∈ groups, ∀ p ∈ places, ∀ q ∈ places, b.addressAt p = b.addressAt q

/-- One more alias group is listed last. -/
theorem listed_joined (b : Builder) (places : List Nat) :
    (b.joined (places.map SymbolId.mk)).listed = b.listed ++ places := by
  simp [listed, joined, Function.comp_def]

/-- Joining keeps the number of symbols. -/
theorem size_joined (b : Builder) (members : List SymbolId) : (b.joined members).size = b.size :=
  Array.size_map

/-- Joining keeps the addresses. -/
theorem addressAt_joined (b : Builder) (members : List SymbolId) (p : Nat) :
    (b.joined members).addressAt p = b.addressAt p := by
  simp [addressAt, joined, Function.comp_def]

/-- A symbol has no alias group exactly when its place is not listed. -/
theorem Built.aliasGroup_eq_none_iff (hb : b.Built) {p : Nat} {s : Symbol}
    (hs : b.symbols[p]? = some s) : s.aliasGroup = none ↔ p ∉ b.listed := by
  have hlisted : p ∈ b.listed ↔ ∃ g : AliasGroupId, s.aliasGroup = some g := by
    simp only [listed, List.mem_map, List.mem_flatten, hb.arena.aliasGroup_iff _ hs]
    constructor
    · rintro ⟨id, ⟨ms, hms, hid⟩, rfl⟩
      obtain ⟨g, hg, rfl⟩ := Array.getElem_of_mem (Array.mem_toList_iff.mp hms)
      exact ⟨⟨g⟩, by rw [Array.getD_eq_getD_getElem?, Array.getElem?_eq_getElem hg]; exact hid⟩
    · rintro ⟨g, hin⟩
      obtain ⟨ms, hms, -, hid⟩ := exists_group_of_mem_getD hin
      exact ⟨⟨p⟩, ⟨ms, hms, hid⟩, rfl⟩
  rw [hlisted, Option.eq_none_iff_forall_ne_some, not_exists]

/-- Entries are accepted when the first one can be joined and the others are accepted after it. -/
theorem Built.accepts_cons_iff (hb : b.Built) (hlt : ∀ p ∈ places, p < b.size) :
    b.Accepts (places :: groups) ↔
      b.Joinable (places.map SymbolId.mk) ∧ (b.joined (places.map SymbolId.mk)).Accepts groups := by
  constructor
  · rintro ⟨htwo, hsize, hnodup, haddress⟩
    obtain ⟨hlen, htwo⟩ := List.forall_mem_cons.mp htwo
    obtain ⟨-, hsize⟩ := List.forall_mem_cons.mp hsize
    obtain ⟨hfirst, haddress⟩ := List.forall_mem_cons.mp haddress
    rw [List.flatten_cons, ← List.append_assoc] at hnodup
    obtain ⟨-, hplaces, hfresh⟩ := List.nodup_append.mp (List.Nodup.of_append_left hnodup)
    refine ⟨⟨by simpa, hplaces.map fun p q h => congrArg SymbolId.index h, ?_⟩, htwo, ?_, ?_, ?_⟩
    · -- The address is that of the first of the places.
      obtain ⟨p, rest, rfl⟩ := List.exists_cons_of_ne_nil (l := places) (by rintro rfl; simp at hlen)
      have hp : p < b.symbols.size := hlt p List.mem_cons_self
      refine ⟨b.symbols[p].address, List.forall_mem_map.mpr fun q hq => ?_⟩
      have hq' : q < b.symbols.size := hlt q hq
      have hs : b.symbols[q]? = some b.symbols[q] := Array.getElem?_eq_getElem hq'
      refine ⟨_, hs, (hb.aliasGroup_eq_none_iff hs).mpr fun hin => hfresh q hin q hq rfl, ?_⟩
      have heq := hfirst q hq p List.mem_cons_self
      rw [addressAt, addressAt, hs, Array.getElem?_eq_getElem hp] at heq
      exact Option.some.inj heq
    · rwa [size_joined]
    · rwa [listed_joined]
    · simpa only [addressAt_joined] using haddress
  · rintro ⟨⟨hlen, -, a, hmem⟩, htwo, hsize, hnodup, haddress⟩
    rw [size_joined] at hsize
    rw [listed_joined, List.append_assoc] at hnodup
    simp only [addressAt_joined] at haddress
    have ha : ∀ p ∈ places, b.addressAt p = some a := by
      intro p hp
      obtain ⟨s, hs, -, rfl⟩ := hmem ⟨p⟩ (List.mem_map_of_mem hp)
      rw [addressAt, hs, Option.map_some]
    exact {
      two_le := List.forall_mem_cons.mpr ⟨by simpa using hlen, htwo⟩
      lt_size := List.forall_mem_cons.mpr ⟨hlt, hsize⟩
      nodup := hnodup
      addressAt_eq := List.forall_mem_cons.mpr
        ⟨fun p hp q hq => (ha p hp).trans (ha q hq).symm, haddress⟩ }

/-- The groups of a builder are always accepted beside no others. -/
theorem Built.accepts_nil (hb : b.Built) : b.Accepts [] where
  two_le _ h := nomatch h
  lt_size _ h := nomatch h
  nodup := by
    rw [List.flatten_nil, List.append_nil]
    exact hb.arena.nodup.map fun x y h => by cases x; cases y; simpa using h
  addressAt_eq _ h := nomatch h

/-- Entries are declared one after the other exactly when they are accepted all at once, and change
nothing but the aliases. Otherwise the error names a place without a symbol or a fault of an alias
group. -/
theorem Built.addAliasPlaces_cases (hb : b.Built) (groups : List (List Nat)) :
    (b.Accepts groups ∧ ∃ b', b.addAliasPlaces groups = .ok b' ∧
        b'.aliasGroups.toList = b.aliasGroups.toList ++ groups.map (·.map SymbolId.mk) ∧
        b'.symbols.map Symbol.bare = b.symbols.map Symbol.bare) ∨
      (¬ b.Accepts groups ∧ ∃ e, b.addAliasPlaces groups = .error e ∧
        ((∃ places ∈ groups, ∃ p ∈ places, b.size ≤ p ∧ e = .unknownSymbol p) ∨
          ∃ fault, e = .aliasGroup fault)) := by
  induction groups generalizing b with
  | nil => exact .inl ⟨hb.accepts_nil, b, rfl, by simp, rfl⟩
  | cons places groups ih =>
    rw [Builder.addAliasPlaces]
    rcases hb.mapM_idAt places with ⟨hlt, hids⟩ | ⟨p, hp, hle, hids⟩
    · rw [hids, hb.accepts_cons_iff hlt]
      rcases hb.addAliasGroup_cases (List.forall_mem_map.mpr hlt) with
        ⟨hjoin, hadd⟩ | ⟨hjoin, fault, hadd⟩
      · rcases ih (hb.addAliasGroup hadd) with ⟨haccepts, b', hb', hgroups, hbare⟩ |
          ⟨haccepts, e, he, hcases⟩
        · refine .inl ⟨⟨hjoin, haccepts⟩, b', ?_, ?_, ?_⟩
          · simp only [bind, Except.bind, hadd]
            exact hb'
          · rw [hgroups]
            simp [joined]
          · rw [hbare]
            simp [joined, Function.comp_def]
        · refine .inr ⟨fun h => haccepts h.2, e, ?_, ?_⟩
          · simp only [bind, Except.bind, hadd]
            exact he
          · rw [size_joined] at hcases
            rcases hcases with ⟨ms, hms, h⟩ | h
            · exact .inl ⟨ms, List.mem_cons_of_mem _ hms, h⟩
            · exact .inr h
      · exact .inr ⟨fun h => hjoin h.1, _, by simp only [bind, Except.bind, hadd],
          .inr ⟨fault, rfl⟩⟩
    · refine .inr ⟨fun h => ?_, .unknownSymbol p, by rw [hids]; rfl,
        .inl ⟨places, List.mem_cons_self, p, hp, hle, rfl⟩⟩
      have := h.lt_size places List.mem_cons_self p hp
      omega

end Builder

/-- The alias groups of a record are lists of two or more places of symbols with one address, and
no place is listed twice. -/
structure SnapshotRecord.WellFormed (r : SnapshotRecord) : Prop where
  /-- An alias group has two or more places. -/
  two_le : ∀ places ∈ r.aliasGroups, 2 ≤ places.length
  /-- There is a symbol at each place. -/
  lt_length : ∀ places ∈ r.aliasGroups, ∀ p ∈ places, p < r.symbols.length
  /-- No place is listed twice, neither in one alias group nor in two. -/
  nodup : r.aliasGroups.flatten.Nodup
  /-- The symbols of an alias group have one address. -/
  address_eq : ∀ places ∈ r.aliasGroups, ∀ p ∈ places, ∀ q ∈ places,
    (r.symbols[p]?).map SymbolRecord.address = (r.symbols[q]?).map SymbolRecord.address

/-- A snapshot has all that a record says: its symbols and its alias groups in order, with the known
ones of the flags. -/
structure Snapshot.Holds (s : Snapshot) (r : SnapshotRecord) : Prop where
  /-- The table has a symbol for each record. -/
  size : s.listing.raw.table.size = r.symbols.length
  /-- The id of a symbol is its place. -/
  ids : s.listing.raw.table.ids = (List.range r.symbols.length).map SymbolId.mk
  /-- The records of the symbols are those of the record. -/
  records : s.listing.raw.table.symbols.toList.map Symbol.record =
    r.symbols.map fun x => { x with flags := x.flags % 128 }
  /-- The alias groups list the symbols at the places of the record. -/
  aliasGroups : s.listing.raw.table.aliasGroups.toList = r.aliasGroups.map (·.map SymbolId.mk)
  /-- The list of symbols has all of them in order. -/
  members : s.listing.raw.members = s.listing.raw.table.symbols.toList.map .leaf
  /-- The section sizes are those of the record. -/
  sectionSizes : s.sectionSizes = r.sectionSizes
  /-- The provenance is that of the record. -/
  metadata : s.metadata = r.metadata

namespace Builder

variable {b : Builder}

/-- The symbol of the record at a place. -/
theorem getElem?_recordsFrom (place : Nat) (rs : List SymbolRecord) (i : Nat) :
    (recordsFrom place rs)[i]? = rs[i]?.map (Symbol.ofRecord ⟨place + i⟩) := by
  simp [recordsFrom, List.getElem?_zipIdx, Function.comp_def]

/-- The symbols of records have the records. -/
theorem map_record_recordsFrom (place : Nat) (rs : List SymbolRecord) :
    (recordsFrom place rs).map Symbol.record =
      rs.map fun x => { x with flags := x.flags % 128 } := by
  refine List.ext_getElem? fun i => ?_
  rw [List.getElem?_map, getElem?_recordsFrom, List.getElem?_map, Option.map_map]
  exact congrArg (Option.map · _) (funext fun x => Symbol.record_ofRecord _ x)

/-- With the symbols of a record and no alias groups yet, the alias groups that are accepted are
those that are well formed. -/
theorem accepts_iff_wellFormed {r : SnapshotRecord}
    (hsymbols : b.symbols = (recordsFrom 0 r.symbols).toArray) (hgroups : b.aliasGroups = #[]) :
    b.Accepts r.aliasGroups ↔ r.WellFormed := by
  have hsize : b.size = r.symbols.length := by simp [size, hsymbols, recordsFrom]
  have hlisted : b.listed = [] := by simp [listed, hgroups]
  have haddress : ∀ p, b.addressAt p = (r.symbols[p]?).map SymbolRecord.address := by
    intro p
    rw [addressAt, hsymbols, List.getElem?_toArray, getElem?_recordsFrom, Option.map_map]
    rfl
  constructor
  · rintro ⟨htwo, hlt, hnodup, heq⟩
    simp only [hsize, hlisted, List.nil_append, haddress] at hlt hnodup heq
    exact ⟨htwo, hlt, hnodup, heq⟩
  · rintro ⟨htwo, hlt, hnodup, heq⟩
    refine ⟨htwo, ?_, ?_, ?_⟩
    · rwa [hsize]
    · rwa [hlisted]
    · simpa only [haddress] using heq

end Builder

namespace Snapshot

/-- A built table with the symbols of a record and its alias groups has all that the record says. -/
theorem holds_of_bare_eq {r : SnapshotRecord} {t : Table} (ht : t.Built)
    (hbare : t.symbols.map Symbol.bare =
      (Builder.recordsFrom 0 r.symbols).toArray.map Symbol.bare)
    (hgroups : t.aliasGroups.toList = r.aliasGroups.map (·.map SymbolId.mk)) :
    Holds ⟨r.sectionSizes, { raw := .ofTable t }, r.metadata⟩ r := by
  have hsize : t.size = r.symbols.length := by
    have h := congrArg Array.size hbare
    simpa [Table.size, Builder.recordsFrom] using h
  refine ⟨hsize, hsize ▸ ht.ids_eq, ?_, hgroups, rfl, rfl, rfl⟩
  -- The record of a symbol does not tell its aliases.
  have h := congrArg (fun xs => (xs.map Symbol.record).toList) hbare
  simp only [Array.toList_map, List.map_map] at h
  exact h.trans (Builder.map_record_recordsFrom 0 r.symbols)

end Snapshot

/-- Exactly the well-formed records are loaded, and nothing of them is lost but unknown flags. The
error for any other record names a place of an alias group without a symbol, or a fault of an alias
group. -/
theorem ofRecord_accepts {r : SnapshotRecord} (hcap : r.symbols.length ≤ tableCapacity)
    (stamp : Stamp) :
    ((∃ s, Snapshot.ofRecord r stamp = .ok s) ↔ r.WellFormed) ∧
      (∀ s, Snapshot.ofRecord r stamp = .ok s → s.value.Holds r) ∧
      ∀ e, Snapshot.ofRecord r stamp = .error e →
        (∃ places ∈ r.aliasGroups, ∃ p ∈ places, r.symbols.length ≤ p ∧ e = .unknownSymbol p) ∨
          ∃ fault, e = .aliasGroup fault := by
  let b : Builder := ⟨(Builder.recordsFrom 0 r.symbols).toArray, #[]⟩
  have hpush : Builder.pushRecords {} r.symbols = .ok b := by
    rw [Builder.pushRecords_eq {} (by simpa [Builder.size] using hcap)]
    simp [Builder.size, b]
  have hbuilt : b.Built := Builder.Built.empty.pushRecords hpush
  have hsize : b.size = r.symbols.length := by simp [Builder.size, b, Builder.recordsFrom]
  rw [← Builder.accepts_iff_wellFormed (b := b) rfl rfl]
  rcases hbuilt.addAliasPlaces_cases r.aliasGroups with
    ⟨haccepts, b', hb', hgroups, hbare⟩ | ⟨haccepts, e, he, hcases⟩
  · have hok : Snapshot.ofRecord r stamp = .ok (do
        let table ← b'.freeze stamp
        return ⟨r.sectionSizes, { raw := .ofTable table }, r.metadata⟩) := by
      simp only [Snapshot.ofRecord, hpush, bind, Except.bind, hb']
      rfl
    rw [hok]
    refine ⟨iff_of_true ⟨_, rfl⟩ haccepts, ?_, ?_⟩
    · rintro s ⟨⟩
      exact Snapshot.holds_of_bare_eq ⟨b', hbuilt.addAliasPlaces hb', stamp, rfl⟩ hbare hgroups
    · rintro e ⟨⟩
  · have herror : Snapshot.ofRecord r stamp = .error e := by
      simp only [Snapshot.ofRecord, hpush, bind, Except.bind, he]
    rw [herror]
    refine ⟨iff_of_false ?_ haccepts, ?_, ?_⟩
    · rintro ⟨s, ⟨⟩⟩
    · rintro s ⟨⟩
    · rintro _ ⟨⟩
      rwa [hsize] at hcases

/-- Two alias groups whose places alternate. -/
def interleavedAliases : SnapshotRecord :=
  { symbols :=
      [{ sectionName := ".text", size := 8, address := 16, fullName := "foo", flags := 129 },
        { sectionName := ".text", size := 4, address := 32, fullName := "baz" },
        { sectionName := ".text", size := 8, address := 16, fullName := "bar" },
        { sectionName := ".text", size := 4, address := 32, fullName := "qux" }]
    aliasGroups := [[2, 0], [1, 3]] }

/-- Alias groups may alternate. -/
theorem ofRecord_accepts_interleaved :
    interleavedAliases.symbols.length ≤ tableCapacity ∧ interleavedAliases.WellFormed ∧
      ∃ s, Snapshot.ofRecord interleavedAliases ⟨0⟩ = .ok s ∧ s.value.Holds interleavedAliases := by
  have hcap : interleavedAliases.symbols.length ≤ tableCapacity := by decide
  have hwell : interleavedAliases.WellFormed :=
    ⟨by decide, by decide, by decide, by decide⟩
  obtain ⟨hiff, hholds, -⟩ := ofRecord_accepts hcap ⟨0⟩
  obtain ⟨s, hs⟩ := hiff.mpr hwell
  exact ⟨hcap, hwell, s, hs, hholds s hs⟩

end Footprint
