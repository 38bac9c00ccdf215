import Mathlib.Logic.Relation
import Footprint.Proofs.Symbol.Spelling

/-!
# How a snapshot may be written

A snapshot is read from its four fields: a dictionary of numbers, a list of symbols, a list of lists
of places, and free-form provenance. Each of these codecs looks at its parts only through their own
codecs, so whatever does not matter to a part does not matter to the snapshot. Two documents of the
same snapshot may therefore differ in the order of keys at every depth, and in the way in which the
snapshot or any of its symbols is written as a record (`SnapshotRecord.Rewritten`). All of this
holds for any library that keeps its promises (`Json.Codecs.Documented`).
-/

namespace Footprint

open Json (Fields given?)
open Json.Declaration (readBack_default)

variable {c : Json.Codecs}

/-- The order of keys does not matter to provenance. -/
theorem Metadata.orderFree_codec (hc : c.Documented) : Json.OrderFree (codec c).read? := by
  have hvalue : Json.OrderFree c.value.read? := by
    rw [hc.value_read?]
    exact Json.orderFree_settle
  intro j j' h
  rw [codec, hc.wrapped_read?, hc.wrapped_read?, hc.orderFree_dict hvalue h]

/-- Provenance with settled values under ordered keys is read back from what it is written as. -/
theorem Metadata.read?_write_codec (hc : c.Documented) {m : Metadata}
    (h : (Json.object m.facts.entries).Settled) :
    (codec c).read? ((codec c).write m) = some m := by
  cases h with
  | object hkeys hvalues =>
    have hfacts : (c.dict c.value).read? ((c.dict c.value).write m.facts) = some m.facts :=
      hc.read?_write_dict hkeys fun e he => by
        rw [hc.value_read?, hc.value_write, (hvalues e he).settle_eq]
    rw [codec, hc.wrapped_read?, hc.wrapped_write, hfacts, Option.map_some]

namespace SnapshotRecord

/-- The names of the fields of a snapshot in the order of their declaration. -/
def fieldNames : List String := ["section_sizes", "symbols", "alias_groups", "metadata"]

/-- The order of keys does not matter to a snapshot. -/
theorem orderFree_codec (hc : c.Documented) : Json.OrderFree (codec c).read? := by
  have hsizes := hc.orderFree_dict (hc.int64.orderFree nofun nofun)
  have hsymbols := hc.orderFree_list (SymbolRecord.orderFree_codec hc)
  have haliases := hc.orderFree_list (hc.orderFree_list (hc.nat64.orderFree nofun nofun))
  exact hc.orderFree_record
    ⟨hsizes, hsymbols, haliases, Metadata.orderFree_codec hc, trivial⟩

/-- One document writes a snapshot in another way than the other one. -/
inductive Rewritten (c : Json.Codecs) : Json → Json → Prop where
  /-- The fields of the snapshot are written in another way. -/
  | snapshot {j j' : Json} (h : (declaration c).Rewritten j j') : Rewritten c j j'
  /-- The fields of one of its symbols are written in another way. -/
  | symbol {s s' : Json} (front rest : List (String × Json)) (before after : List Json)
    (h : (SymbolRecord.declaration c).Rewritten s s') :
    Rewritten c (.object (front ++ ("symbols", .array (before ++ s :: after)) :: rest))
      (.object (front ++ ("symbols", .array (before ++ s' :: after)) :: rest))
  /-- The keys of some object in it are in another order. -/
  | keys {j j' : Json} (h : Json.Reordered j j') : Rewritten c j j'

/-- The way in which a snapshot is written does not matter. -/
theorem Rewritten.read?_eq (hc : c.Documented) {j j' : Json} (h : Rewritten c j j') :
    (codec c).read? j = (codec c).read? j' := by
  cases h with
  | snapshot h => exact hc.read?_record_rewritten h
  | @symbol s s' front rest before after h =>
    have hsymbol : (SymbolRecord.codec c).read? s = (SymbolRecord.codec c).read? s' :=
      hc.read?_record_rewritten h
    have hsymbols : (c.list (SymbolRecord.codec c)).read? (.array (before ++ s :: after)) =
        (c.list (SymbolRecord.codec c)).read? (.array (before ++ s' :: after)) := by
      rw [hc.list_read?, Json.list?_item hsymbol]
    have hfields : (declaration c).fields.All fun _ f => f.name = "symbols" →
        f.codec.read? (.array (before ++ s :: after)) =
          f.codec.read? (.array (before ++ s' :: after)) := by
      simpa [declaration, Fields.All] using hsymbols
    exact hc.read?_record_value hfields front rest
  | keys h => exact orderFree_codec hc h

/-- A snapshot may be written as the list of the values of its fields. -/
theorem rewritten_values (c : Json.Codecs) (sizes symbols aliases metadata : Json) :
    (declaration c).Rewritten
      (.object [("section_sizes", sizes), ("symbols", symbols), ("alias_groups", aliases),
        ("metadata", metadata)])
      (.array [sizes, symbols, aliases, metadata]) := by
  have hlength : [sizes, symbols, aliases, metadata].length ≤ (declaration c).names.length :=
    le_refl 4
  exact .positional hlength

/-- The parts of a snapshot fit their types. -/
structure InRange (r : SnapshotRecord) : Prop where
  /-- The section sizes are in the order of the sections. -/
  ordered : r.sectionSizes.Ordered
  /-- The section sizes are signed 64-bit numbers. -/
  sectionSizes : ∀ e ∈ r.sectionSizes.entries, Json.InInt64 e.2
  /-- The numbers of the symbols fit their types. -/
  symbols : ∀ s ∈ r.symbols, s.InRange
  /-- The places in alias groups are unsigned 64-bit numbers. -/
  aliasGroups : ∀ g ∈ r.aliasGroups, ∀ place ∈ g, place < 2 ^ 64
  /-- The provenance consists of settled values under ordered keys. -/
  metadata : (Json.object r.metadata.facts.entries).Settled

/-- A snapshot is read back from what it is written as. -/
theorem read?_write_codec (hc : c.Documented) {r : SnapshotRecord} (h : r.InRange) :
    (codec c).read? ((codec c).write r) = some r := by
  have hsizes := hc.read?_write_dict h.ordered fun e he =>
    hc.int64.read?_write (h.sectionSizes e he)
  have hsymbols := hc.read?_write_list fun s hs =>
    SymbolRecord.read?_write_codec hc (h.symbols s hs)
  have haliases := hc.read?_write_list fun g hg => hc.read?_write_list fun place hplace =>
    hc.nat64.read?_write (h.aliasGroups g hg place hplace)
  exact hc.read?_write_record
    ⟨hsizes, hsymbols, haliases, Metadata.read?_write_codec hc h.metadata, trivial⟩

/-- The defaults of a snapshot are read back from what they are written as. -/
theorem defaultsReadBack (hc : c.Documented) : (declaration c).DefaultsReadBack := by
  have hsizes := hc.read?_write_dict (k := c.int64) (d := .empty) .nil nofun
  have hsymbols : (c.list (SymbolRecord.codec c)).read? ((c.list (SymbolRecord.codec c)).write []) =
      some [] :=
    hc.read?_write_list nofun
  have haliases : (c.list (c.list c.nat64)).read? ((c.list (c.list c.nat64)).write []) = some [] :=
    hc.read?_write_list nofun
  have hmetadata := Metadata.read?_write_codec hc (m := {}) (.object .nil nofun)
  exact ⟨readBack_default hsizes, readBack_default hsymbols, readBack_default haliases,
    readBack_default hmetadata, trivial⟩

/-- A document in which a symbol or a number of a snapshot is amiss. -/
inductive Flawed (j : Json) : Prop where
  /-- A symbol is amiss. -/
  | symbol {items : List Json} {s : Json}
    (hgiven : given? fieldNames "symbols" j = some (.array items)) (hs : s ∈ items)
    (h : SymbolRecord.Flawed s)
  /-- A section size is not a signed 64-bit number. -/
  | sectionSize {entries : List (String × Json)} {e : String × Json}
    (hgiven : given? fieldNames "section_sizes" j = some (.object entries)) (he : e ∈ entries)
    (hv : ∀ n, Json.InInt64 n → e.2 ≠ .int n)
  /-- A place in an alias group is not an unsigned 64-bit number. -/
  | aliasPlace {groups group : List Json} {v : Json}
    (hgiven : given? fieldNames "alias_groups" j = some (.array groups))
    (hgroup : .array group ∈ groups) (hmem : v ∈ group) (hv : ∀ n : Nat, n < 2 ^ 64 → v ≠ .int n)

/-- No snapshot is read from a document in which a symbol or a number is amiss. -/
theorem Flawed.read?_eq_none (hc : c.Documented) {j : Json} (h : Flawed j) :
    (codec c).read? j = none := by
  cases h with
  | symbol hgiven hs hflaw =>
    have hnone := hc.read?_list_eq_none hs (hflaw.read?_eq_none hc)
    exact hc.read?_record_of_unreadable hgiven (by simp [declaration, Fields.Any, hnone])
  | sectionSize hgiven he hv =>
    have hnone := hc.read?_dict_eq_none he (hc.int64.read?_eq_none hv)
    exact hc.read?_record_of_unreadable hgiven (by simp [declaration, Fields.Any, hnone])
  | aliasPlace hgiven hgroup hmem hv =>
    have hplaces := hc.read?_list_eq_none hmem (hc.nat64.read?_eq_none hv)
    have hnone := hc.read?_list_eq_none hgroup hplaces
    exact hc.read?_record_of_unreadable hgiven (by simp [declaration, Fields.Any, hnone])

/-- Snapshots survive JSON, in any library that keeps its promises. A snapshot whose parts fit their
types is read back from what it is written as. Documents that differ in the order of keys at any
depth, in unknown keys, in fields left out for their default, or in records that are lists of their
fields give the same snapshot or are all refused. A document is refused when a symbol in it lacks
its section or its size, or when a number does not fit its type. -/
theorem survives_json (c : Json.Codecs) (hc : c.Documented) (r : SnapshotRecord) (h : r.InRange) :
    (codec c).read? ((codec c).write r) = some r ∧
      (∀ j j', Relation.EqvGen (Rewritten c) j j' → (codec c).read? j = (codec c).read? j') ∧
      ∀ j, Flawed j → (codec c).read? j = none := by
  refine ⟨read?_write_codec hc h, fun j j' hj => ?_, fun j hj => hj.read?_eq_none hc⟩
  induction hj with
  | rel _ _ hstep => exact hstep.read?_eq hc
  | refl => rfl
  | symm _ _ _ ih => exact ih.symm
  | trans _ _ _ _ _ ih ih' => exact ih.trans ih'

/-- A symbol without flags. -/
def bootloaderStart : SymbolRecord where
  sectionName := ".text"
  size := 16
  padding := 4
  address := 4096
  fullName := "start(int)"
  templateName := "start"
  name := "start"
  sourcePath := "start.cc"
  objectPath := "start.o"

/-- A snapshot with something in each of its fields. -/
def bootloader : SnapshotRecord where
  sectionSizes := ⟨[(".bss", 64), (".text", 4096)]⟩
  symbols := [bootloaderStart]
  aliasGroups := [[0]]
  metadata := ⟨⟨[("build", .object [("host", .string "x64"), ("jobs", .int 8)]),
    ("gn_args", .array [.string "is_debug=false"])]⟩⟩

/-- The values of the symbol of `bootloader` without the flags. -/
def bootloaderStartValues : List Json :=
  [.string ".text", .int 16, .int 4, .int 4096, .string "start(int)", .string "start",
    .string "start", .string "start.cc", .string "start.o"]

/-- The snapshot `bootloader` as a list, with its sections in another order, and with its symbol as
a list that ends before the flags. -/
def bootloaderList : Json :=
  .array [.object [(".text", .int 4096), (".bss", .int 64)],
    .array [.array bootloaderStartValues], .array [.array [.int 0]],
    .object bootloader.metadata.facts.entries]

/-- The list of `bootloader` gives `bootloader`. Neither a list with a symbol without a size nor an
object with a section that is too large gives anything. -/
theorem survives_json_bootloader :
    Json.Codecs.standard.Documented ∧ bootloader.InRange ∧
      (codec .standard).read? ((codec .standard).write bootloader) = some bootloader ∧
      (codec .standard).read? bootloaderList = some bootloader ∧
      (codec .standard).read? (.array [.object [], .array [.array [.string ".text"]]]) = none ∧
      (codec .standard).read?
        (.object [("section_sizes", .object [(".text", .int 9223372036854775808)])]) = none := by
  have hrange : bootloader.InRange := by
    refine ⟨List.pairwise_pair.mpr (by decide +kernel), ?_, ?_, ?_, ?_⟩
    · simp [bootloader, Json.InInt64]
    · exact List.forall_mem_singleton.mpr ⟨by decide, by decide, by decide⟩
    · simp [bootloader]
    · refine .object (List.pairwise_pair.mpr (by decide +kernel)) ?_
      refine List.forall_mem_cons.mpr ⟨?_, List.forall_mem_singleton.mpr ?_⟩
      · refine .object (List.pairwise_pair.mpr (by decide +kernel)) ?_
        exact List.forall_mem_cons.mpr ⟨.string "x64", List.forall_mem_singleton.mpr (.int 8)⟩
      · exact .array (List.forall_mem_singleton.mpr (.string "is_debug=false"))
  have hstandard := Json.Codecs.standard_documented
  obtain ⟨hback, hsame, hflawed⟩ := survives_json .standard hstandard bootloader hrange
  have hsections : Json.Reordered ((codec .standard).write bootloader) (.object
      [("section_sizes", .object [(".text", .int 4096), (".bss", .int 64)]),
        ("symbols", .array [(SymbolRecord.codec .standard).write bootloaderStart]),
        ("alias_groups", .array [.array [.int 0]]),
        ("metadata", .object bootloader.metadata.facts.entries)]) :=
    .value "section_sizes" [] _ (.fields (.swap _ _ _) (by decide))
  have hlength : (bootloaderStartValues ++ [Json.int 0]).length ≤
      (SymbolRecord.declaration .standard).names.length :=
    le_refl 10
  have hvalues : (SymbolRecord.declaration .standard).Rewritten
      ((SymbolRecord.codec .standard).write bootloaderStart)
      (.array (bootloaderStartValues ++ [.int 0])) :=
    .positional hlength
  have hflags : (SymbolRecord.declaration .standard).Rewritten
      (.array (bootloaderStartValues ++ [.int 0])) (.array bootloaderStartValues) :=
    .shortened rfl <| (SymbolRecord.defaultsReadBack hstandard).isDefault <| by
      simp [SymbolRecord.declaration, Fields.All, hstandard.nat32.write_eq]
  refine ⟨hstandard, hrange, hback, ?_, hflawed _ ?_, hflawed _ ?_⟩
  · rw [← hback]
    refine (hsame _ _ ?_).symm
    refine .trans _ _ _ (.rel _ _ (.keys hsections)) ?_
    refine .trans _ _ _ (.rel _ _ (.symbol [_] _ [] [] hvalues)) ?_
    refine .trans _ _ _ (.rel _ _ (.symbol [_] _ [] [] hflags)) ?_
    exact .rel _ _ (.snapshot (rewritten_values .standard _ _ _ _))
  · exact .symbol rfl List.mem_cons_self (.missing (.inr rfl) rfl)
  · refine .sectionSize rfl List.mem_cons_self fun n hn heq => ?_
    exact absurd (Json.int.inj heq ▸ hn) (by decide)

end SnapshotRecord

end Footprint
