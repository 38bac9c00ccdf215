import Footprint.Proofs.Json.Records
import Footprint.Snapshot.Record

/-!
# How a symbol may be written

Each field of a symbol holds a single value: a text, a number or an address. So the order of keys
does not matter to a symbol (`SymbolRecord.orderFree_codec`), a symbol is read back from what it is
written as when its numbers fit their types (`SymbolRecord.read?_write_codec`), and a document in
which a field is amiss gives no symbol (`SymbolRecord.Flawed.read?_eq_none`).
-/

namespace Footprint

open Json (Fields given?)
open Json.Declaration (readBack_default)

namespace SymbolRecord

variable {c : Json.Codecs}

/-- The names of the fields of a symbol in the order of their declaration. -/
def fieldNames : List String :=
  ["section_name", "size", "padding", "address", "full_name", "template_name", "name",
    "source_path", "object_path", "flags"]

/-- The order of keys does not matter to a symbol. -/
theorem orderFree_codec (hc : c.Documented) : Json.OrderFree (codec c).read? := by
  have hstring := hc.string.orderFree nofun nofun
  have hint64 := hc.int64.orderFree nofun nofun
  have haddress := hc.address.orderFree nofun nofun
  have hnat32 := hc.nat32.orderFree nofun nofun
  exact hc.orderFree_record ⟨hstring, hint64, hint64, haddress, hstring, hstring, hstring, hstring,
    hstring, hnat32, trivial⟩

/-- The numbers of a symbol fit their types. -/
structure InRange (r : SymbolRecord) : Prop where
  /-- The size is a signed 64-bit number. -/
  size : Json.InInt64 r.size
  /-- The padding is a signed 64-bit number. -/
  padding : Json.InInt64 r.padding
  /-- The flags are an unsigned 32-bit number. -/
  flags : r.flags < 2 ^ 32

/-- A symbol is read back from what it is written as. -/
theorem read?_write_codec (hc : c.Documented) {r : SymbolRecord} (h : r.InRange) :
    (codec c).read? ((codec c).write r) = some r := by
  have hstring (s : String) : c.string.read? (c.string.write s) = some s :=
    hc.string.read?_write trivial
  exact hc.read?_write_record ⟨hstring _, hc.int64.read?_write h.size,
    hc.int64.read?_write h.padding, hc.address.read?_write trivial, hstring _, hstring _, hstring _,
    hstring _, hstring _, hc.nat32.read?_write h.flags, trivial⟩

/-- The defaults of a symbol are read back from what they are written as. -/
theorem defaultsReadBack (hc : c.Documented) : (declaration c).DefaultsReadBack := by
  have hzero := readBack_default (hc.int64.read?_write (x := 0) (by decide))
  have haddress := readBack_default (hc.address.read?_write (x := 0) trivial)
  have hempty := readBack_default (hc.string.read?_write (x := "") trivial)
  have hflags := readBack_default (hc.nat32.read?_write (x := 0) (by decide))
  exact ⟨nofun, nofun, hzero, haddress, hempty, hempty, hempty, hempty, hempty, hflags, trivial⟩

/-- A document in which a field of a symbol is amiss. -/
inductive Flawed (s : Json) : Prop where
  /-- There is no section or no size. -/
  | missing {name : String} (hname : name = "section_name" ∨ name = "size")
    (hmissing : given? fieldNames name s = none)
  /-- The size or the padding is not a signed 64-bit number. -/
  | signed {name : String} {v : Json} (hname : name = "size" ∨ name = "padding")
    (hgiven : given? fieldNames name s = some v) (hv : ∀ n, Json.InInt64 n → v ≠ .int n)
  /-- The address is not an unsigned 64-bit number. -/
  | address {v : Json} (hgiven : given? fieldNames "address" s = some v)
    (hv : ∀ n : Nat, n < 2 ^ 64 → v ≠ .int n)
  /-- The flags are not an unsigned 32-bit number. -/
  | flags {v : Json} (hgiven : given? fieldNames "flags" s = some v)
    (hv : ∀ n : Nat, n < 2 ^ 32 → v ≠ .int n)

/-- No symbol is read from a document in which a field is amiss. -/
theorem Flawed.read?_eq_none (hc : c.Documented) {s : Json} (h : Flawed s) :
    (codec c).read? s = none := by
  cases h with
  | missing hname hmissing =>
    refine hc.read?_record_of_missing hmissing ?_
    rcases hname with rfl | rfl <;> simp [declaration, Fields.Any]
  | signed hname hgiven hv =>
    have hnone := hc.int64.read?_eq_none hv
    refine hc.read?_record_of_unreadable hgiven ?_
    rcases hname with rfl | rfl <;> simp [declaration, Fields.Any, hnone]
  | address hgiven hv =>
    have hnone := hc.address.read?_eq_none fun a _ => hv a.toNat a.toNat_lt
    exact hc.read?_record_of_unreadable hgiven (by simp [declaration, Fields.Any, hnone])
  | flags hgiven hv =>
    have hnone := hc.nat32.read?_eq_none hv
    exact hc.read?_record_of_unreadable hgiven (by simp [declaration, Fields.Any, hnone])

end SymbolRecord

end Footprint
