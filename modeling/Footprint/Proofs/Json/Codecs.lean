import Footprint.Json.Codec
import Footprint.Proofs.Json.Reordering

/-!
# What a library for JSON promises

`Codecs.Documented` is what is asked of a library for JSON. A text, a number or an address is read
from what it is written as and from nothing else, and numbers only within the range of their type
(`Codec.Plain`). Lists and dictionaries are read item by item, and a value of any form with its keys
put in order. A record is read from an object by the names of its declared fields or from a list by
their places: undeclared keys are skipped, a field left out has its default if it has one, and a
field given twice, a list that is too long and any other value are refused. Of codecs that snapshots
do not use nothing is asked. `Codecs.standard` keeps these promises (`standard_documented`).
-/

namespace Footprint.Json

namespace Codec

variable {α : Type} {c : Codec α} {write : α → Json} {fits : α → Prop}

/-- A codec of single values, each of which is read from one document only. -/
structure Plain (c : Codec α) (write : α → Json) (fits : α → Prop) : Prop where
  /-- How a value is written. -/
  write_eq : ∀ x, c.write x = write x
  /-- A value that fits is read from what it is written as, and nothing else is read. -/
  read?_eq_some_iff : ∀ j x, c.read? j = some x ↔ j = write x ∧ fits x

/-- A value that fits is read back from what it is written as. -/
theorem Plain.read?_write (h : c.Plain write fits) {x : α} (hx : fits x) :
    c.read? (c.write x) = some x := by
  rw [h.write_eq]
  exact (h.read?_eq_some_iff _ _).mpr ⟨rfl, hx⟩

/-- Nothing is read from a document that is not what a value that fits is written as. -/
theorem Plain.read?_eq_none (h : c.Plain write fits) {j : Json} (hj : ∀ x, fits x → j ≠ write x) :
    c.read? j = none := by
  rw [Option.eq_none_iff_forall_ne_some]
  intro x hx
  obtain ⟨hwrite, hfits⟩ := (h.read?_eq_some_iff j x).mp hx
  exact hj x hfits hwrite

/-- The order of keys does not matter to single values, which have none. -/
theorem Plain.orderFree (h : c.Plain write fits) (harray : ∀ x items, write x ≠ array items)
    (hobject : ∀ x fields, write x ≠ object fields) : OrderFree c.read? :=
  orderFree_of_single (fun items => h.read?_eq_none fun x _ => (harray x items).symm)
    fun fields => h.read?_eq_none fun x _ => (hobject x fields).symm

end Codec

/-- The numbers of a signed 64-bit field. -/
def InInt64 (n : Int) : Prop := -(2 ^ 63 : Nat) ≤ n ∧ n < (2 ^ 63 : Nat)

instance {n : Int} : Decidable (InInt64 n) := inferInstanceAs (Decidable (_ ∧ _))

/-- A library for JSON that reads and writes as it should. -/
structure Codecs.Documented (c : Codecs) : Prop where
  /-- A text is written as itself. -/
  string : c.string.Plain .string fun _ => True
  /-- A signed 64-bit number is written as a number. -/
  int64 : c.int64.Plain .int InInt64
  /-- An unsigned 64-bit number is written as a number. -/
  nat64 : c.nat64.Plain (fun n => .int n) (· < 2 ^ 64)
  /-- An unsigned 32-bit number is written as a number. -/
  nat32 : c.nat32.Plain (fun n => .int n) (· < 2 ^ 32)
  /-- An address is written as its number. -/
  address : c.address.Plain (fun a => .int a.toNat) fun _ => True
  /-- A value of any form is read with its keys in order, the last one of a key. -/
  value_read? : c.value.read? = settle
  /-- A value of any form is written as it is. -/
  value_write : ∀ j, c.value.write j = j
  /-- A list is read item by item. -/
  list_read? : ∀ {α : Type} (k : Codec α), (c.list k).read? = list? k.read?
  /-- A list is written item by item. -/
  list_write : ∀ {α : Type} (k : Codec α) (xs : List α),
    (c.list k).write xs = .array (xs.map k.write)
  /-- A dictionary is read entry by entry, the last one of a key. -/
  dict_read? : ∀ {α : Type} (k : Codec α), (c.dict k).read? = dict? k.read?
  /-- A dictionary is written entry by entry. -/
  dict_write : ∀ {α : Type} (k : Codec α) (d : Dict α),
    (c.dict k).write d = .object (d.map k.write).entries
  /-- A value under another name is read as it would be without. -/
  wrapped_read? : ∀ {α β : Type} (wrap : α → β) (unwrap : β → α) (k : Codec α) (j : Json),
    (c.wrapped wrap unwrap k).read? j = (k.read? j).map wrap
  /-- A value under another name is written as it would be without. -/
  wrapped_write : ∀ {α β : Type} (wrap : α → β) (unwrap : β → α) (k : Codec α) (x : β),
    (c.wrapped wrap unwrap k).write x = k.write (unwrap x)
  /-- A record is written as an object with all its fields in order. -/
  record_write : ∀ {ρ : Type} (d : Declaration ρ) (r : ρ),
    (c.record d).write r = .object (d.fields.write (d.values r))
  /-- A record is read from the entries of an object under the names of its fields. -/
  record_object : ∀ {ρ : Type} (d : Declaration ρ) (entries : List (String × Json)),
    ((entries.map Prod.fst).filter d.names.contains).Nodup →
      (c.record d).read? (.object entries) = (d.fields.read? (entries.lookup ·)).map d.make
  /-- No record is read from an object in which a field is given twice. -/
  record_repeated : ∀ {ρ : Type} (d : Declaration ρ) (entries : List (String × Json)),
    ¬ ((entries.map Prod.fst).filter d.names.contains).Nodup →
      (c.record d).read? (.object entries) = none
  /-- A record is read from the items of a list in the places of its fields. -/
  record_array : ∀ {ρ : Type} (d : Declaration ρ) (items : List Json),
    items.length ≤ d.names.length →
      (c.record d).read? (.array items) = (d.fields.read? ((d.names.zip items).lookup ·)).map d.make
  /-- No record is read from a list with more items than fields. -/
  record_surplus : ∀ {ρ : Type} (d : Declaration ρ) (items : List Json),
    d.names.length < items.length → (c.record d).read? (.array items) = none
  /-- No record is read from anything else. -/
  record_other : ∀ {ρ : Type} (d : Declaration ρ) (j : Json),
    (∀ entries, j ≠ .object entries) → (∀ items, j ≠ .array items) → (c.record d).read? j = none

namespace Codecs.Documented

variable {c : Codecs} {α : Type} {k : Codec α}

/-- A list is read back when each of its items is. -/
theorem read?_write_list (hc : c.Documented) {xs : List α}
    (h : ∀ x ∈ xs, k.read? (k.write x) = some x) :
    (c.list k).read? ((c.list k).write xs) = some xs := by
  rw [hc.list_read?, hc.list_write, list?_map h]

/-- A list is not read when one of its items is not. -/
theorem read?_list_eq_none (hc : c.Documented) {items : List Json} {j : Json} (hj : j ∈ items)
    (h : k.read? j = none) : (c.list k).read? (array items) = none := by
  rw [hc.list_read?, list?_array, mapM_eq_none hj h]

/-- The order of keys does not matter to a list if it does not matter to its items. -/
theorem orderFree_list (hc : c.Documented) (h : OrderFree k.read?) :
    OrderFree (c.list k).read? := by
  rw [hc.list_read?]
  exact h.list?

/-- A dictionary in order is read back when each of its values is. -/
theorem read?_write_dict (hc : c.Documented) {d : Dict α} (hd : d.Ordered)
    (h : ∀ e ∈ d.entries, k.read? (k.write e.2) = some e.2) :
    (c.dict k).read? ((c.dict k).write d) = some d := by
  rw [hc.dict_read?, hc.dict_write, dict?_map hd h]

/-- A dictionary is not read when one of its values is not. -/
theorem read?_dict_eq_none (hc : c.Documented) {entries : List (String × Json)}
    {e : String × Json} (he : e ∈ entries) (h : k.read? e.2 = none) :
    (c.dict k).read? (object entries) = none := by
  rw [hc.dict_read?, dict?_eq_none he h]

/-- The order of keys does not matter to a dictionary if it does not matter to its values. -/
theorem orderFree_dict (hc : c.Documented) (h : OrderFree k.read?) :
    OrderFree (c.dict k).read? := by
  rw [hc.dict_read?]
  exact h.dict?

end Codecs.Documented

/-! ### The standard library -/

/-- A whole number between two bounds is read from itself only. -/
theorem intBetween?_eq_some_iff {low high n : Int} {j : Json} :
    intBetween? low high j = some n ↔ j = int n ∧ low ≤ n ∧ n ≤ high := by
  cases j with
  | int m =>
    rw [intBetween?, int.injEq, Option.ite_none_right_eq_some, Option.some.injEq]
    constructor
    · rintro ⟨hbetween, rfl⟩
      exact ⟨rfl, hbetween⟩
    · rintro ⟨rfl, hbetween⟩
      exact ⟨hbetween, rfl⟩
  | _ => simp [intBetween?]

/-- An unsigned number is read from itself only. -/
theorem map_toNat_intBetween?_eq_some_iff {high n : Nat} {j : Json} :
    (intBetween? 0 (high - 1) j).map Int.toNat = some n ↔ j = int n ∧ n < high := by
  rw [Option.map_eq_some_iff]
  constructor
  · rintro ⟨m, hm, rfl⟩
    obtain ⟨rfl, hlow, hhigh⟩ := intBetween?_eq_some_iff.mp hm
    refine ⟨by rw [Int.toNat_of_nonneg hlow], by omega⟩
  · rintro ⟨rfl, hlt⟩
    exact ⟨n, intBetween?_eq_some_iff.mpr ⟨rfl, by omega, by omega⟩, Int.toNat_natCast n⟩

namespace Codecs

/-- Texts keep the promise. -/
theorem standard_string : standard.string.Plain .string fun _ => True where
  write_eq _ := rfl
  read?_eq_some_iff j s := by
    rw [and_true]
    cases j <;> simp [standard, string?]

/-- Signed numbers keep the promise. -/
theorem standard_int64 : standard.int64.Plain .int InInt64 where
  write_eq _ := rfl
  read?_eq_some_iff j n := by
    have hlow : Int64.minValue.toInt = -(2 ^ 63 : Nat) := by decide
    have hhigh : Int64.maxValue.toInt = (2 ^ 63 : Nat) - 1 := by decide
    refine intBetween?_eq_some_iff.trans ?_
    rw [hlow, hhigh, Int.le_sub_one_iff, InInt64]

/-- Addresses keep the promise. -/
theorem standard_address : standard.address.Plain (fun a => .int a.toNat) fun _ => True where
  write_eq _ := rfl
  read?_eq_some_iff j a := by
    rw [and_true]
    refine Option.map_eq_some_iff.trans ?_
    constructor
    · rintro ⟨n, hn, rfl⟩
      obtain ⟨rfl, hlt⟩ := map_toNat_intBetween?_eq_some_iff.mp hn
      rw [UInt64.toNat_ofNat_of_lt' hlt]
    · rintro rfl
      exact ⟨a.toNat, map_toNat_intBetween?_eq_some_iff.mpr ⟨rfl, a.toNat_lt⟩, UInt64.ofNat_toNat⟩

/-- The standard library keeps all promises. -/
theorem standard_documented : standard.Documented where
  string := standard_string
  int64 := standard_int64
  nat64 := ⟨fun _ => rfl, fun _ _ => map_toNat_intBetween?_eq_some_iff⟩
  nat32 := ⟨fun _ => rfl, fun _ _ => map_toNat_intBetween?_eq_some_iff⟩
  address := standard_address
  value_read? := rfl
  value_write _ := rfl
  list_read? _ := rfl
  list_write _ _ := rfl
  dict_read? _ := rfl
  dict_write _ _ := rfl
  wrapped_read? _ _ _ _ := rfl
  wrapped_write _ _ _ _ := rfl
  record_write _ _ := rfl
  record_object _ _ h := if_pos h
  record_repeated _ _ h := if_neg h
  record_array _ _ h := if_pos h
  record_surplus _ _ h := if_neg (Nat.not_le.mpr h)
  record_other _ j hobject harray := by
    cases j with
    | object entries => exact absurd rfl (hobject entries)
    | array items => exact absurd rfl (harray items)
    | _ => rfl

end Codecs

end Footprint.Json
