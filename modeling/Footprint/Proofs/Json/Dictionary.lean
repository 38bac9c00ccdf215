import Mathlib.Data.List.Induction
import Mathlib.Data.List.Nodup
import Mathlib.Data.List.Perm.Basic
import Mathlib.Data.String.Basic
import Footprint.Json.Basic

/-!
# Lists and dictionaries from JSON

A dictionary is made of its entries one after the other. Entries under different keys may come in
any order (`Dict.ofList_perm`), since each finds the same place, and entries that are in order
already stay as they are (`Dict.ofList_of_pairwise`).

`Json.list?` and `Json.dict?` read the items of a list and the values of an object with a reader.
What they give is what was written (`list?_map`, `dict?_map`), depends on an item only through what
is read from it (`list?_item`, `dict?_value`), and is nothing when one item cannot be read.
-/

namespace Footprint

namespace Dict

variable {α : Type}

/-- The keys increase, so that none is there twice. -/
def Ordered (d : Dict α) : Prop := d.keys.Pairwise (· < ·)

/-- Two entries under different keys may be put into a list in either order. -/
theorem insertEntry_comm {k k' : String} (hne : k ≠ k') (v v' : α) (entries : List (String × α)) :
    insertEntry k v (insertEntry k' v' entries) = insertEntry k' v' (insertEntry k v entries) := by
  induction entries with
  | nil => grind [insertEntry]
  | cons e rest ih => grind [insertEntry]

/-- An entry whose key is behind all others goes to the end. -/
theorem insertEntry_of_lt {key : String} {entries : List (String × α)} (value : α)
    (h : ∀ e ∈ entries, e.1 < key) :
    insertEntry key value entries = entries ++ [(key, value)] := by
  induction entries with
  | nil => rfl
  | cons e rest ih =>
    have hlt : e.1 < key := h e List.mem_cons_self
    rw [insertEntry, if_neg hlt.asymm, if_neg hlt.ne',
      ih fun e' he' => h e' (List.mem_cons_of_mem e he'), List.cons_append]

/-- One more entry at the end is put in last. -/
theorem ofList_concat (entries : List (String × α)) (e : String × α) :
    ofList (entries ++ [e]) = (ofList entries).insert e.1 e.2 := by
  rw [ofList, List.foldl_append]
  rfl

/-- Entries in the order of their keys stay as they are. -/
theorem ofList_of_pairwise {entries : List (String × α)}
    (h : (entries.map Prod.fst).Pairwise (· < ·)) : ofList entries = ⟨entries⟩ := by
  induction entries using List.reverseRecOn with
  | nil => rfl
  | append_singleton front e ih =>
    rw [List.map_append, List.pairwise_append] at h
    obtain ⟨hfront, -, hbehind⟩ := h
    have hlt : ∀ e' ∈ front, e'.1 < e.1 := fun e' he' =>
      hbehind e'.1 (List.mem_map_of_mem he') e.1 List.mem_cons_self
    rw [ofList_concat, ih hfront, insert, insertEntry_of_lt e.2 hlt]

/-- A dictionary in order is the dictionary of its entries. -/
theorem Ordered.ofList_entries {d : Dict α} (h : d.Ordered) : ofList d.entries = d :=
  ofList_of_pairwise h

/-- The order of entries under different keys does not matter. -/
theorem ofList_perm {entries entries' : List (String × α)} (hp : entries.Perm entries')
    (hnd : (entries.map Prod.fst).Nodup) : ofList entries = ofList entries' := by
  refine hp.foldl_eq' (fun e he e' he' d => ?_) empty
  -- Two entries of the list are one and the same or have different keys.
  by_cases hkey : e.1 = e'.1
  · rw [List.inj_on_of_nodup_map hnd he he' hkey]
  · exact congrArg Dict.mk (insertEntry_comm (Ne.symm hkey) e'.2 e.2 d.entries)

end Dict

/-! ### Lists of readings -/

section Readings

variable {α β : Type} {f : α → Option β}

/-- A list is read when each of its items is. -/
theorem mapM_eq_some_iff {xs : List α} {ys : List β} :
    xs.mapM f = some ys ↔ List.Forall₂ (fun x y => f x = some y) xs ys := by
  induction xs generalizing ys with
  | nil => simp [eq_comm]
  | cons x xs ih =>
    rw [List.forall₂_cons_left_iff, List.mapM_cons]
    simp only [← ih, Option.bind_eq_bind, Option.bind_eq_some_iff, Option.pure_def,
      Option.some.injEq]
    constructor
    · rintro ⟨y, hy, ys', hys, rfl⟩
      exact ⟨y, ys', hy, hys, rfl⟩
    · rintro ⟨y, ys', hy, hys, rfl⟩
      exact ⟨y, hy, ys', hys, rfl⟩

/-- A list is not read when one of its items is not. -/
theorem mapM_eq_none {xs : List α} {x : α} (hx : x ∈ xs) (h : f x = none) : xs.mapM f = none := by
  induction xs with
  | nil => cases hx
  | cons x' xs ih =>
    rw [List.mapM_cons]
    rcases List.mem_cons.mp hx with rfl | hx
    · rw [h]
      rfl
    · rw [ih hx]
      cases f x' <;> rfl

/-- What is read from a list in another order is what was read, in another order. -/
theorem exists_mapM_of_perm {xs xs' : List α} (hp : xs.Perm xs') {ys : List β}
    (h : xs.mapM f = some ys) : ∃ ys', xs'.mapM f = some ys' ∧ ys.Perm ys' := by
  obtain ⟨ys', hread, hperm⟩ := List.perm_comp_forall₂ hp.symm (mapM_eq_some_iff.mp h)
  exact ⟨ys', mapM_eq_some_iff.mpr hread, hperm.symm⟩

end Readings

namespace Json

variable {α : Type} {read : Json → Option α}

/-- The items of a list are read one after the other. -/
theorem list?_array (items : List Json) : list? read (array items) = items.mapM read := rfl

/-- What was written item by item is read item by item. -/
theorem list?_map {write : α → Json} {xs : List α} (h : ∀ x ∈ xs, read (write x) = some x) :
    list? read (array (xs.map write)) = some xs := by
  rw [list?_array, mapM_eq_some_iff, List.forall₂_map_left_iff, List.forall₂_same]
  exact h

/-- An item counts through what is read from it. -/
theorem list?_item {x x' : Json} (h : read x = read x') (before after : List Json) :
    list? read (array (before ++ x :: after)) = list? read (array (before ++ x' :: after)) := by
  simp only [list?_array, List.mapM_append, List.mapM_cons, h]

/-- Reads the value of an entry. -/
def keyed? (read : Json → Option α) (e : String × Json) : Option (String × α) :=
  (read e.2).map (e.1, ·)

/-- The dictionary of an object is made of its entries once they are read. -/
theorem dict?_object (fields : List (String × Json)) :
    dict? read (object fields) = (fields.mapM (keyed? read)).map Dict.ofList := by
  have hkeyed : (fun f : String × Json => do return (f.1, ← read f.2)) = keyed? read := by
    funext f
    exact Option.map_eq_bind.symm
  rw [← hkeyed, Option.map_eq_bind]
  rfl

/-- A dictionary written value by value is read value by value. -/
theorem dict?_map {write : α → Json} {d : Dict α} (hd : d.Ordered)
    (h : ∀ e ∈ d.entries, read (write e.2) = some e.2) :
    dict? read (object (d.map write).entries) = some d := by
  have hread : (d.map write).entries.mapM (keyed? read) = some d.entries := by
    rw [mapM_eq_some_iff, Dict.map, List.forall₂_map_left_iff, List.forall₂_same]
    intro e he
    rw [keyed?, h e he]
    rfl
  rw [dict?_object, hread, Option.map_some, hd.ofList_entries]

/-- A value counts through what is read from it. -/
theorem dict?_value {x x' : Json} (h : read x = read x') (key : String)
    (before after : List (String × Json)) :
    dict? read (object (before ++ (key, x) :: after)) =
      dict? read (object (before ++ (key, x') :: after)) := by
  simp only [dict?_object, List.mapM_append, List.mapM_cons, keyed?, h]

/-- A dictionary is not read when one of its values is not. -/
theorem dict?_eq_none {fields : List (String × Json)} {f : String × Json} (hf : f ∈ fields)
    (h : read f.2 = none) : dict? read (object fields) = none := by
  rw [dict?_object, mapM_eq_none hf (by rw [keyed?, h, Option.map_none]), Option.map_none]

/-- Reading keeps the keys. -/
theorem map_fst_of_forall₂ {fields : List (String × Json)} {entries : List (String × α)}
    (h : List.Forall₂ (fun f e => keyed? read f = some e) fields entries) :
    entries.map Prod.fst = fields.map Prod.fst := by
  induction h with
  | nil => rfl
  | cons he _ ih =>
    obtain ⟨_, -, rfl⟩ := Option.map_eq_some_iff.mp he
    rw [List.map_cons, List.map_cons, ih]

/-- The fields of an object under different keys may come in any order. -/
theorem dict?_perm {fields fields' : List (String × Json)} (hp : fields.Perm fields')
    (hnd : (fields.map Prod.fst).Nodup) :
    dict? read (object fields) = dict? read (object fields') := by
  rw [dict?_object, dict?_object]
  cases hread : fields.mapM (keyed? read) with
  | none =>
    cases hread' : fields'.mapM (keyed? read) with
    | none => rfl
    | some entries' =>
      obtain ⟨entries, hentries, -⟩ := exists_mapM_of_perm hp.symm hread'
      cases hread.symm.trans hentries
  | some entries =>
    obtain ⟨entries', hread', hperm⟩ := exists_mapM_of_perm hp hread
    have hkeys : (entries.map Prod.fst).Nodup := by
      rwa [map_fst_of_forall₂ (mapM_eq_some_iff.mp hread)]
    rw [hread', Option.map_some, Option.map_some, Dict.ofList_perm hperm hkeys]

end Json

end Footprint
