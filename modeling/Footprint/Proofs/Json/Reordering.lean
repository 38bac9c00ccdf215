import Footprint.Proofs.Json.Dictionary

/-!
# The order of keys in a document

The keys of an object may come in any order, whether the object is the whole document or stands deep
inside of it (`Reordered`). A reader is `OrderFree` when it does not see the difference. The readers
of single values are, because they read no object at all, and `list?` and `dict?` are when the
reader of their parts is. Free-form values are read by `settle`, which is such a reader too
(`orderFree_settle`) and leaves alone what is `Settled` already (`Settled.settle_eq`).
-/

namespace Footprint.Json

variable {α : Type} {read : Json → Option α}

/-- One object of a document has its keys in another order. -/
inductive Reordered : Json → Json → Prop where
  /-- The object is the document itself. -/
  | fields {fields fields' : List (String × Json)} (hp : fields.Perm fields')
    (hnd : (fields.map Prod.fst).Nodup) : Reordered (object fields) (object fields')
  /-- The object belongs to an item of a list. -/
  | item {x x' : Json} (before after : List Json) (h : Reordered x x') :
    Reordered (array (before ++ x :: after)) (array (before ++ x' :: after))
  /-- The object belongs to the value of a field. -/
  | value {x x' : Json} (key : String) (before after : List (String × Json))
    (h : Reordered x x') :
    Reordered (object (before ++ (key, x) :: after)) (object (before ++ (key, x') :: after))

/-- A reader that does not look at the order of keys. -/
def OrderFree (read : Json → Option α) : Prop :=
  ∀ ⦃j j' : Json⦄, Reordered j j' → read j = read j'

/-- A reader of single values meets no keys. -/
theorem orderFree_of_single (harray : ∀ items, read (array items) = none)
    (hobject : ∀ fields, read (object fields) = none) : OrderFree read := by
  intro j j' h
  cases h with
  | fields => rw [hobject, hobject]
  | item => rw [harray, harray]
  | value => rw [hobject, hobject]

/-- The order of keys does not matter to a list if it does not matter to its items. -/
theorem OrderFree.list? (h : OrderFree read) : OrderFree (list? read) := by
  intro j j' hj
  cases hj with
  | fields => rfl
  | item before after hx => exact list?_item (h hx) before after
  | value => rfl

/-- The order of keys does not matter to a dictionary if it does not matter to its values. -/
theorem OrderFree.dict? (h : OrderFree read) : OrderFree (dict? read) := by
  intro j j' hj
  cases hj with
  | fields hp hnd => exact dict?_perm hp hnd
  | item => rfl
  | value key before after hx => exact dict?_value (h hx) key before after

/-! ### Free-form values -/

/-- Settling the items of a list is reading each of them. -/
theorem settleItems_eq_mapM (items : List Json) : settleItems items = items.mapM settle := by
  induction items with
  | nil => rfl
  | cons x xs ih => rw [settleItems, ih, List.mapM_cons]

/-- Settling the fields of an object is reading the value of each of them. -/
theorem settleFields_eq_mapM (fields : List (String × Json)) :
    settleFields fields = fields.mapM (keyed? settle) := by
  induction fields with
  | nil => rfl
  | cons f fs ih =>
    rw [settleFields, ih, List.mapM_cons, keyed?]
    cases settle f.2 <;> rfl

/-- A list is settled item by item. -/
theorem settle_array (items : List Json) :
    settle (array items) = (list? settle (array items)).map array := by
  rw [settle, settleItems_eq_mapM, list?_array]

/-- An object is settled as a dictionary. -/
theorem settle_object (fields : List (String × Json)) :
    settle (object fields) =
      (dict? settle (object fields)).map fun d => object d.entries := by
  rw [settle, settleFields_eq_mapM, dict?_object, Option.map_map]
  rfl

/-- The order of keys does not matter to a free-form value, at whatever depth. -/
theorem orderFree_settle : OrderFree settle := by
  intro j j' h
  induction h with
  | fields hp hnd => rw [settle_object, settle_object, dict?_perm hp hnd]
  | item before after _ ih => rw [settle_array, settle_array, list?_item ih before after]
  | value key before after _ ih =>
    rw [settle_object, settle_object, dict?_value ih key before after]

/-- A value that can be read, with the keys of each object in order. -/
inductive Settled : Json → Prop where
  /-- The value `null`. -/
  | null : Settled null
  /-- A truth value. -/
  | bool (value : Bool) : Settled (bool value)
  /-- A whole number. -/
  | int (value : Int) : Settled (int value)
  /-- Any other number. -/
  | float (value : Float) : Settled (float value)
  /-- A text. -/
  | string (value : String) : Settled (string value)
  /-- A list of such values. -/
  | array {items : List Json} (h : ∀ x ∈ items, Settled x) : Settled (array items)
  /-- An object with such values under increasing keys. -/
  | object {fields : List (String × Json)} (hkeys : (fields.map Prod.fst).Pairwise (· < ·))
    (h : ∀ f ∈ fields, Settled f.2) : Settled (object fields)

/-- A settled value stays as it is. -/
theorem Settled.settle_eq {j : Json} (h : Settled j) : settle j = some j := by
  induction h with
  | null => rfl
  | bool => rfl
  | int => rfl
  | float => rfl
  | string => rfl
  | @array items _ ih =>
    have hread : list? settle (.array (items.map id)) = some items := list?_map ih
    rw [List.map_id] at hread
    rw [settle_array, hread, Option.map_some]
  | @object fields hkeys _ ih =>
    have hread : dict? settle (.object ((Dict.mk fields).map id).entries) = some ⟨fields⟩ :=
      dict?_map hkeys ih
    rw [Dict.map, show (fun f : String × Json => (f.1, id f.2)) = id from rfl, List.map_id] at hread
    rw [settle_object, hread, Option.map_some]

end Footprint.Json
