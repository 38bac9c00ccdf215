/-!
# Dictionaries in key order

A dictionary is a list of entries with text keys. `insert` keeps the keys in increasing order and
each key once, and `ofList` lets the last of several values of a key win.
-/

namespace Footprint

/-- Values under text keys, in the order of the keys. -/
structure Dict (α : Type) where
  /-- The keys with their values. -/
  entries : List (String × α)
deriving Repr

namespace Dict

variable {α β : Type}

/-- The dictionary without entries. -/
def empty : Dict α := ⟨[]⟩

/-- The number of keys. -/
def size (d : Dict α) : Nat := d.entries.length

/-- The keys in order. -/
def keys (d : Dict α) : List String := d.entries.map Prod.fst

/-- The value under a key. -/
def get? (d : Dict α) (key : String) : Option α :=
  (d.entries.find? (·.1 == key)).map Prod.snd

/-- Puts an entry at its place in a list in key order, over an entry of the same key. -/
def insertEntry (key : String) (value : α) : List (String × α) → List (String × α)
  | [] => [(key, value)]
  | (k, v) :: rest =>
    if key < k then (key, value) :: (k, v) :: rest
    else if key = k then (key, value) :: rest
    else (k, v) :: insertEntry key value rest

/-- The dictionary with `value` under `key`. -/
def insert (d : Dict α) (key : String) (value : α) : Dict α :=
  ⟨insertEntry key value d.entries⟩

/-- The dictionary of a list of entries, in which a later entry replaces an earlier one. -/
def ofList (entries : List (String × α)) : Dict α :=
  entries.foldl (fun d (key, value) => d.insert key value) empty

/-- The dictionary with a function applied to every value. -/
def map (f : α → β) (d : Dict α) : Dict β :=
  ⟨d.entries.map fun (key, value) => (key, f value)⟩

/-- A key that was just inserted has its new value. -/
theorem get?_insert_self (d : Dict α) (key : String) (value : α) :
    (d.insert key value).get? key = some value := by
  obtain ⟨entries⟩ := d
  simp only [insert, get?]
  induction entries with
  | nil => simp [insertEntry]
  | cons e rest ih =>
    obtain ⟨k, v⟩ := e
    simp only [insertEntry]
    split
    · simp
    · split
      · simp
      · next h => simp [Ne.symm h, ih]

end Dict

end Footprint
