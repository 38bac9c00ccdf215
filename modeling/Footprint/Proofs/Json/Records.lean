import Mathlib.Data.List.Nodup
import Mathlib.Data.List.Zip
import Footprint.Proofs.Json.Codecs

/-!
# The many ways to write a record

A record is read from a document through the form of the document and the values that it gives for
the declared fields, by any library that keeps its promises (`Codecs.Documented.read?_record`).
Documents that differ in the order of keys, in unknown keys, in fields left out for their default,
or by being a list instead of an object (`Declaration.Rewritten`) have the same form, and give
values from which the fields read the same. So do documents that differ in a value which its field
does not tell from another one. A record is read back from what it is written as when each of its
values is (`Codecs.Documented.read?_write_record`). No record is read when a field without a default
is missing (`Codecs.Documented.read?_record_of_missing`), or when a field has a value that it does
not read (`Codecs.Documented.read?_record_of_unreadable`).
-/

namespace Footprint.Json

/-! ### Looking up a field -/

/-- A field is not found under another name. -/
theorem lookup_cons_of_ne {key name : String} (h : key ≠ name) (v : Json)
    (entries : List (String × Json)) : ((key, v) :: entries).lookup name = entries.lookup name := by
  rw [List.lookup_cons, beq_eq_false_iff_ne.mpr h.symm]

/-- A field that is not there has no value. -/
theorem lookup_eq_none {entries : List (String × Json)} {name : String}
    (h : name ∉ entries.map Prod.fst) : entries.lookup name = none := by
  rw [List.lookup_eq_none_iff]
  intro e he
  exact bne_iff_ne.mpr fun hname => h (hname ▸ List.mem_map_of_mem he)

/-- Among fields under different names, a field has the value that stands there. -/
theorem lookup_eq_some_iff_mem {entries : List (String × Json)}
    (hnd : (entries.map Prod.fst).Nodup) {name : String} {v : Json} :
    entries.lookup name = some v ↔ (name, v) ∈ entries := by
  induction entries with
  | nil => exact ⟨fun h => (nomatch h), fun h => (nomatch h)⟩
  | cons e rest ih =>
    obtain ⟨key, v'⟩ := e
    obtain ⟨hkey, hrest⟩ := List.nodup_cons.mp hnd
    by_cases hname : key = name
    · subst hname
      have habsent : (key, v) ∉ rest := fun hmem => hkey (List.mem_map_of_mem hmem : (key, v).1 ∈ _)
      rw [List.lookup_cons_self, List.mem_cons, or_iff_left habsent]
      simp [eq_comm]
    · rw [lookup_cons_of_ne hname, ih hrest, List.mem_cons, or_iff_right]
      exact fun h => hname (congrArg Prod.fst h).symm

/-- Fields with other names may be left out of the search. -/
theorem lookup_filter (entries : List (String × Json)) {names : List String} {name : String}
    (hname : name ∈ names) :
    (entries.filter fun e => names.contains e.1).lookup name = entries.lookup name := by
  induction entries with
  | nil => rfl
  | cons e rest ih =>
    obtain ⟨key, v⟩ := e
    by_cases hkey : key = name
    · subst hkey
      rw [List.filter_cons_of_pos (by simpa using hname), List.lookup_cons_self,
        List.lookup_cons_self]
    · rw [lookup_cons_of_ne hkey, ← ih, List.filter_cons]
      split
      · exact lookup_cons_of_ne hkey v _
      · rfl

/-- A list is cut at one of its places. -/
theorem exists_cut {names : List String} {place : Nat} {name : String}
    (h : names[place]? = some name) :
    ∃ front back, front.length = place ∧ names = front ++ name :: back := by
  obtain ⟨hlt, rfl⟩ := List.getElem?_eq_some_iff.mp h
  refine ⟨names.take place, names.drop (place + 1), List.length_take_of_le hlt.le, ?_⟩
  rw [List.getElem_cons_drop, List.take_append_drop]

/-- The items of a list get the names at its front, as many as there are items. -/
theorem zip_of_length_eq {front : List String} {items : List Json}
    (h : front.length = items.length) (back : List String) :
    (front ++ back).zip items = front.zip items := by
  have hzip : (front ++ back).zip (items ++ []) = front.zip items ++ back.zip [] :=
    List.zip_append h
  rwa [List.append_nil, List.zip_nil_right, List.append_nil] at hzip

/-! ### Fields as a whole -/

namespace Fields

variable {α : Type} {P Q : (β : Type) → Field β → Prop} {given given' : String → Option Json}

/-- Every field has a property. -/
def All (P : (β : Type) → Field β → Prop) : {α : Type} → Fields α → Prop
  | _, nil => True
  | _, cons f rest => P _ f ∧ rest.All P

/-- Some field has a property. -/
def Any (P : (β : Type) → Field β → Prop) : {α : Type} → Fields α → Prop
  | _, nil => False
  | _, cons f rest => P _ f ∨ rest.Any P

/-- Each of some values is read back from what its field writes for it. -/
def ReadsBack : {α : Type} → Fields α → α → Prop
  | _, nil, _ => True
  | _, cons f rest, (x, xs) => f.codec.read? (f.codec.write x) = some x ∧ rest.ReadsBack xs

/-- A property of fields follows from another one and from the names. -/
theorem All.mono {fields : Fields α} (h : fields.All P)
    (hPQ : ∀ (β : Type) (f : Field β), f.name ∈ fields.names → P β f → Q β f) : fields.All Q := by
  induction fields with
  | nil => trivial
  | cons f rest ih =>
    obtain ⟨hf, hrest⟩ := h
    exact ⟨hPQ _ f List.mem_cons_self hf, ih hrest fun β g hg =>
      hPQ β g (List.mem_cons_of_mem f.name hg)⟩

/-- Two properties of every field hold together. -/
theorem All.and {fields : Fields α} (hP : fields.All P) (hQ : fields.All Q) :
    fields.All fun β f => P β f ∧ Q β f := by
  induction fields with
  | nil => trivial
  | cons f rest ih => exact ⟨⟨hP.1, hQ.1⟩, ih hP.2 hQ.2⟩

/-- A property of some field follows from another one. -/
theorem Any.mono {fields : Fields α} (h : fields.Any P)
    (hPQ : ∀ (β : Type) (f : Field β), P β f → Q β f) : fields.Any Q := by
  induction fields with
  | nil => cases h
  | cons f rest ih => exact h.imp (hPQ _ f) ih

/-- What holds of every field under one of the names holds of all. -/
theorem all_of_names {fields : Fields α}
    (h : ∀ (β : Type) (f : Field β), f.name ∈ fields.names → Q β f) : fields.All Q := by
  have htrue : fields.All fun _ _ => True := by
    clear h
    induction fields with
    | nil => trivial
    | cons f rest ih => exact ⟨trivial, ih⟩
  exact htrue.mono fun β f hf _ => h β f hf

/-- Fields read the same when each of them does. -/
theorem read?_congr {fields : Fields α}
    (h : fields.All fun _ f => f.read? (given f.name) = f.read? (given' f.name)) :
    fields.read? given = fields.read? given' := by
  induction fields with
  | nil => rfl
  | cons f rest ih => rw [read?, read?, h.1, ih h.2]

/-- Fields are not read when one of them is not. -/
theorem read?_eq_none {fields : Fields α}
    (h : fields.Any fun _ f => f.read? (given f.name) = none) : fields.read? given = none := by
  induction fields with
  | nil => cases h
  | cons f rest ih =>
    rw [read?]
    rcases h with hf | hrest
    · rw [hf]
      rfl
    · rw [ih hrest]
      cases f.read? (given f.name) <;> rfl

/-- Values stand under the names of their fields. -/
theorem map_fst_write (fields : Fields α) (xs : α) :
    (fields.write xs).map Prod.fst = fields.names := by
  induction fields with
  | nil => rfl
  | cons f rest ih => rw [write, names, List.map_cons, ih]

/-- Values that are read back one by one are read back together. -/
theorem ReadsBack.read?_write {fields : Fields α} {xs : α} (h : fields.ReadsBack xs)
    (hnd : fields.names.Nodup) : fields.read? ((fields.write xs).lookup ·) = some xs := by
  induction fields with
  | nil => rfl
  | cons f rest ih =>
    obtain ⟨x, xs⟩ := xs
    obtain ⟨hx, hxs⟩ := h
    obtain ⟨hname, hrest⟩ := List.nodup_cons.mp hnd
    have hsame : rest.read? (((f.name, f.codec.write x) :: rest.write xs).lookup ·) =
        rest.read? ((rest.write xs).lookup ·) := by
      refine read?_congr (all_of_names fun _ g hg => ?_)
      have hne : f.name ≠ g.name := fun heq => hname (heq ▸ hg)
      rw [lookup_cons_of_ne hne]
    rw [read?, write, List.lookup_cons_self, Field.read?, hx, hsame, ih hxs hrest]
    rfl

end Fields

/-! ### Reading a record -/

namespace Codecs.Documented

variable {c : Codecs} {ρ : Type} {d : Declaration ρ} {j j' : Json}

/-- A record is read from a document of its form through the values that it gives for the fields. -/
theorem read?_record (hc : c.Documented) (d : Declaration ρ) (j : Json) :
    (c.record d).read? j =
      if HasForm d.names j then (d.fields.read? (given? d.names · j)).map d.make else none := by
  split
  · next hform =>
    cases j with
    | object entries => exact hc.record_object d entries hform
    | array items => exact hc.record_array d items hform
    | _ => cases hform
  · next hform =>
    cases j with
    | object entries => exact hc.record_repeated d entries hform
    | array items => exact hc.record_surplus d items (Nat.not_le.mp hform)
    | _ => exact hc.record_other d _ nofun nofun

/-- Documents of one form from which all fields read the same give the same record. -/
theorem read?_record_congr (hc : c.Documented) (hform : HasForm d.names j ↔ HasForm d.names j')
    (h : HasForm d.names j → d.fields.All fun _ f =>
      f.read? (given? d.names f.name j) = f.read? (given? d.names f.name j')) :
    (c.record d).read? j = (c.record d).read? j' := by
  rw [hc.read?_record, hc.read?_record]
  by_cases hj : HasForm d.names j
  · have hvalues : d.fields.read? (given? d.names · j) = d.fields.read? (given? d.names · j') :=
      Fields.read?_congr (h hj)
    rw [if_pos hj, if_pos (hform.mp hj), hvalues]
  · rw [if_neg hj, if_neg (mt hform.mpr hj)]

/-- No record is read from a document in which a field is not. -/
theorem read?_record_eq_none (hc : c.Documented)
    (h : d.fields.Any fun _ f => f.read? (given? d.names f.name j) = none) :
    (c.record d).read? j = none := by
  rw [hc.read?_record, Fields.read?_eq_none h, Option.map_none, ite_self]

/-- No record is read from a document that lacks a field without a default. -/
theorem read?_record_of_missing (hc : c.Documented) {name : String}
    (hmissing : given? d.names name j = none)
    (h : d.fields.Any fun _ f => f.name = name ∧ f.default? = none) :
    (c.record d).read? j = none := by
  refine hc.read?_record_eq_none (h.mono fun _ f hf => ?_)
  obtain ⟨rfl, hdefault⟩ := hf
  rw [hmissing, Field.read?, hdefault]

/-- No record is read from a document that gives a field a value which the field does not read. -/
theorem read?_record_of_unreadable (hc : c.Documented) {name : String} {v : Json}
    (hgiven : given? d.names name j = some v)
    (h : d.fields.Any fun _ f => f.name = name ∧ f.codec.read? v = none) :
    (c.record d).read? j = none := by
  refine hc.read?_record_eq_none (h.mono fun _ f hf => ?_)
  obtain ⟨rfl, hnone⟩ := hf
  rw [hgiven, Field.read?, hnone]

/-- A record is read back from what it is written as when each of its values is. -/
theorem read?_write_record (hc : c.Documented) {r : ρ} (h : d.fields.ReadsBack (d.values r)) :
    (c.record d).read? ((c.record d).write r) = some r := by
  have hform : (((d.fields.write (d.values r)).map Prod.fst).filter d.names.contains).Nodup := by
    rw [Fields.map_fst_write]
    exact d.nodup.filter _
  rw [hc.record_write, hc.record_object d _ hform, h.read?_write d.nodup, Option.map_some,
    d.make_values]

end Codecs.Documented

/-! ### Writing it in another way -/

namespace Declaration

variable {ρ : Type}

/-- A value is read as the default of a field. -/
def IsDefault (d : Declaration ρ) (name : String) (v : Json) : Prop :=
  d.fields.All fun _ f => f.name = name → ∃ x, f.default? = some x ∧ f.codec.read? v = some x

/-- Every default is read back from what it is written as. -/
def DefaultsReadBack (d : Declaration ρ) : Prop :=
  d.fields.All fun _ f => ∀ x, f.default? = some x → f.codec.read? (f.codec.write x) = some x

/-- One document writes a record in another way than the other one. -/
inductive Rewritten (d : Declaration ρ) : Json → Json → Prop where
  /-- The keys are in another order. -/
  | reordered {entries entries' : List (String × Json)} (hp : entries.Perm entries') :
    Rewritten d (object entries) (object entries')
  /-- There is no such field. -/
  | unknown (entries : List (String × Json)) {name : String} (hname : name ∉ d.names) (v : Json) :
    Rewritten d (object (entries ++ [(name, v)])) (object entries)
  /-- The field has its default. -/
  | omitted {entries : List (String × Json)} {name : String} {v : Json}
    (hdefault : d.IsDefault name v) (habsent : name ∉ entries.map Prod.fst) :
    Rewritten d (object (entries ++ [(name, v)])) (object entries)
  /-- The fields stand in a list in the order of their declaration. -/
  | positional {values : List Json} (hlength : values.length ≤ d.names.length) :
    Rewritten d (object (d.names.zip values)) (array values)
  /-- The last field of the list has its default. -/
  | shortened {values : List Json} {name : String} {v : Json}
    (hname : d.names[values.length]? = some name) (hdefault : d.IsDefault name v) :
    Rewritten d (array (values ++ [v])) (array values)

variable {d : Declaration ρ} {j j' : Json}

/-- A default that is read back is the only one of its field. -/
theorem readBack_default {α : Type} {k : Codec α} {x : α} (h : k.read? (k.write x) = some x) :
    ∀ y, some x = some y → k.read? (k.write y) = some y := by
  rintro _ ⟨⟩
  exact h

/-- What a field writes for its default is read as its default. -/
theorem DefaultsReadBack.isDefault (h : d.DefaultsReadBack) {name : String} {v : Json}
    (hv : d.fields.All fun _ f => f.name = name → ∃ x, f.default? = some x ∧ f.codec.write x = v) :
    d.IsDefault name v := by
  refine (Fields.All.and h hv).mono fun _ f _ hf hname => ?_
  obtain ⟨hback, hwritten⟩ := hf
  obtain ⟨x, hx, rfl⟩ := hwritten hname
  exact ⟨x, hx, hback x hx⟩

/-- A field may be added where it is missing if it gets its default. -/
theorem IsDefault.all_read?_eq {name : String} {v : Json} (h : d.IsDefault name v)
    {entries : List (String × Json)} (habsent : name ∉ entries.map Prod.fst) :
    d.fields.All fun _ f =>
      f.read? ((entries ++ [(name, v)]).lookup f.name) = f.read? (entries.lookup f.name) := by
  refine Fields.All.mono h fun _ f _ hf => ?_
  rw [List.lookup_append]
  by_cases hname : name = f.name
  · obtain ⟨x, hx, hread⟩ := hf hname.symm
    rw [← hname, lookup_eq_none habsent, List.lookup_cons_self, Option.none_or, Field.read?,
      Field.read?, hx, hread]
  · rw [lookup_cons_of_ne hname, List.lookup_nil, Option.or_none]

namespace Rewritten

/-- Rewriting keeps the form. -/
theorem hasForm_iff (h : d.Rewritten j j') : HasForm d.names j ↔ HasForm d.names j' := by
  cases h with
  | reordered hp => exact ((hp.map Prod.fst).filter _).nodup_iff
  | unknown entries hname v =>
    rw [HasForm, HasForm, List.map_append, List.filter_append]
    simp [hname]
  | @omitted entries name v hdefault habsent =>
    rw [HasForm, HasForm, List.map_append, List.filter_append]
    refine ⟨fun hnd => (List.nodup_append.mp hnd).1, fun hnd => ?_⟩
    refine hnd.append ((List.nodup_singleton name).filter _) ?_
    rintro key hkey hadded
    rw [List.mem_singleton.mp (List.mem_of_mem_filter hadded)] at hkey
    exact habsent (List.mem_of_mem_filter hkey)
  | @positional values hlength =>
    have htake := List.length_take_of_le hlength
    have hkeys : (d.names.zip values).map Prod.fst = d.names.take values.length := by
      conv_lhs => rw [← List.take_append_drop values.length d.names]
      rw [zip_of_length_eq htake, List.map_fst_zip htake.le]
    rw [HasForm, HasForm, hkeys]
    exact iff_of_true ((d.nodup.sublist (List.take_sublist _ _)).filter _) hlength
  | shortened hname hdefault =>
    have hlt := (List.getElem?_eq_some_iff.mp hname).1
    rw [HasForm, HasForm, List.length_append, List.length_singleton]
    exact iff_of_true hlt hlt.le

/-- Rewriting keeps what the fields read. -/
theorem all_read?_eq (h : d.Rewritten j j') (hform : HasForm d.names j) :
    d.fields.All fun _ f =>
      f.read? (given? d.names f.name j) = f.read? (given? d.names f.name j') := by
  cases h with
  | @reordered entries entries' hp =>
    have hp' := hp.filter fun e => d.names.contains e.1
    have hnd : ((entries.filter fun e => d.names.contains e.1).map Prod.fst).Nodup := by
      rw [HasForm, List.filter_map] at hform
      exact hform
    have hnd' := ((hp'.map Prod.fst).nodup_iff).mp hnd
    refine Fields.all_of_names fun _ f (hf : f.name ∈ d.names) => congrArg f.read? ?_
    -- Each declared field is there at most once, so its value does not depend on its place.
    rw [given?, given?, ← lookup_filter entries hf, ← lookup_filter entries' hf]
    ext v
    rw [lookup_eq_some_iff_mem hnd, lookup_eq_some_iff_mem hnd', hp'.mem_iff]
  | @unknown entries key hunknown v =>
    refine Fields.all_of_names fun _ f hf => congrArg f.read? ?_
    have hne : key ≠ f.name := fun h => hunknown (h.symm ▸ hf)
    rw [given?, given?, List.lookup_append, lookup_cons_of_ne hne, List.lookup_nil, Option.or_none]
  | omitted hdefault habsent => exact hdefault.all_read?_eq habsent
  | positional hlength => exact Fields.all_of_names fun _ _ _ => rfl
  | @shortened values name v hplace hdefault =>
    obtain ⟨front, back, hlength, hnames⟩ := exists_cut hplace
    have hnd : (front ++ name :: back).Nodup := hnames ▸ d.nodup
    have habsent : name ∉ (front.zip values).map Prod.fst := by
      rw [List.map_fst_zip hlength.le]
      exact fun hmem => (List.nodup_cons.mp (List.nodup_middle.mp hnd)).1
        (List.mem_append_left back hmem)
    have hsame := hdefault.all_read?_eq habsent
    simp only [given?, hnames, List.zip_append hlength, List.zip_cons_cons, List.zip_nil_right,
      zip_of_length_eq hlength]
    exact hsame

end Rewritten

end Declaration

namespace Codecs.Documented

variable {c : Codecs} {ρ : Type} {d : Declaration ρ} {v v' : Json}

/-- The way in which a record is written does not matter. -/
theorem read?_record_rewritten (hc : c.Documented) {j j' : Json} (h : d.Rewritten j j') :
    (c.record d).read? j = (c.record d).read? j' :=
  hc.read?_record_congr h.hasForm_iff h.all_read?_eq

/-- A field reads the same from entries that differ in a value which it does not tell from another
one. -/
theorem read?_lookup_append_cons {α : Type} {f : Field α} {key : String}
    (h : f.name = key → f.codec.read? v = f.codec.read? v') (before after : List (String × Json)) :
    f.read? ((before ++ (key, v) :: after).lookup f.name) =
      f.read? ((before ++ (key, v') :: after).lookup f.name) := by
  rw [List.lookup_append, List.lookup_append]
  by_cases hname : key = f.name
  · subst hname
    rw [List.lookup_cons_self, List.lookup_cons_self]
    cases before.lookup f.name with
    | none => exact h rfl
    | some w => rfl
  · rw [lookup_cons_of_ne hname, lookup_cons_of_ne hname]

/-- In an object, a value may be replaced by one that its field does not tell from it. -/
theorem read?_record_value (hc : c.Documented) {key : String}
    (h : d.fields.All fun _ f => f.name = key → f.codec.read? v = f.codec.read? v')
    (before after : List (String × Json)) :
    (c.record d).read? (object (before ++ (key, v) :: after)) =
      (c.record d).read? (object (before ++ (key, v') :: after)) := by
  refine hc.read?_record_congr ?_ fun _ => h.mono fun _ f _ hf =>
    read?_lookup_append_cons hf before after
  rw [HasForm, HasForm, List.map_append, List.map_append, List.map_cons, List.map_cons]

/-- In a list, a value may be replaced by one that no field tells from it. -/
theorem read?_record_item (hc : c.Documented)
    (h : d.fields.All fun _ f => f.codec.read? v = f.codec.read? v') (before after : List Json) :
    (c.record d).read? (array (before ++ v :: after)) =
      (c.record d).read? (array (before ++ v' :: after)) := by
  refine hc.read?_record_congr ?_ fun hform => h.mono fun _ f _ hf => ?_
  · rw [HasForm, HasForm, List.length_append, List.length_append, List.length_cons,
      List.length_cons]
  · -- In a list without an item too many, the value has a name, and then it is as in an object.
    have hlt : before.length < d.names.length := by
      rw [HasForm, List.length_append, List.length_cons] at hform
      omega
    obtain ⟨front, back, hlength, hnames⟩ := exists_cut (List.getElem?_eq_getElem hlt)
    rw [given?, given?, hnames, List.zip_append hlength, List.zip_append hlength,
      List.zip_cons_cons, List.zip_cons_cons]
    exact read?_lookup_append_cons (fun _ => hf) _ _

/-- The order of keys does not matter to a record if it does not matter to its fields. -/
theorem orderFree_record (hc : c.Documented)
    (h : d.fields.All fun _ f => OrderFree f.codec.read?) : OrderFree (c.record d).read? := by
  intro j j' hj
  cases hj with
  | fields hp _ => exact hc.read?_record_rewritten (.reordered hp)
  | item before after hv => exact hc.read?_record_item (h.mono fun _ _ _ hf => hf hv) before after
  | value key before after hv =>
    exact hc.read?_record_value (h.mono fun _ _ _ hf _ => hf hv) before after

end Codecs.Documented

end Footprint.Json
