import Footprint.Json.Basic

/-!
# Codecs

A codec reads the values of a type from JSON and writes them. A record is declared as data: its
fields in order, each with a name, a codec and perhaps a default. The codecs of single values, and
the way from a declaration to a codec, come from a library for JSON (`Codecs`), which everything
that is read or written takes. `Codecs.standard` is the library that programs are run with.
-/

namespace Footprint.Json

/-- A way to read the values of a type from JSON and to write them. -/
structure Codec (α : Type) where
  /-- The value that a document stands for, if it does. -/
  read? (j : Json) : Option α
  /-- The document that a value is written as. -/
  write (x : α) : Json

/-- A declared field of a record. -/
structure Field (α : Type) where
  /-- The name. -/
  name : String
  /-- The codec of the value. -/
  codec : Codec α
  /-- The value that stands for the field when it is left out; without one it has to be there. -/
  default? : Option α := none

/-- Reads a field from the value that is given for it, if one is given. -/
def Field.read? {α : Type} (f : Field α) : Option Json → Option α
  | some v => f.codec.read? v
  | none => f.default?

/-- The declared fields of a record in order, where `α` is the type of their values side by side. -/
inductive Fields : (α : Type) → Type 1 where
  /-- No field. -/
  | nil : Fields Unit
  /-- One more field in front. -/
  | cons {α β : Type} (f : Field α) (rest : Fields β) : Fields (α × β)

namespace Fields

/-- The names of the fields in order. -/
def names {α : Type} : Fields α → List String
  | nil => []
  | cons f rest => f.name :: rest.names

/-- Reads each field from what is given under its name. -/
def read? {α : Type} (given : String → Option Json) : Fields α → Option α
  | nil => some ()
  | cons f rest => do return (← f.read? (given f.name), ← rest.read? given)

/-- The values under their names. -/
def write {α : Type} : Fields α → α → List (String × Json)
  | nil, _ => []
  | cons f rest, (x, xs) => (f.name, f.codec.write x) :: rest.write xs

end Fields

/-- What a record consists of. -/
structure Declaration (ρ : Type) where
  /-- The type of the values of its fields side by side. -/
  {Values : Type}
  /-- The fields. -/
  fields : Fields Values
  /-- The record of some values. -/
  make (values : Values) : ρ
  /-- The values of a record. -/
  values (r : ρ) : Values
  /-- A record is made of its values. -/
  make_values : ∀ r, make (values r) = r
  /-- No name is declared twice. -/
  nodup : fields.names.Nodup

/-- The names of the fields of a record in order. -/
def Declaration.names {ρ : Type} (d : Declaration ρ) : List String := d.fields.names

/-- A library for JSON: codecs for single values, and ways to make codecs of others. -/
structure Codecs where
  /-- Texts. -/
  string : Codec String
  /-- Truth values. -/
  bool : Codec Bool
  /-- Signed 64-bit numbers. -/
  int64 : Codec Int
  /-- Signed 32-bit numbers. -/
  int32 : Codec Int
  /-- Unsigned 64-bit numbers. -/
  nat64 : Codec Nat
  /-- Unsigned 32-bit numbers. -/
  nat32 : Codec Nat
  /-- Addresses. -/
  address : Codec UInt64
  /-- Values of any form. -/
  value : Codec Json
  /-- Lists of values of a type. -/
  list {α : Type} (c : Codec α) : Codec (List α)
  /-- Values of a type under text keys. -/
  dict {α : Type} (c : Codec α) : Codec (Dict α)
  /-- Values of a type under another name. -/
  wrapped {α β : Type} (wrap : α → β) (unwrap : β → α) (c : Codec α) : Codec β
  /-- Values that are words. -/
  word {α : Type} (ofText? : String → Option α) (text : α → String) : Codec α
  /-- Records with declared fields. -/
  record {ρ : Type} (d : Declaration ρ) : Codec ρ

/-- The value that a document gives for one of the declared fields: the one under its name in an
object, or the one at its place in a list. -/
def given? (names : List String) (name : String) : Json → Option Json
  | object fields => fields.lookup name
  | array items => (names.zip items).lookup name
  | _ => none

/-- The documents that have the form of a record with some declared fields: the objects in which no
declared field is given twice, and the lists that are not too long. -/
def HasForm (names : List String) : Json → Prop
  | object fields => ((fields.map Prod.fst).filter names.contains).Nodup
  | array items => items.length ≤ names.length
  | _ => False

instance (names : List String) (j : Json) : Decidable (HasForm names j) :=
  match j with
  | object fields =>
    inferInstanceAs (Decidable ((fields.map Prod.fst).filter names.contains).Nodup)
  | array items => inferInstanceAs (Decidable (items.length ≤ names.length))
  | null | bool _ | int _ | float _ | string _ | unreadable => .isFalse nofun

/-- The word that a document is: a text, or an object with nothing under it. -/
def word? : Json → Option String
  | string s => some s
  | object [(s, null)] => some s
  | _ => none

/-- The library that programs are run with. -/
def Codecs.standard : Codecs where
  string := ⟨string?, .string⟩
  bool := ⟨bool?, .bool⟩
  int64 := ⟨int64?, .int⟩
  int32 := ⟨int32?, .int⟩
  nat64 := ⟨nat64?, fun n => .int n⟩
  nat32 := ⟨nat32?, fun n => .int n⟩
  address := ⟨fun j => j.nat64?.map UInt64.ofNat, fun a => .int a.toNat⟩
  value := ⟨settle, id⟩
  list c := ⟨list? c.read?, fun xs => .array (xs.map c.write)⟩
  dict c := ⟨dict? c.read?, fun d => .object (d.map c.write).entries⟩
  wrapped wrap unwrap c := ⟨fun j => (c.read? j).map wrap, fun x => c.write (unwrap x)⟩
  word ofText? text := ⟨fun j => j.word?.bind ofText?, fun x => .string (text x)⟩
  record d := {
    read? j :=
      if HasForm d.names j then (d.fields.read? (given? d.names · j)).map d.make else none
    write r := .object (d.fields.write (d.values r)) }

end Footprint.Json
