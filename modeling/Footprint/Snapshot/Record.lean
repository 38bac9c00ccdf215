import Footprint.Diff.Status
import Footprint.Group.Grouping
import Footprint.Snapshot.Metadata

/-!
# Records at the boundary

The records that an extractor or a report hands over, declared for any library that reads and writes
JSON.
-/

namespace Footprint

/-- The version of the library. -/
def version : String := "0.1.0"

/-- All facts of one binary as the extractor hands them over. -/
structure SnapshotRecord where
  /-- The total size in bytes of each section. -/
  sectionSizes : Dict Int := .empty
  /-- The symbols. -/
  symbols : List SymbolRecord := []
  /-- The alias groups, each as places in `symbols`. -/
  aliasGroups : List (List Nat) := []
  /-- The provenance. -/
  metadata : Metadata := {}

/-- The fields of a symbol, which has to have a section and a size. -/
def SymbolRecord.declaration (c : Json.Codecs) : Json.Declaration SymbolRecord where
  fields :=
    .cons { name := "section_name", codec := c.string } <|
    .cons { name := "size", codec := c.int64 } <|
    .cons { name := "padding", codec := c.int64, default? := some 0 } <|
    .cons { name := "address", codec := c.address, default? := some 0 } <|
    .cons { name := "full_name", codec := c.string, default? := some "" } <|
    .cons { name := "template_name", codec := c.string, default? := some "" } <|
    .cons { name := "name", codec := c.string, default? := some "" } <|
    .cons { name := "source_path", codec := c.string, default? := some "" } <|
    .cons { name := "object_path", codec := c.string, default? := some "" } <|
    .cons { name := "flags", codec := c.nat32, default? := some 0 } .nil
  make := fun (sectionName, size, padding, address, fullName, templateName, name, sourcePath,
      objectPath, flags, ()) =>
    { sectionName, size, padding, address, fullName, templateName, name, sourcePath, objectPath,
      flags }
  values r := (r.sectionName, r.size, r.padding, r.address, r.fullName, r.templateName, r.name,
    r.sourcePath, r.objectPath, r.flags, ())
  make_values _ := rfl
  nodup := by simp [Json.Fields.names]

/-- How a symbol is read and written. -/
def SymbolRecord.codec (c : Json.Codecs) : Json.Codec SymbolRecord := c.record (declaration c)

/-- The fields of a snapshot, all of which have a default. -/
def SnapshotRecord.declaration (c : Json.Codecs) : Json.Declaration SnapshotRecord where
  fields :=
    .cons { name := "section_sizes", codec := c.dict c.int64, default? := some .empty } <|
    .cons { name := "symbols", codec := c.list (SymbolRecord.codec c), default? := some [] } <|
    .cons { name := "alias_groups", codec := c.list (c.list c.nat64), default? := some [] } <|
    .cons { name := "metadata", codec := Metadata.codec c, default? := some {} } .nil
  make := fun (sectionSizes, symbols, aliasGroups, metadata, ()) =>
    { sectionSizes, symbols, aliasGroups, metadata }
  values r := (r.sectionSizes, r.symbols, r.aliasGroups, r.metadata, ())
  make_values _ := rfl
  nodup := by simp [Json.Fields.names]

/-- How a snapshot is read and written. -/
def SnapshotRecord.codec (c : Json.Codecs) : Json.Codec SnapshotRecord := c.record (declaration c)

/-- The fields of a path grouping, all of which have a default. -/
def PathGrouping.declaration (c : Json.Codecs) : Json.Declaration PathGrouping where
  fields :=
    .cons { name := "depth", codec := c.nat64, default? := some ({} : PathGrouping).depth } <|
    .cons { name := "fallback", codec := c.string,
            default? := some ({} : PathGrouping).fallback } <|
    .cons { name := "fallback_to_object_path", codec := c.bool,
            default? := some ({} : PathGrouping).fallbackToObjectPath } <|
    .cons { name := "min_count", codec := c.int32,
            default? := some ({} : PathGrouping).minCount } .nil
  make := fun (depth, fallback, fallbackToObjectPath, minCount, ()) =>
    { depth, fallback, fallbackToObjectPath, minCount }
  values p := (p.depth, p.fallback, p.fallbackToObjectPath, p.minCount, ())
  make_values _ := rfl
  nodup := by simp [Json.Fields.names]

/-- The fields of leaf counts, none of which may be missing. -/
def DiffCounts.declaration (c : Json.Codecs) : Json.Declaration DiffCounts where
  fields :=
    .cons { name := "added", codec := c.nat64 } <|
    .cons { name := "removed", codec := c.nat64 } <|
    .cons { name := "changed", codec := c.nat64 } <|
    .cons { name := "unchanged", codec := c.nat64 } .nil
  make := fun (added, removed, changed, unchanged, ()) => { added, removed, changed, unchanged }
  values k := (k.added, k.removed, k.changed, k.unchanged, ())
  make_values _ := rfl
  nodup := by simp [Json.Fields.names]

/-- A status is read and written as its word. -/
def DiffStatus.codec (c : Json.Codecs) : Json.Codec DiffStatus := c.word ofText? text

end Footprint
