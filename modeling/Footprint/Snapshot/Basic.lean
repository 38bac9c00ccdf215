import Footprint.Diff.Delta
import Footprint.Group.Cluster
import Footprint.Snapshot.Record

/-!
# Snapshots

A snapshot is all that is known of one binary, and a snapshot diff is the comparison of two. Both
have a clustered view, which is made when it is first asked for and may be replaced.
-/

namespace Footprint

/-- A list of symbols with the view that is shown by default, once there is one. -/
structure Listing where
  /-- All top-level symbols, not clustered. -/
  raw : Group
  /-- The clustered or replaced view. -/
  view : Option Group := none

/-- The view of a listing, and the listing with the view kept in it. -/
def Listing.symbols (l : Listing) (stamp : Stamp) : Logged (Group × Listing) :=
  match l.view with
  | some view => return (view, l)
  | none => do
    let view ← l.raw.clustered stamp
    return (view, { l with view := some view })

/-- The listing with another view. -/
def Listing.setSymbols (l : Listing) (view : Group) : Listing :=
  { l with view := some view }

/-- All size information of one binary. -/
structure Snapshot where
  /-- The total size in bytes of each section. -/
  sectionSizes : Dict Int
  /-- The symbols. -/
  listing : Listing
  /-- The provenance. -/
  metadata : Metadata

/-- The comparison of two snapshots. -/
structure SnapshotDiff where
  /-- The change of the size of each section of either side. -/
  sectionSizes : Dict Int
  /-- The diff of the symbols. -/
  listing : Listing
  /-- The provenance of the first side. -/
  before : Metadata
  /-- The provenance of the second side. -/
  after : Metadata

/-- Pushes records in order. -/
def Builder.pushRecords : Builder → List SymbolRecord → Except Error Builder
  | b, [] => .ok b
  | b, r :: rs => do (← b.push r).2.pushRecords rs

/-- Declares alias groups, each given as places among the symbols. -/
def Builder.addAliasPlaces : Builder → List (List Nat) → Except Error Builder
  | b, [] => .ok b
  | b, places :: rest => do
    let members ← places.mapM b.idAt
    (← b.addAliasGroup members).2.addAliasPlaces rest

namespace Snapshot

/-- The snapshot of a record: its symbols and alias groups become a table. -/
def ofRecord (r : SnapshotRecord) (stamp : Stamp) : Except Error (Logged Snapshot) := do
  let b ← Builder.pushRecords {} r.symbols
  let b ← b.addAliasPlaces r.aliasGroups
  return do
    let table ← b.freeze stamp
    return ⟨r.sectionSizes, { raw := .ofTable table }, r.metadata⟩

/-- The section sizes of the second snapshot less those of the first; a section that one side lacks
counts as empty there. -/
def sectionChanges (before after : Snapshot) : Dict Int :=
  let names := before.sectionSizes.keys ++ after.sectionSizes.keys
  .ofList <| names.map fun name =>
    (name, (after.sectionSizes.get? name).getD 0 - (before.sectionSizes.get? name).getD 0)

/-- The comparison of two snapshots. -/
def compareWith (m : Matcher) (before after : Snapshot) (stamp : Stamp) :
    Except Error (Logged SnapshotDiff) := do
  let diff ← diffWith m before.listing.raw after.listing.raw stamp
  return diff.map fun raw =>
    ⟨before.sectionChanges after, { raw }, before.metadata, after.metadata⟩

end Snapshot

end Footprint
