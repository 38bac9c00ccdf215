import Footprint.Json.Codec
import Footprint.Snapshot.Calendar

/-!
# Provenance of a binary

Facts about the build that a snapshot was taken from: JSON values under text keys, some of which
have a known meaning.
-/

namespace Footprint

/-- The provenance facts of a snapshot. -/
structure Metadata where
  /-- The values by key. -/
  facts : Dict Json := .empty

namespace Metadata

/-- The key of the revision of the source tree. -/
def gitRevisionKey : String := "git_revision"

/-- The key of the path of the package. -/
def apkFileNameKey : String := "apk_file_name"

/-- The key of the path of the linker map. -/
def mapFileNameKey : String := "map_file_name"

/-- The key of the machine that the binary is for. -/
def elfArchitectureKey : String := "elf_arch"

/-- The key of the path of the binary. -/
def elfFileNameKey : String := "elf_file_name"

/-- The key of the time at which the binary was written, in seconds since 1970. -/
def elfMtimeKey : String := "elf_mtime"

/-- The key of the build id. -/
def elfBuildIdKey : String := "elf_build_id"

/-- The key of the build arguments. -/
def gnArgsKey : String := "gn_args"

/-- The key of the prefix of the tools. -/
def toolPrefixKey : String := "tool_prefix"

/-- The number of facts. -/
def size (m : Metadata) : Nat := m.facts.size

/-- The value under a key. -/
def get? (m : Metadata) (key : String) : Option Json := m.facts.get? key

/-- The metadata with a value under a key, and the value that was there. -/
def insert (m : Metadata) (key : String) (value : Json) : Option Json × Metadata :=
  (m.get? key, ⟨m.facts.insert key value⟩)

/-- The metadata of a list of facts, in which a later fact replaces an earlier one. -/
def ofList (facts : List (String × Json)) : Metadata := ⟨.ofList facts⟩

/-- The text under a key, if the value there is one. -/
def text? (m : Metadata) (key : String) : Option String := do
  (← m.get? key).string?

/-- The revision of the source tree. -/
def gitRevision? (m : Metadata) : Option String := m.text? gitRevisionKey

/-- The path of the package. -/
def apkFileName? (m : Metadata) : Option String := m.text? apkFileNameKey

/-- The path of the linker map. -/
def mapFileName? (m : Metadata) : Option String := m.text? mapFileNameKey

/-- The machine that the binary is for. -/
def elfArchitecture? (m : Metadata) : Option String := m.text? elfArchitectureKey

/-- The path of the binary. -/
def elfFileName? (m : Metadata) : Option String := m.text? elfFileNameKey

/-- The build id. -/
def elfBuildId? (m : Metadata) : Option String := m.text? elfBuildIdKey

/-- The prefix of the tools. -/
def toolPrefix? (m : Metadata) : Option String := m.text? toolPrefixKey

/-- The time in seconds since 1970 at which the binary was written, if it is a valid time. -/
def elfMtimeSeconds? (m : Metadata) : Option Int := do
  let seconds ← (← m.get? elfMtimeKey).int64?
  let _ ← Moment.ofSeconds? seconds
  return seconds

/-- The time at which the binary was written. -/
def elfMtime? (m : Metadata) : Option Moment := do
  Moment.ofSeconds? (← m.elfMtimeSeconds?)

/-- The texts among the build arguments. -/
def gnArgs (m : Metadata) : List String :=
  match m.get? gnArgsKey with
  | some (.array items) => items.filterMap Json.string?
  | _ => []

/-- Metadata is read and written as the dictionary of its facts. -/
def codec (c : Json.Codecs) : Json.Codec Metadata := c.wrapped mk facts (c.dict c.value)

end Metadata

end Footprint
