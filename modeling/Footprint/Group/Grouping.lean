import Footprint.Group.Basic
import Footprint.Text.Separated

/-!
# Grouping by a token

A token function gives each member a text or nothing. Members that share a token become a nested
group, in the order in which the tokens are first seen.
-/

namespace Footprint

/-- How members are grouped by their paths. -/
structure PathGrouping where
  /-- The number of leading directories that count, 0 for the whole path. -/
  depth : Nat := 0
  /-- The token of a member without a path. -/
  fallback : String := "\x7bno path\x7d"
  /-- Whether the object path stands in for an empty source path. -/
  fallbackToObjectPath : Bool := true
  /-- The least size of a group; a negative one leaves smaller groups out. -/
  minCount : Int := 0
deriving Repr, DecidableEq

/-- The elements with a given token. -/
def withToken {α : Type} (token : α → Option String) (xs : List α) (t : String) : List α :=
  xs.filter fun x => token x == some t

/-- The tokens of a list in the order in which they are first seen. -/
def tokensOf {α : Type} (token : α → Option String) (xs : List α) : List String :=
  (xs.filterMap token).eraseDups

/-- The elements with each token, in the order in which the tokens are first seen. -/
def gather {α : Type} (token : α → Option String) (xs : List α) : List (String × List α) :=
  (tokensOf token xs).map fun t => (t, withToken token xs t)

namespace Group

/-- A nested group of members of `g`. -/
def nest (g : Group) (id : GroupId) (label : Label) (members : List Node) : Node :=
  .group { id, label, isSorted := g.isSorted, status := g.statusOf members } members

/-- The nested groups of the tokens that at least `least` of the nodes share, and in their places
the nodes of the other tokens when `keepSmall` holds. -/
def nestByToken (g : Group) (id : Nat → GroupId) (token : Node → Option String) (least : Nat)
    (keepSmall : Bool) (label : String → List Node → Label) (nodes : List Node) : List Node :=
  (gather token nodes).zipIdx.flatMap fun ((t, members), place) =>
    if least ≤ members.length then [g.nest (id place) (label t members) members]
    else if keepSmall then members
    else []

/-- The nodes without a token, then the nodes of each token that fewer than `least` nodes share. -/
def leftOver (token : Node → Option String) (least : Nat) (keepSmall : Bool)
    (nodes : List Node) : List Node :=
  nodes.filter (fun n => (token n).isNone) ++
    if keepSmall then []
    else (gather token nodes).flatMap fun (_, members) =>
      if least ≤ members.length then [] else members

/-- Groups the members by a token, with labels of one's own. A token that fewer than `|minCount|`
members share is not grouped: its members stay when `minCount` is not negative, and are filtered
out when it is, as are members without a token. -/
def groupedByWith (g : Group) (stamp : Stamp) (token : Node → Option String) (minCount : Int)
    (label : String → List Node → Label) : Group :=
  let least := minCount.natAbs
  let keepSmall : Bool := 0 ≤ minCount
  let id := fun place => ⟨stamp, [place]⟩
  g.transformed (g.nestByToken id token least keepSmall label g.members)
    (leftOver token least keepSmall g.members) g.sectionLabel g.isSorted

/-- Groups the members by a token, which names the group. -/
def groupedBy (g : Group) (stamp : Stamp) (token : Node → Option String) (minCount : Int := 0) :
    Group :=
  g.groupedByWith stamp token minCount fun t _ => .named t g.label.sectionName

/-- Groups the members by section. -/
def groupedBySectionName (g : Group) (stamp : Stamp) : Group :=
  g.groupedBy stamp fun n => some n.facts.sectionName

/-- The `depth` leading parts of a name for a positive `depth`, the name without `-depth` trailing
parts for a negative one, and the whole name for 0. -/
def nameToken (depth : Int) (name : String) : String :=
  let separator := "::".toList
  String.ofList <|
    if 0 ≤ depth then Text.takeParts separator depth.natAbs name.toList
    else Text.dropTrailingParts separator depth.natAbs name.toList

/-- Groups the members by the parts of their names. -/
def groupedByName (g : Group) (stamp : Stamp) (depth : Int := 0) (minCount : Int := 0) : Group :=
  g.groupedBy stamp (fun n => some (nameToken depth n.facts.name)) minCount

/-- The leading directories of the source path, of the object path, or of the fallback, whichever
is the first that is there. -/
def pathToken (options : PathGrouping) (f : Facts) : String :=
  let path :=
    if options.fallbackToObjectPath && f.sourcePath.isEmpty then f.objectPath else f.sourcePath
  let path := if path.isEmpty then options.fallback else path
  String.ofList (Text.takeParts "/".toList options.depth path.toList)

/-- Groups the members by the directories of their paths. -/
def groupedByPath (g : Group) (stamp : Stamp) (options : PathGrouping) : Group :=
  g.groupedBy stamp (fun n => some (pathToken options n.facts)) options.minCount

end Group

end Footprint
