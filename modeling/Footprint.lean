import Footprint.Dict
import Footprint.Diff.Delta
import Footprint.Diff.Pairing
import Footprint.Diff.Status
import Footprint.Error
import Footprint.Group.Algebra
import Footprint.Group.Basic
import Footprint.Group.Cluster
import Footprint.Group.Filter
import Footprint.Group.Grouping
import Footprint.Group.Leaves
import Footprint.Group.Node
import Footprint.Group.Order
import Footprint.Group.Search
import Footprint.Json.Basic
import Footprint.Json.Codec
import Footprint.Json.Number
import Footprint.Json.Parser
import Footprint.Logged
import Footprint.Pattern.Backtracking
import Footprint.Pattern.Basic
import Footprint.Pattern.Bracket
import Footprint.Pattern.CharSet
import Footprint.Pattern.Escape
import Footprint.Pattern.Parser
import Footprint.Pattern.Placeholder
import Footprint.Pattern.Places
import Footprint.Pattern.Plan
import Footprint.Pattern.Reader
import Footprint.Pattern.Regular
import Footprint.Pattern.Search
import Footprint.Pattern.Tree
import Footprint.Proofs.Diff.Antisymmetry
import Footprint.Proofs.Diff.ClusteredSides
import Footprint.Proofs.Diff.Counts
import Footprint.Proofs.Diff.Drafts
import Footprint.Proofs.Diff.Hidden
import Footprint.Proofs.Diff.Kept
import Footprint.Proofs.Diff.Matching
import Footprint.Proofs.Diff.NetChange
import Footprint.Proofs.Diff.NoChange
import Footprint.Proofs.Diff.OneSided
import Footprint.Proofs.Diff.Outcome
import Footprint.Proofs.Diff.Ranks
import Footprint.Proofs.Diff.Shape
import Footprint.Proofs.Diff.Status
import Footprint.Proofs.Diff.Survival
import Footprint.Proofs.Diff.Unknown
import Footprint.Proofs.Group.ClusterKey
import Footprint.Proofs.Group.ClusterOrder
import Footprint.Proofs.Group.ClusterTotals
import Footprint.Proofs.Group.Clustering
import Footprint.Proofs.Group.Complement
import Footprint.Proofs.Group.Counting
import Footprint.Proofs.Group.Created
import Footprint.Proofs.Group.Depths
import Footprint.Proofs.Group.Destinations
import Footprint.Proofs.Group.FieldSearch
import Footprint.Proofs.Group.FirstFailure
import Footprint.Proofs.Group.Gathering
import Footprint.Proofs.Group.GroupedTotals
import Footprint.Proofs.Group.Identity
import Footprint.Proofs.Group.InPlace
import Footprint.Proofs.Group.Labels
import Footprint.Proofs.Group.LeafSums
import Footprint.Proofs.Group.LeafWalk
import Footprint.Proofs.Group.Leaves
import Footprint.Proofs.Group.Lookup
import Footprint.Proofs.Group.Nameless
import Footprint.Proofs.Group.Nesting
import Footprint.Proofs.Group.NumberedNames
import Footprint.Proofs.Group.Placement
import Footprint.Proofs.Group.Reachable
import Footprint.Proofs.Group.Reclustering
import Footprint.Proofs.Group.SectionTotals
import Footprint.Proofs.Group.Selection
import Footprint.Proofs.Group.SortedTotals
import Footprint.Proofs.Group.Sorting
import Footprint.Proofs.Group.StableSort
import Footprint.Proofs.Group.Totals
import Footprint.Proofs.Group.Unanimity
import Footprint.Proofs.Json.Codecs
import Footprint.Proofs.Json.Dictionary
import Footprint.Proofs.Json.Records
import Footprint.Proofs.Json.Reordering
import Footprint.Proofs.Pattern.Meaning
import Footprint.Proofs.Pattern.Reference
import Footprint.Proofs.Pattern.Template
import Footprint.Proofs.Pattern.WholeIdentifier
import Footprint.Proofs.Snapshot.Acceptance
import Footprint.Proofs.Snapshot.Loading
import Footprint.Proofs.Snapshot.Spelling
import Footprint.Proofs.Snapshot.Totals
import Footprint.Proofs.Symbol.Aliases
import Footprint.Proofs.Symbol.Arena
import Footprint.Proofs.Symbol.Calls
import Footprint.Proofs.Symbol.Division
import Footprint.Proofs.Symbol.Shares
import Footprint.Proofs.Symbol.Spelling
import Footprint.Proofs.Text.Address
import Footprint.Proofs.Text.Counter
import Footprint.Proofs.Text.Parts
import Footprint.Snapshot.Basic
import Footprint.Snapshot.Calendar
import Footprint.Snapshot.Metadata
import Footprint.Snapshot.Record
import Footprint.Symbol.Basic
import Footprint.Symbol.Facts
import Footprint.Symbol.Flags
import Footprint.Symbol.Table
import Footprint.Text.Counter
import Footprint.Text.Hex
import Footprint.Text.Separated
import Footprint.Unicode.CaseFold
import Footprint.Unicode.Category
import Footprint.Unicode.Property
import Footprint.Unicode.Ranges
import Footprint.Unicode.Script
import Footprint.Unicode.Space
