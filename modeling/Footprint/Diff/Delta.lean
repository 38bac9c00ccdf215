import Footprint.Diff.Pairing

/-!
# The diff of two trees

A diff is a flat group of fresh symbols, one for each added, removed or paired symbol, whose sizes
are differences. An alias group lives on among them when its membership is the same on both sides;
any other member of an alias group stands alone with its integer share of the group's bytes, so that
the sizes still add up to the difference of the two trees.
-/

namespace Footprint

/-- The part of an amount that a symbol owns within its alias group. The shares of the members add
up to the amount, and the first members get what does not divide evenly. A symbol that is not listed
in its own alias group, as none is in a table that was built, counts as the first member. -/
def Table.aliasShare (t : Table) (s : Symbol) (amount : Int) : Int :=
  match s.aliasGroup with
  | none => amount
  | some g =>
    let members := t.aliasMembers g
    if members.isEmpty then amount
    else
      let count : Int := members.length
      let position : Int := (members.idxOf? s.id).getD 0
      amount / count + if position < amount % count then 1 else 0

/-- Two trees with the pairing of their leaves. -/
structure Comparison where
  /-- The table of the first tree. -/
  before : Table
  /-- The table of the second tree. -/
  after : Table
  /-- Which symbols belong together. -/
  pairing : Pairing

namespace Comparison

/-- The partner of a symbol of the second table, of several the last. -/
def partner? (c : Comparison) (id : SymbolId) : Option SymbolId :=
  (c.pairing.similar.findRev? (·.2 == id)).map Prod.fst

/-- The alias groups of the partners of some symbols of the second table; nothing when a symbol has
no known partner or the partner has no alias group. -/
def partnerGroups? (c : Comparison) (ids : List SymbolId) : Option (List AliasGroupId) :=
  ids.mapM fun id => do (← c.before.get? (← c.partner? id)).aliasGroup

/-- Whether the members of an alias group of the second table are all paired, and their partners
are as many members of one alias group of the first table as it has. -/
def sameMembership (c : Comparison) (members : List SymbolId) : Bool :=
  match c.partnerGroups? members with
  | some (g :: rest) =>
    rest.all (· == g) && (c.before.aliasMembers g).length == members.length
  | _ => false

/-- Whether an alias group of the second table lives on: its members are all added, or all paired
with one whole alias group of the first table. -/
def keepsAfter (c : Comparison) (g : AliasGroupId) : Bool :=
  let members := c.after.aliasMembers g
  members.all (c.pairing.added.contains ·) || c.sameMembership members

/-- Whether an alias group of the first table lives on: its members are all removed. -/
def keepsBefore (c : Comparison) (g : AliasGroupId) : Bool :=
  (c.before.aliasMembers g).all (c.pairing.removed.contains ·)

/-- The alias groups that pass a test, of symbols that have to be in the table. The symbols are
looked up in the order of the list. Any other order gives the same alias groups; of several unknown
symbols it may report another one. -/
def keptGroups (t : Table) (keeps : AliasGroupId → Bool) (ids : List SymbolId) :
    Except Error (List AliasGroupId) := do
  let symbols ← ids.mapM t.get
  return ((symbols.filterMap Symbol.aliasGroup).filter keeps).eraseDups

/-- A symbol of a diff before it has its place: its record, its differences, and the alias group of
its source that lives on. -/
structure Draft where
  /-- The facts, with differences for size and padding. -/
  record : SymbolRecord
  /-- The side and the differences of the proportional sizes. -/
  delta : Delta
  /-- The alias group of the source symbol, if it lives on. -/
  kept : Option AliasGroupId

/-- The amount that a symbol contributes: the whole, or its share of its alias group. -/
def amount (t : Table) (whole : Bool) (s : Symbol) (value : Int) : Int :=
  if whole then value else t.aliasShare s value

/-- The draft of an added symbol. -/
def draftAdded (c : Comparison) (id : SymbolId) : Except Error Draft := do
  let new ← c.after.get id
  let kept := new.aliasGroup.filter c.keepsAfter
  let whole := kept.isSome
  let record := { new.record with
    size := amount c.after whole new new.size
    padding := amount c.after whole new new.padding }
  return ⟨record, ⟨.added, new.pss - 0.0, new.pssWithoutPadding - 0.0⟩, kept⟩

/-- The draft of a removed symbol. -/
def draftRemoved (c : Comparison) (id : SymbolId) : Except Error Draft := do
  let old ← c.before.get id
  let kept := old.aliasGroup.filter c.keepsBefore
  let whole := kept.isSome
  let record := { old.record with
    size := 0 - amount c.before whole old old.size
    padding := 0 - amount c.before whole old old.padding }
  return ⟨record, ⟨.removed, 0.0 - old.pss, 0.0 - old.pssWithoutPadding⟩, kept⟩

/-- The draft of a pair of symbols. -/
def draftPaired (c : Comparison) (pair : SymbolId × SymbolId) : Except Error Draft := do
  let old ← c.before.get pair.1
  let new ← c.after.get pair.2
  let kept := new.aliasGroup.filter c.keepsAfter
  let whole := kept.isSome || (old.aliasGroup.isNone && new.aliasGroup.isNone)
  let record := { new.record with
    size := amount c.after whole new new.size - amount c.before whole old old.size
    padding := amount c.after whole new new.padding - amount c.before whole old old.padding }
  let delta : Delta :=
    ⟨.paired, new.pss - old.pss, new.pssWithoutPadding - old.pssWithoutPadding⟩
  return ⟨record, delta, kept⟩

/-- Appends the drafts to a builder; gives their ids in order. -/
def pushAll : Builder → List Draft → Except Error (List SymbolId × Builder)
  | b, [] => .ok ([], b)
  | b, d :: ds => do
    let (id, b) ← b.push d.record d.delta
    let (ids, b) ← pushAll b ds
    return (id :: ids, b)

/-- The ids of the drafts of each alias group that lives on, in the order in which the groups are
first seen. -/
def aliasClasses (drafts : List (Draft × SymbolId)) : List (List SymbolId) :=
  let groups := (drafts.filterMap (·.1.kept)).eraseDups
  groups.map fun g => (drafts.filter (·.1.kept == some g)).map Prod.snd

/-- Declares the alias groups of two or more symbols. -/
def declareAll (b : Builder) (groups : List (List SymbolId)) : Except Error Builder :=
  groups.foldlM (fun b members => do
    if members.length > 1 then return (← b.addAliasGroup members).2 else return b) b

/-- The diff of two trees: added, then removed, then paired symbols. -/
def diff (c : Comparison) (matcherName : String) (stamp : Stamp) : Except Error (Logged Group) := do
  let p := c.pairing
  let keptAfter ← keptGroups c.after c.keepsAfter (p.added ++ p.similar.map Prod.snd)
  let keptBefore ← keptGroups c.before c.keepsBefore p.removed
  let added ← p.added.mapM c.draftAdded
  let removed ← p.removed.mapM c.draftRemoved
  let paired ← p.similar.mapM c.draftPaired
  let (ids, b) ← pushAll {} (added ++ removed ++ paired)
  let drafts := (added ++ removed ++ paired).zip ids
  let isRemoved (d : Draft × SymbolId) : Bool := d.1.delta.side == .removed
  let b ← declareAll b
    (aliasClasses (drafts.filter (!isRemoved ·)) ++ aliasClasses (drafts.filter isRemoved))
  return do
    .report (.compared matcherName p.added.length p.removed.length p.similar.length
      (keptAfter.length + keptBefore.length))
    let table ← b.freeze stamp
    let g := Group.ofTable table
    return { g with status := some (.combine (g.members.map Node.status)) }

end Comparison

/-- The diff of the leaves of two trees under a way to pair them. -/
def diffWith (m : Matcher) (before after : Group) (stamp : Stamp) : Except Error (Logged Group) :=
  Comparison.diff ⟨before.table, after.table, m.pair before after⟩ m.name stamp

end Footprint
