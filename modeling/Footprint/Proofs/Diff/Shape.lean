import Footprint.Proofs.Diff.Survival
import Footprint.Proofs.Group.Leaves

/-!
# The shape of a diff

The diff of known symbols has one leaf for each source, numbered in their order (`Shape`). A leaf
has the facts of its newer symbol, and its size and its padding are differences of contributions
(`Table.contribution`): either both sides contribute full amounts to both of them, or all four
contributions are shares, as far as the symbols have aliases. The side of its source and the
difference of the sizes say which status a leaf has (`Source.status`).
-/

namespace Footprint

/-- What a side contributes to a leaf: nothing when it has no symbol, the full amount of a symbol
without aliases, and of another one the full amount or its share. -/
def Table.contribution (t : Table) (whole : Bool) (value : Symbol → Int) : Option Symbol → Int
  | none => 0
  | some s => if whole ∨ s.aliasGroup = none then value s else t.aliasShare s (value s)

/-- The amount that a side counts for in a draft is its contribution. -/
theorem Table.elim_amount_eq_contribution (t : Table) (whole : Bool) (value : Symbol → Int)
    (side : Option Symbol) :
    (side.elim 0 fun s => Comparison.amount t whole s (value s)) =
      t.contribution whole value side := by
  cases side with
  | none => rfl
  | some s =>
    show (if whole then value s else t.aliasShare s (value s)) =
      if whole ∨ s.aliasGroup = none then value s else t.aliasShare s (value s)
    by_cases hnone : s.aliasGroup = none
    · -- The share of a symbol without aliases is the full amount.
      rw [aliasShare_of_none hnone, ite_self, if_pos (.inr hnone)]
    · simp only [hnone, or_false]

/-- The status of the leaf of a source with a difference of sizes. -/
def Source.status (size : Int) : Source → DiffStatus
  | added _ => .added
  | removed _ => .removed
  | paired _ _ => if size = 0 then .unchanged else .changed

namespace Comparison

variable {c : Comparison} {src : Source} {s : Symbol}

/-- What the leaf of a source has from its symbols. -/
structure LeafShape (c : Comparison) (src : Source) (s : Symbol) : Prop where
  /-- The section, the address, the names, the paths and the flags are those of the newer symbol. -/
  facts : ∃ o, c.factsOf src = some o ∧
    s.record = { o.record with size := s.size, padding := s.padding }
  /-- The size is the difference of what the sides contribute. -/
  size : s.size = c.after.contribution (c.wholeOf src) Symbol.size (c.newOf src) -
    c.before.contribution (c.wholeOf src) Symbol.size (c.oldOf src)
  /-- The padding is the difference of what the sides contribute in the same way. -/
  padding : s.padding = c.after.contribution (c.wholeOf src) Symbol.padding (c.newOf src) -
    c.before.contribution (c.wholeOf src) Symbol.padding (c.oldOf src)
  /-- The status is that of the source with the difference of the sizes. -/
  status : s.status = src.status s.size

/-- The difference that a leaf stands for is that of the contributions of its sides. -/
theorem change_eq_contribution (c : Comparison) (value : Symbol → Int) (src : Source) :
    c.change value src = c.after.contribution (c.wholeOf src) value (c.newOf src) -
      c.before.contribution (c.wholeOf src) value (c.oldOf src) := by
  unfold change
  rw [Table.elim_amount_eq_contribution, Table.elim_amount_eq_contribution]

/-- A symbol with the side of a source has its status. -/
theorem status_eq_of_side (h : s.delta.map Delta.side = some src.side) :
    s.status = src.status s.size := by
  unfold Symbol.status
  rw [h]
  cases src <;> rfl

/-- A symbol with the facts and the differences of a source has the shape of its leaf. -/
theorem DeltaOf.leafShape (h : c.DeltaOf src s) : c.LeafShape src s where
  facts := by
    obtain ⟨o, ho, hrecord⟩ := h.facts
    refine ⟨o, ho, ?_⟩
    rw [h.size_eq, h.padding_eq, hrecord]
  size := h.size_eq.trans (c.change_eq_contribution Symbol.size src)
  padding := h.padding_eq.trans (c.change_eq_contribution Symbol.padding src)
  status := status_eq_of_side h.side

/-- The root of a diff is a flat group with the leaves of the sources. -/
structure Shape (c : Comparison) (root : Group) : Prop where
  /-- There is no nesting. -/
  flat : root.members = root.leaves.map Node.leaf
  /-- No added symbol, removed symbol or pair is left out. -/
  length : root.leaves.length =
    c.pairing.added.length + c.pairing.removed.length + c.pairing.similar.length
  /-- The leaves are numbered from 0 on. -/
  ids : root.leaves.map Symbol.id = (List.range root.leaves.length).map SymbolId.mk
  /-- The leaves are those of the sources, in their order: added, removed, then paired symbols. -/
  leaves : List.Forall₂ c.LeafShape c.pairing.sources root.leaves

/-- There is a leaf for each source. -/
theorem Outcome.length_leaves {root : Group} (h : c.Outcome root) :
    root.leaves.length = c.pairing.sources.length := by
  rw [Group.leaves_of_flat h.members]
  exact h.leaves.length_eq.symm

/-- The outcome of a diff has the shape of one. -/
theorem Outcome.shape {root : Group} (h : c.Outcome root) : c.Shape root := by
  have hleaves : root.leaves = root.table.symbols.toList := Group.leaves_of_flat h.members
  refine ⟨by rw [hleaves, h.members], ?_, ?_, ?_⟩
  · rw [h.length_leaves, Pairing.sources]
    simp only [List.length_append, List.length_map]
  · rw [hleaves, Array.length_toList]
    exact h.built.ids_eq
  · rw [hleaves]
    exact h.leaves.imp fun _ _ hleaf => hleaf.toDeltaOf.leafShape

/-- The sizes of the leaves are the differences that the sources stand for. -/
theorem Shape.map_size {root : Group} (h : c.Shape root) :
    root.leaves.map Symbol.size = c.pairing.sources.map (c.change Symbol.size) := by
  refine map_eq_map_of_forall₂ (h.leaves.flip.imp fun s src hleaf => ?_)
  rw [hleaf.size, change_eq_contribution]

end Comparison

/-- Shape and facts of a diff: for a pairing of known symbols, each listed as often as it may be,
the diff of two groups is a flat group with one leaf for each source in order, which has the facts
of its newer symbol and the difference of what its two sides contribute. There is no diff when there
are more leaves than a table can hold. -/
theorem diffWith_shape (m : Matcher) {before after : Group} (hb : before.table.Built)
    (ha : after.table.Built) (hk : (m.compare before after).Known) (stamp : Stamp) :
    ((m.pair before after).sources.length ≤ tableCapacity →
      ∃ root, diffWith m before after stamp = .ok root ∧
        (m.compare before after).Shape root.value) ∧
    (tableCapacity < (m.pair before after).sources.length →
      diffWith m before after stamp = .error (.tableFull tableCapacity)) := by
  obtain ⟨hok, hfull⟩ := Comparison.exists_diff hk ha hb m.name stamp
  refine ⟨fun hcap => ?_, hfull⟩
  obtain ⟨root, hroot, houtcome⟩ := hok hcap
  exact ⟨root, hroot, houtcome.shape⟩

/-- Two aliases of 41 bytes and three of 50, of which some are listed twice and one is not listed at
all: no alias group lives on, and every leaf stands for shares. -/
theorem diffWith_shape_clones :
    let m : Matcher := .always
      { similar := [(⟨0⟩, ⟨1⟩), (⟨0⟩, ⟨1⟩)], added := [⟨2⟩, ⟨2⟩, ⟨1⟩], removed := [⟨0⟩] }
    let before : Group := .ofTable (.clones { sectionName := ".text", size := 41 } 2)
    let after : Group := .ofTable (.clones { sectionName := ".text", size := 50 } 3)
    ∃ root, diffWith m before after ⟨1⟩ = .ok root ∧
      root.value.leaves.map Symbol.id = [⟨0⟩, ⟨1⟩, ⟨2⟩, ⟨3⟩, ⟨4⟩, ⟨5⟩] ∧
      root.value.leaves.map Symbol.size = [16, 16, 17, -21, 17 - 21, 17 - 21] := by
  intro m before after
  have hb : before.table.Built := Table.built_clones _ (by decide) (by decide)
  have ha : after.table.Built := Table.built_clones _ (by decide) (by decide)
  have hk : (m.compare before after).Known := by decide
  obtain ⟨root, hroot, hshape⟩ := (diffWith_shape m hb ha hk ⟨1⟩).1 (by decide)
  refine ⟨root, hroot, ?_, ?_⟩
  · rw [hshape.ids, hshape.length]
    rfl
  · rw [hshape.map_size]
    decide

end Footprint
