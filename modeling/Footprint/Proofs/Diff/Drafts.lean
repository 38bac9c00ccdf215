import Mathlib.Data.List.Forall2
import Mathlib.Data.Int.Basic
import Footprint.Proofs.Diff.Kept

/-!
# Drafts of a diff

A diff has one leaf for each `Source`: an added symbol, a removed symbol, or a pair. `change`,
`keptOf` and `factsOf` say for all three at once what the leaf's amounts are, which alias group it
takes along and whose facts it has, and `Drafted` that a draft agrees with them. The drafts of known
symbols always come about (`exists_drafts`), and below the capacity they are pushed in order
(`pushAll_eq`).
-/

namespace Footprint

/-- What a leaf of a diff stands for. -/
inductive Source where
  /-- A symbol of the second tree only. -/
  | added (new : SymbolId)
  /-- A symbol of the first tree only. -/
  | removed (old : SymbolId)
  /-- A symbol of the first tree and its partner in the second. -/
  | paired (old new : SymbolId)
deriving Repr, DecidableEq

namespace Source

/-- The symbol of the second tree. -/
def new? : Source → Option SymbolId
  | added new => some new
  | removed _ => none
  | paired _ new => some new

/-- The symbol of the first tree. -/
def old? : Source → Option SymbolId
  | added _ => none
  | removed old => some old
  | paired old _ => some old

/-- The side that the leaf is on. -/
def side : Source → Side
  | added _ => .added
  | removed _ => .removed
  | paired _ _ => .paired

end Source

/-- The matcher with a pairing of its own, whatever the groups are. -/
def Matcher.always (p : Pairing) : Matcher :=
  { name := "always", pair := fun _ _ => p }

/-- What the leaves of a diff stand for, in their order: added, then removed, then paired
symbols. -/
def Pairing.sources (p : Pairing) : List Source :=
  p.added.map .added ++ p.removed.map .removed ++ p.similar.map fun q => .paired q.1 q.2

namespace Comparison

/-- The draft of a leaf. -/
def draft (c : Comparison) : Source → Except Error Draft
  | .added new => c.draftAdded new
  | .removed old => c.draftRemoved old
  | .paired old new => c.draftPaired (old, new)

/-- The symbol of the second table that a leaf stands for. -/
def newOf (c : Comparison) (src : Source) : Option Symbol :=
  src.new?.bind c.after.get?

/-- The symbol of the first table that a leaf stands for. -/
def oldOf (c : Comparison) (src : Source) : Option Symbol :=
  src.old?.bind c.before.get?

/-- The symbol whose facts a leaf has: the newer one. -/
def factsOf (c : Comparison) (src : Source) : Option Symbol :=
  (c.newOf src).or (c.oldOf src)

/-- The alias group of its source that a leaf takes along. -/
def keptOf (c : Comparison) (src : Source) : Option AliasGroupId :=
  match src.side with
  | .removed => ((c.oldOf src).bind Symbol.aliasGroup).filter c.keepsBefore
  | _ => ((c.newOf src).bind Symbol.aliasGroup).filter c.keepsAfter

/-- Whether a leaf stands for the whole amounts of its symbols and not for shares: it takes an alias
group along, or it pairs two symbols without one. -/
def wholeOf (c : Comparison) (src : Source) : Bool :=
  (c.keptOf src).isSome ||
    (src.side == .paired && ((c.oldOf src).bind Symbol.aliasGroup).isNone &&
      ((c.newOf src).bind Symbol.aliasGroup).isNone)

/-- The difference of an amount that a leaf stands for; a side without a symbol counts as 0. -/
def change (c : Comparison) (value : Symbol → Int) (src : Source) : Int :=
  ((c.newOf src).elim 0 fun s => amount c.after (c.wholeOf src) s (value s)) -
    (c.oldOf src).elim 0 fun s => amount c.before (c.wholeOf src) s (value s)

/-- The draft of a leaf has the facts, the amounts and the alias group that its source says. -/
structure Drafted (c : Comparison) (src : Source) (d : Draft) : Prop where
  /-- The facts are those of the newer symbol, apart from the amounts. -/
  facts : ∃ s, c.factsOf src = some s ∧ d.record =
    { s.record with size := c.change Symbol.size src, padding := c.change Symbol.padding src }
  /-- The side is that of the source. -/
  side : d.delta.side = src.side
  /-- The alias group is the one that the source takes along. -/
  kept : d.kept = c.keptOf src

/-- The source names known symbols only. -/
def KnownSource (c : Comparison) (src : Source) : Prop :=
  (∀ id ∈ src.new?, ∃ s, c.after.get? id = some s) ∧
    ∀ id ∈ src.old?, ∃ s, c.before.get? id = some s

/-- The sources of a known pairing name known symbols. -/
theorem Known.source {c : Comparison} (h : c.Known) {src : Source}
    (hsrc : src ∈ c.pairing.sources) : c.KnownSource src := by
  -- One case for each of the three parts of the pairing.
  simp only [Pairing.sources, List.mem_append, List.mem_map] at hsrc
  have hnew := h.after
  have hold := h.before
  simp only [Pairing.afterIds, Pairing.beforeIds, List.mem_append, List.mem_map] at hnew hold
  rcases hsrc with (⟨id, hid, rfl⟩ | ⟨id, hid, rfl⟩) | ⟨q, hq, rfl⟩
  · exact ⟨fun _ he => Option.mem_some_iff.mp he ▸ hnew id (.inl hid), fun _ he => nomatch he⟩
  · exact ⟨fun _ he => (nomatch he), fun _ he => Option.mem_some_iff.mp he ▸ hold id (.inl hid)⟩
  · exact ⟨fun _ he => Option.mem_some_iff.mp he ▸ hnew q.2 (.inr ⟨q, hq, rfl⟩),
      fun _ he => Option.mem_some_iff.mp he ▸ hold q.1 (.inr ⟨q, hq, rfl⟩)⟩

/-- Every source of known symbols has a draft. -/
theorem exists_draft {c : Comparison} {src : Source} (h : c.KnownSource src) :
    ∃ d, c.draft src = .ok d ∧ c.Drafted src d := by
  cases src with
  | added new =>
    obtain ⟨s, hs⟩ := h.1 new rfl
    have hnew : c.newOf (.added new) = some s := hs
    have hold : c.oldOf (.added new) = none := rfl
    have hwhole : c.wholeOf (.added new) = (s.aliasGroup.filter c.keepsAfter).isSome := by
      simp [wholeOf, keptOf, Source.side, hnew]
    refine ⟨_, by simp only [draft, draftAdded, Table.get, hs]; rfl, ⟨s, ?_, ?_⟩, rfl, ?_⟩
    · simp [factsOf, hnew]
    · simp [change, hnew, hold, hwhole]
    · simp [keptOf, Source.side, hnew]
  | removed old =>
    obtain ⟨s, hs⟩ := h.2 old rfl
    have hnew : c.newOf (.removed old) = none := rfl
    have hold : c.oldOf (.removed old) = some s := hs
    have hwhole : c.wholeOf (.removed old) = (s.aliasGroup.filter c.keepsBefore).isSome := by
      simp [wholeOf, keptOf, Source.side, hold]
    refine ⟨_, by simp only [draft, draftRemoved, Table.get, hs]; rfl, ⟨s, ?_, ?_⟩, rfl, ?_⟩
    · simp [factsOf, hnew, hold]
    · simp [change, hnew, hold, hwhole]
    · simp [keptOf, Source.side, hold]
  | paired old new =>
    obtain ⟨s, hs⟩ := h.1 new rfl
    obtain ⟨s', hs'⟩ := h.2 old rfl
    have hnew : c.newOf (.paired old new) = some s := hs
    have hold : c.oldOf (.paired old new) = some s' := hs'
    have hwhole : c.wholeOf (.paired old new) = ((s.aliasGroup.filter c.keepsAfter).isSome ||
        (s'.aliasGroup.isNone && s.aliasGroup.isNone)) := by
      simp [wholeOf, keptOf, Source.side, hnew, hold]
    refine ⟨_, by simp only [draft, draftPaired, Table.get, hs, hs']; rfl, ⟨s, ?_, ?_⟩, rfl, ?_⟩
    · simp [factsOf, hnew]
    · simp [change, hnew, hold, hwhole]
    · simp [keptOf, Source.side, hnew]

/-- Lists on whose places two functions agree have the same images. -/
theorem map_eq_map_of_forall₂ {α β γ : Type} {f : α → γ} {g : β → γ} {xs : List α} {ys : List β}
    (h : List.Forall₂ (fun x y => f x = g y) xs ys) : xs.map f = ys.map g := by
  have himages : List.Forall₂ Eq (xs.map f) (ys.map g) := by
    rwa [List.forall₂_map_left_iff, List.forall₂_map_right_iff]
  rwa [List.forall₂_eq_eq_eq] at himages

/-- A list is processed without error when each of its elements is. -/
theorem exists_mapM {α β : Type} {f : α → Except Error β} {P : α → β → Prop} {xs : List α}
    (h : ∀ x ∈ xs, ∃ y, f x = .ok y ∧ P x y) : ∃ ys, xs.mapM f = .ok ys ∧ List.Forall₂ P xs ys := by
  induction xs with
  | nil => exact ⟨[], rfl, .nil⟩
  | cons x xs ih =>
    obtain ⟨y, hy, hP⟩ := h x List.mem_cons_self
    obtain ⟨ys, hys, hPs⟩ := ih fun z hz => h z (List.mem_cons_of_mem _ hz)
    refine ⟨y :: ys, ?_, .cons hP hPs⟩
    rw [List.mapM_cons, hy, hys]
    rfl

/-- A pairing of known symbols has a draft for each of its sources. -/
theorem exists_drafts {c : Comparison} (h : c.Known) :
    ∃ added removed paired, c.pairing.added.mapM c.draftAdded = .ok added ∧
      c.pairing.removed.mapM c.draftRemoved = .ok removed ∧
      c.pairing.similar.mapM c.draftPaired = .ok paired ∧
      List.Forall₂ c.Drafted c.pairing.sources (added ++ removed ++ paired) := by
  -- The three runs of drafts are runs over parts of the sources.
  have hpart : ∀ part, part ⊆ c.pairing.sources →
      ∃ drafts, part.mapM c.draft = .ok drafts ∧ List.Forall₂ c.Drafted part drafts :=
    fun part hpart => exists_mapM fun src hsrc => exists_draft (h.source (hpart hsrc))
  obtain ⟨added, hadded, hadded'⟩ := hpart (c.pairing.added.map .added)
    (List.Subset.trans (List.subset_append_left _ _) (List.subset_append_left _ _))
  obtain ⟨removed, hremoved, hremoved'⟩ := hpart (c.pairing.removed.map .removed)
    (List.Subset.trans (List.subset_append_right _ _) (List.subset_append_left _ _))
  obtain ⟨paired, hpaired, hpaired'⟩ := hpart (c.pairing.similar.map fun q => .paired q.1 q.2)
    (List.subset_append_right _ _)
  rw [List.mapM_map] at hadded hremoved hpaired
  exact ⟨added, removed, paired, hadded, hremoved, hpaired,
    List.rel_append (List.rel_append hadded' hremoved') hpaired'⟩

/-- The symbol of a draft at a place of a table. -/
def Draft.symbolAt (d : Draft) (place : Nat) : Symbol :=
  { Symbol.ofRecord ⟨place⟩ d.record with delta := some d.delta }

/-- The symbols of drafts from a place on. -/
def symbolsFrom (place : Nat) (drafts : List Draft) : List Symbol :=
  (drafts.zipIdx place).map fun p => p.1.symbolAt p.2

/-- The symbol at a place is that of the draft at the place. -/
theorem getElem?_symbolsFrom (drafts : List Draft) (i : Nat) :
    (symbolsFrom 0 drafts)[i]? = drafts[i]?.map (Draft.symbolAt · i) := by
  rw [symbolsFrom, List.getElem?_map, List.getElem?_zipIdx]
  cases drafts[i]? with
  | none => rfl
  | some d => simp

/-- The ids of drafts from a place on. -/
def idsFrom (place : Nat) (drafts : List Draft) : List SymbolId :=
  (drafts.zipIdx place).map fun p => ⟨p.2⟩

/-- Below the capacity the drafts are appended in order, each under the next id. -/
theorem pushAll_eq {b : Builder} {drafts : List Draft}
    (h : b.size + drafts.length ≤ tableCapacity) :
    pushAll b drafts = .ok (idsFrom b.size drafts,
      { b with symbols := b.symbols ++ (symbolsFrom b.size drafts).toArray }) := by
  induction drafts generalizing b with
  | nil => simp [pushAll, idsFrom, symbolsFrom]
  | cons d drafts ih =>
    rw [List.length_cons] at h
    have hlt : b.size < tableCapacity := by omega
    -- The rest is appended to the builder with one more symbol, from the next place on.
    have hsize : ({ b with symbols := b.symbols.push (b.pushed d.record d.delta) } : Builder).size =
        b.size + 1 := Array.size_push _
    have ih := ih (b := { b with symbols := b.symbols.push (b.pushed d.record d.delta) })
      (by rw [hsize]; omega)
    rw [pushAll, Builder.push_eq, if_pos hlt]
    simp only [bind, Except.bind, ih, hsize, pure, Except.pure]
    congr 3
    rw [symbolsFrom, symbolsFrom, List.zipIdx_cons, List.map_cons, ← Array.toList_inj]
    simp [Draft.symbolAt, Builder.pushed]

/-- Beyond the capacity appending the drafts fails. -/
theorem pushAll_eq_error {b : Builder} {drafts : List Draft} (hb : b.size ≤ tableCapacity)
    (h : tableCapacity < b.size + drafts.length) :
    pushAll b drafts = .error (.tableFull tableCapacity) := by
  induction drafts generalizing b with
  | nil =>
    rw [List.length_nil] at h
    omega
  | cons d drafts ih =>
    rw [List.length_cons] at h
    rw [pushAll, Builder.push_eq]
    by_cases hlt : b.size < tableCapacity
    · have hsize : ({ b with symbols := b.symbols.push (b.pushed d.record d.delta) } :
          Builder).size = b.size + 1 := Array.size_push _
      rw [if_pos hlt]
      simp only [bind, Except.bind]
      rw [ih (by rw [hsize]; omega) (by rw [hsize]; omega)]
    · have heq : b.size = tableCapacity := by omega
      rw [if_neg hlt, heq]
      rfl

/-- A builder that a run reaches stays one when drafts are appended. -/
theorem built_of_pushAll {b b' : Builder} {drafts : List Draft} {ids : List SymbolId}
    (hb : b.Built) (h : pushAll b drafts = .ok (ids, b')) : b'.Built := by
  induction drafts generalizing b ids with
  | nil =>
    cases h
    exact hb
  | cons d drafts ih =>
    rw [pushAll] at h
    obtain ⟨p, hpush, h⟩ := exists_of_bind_eq_ok h
    obtain ⟨q, hrest, h⟩ := exists_of_bind_eq_ok h
    cases h
    exact ih (hb.push hpush) hrest

end Comparison

end Footprint
