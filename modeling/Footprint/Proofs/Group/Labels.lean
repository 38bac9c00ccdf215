import Footprint.Proofs.Group.Reachable
import Footprint.Snapshot.Basic

/-!
# Groups that are labelled `.bss`

A group that goes by the section `.bss` counts the sizes of all its symbols, and any other group
those of one symbol of each alias group. The label is that of the group that an operation was
applied to, while the members may come from elsewhere: `inverted` brings back what a filter left
out, `union` adds the members of another group, and a filter by the letter `b` takes every section
that has the letter. `Operation.Guard` and `GroupExpr.Guard` say of each operation what it must not
take in. A group in whose making all operations are guarded is labelled truly, at any depth, and
where one is not, the label of its result is wrong.
-/

namespace Footprint

/-- All symbols beneath a node are in `.bss`. -/
def Node.InBss (n : Node) : Prop :=
  ∀ s ∈ n.leaves, s.sectionName = bssSection

instance (n : Node) : Decidable n.InBss :=
  inferInstanceAs (Decidable (∀ s ∈ n.leaves, s.sectionName = bssSection))

/-- At any depth of a node, a nested group that is labelled `.bss` is in `.bss`. -/
inductive Node.TrueLabel : Node → Prop where
  /-- A single symbol. -/
  | leaf (s : Symbol) : TrueLabel (.leaf s)
  /-- A nested group. -/
  | group {h : Head} {members : List Node} (hmembers : ∀ n ∈ members, TrueLabel n)
      (hlabel : h.label.sectionName = bssSection → ∀ n ∈ members, n.InBss) :
      TrueLabel (.group h members)

/-- A node with true labels whose section is `.bss` is in `.bss`. -/
theorem Node.TrueLabel.inBss {n : Node} (h : n.TrueLabel)
    (hsection : n.facts.sectionName = bssSection) : n.InBss := by
  cases h with
  | leaf s =>
    intro s' hs'
    obtain rfl := List.mem_singleton.mp hs'
    exact hsection
  | group _ hlabel =>
    rw [facts_group] at hsection
    intro s hs
    rw [leaves_group] at hs
    obtain ⟨n, hn, hs⟩ := List.mem_flatMap.mp hs
    exact hlabel hsection n hn s hs

namespace Group

/-- All labels of a group, and of the nodes that it left out, are true. -/
structure TrueLabel (d : Group) : Prop where
  /-- When the group is labelled `.bss`, so are its symbols. -/
  label : d.label.sectionName = bssSection → ∀ n ∈ d.members, n.InBss
  /-- The labels of nested groups are true. -/
  members : ∀ n ∈ d.members, n.TrueLabel
  /-- The labels of nested groups that were left out are true. -/
  filteredOut : ∀ n ∈ d.filteredOut, n.TrueLabel

/-- A group that counts as `.bss` has symbols of `.bss` only. -/
def BssOnly (d : Group) : Prop :=
  d.facts.isBss → ∀ s ∈ d.leaves, s.sectionName = bssSection

instance (d : Group) : Decidable d.BssOnly :=
  inferInstanceAs (Decidable (_ → ∀ s ∈ d.leaves, s.sectionName = bssSection))

/-- The symbols beneath a group are those beneath its members. -/
theorem bssOnly_iff (d : Group) :
    d.BssOnly ↔ (d.label.sectionName = bssSection → ∀ n ∈ d.members, n.InBss) := by
  have hbss : d.facts.isBss ↔ d.label.sectionName = bssSection := beq_iff_eq
  rw [BssOnly, hbss, leaves_eq_flatMap, List.forall_mem_flatMap]
  rfl

namespace TrueLabel

variable {d d' e : Group}

/-- A group of symbols without a section is labelled truly. -/
theorem of_leaves {t : Table} (symbols : List Symbol) :
    TrueLabel { table := t, members := symbols.map .leaf } where
  label h := absurd h mixedSection_ne_bssSection
  members := List.forall_mem_map.mpr fun s _ => .leaf s
  filteredOut := List.forall_mem_nil _

/-- A group with the section of another and some of its members. -/
theorem of_subset (hd : d.TrueLabel) (hmembers : d'.members ⊆ d.members)
    (hfilteredOut : d'.filteredOut ⊆ d.members ++ d.filteredOut)
    (hlabel : d'.label.sectionName = d.label.sectionName) : d'.TrueLabel where
  label h n hn := hd.label (hlabel ▸ h) n (hmembers hn)
  members n hn := hd.members n (hmembers hn)
  filteredOut n hn := (List.mem_append.mp (hfilteredOut hn)).elim (hd.members n) (hd.filteredOut n)

/-- Filters keep labels true. -/
theorem filter (hd : d.TrueLabel) (keep : Node → Bool) : (d.filter keep).TrueLabel :=
  hd.of_subset (List.filter_subset_self _)
    (List.subset_append_of_subset_left _ (List.filter_subset_self _)) rfl

/-- Filters by a test that may fail keep labels true. -/
theorem tryFilter {ε : Type} {keep : Node → Except ε Bool} (hd : d.TrueLabel)
    (h : (d.tryFilter keep).value = .ok d') : d'.TrueLabel := by
  obtain ⟨kept, out, hperm, rfl⟩ := exists_of_tryFilter h
  have hsub := List.append_subset.mp hperm.subset
  exact hd.of_subset hsub.1 (List.subset_append_of_subset_left _ hsub.2) rfl

/-- The members of one section are labelled with it. -/
theorem withSection (hd : d.TrueLabel) (keep : Node → Bool) {sectionName : String}
    (h : sectionName = bssSection → ∀ n ∈ d.members, keep n → n.InBss) :
    TrueLabel { d.filter keep with label := { sectionName } } where
  label hbss n hn := h hbss n (List.mem_of_mem_filter hn) (List.of_mem_filter hn)
  members := (hd.filter keep).members
  filteredOut := (hd.filter keep).filteredOut

/-- Nested groups with the section of the group that they are made of are labelled truly. -/
theorem groupedBy (hd : d.TrueLabel) (stamp : Stamp) (token : Node → Option String)
    (minCount : Int) : (d.groupedBy stamp token minCount).TrueLabel := by
  have hnested : ∀ n ∈ (d.groupedBy stamp token minCount).members,
      n.TrueLabel ∧ (d.label.sectionName = bssSection → n.InBss) := by
    intro n hn
    rcases d.mem_nestByToken (fun place => ⟨stamp, [place]⟩) token _ _
      (fun t _ => .named t d.label.sectionName) _ hn with hn | ⟨p, hp, place, rfl⟩
    · exact ⟨hd.members n hn, fun hbss => hd.label hbss n hn⟩
    · have hsub := subset_of_mem_gather token d.members hp
      have htrue : (d.nest ⟨stamp, [place]⟩ (.named p.1 d.label.sectionName) p.2).TrueLabel :=
        .group (fun m hm => hd.members m (hsub hm)) fun hbss m hm => hd.label hbss m (hsub hm)
      exact ⟨htrue, fun hbss => htrue.inBss (by rwa [nest, Node.facts_group])⟩
  exact {
    label := fun hbss n hn => (hnested n hn).2 hbss
    members := fun n hn => (hnested n hn).1
    filteredOut := fun n hn => hd.members n (mem_of_mem_leftOver hn) }

/-- The parts of split symbols are labelled truly, with the section that they have in common. -/
theorem clustered (hd : d.TrueLabel) (stamp : Stamp) : (d.clustered stamp).value.TrueLabel where
  label h := absurd h mixedSection_ne_bssSection
  members n hn := by
    obtain ⟨⟨⟨sectionName, nodes⟩, place⟩, hplace, hn⟩ := List.mem_flatMap.mp hn
    have hgather := List.fst_mem_of_mem_zipIdx hplace
    have hsub := subset_of_mem_gather _ _ hgather
    rcases mem_nestByToken _ _ _ _ _ _ _ hn with hn | ⟨p, hp, inner, rfl⟩
    · exact hd.members n (hsub hn)
    · have hparts := subset_of_mem_gather _ _ hp
      refine .group (fun m hm => hd.members m (hsub (hparts hm))) fun hbss m hm => ?_
      have hsection : ∀ m ∈ p.2, m.facts.sectionName = sectionName := fun m hm =>
        Option.some.inj (token_of_mem_gather _ _ hgather (hparts hm))
      rw [sectionName_clusterLabel_of_forall (ne_nil_of_mem_gather _ _ hp) hsection] at hbss
      exact (hd.members m (hsub (hparts hm))).inBss ((hsection m hm).trans hbss)
  filteredOut := List.forall_mem_nil _

/-- A union with members that are in `.bss`, or with a group that is not labelled `.bss`, is labelled
truly. -/
theorem union (hd : d.TrueLabel) (he : e.TrueLabel) (h : d.union e = .ok d')
    (hguard : d.label.sectionName = bssSection →
      ∀ n ∈ e.members, d.hasNode n = false → n.InBss) : d'.TrueLabel := by
  obtain ⟨_, -, h⟩ := exists_of_bind_eq_ok h
  cases h
  have hnew : ∀ n ∈ e.members.filter (!d.hasNode ·), n ∈ e.members ∧ d.hasNode n = false :=
    fun n hn => by simpa using hn
  exact {
    label := fun hbss => List.forall_mem_append.mpr
      ⟨hd.label hbss, fun n hn => hguard hbss n (hnew n hn).1 (hnew n hn).2⟩
    members := List.forall_mem_append.mpr
      ⟨hd.members, fun n hn => he.members n (hnew n hn).1⟩
    filteredOut := List.forall_mem_nil _ }

/-- Differences keep labels true. -/
theorem difference (hd : d.TrueLabel) (h : d.difference e = .ok d') : d'.TrueLabel := by
  obtain ⟨_, -, h⟩ := exists_of_bind_eq_ok h
  cases h
  exact hd.of_subset (List.filter_subset_self _) (List.nil_subset _) rfl

end TrueLabel

end Group

/-- An operation on one group. A filter by a test that cannot fail is a `filter`, a sort by any
comparison a `sorted`, a grouping by any token a `groupedBy`. -/
inductive Operation where
  /-- A filter by any test. -/
  | filter (keep : Node → Bool)
  /-- A filter by any test that may fail. -/
  | tryFilter (keep : Node → Except Error Bool)
  /-- A filter by a search for a pattern. -/
  | wherePattern (engine : Pattern.Engine) (pattern : String)
    (look : Probe Error → Facts → Except Error Bool)
  /-- A filter by section. -/
  | whereInSection (name : String)
  /-- A filter by addresses in hexadecimal digits. -/
  | whereHexAddressInRange (start : String) (stop : Option String)
  /-- The nodes that a filter left out. -/
  | inverted
  /-- A sort. -/
  | sorted (cmp : Node → Node → Ordering) (reverse : Bool)
  /-- A grouping by a token. -/
  | groupedBy (stamp : Stamp) (token : Node → Option String) (minCount : Int)
  /-- The clustered list. -/
  | clustered (stamp : Stamp)

namespace Operation

/-- The group that an operation makes of another. -/
def apply (d : Group) : Operation → Except Error Group
  | filter keep => .ok (d.filter keep)
  | tryFilter keep => (d.tryFilter keep).value
  | wherePattern engine pattern look => (d.wherePattern engine pattern look).value
  | whereInSection name => d.whereInSection name
  | whereHexAddressInRange start stop => d.whereHexAddressInRange start stop
  | inverted => .ok d.inverted
  | sorted cmp reverse => .ok (d.sorted cmp reverse)
  | groupedBy stamp token minCount => .ok (d.groupedBy stamp token minCount)
  | clustered stamp => .ok (d.clustered stamp).value

/-- What an operation must not take in when its result is labelled `.bss`: what the group left out
and the members with the letter of `.bss` have to be in `.bss`. -/
def Guard (d : Group) : Operation → Prop
  | inverted => d.label.sectionName = bssSection → ∀ n ∈ d.filteredOut, n.InBss
  | whereInSection name =>
    name = "b" → ∀ n ∈ d.members, n.facts.sectionLetter = 'b' → n.InBss
  | _ => True

variable {d d' : Group} {op : Operation}

/-- Only one letter abbreviates `.bss`. -/
theorem eq_of_sectionNamed?_eq {letter : Char} (h : sectionNamed? letter = some bssSection) :
    letter = 'b' := by
  unfold sectionNamed? at h
  split at h
  · rfl
  all_goals exact absurd h (by decide)

/-- A guarded operation keeps labels true. -/
theorem trueLabel_of_guard (hd : d.TrueLabel) (h : op.apply d = .ok d') (hguard : op.Guard d) :
    d'.TrueLabel := by
  cases op with
  | filter keep =>
    cases h
    exact hd.filter keep
  | tryFilter keep => exact hd.tryFilter h
  | wherePattern engine pattern look =>
    change (d.wherePattern engine pattern look).value = .ok d' at h
    unfold Group.wherePattern at h
    split at h
    · cases h
    · exact hd.tryFilter h
  | whereInSection name =>
    change d.whereInSection name = .ok d' at h
    unfold Group.whereInSection at h
    split at h
    · next letter hname =>
      split at h
      · cases h
      · next sectionName hnamed =>
        cases h
        refine hd.withSection _ fun hbss n hn hletter => ?_
        obtain rfl := eq_of_sectionNamed?_eq (hbss ▸ hnamed)
        exact hguard (String.toList_injective hname) n hn (by simpa using hletter)
    · cases h
      exact hd.withSection _ fun hbss n hn hsection =>
        (hd.members n hn).inBss ((beq_iff_eq.mp hsection).trans hbss)
  | whereHexAddressInRange start stop =>
    obtain ⟨first, -, h⟩ := exists_of_bind_eq_ok h
    obtain ⟨last, -, h⟩ := exists_of_bind_eq_ok h
    cases h
    exact hd.filter _
  | inverted =>
    cases h
    exact ⟨hguard, hd.filteredOut, hd.members⟩
  | sorted cmp reverse =>
    cases h
    exact hd.of_subset (fun _ hn => List.mem_mergeSort.mp hn) (List.subset_append_right _ _) rfl
  | groupedBy stamp token minCount =>
    cases h
    exact hd.groupedBy stamp token minCount
  | clustered stamp =>
    cases h
    exact hd.clustered stamp

/-- An operation whose result has a true label is guarded. -/
theorem guard_of_bssOnly (h : op.apply d = .ok d') (hd' : d'.BssOnly) : op.Guard d := by
  rw [Group.bssOnly_iff] at hd'
  cases op with
  | whereInSection name =>
    rintro rfl n hn hletter
    have hname : "b".toList = ['b'] := rfl
    change d.whereInSection "b" = .ok d' at h
    simp only [Group.whereInSection, hname, sectionNamed?, Except.ok.injEq] at h
    subst h
    exact hd' rfl n (List.mem_filter.mpr ⟨hn, beq_iff_eq.mpr hletter⟩)
  | inverted =>
    cases h
    exact hd'
  | _ => trivial

end Operation

/-- An expression for a group: all symbols of a table, a choice of them, or operations on other
groups. -/
inductive GroupExpr where
  /-- The symbols of a table. -/
  | ofTable (t : Table)
  /-- Chosen symbols of a table. -/
  | ofIds (t : Table) (ids : List SymbolId)
  /-- An operation on a group. -/
  | operation (op : Operation) (e : GroupExpr)
  /-- The union of two groups. -/
  | union (e f : GroupExpr)
  /-- The difference of two groups. -/
  | difference (e f : GroupExpr)

namespace GroupExpr

/-- The group that an expression stands for. -/
def eval : GroupExpr → Except Error Group
  | ofTable t => .ok (.ofTable t)
  | ofIds t ids => Group.ofIds t ids
  | operation op e => do op.apply (← e.eval)
  | union e f => do (← e.eval).union (← f.eval)
  | difference e f => do (← e.eval).difference (← f.eval)

/-- The expressions that an expression is made of, itself included. -/
def parts : GroupExpr → List GroupExpr
  | ofTable t => [ofTable t]
  | ofIds t ids => [ofIds t ids]
  | operation op e => operation op e :: e.parts
  | union e f => union e f :: (e.parts ++ f.parts)
  | difference e f => difference e f :: (e.parts ++ f.parts)

/-- What the outermost operation of an expression must not take in when its result is labelled
`.bss`. -/
def Guard : GroupExpr → Prop
  | operation op e => ∀ d, e.eval = .ok d → op.Guard d
  | union e f => ∀ d g, e.eval = .ok d → f.eval = .ok g → d.label.sectionName = bssSection →
      ∀ n ∈ g.members, d.hasNode n = false → n.InBss
  | _ => True

/-- All operations of an expression are guarded. -/
def Guarded (e : GroupExpr) : Prop :=
  ∀ part ∈ e.parts, part.Guard

variable {e part : GroupExpr} {g : Group}

/-- An expression is a part of itself. -/
theorem self_mem_parts (e : GroupExpr) : e ∈ e.parts := by
  cases e <;> exact List.mem_cons_self

/-- The parts of a part are parts. -/
theorem parts_subset (h : part ∈ e.parts) : part.parts ⊆ e.parts := by
  induction e with
  | ofTable _ | ofIds _ _ =>
    obtain rfl := List.mem_singleton.mp h
    exact List.Subset.refl _
  | operation op e ih =>
    rcases List.mem_cons.mp h with rfl | h
    · exact List.Subset.refl _
    · exact List.Subset.trans (ih h) (List.subset_cons_self _ _)
  | union e f ihe ihf | difference e f ihe ihf =>
    rcases List.mem_cons.mp h with rfl | h
    · exact List.Subset.refl _
    · refine List.subset_cons_of_subset _ ?_
      rcases List.mem_append.mp h with h | h
      · exact List.Subset.trans (ihe h) (List.subset_append_left _ _)
      · exact List.Subset.trans (ihf h) (List.subset_append_right _ _)

/-- The parts of an expression that stands for a group stand for groups. -/
theorem exists_eval_of_mem_parts (h : e.eval = .ok g) (hpart : part ∈ e.parts) :
    ∃ d, part.eval = .ok d := by
  induction e generalizing g with
  | ofTable _ | ofIds _ _ =>
    obtain rfl := List.mem_singleton.mp hpart
    exact ⟨g, h⟩
  | operation op e ih =>
    rcases List.mem_cons.mp hpart with rfl | hpart
    · exact ⟨g, h⟩
    · obtain ⟨d, hd, -⟩ := exists_of_bind_eq_ok h
      exact ih hd hpart
  | union e f ihe ihf | difference e f ihe ihf =>
    rcases List.mem_cons.mp hpart with rfl | hpart
    · exact ⟨g, h⟩
    · obtain ⟨d, hd, h⟩ := exists_of_bind_eq_ok h
      obtain ⟨d', hd', -⟩ := exists_of_bind_eq_ok h
      rcases List.mem_append.mp hpart with hpart | hpart
      · exact ihe hd hpart
      · exact ihf hd' hpart

/-- Expressions whose operations are all guarded stand for groups with true labels. -/
theorem trueLabel_of_guarded (h : e.eval = .ok g) (hguard : e.Guarded) : g.TrueLabel := by
  induction e generalizing g with
  | ofTable t =>
    cases h
    exact .of_leaves _
  | ofIds t ids =>
    obtain ⟨symbols, -, h⟩ := exists_of_bind_eq_ok h
    cases h
    exact .of_leaves symbols
  | operation op e ih =>
    obtain ⟨d, hd, h⟩ := exists_of_bind_eq_ok h
    obtain ⟨hself, hrest⟩ := List.forall_mem_cons.mp hguard
    exact op.trueLabel_of_guard (ih hd hrest) h (hself d hd)
  | union e f ihe ihf =>
    obtain ⟨d, hd, h⟩ := exists_of_bind_eq_ok h
    obtain ⟨d', hd', h⟩ := exists_of_bind_eq_ok h
    obtain ⟨hself, hrest⟩ := List.forall_mem_cons.mp hguard
    obtain ⟨hrest, hrest'⟩ := List.forall_mem_append.mp hrest
    exact (ihe hd hrest).union (ihf hd' hrest') h (hself d d' hd hd')
  | difference e f ihe ihf =>
    obtain ⟨d, hd, h⟩ := exists_of_bind_eq_ok h
    obtain ⟨d', hd', h⟩ := exists_of_bind_eq_ok h
    obtain ⟨-, hrest⟩ := List.forall_mem_cons.mp hguard
    exact (ihe hd (List.forall_mem_append.mp hrest).1).difference h

/-- The outermost operation of an expression for a group with a true label is guarded. -/
theorem guard_of_bssOnly (h : e.eval = .ok g) (hg : g.BssOnly) : e.Guard := by
  cases e with
  | operation op e =>
    intro d hd
    rw [eval, hd] at h
    exact op.guard_of_bssOnly h hg
  | union e f =>
    intro d d' hd hd' hbss n hn hnew
    rw [eval, hd, hd'] at h
    change d.union d' = .ok g at h
    obtain ⟨_, -, h⟩ := exists_of_bind_eq_ok h
    cases h
    refine (Group.bssOnly_iff _).mp hg hbss n (List.mem_append_right _ ?_)
    exact List.mem_filter.mpr ⟨hn, by rw [hnew]; rfl⟩
  | _ => trivial

end GroupExpr

/-- A group that counts as `.bss` has symbols of `.bss` only, if on the way to it `inverted` and
`union` brought nothing else into a group labelled `.bss`, and a filter by the letter `b` kept nothing
else. These conditions are exact: they are the same as that every group on the way that counts as
`.bss` has symbols of `.bss` only. -/
theorem bssOnly_of_guarded {e : GroupExpr} {g : Group} (h : e.eval = .ok g) :
    (e.Guarded → g.BssOnly) ∧
      (e.Guarded ↔ ∀ part ∈ e.parts, ∀ d, part.eval = .ok d → d.BssOnly) := by
  have hparts : e.Guarded → ∀ part ∈ e.parts, ∀ d, part.eval = .ok d → d.BssOnly := by
    intro hguard part hpart d hd
    have hsub := GroupExpr.parts_subset hpart
    exact (Group.bssOnly_iff d).mpr
      (GroupExpr.trueLabel_of_guarded hd fun q hq => hguard q (hsub hq)).label
  refine ⟨fun hguard => hparts hguard e e.self_mem_parts g h, hparts, fun hall part hpart => ?_⟩
  obtain ⟨d, hd⟩ := GroupExpr.exists_eval_of_mem_parts h hpart
  exact GroupExpr.guard_of_bssOnly hd (hall part hpart d hd)

/-- Two aliases in `.text` beside two symbols in `.bss`. -/
def textBesideBss : SnapshotRecord :=
  { symbols :=
      [{ sectionName := ".text", size := 10, fullName := "foo" },
        { sectionName := ".text", size := 10, fullName := "bar" },
        { sectionName := ".bss", size := 4, fullName := "baz" },
        { sectionName := ".bss", size := 8, fullName := "qux" }]
    aliasGroups := [[0, 1]] }

/-- The small symbols of `.bss`, which a filter by size has left out, are in `.bss`. -/
theorem bssOnly_of_guarded_filter :
    ∃ s, Snapshot.ofRecord textBesideBss ⟨0⟩ = .ok s ∧
      let e : GroupExpr := .operation .inverted (.operation (.filter fun n => 5 ≤ n.facts.size)
        (.operation (.whereInSection "b") (.ofTable s.value.listing.raw.table)))
      ∃ g, e.eval = .ok g ∧ e.Guarded ∧ g.facts.isBss ∧ g.leaves.length = 1 ∧ g.BssOnly := by
  refine ⟨_, rfl, ?_⟩
  intro e
  have h : e.eval = .ok _ := rfl
  have hguarded : e.Guarded := by
    simp only [e, GroupExpr.Guarded, GroupExpr.parts, List.forall_mem_cons]
    refine ⟨?_, ?_, ?_, trivial, List.forall_mem_nil _⟩
    · rintro _ ⟨⟩
      show _ → ∀ n : Node, n ∈ _ → n.InBss
      decide +kernel
    · intro _ _
      trivial
    · rintro _ ⟨⟩
      show _ → ∀ n : Node, n ∈ _ → _ → n.InBss
      decide +kernel
  refine ⟨_, h, hguarded, ?_, ?_, (bssOnly_of_guarded h).1 hguarded⟩
  · decide +kernel
  · decide +kernel

/-- What a filter by the section `.bss` has left out is labelled `.bss` as well, so that the aliases
in it are counted twice. -/
theorem bssOnly_inverted_section :
    ∃ s, Snapshot.ofRecord textBesideBss ⟨0⟩ = .ok s ∧
      let t := s.value.listing.raw.table
      let e : GroupExpr := .operation .inverted (.operation (.whereInSection "b") (.ofTable t))
      let e' : GroupExpr := .operation (.whereInSection "t") (.ofTable t)
      ∃ g d, e.eval = .ok g ∧ e'.eval = .ok d ∧ g.leaves.map Symbol.id = d.leaves.map Symbol.id ∧
        g.facts.isBss ∧ ¬ g.BssOnly ∧ g.totalSize = 20 ∧ d.totalSize = 10 := by
  refine ⟨_, rfl, _, _, rfl, rfl, ?_⟩
  decide +kernel

end Footprint
