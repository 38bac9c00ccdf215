import Footprint.Proofs.Diff.Survival

/-!
# When a diff fails

A diff looks up the symbols that the pairing lists, and whatever else the pairing is, nothing but
such a lookup can fail. Each step before the leaves are appended names an unknown symbol when it
fails (`OnlyUnknown`), and when they all come about every symbol is known (`known_of_lookups`). Then
the leaves can be appended and joined to alias groups (`exists_diff`).
-/

namespace Footprint

/-- A symbol is looked up without error exactly when the table has it. -/
theorem Table.get_eq_ok_iff {t : Table} {id : SymbolId} {s : Symbol} :
    t.get id = .ok s ↔ t.get? id = some s := by
  unfold Table.get
  cases t.get? id <;> simp

/-- A failed lookup names the symbol that the table does not have. -/
theorem Table.get_eq_error_iff {t : Table} {id : SymbolId} {e : Error} :
    t.get id = .error e ↔ t.get? id = none ∧ e = .unknownSymbol id.index := by
  unfold Table.get
  cases t.get? id <;> simp [eq_comm]

/-- When a list is processed without error, so is each of its elements. -/
theorem forall_of_mapM_eq_ok {α β : Type} {f : α → Except Error β} {xs : List α} {ys : List β}
    (h : xs.mapM f = .ok ys) : ∀ x ∈ xs, ∃ y, f x = .ok y := by
  induction xs generalizing ys with
  | nil => exact fun _ hx => absurd hx List.not_mem_nil
  | cons x xs ih =>
    rw [List.mapM_cons] at h
    obtain ⟨y, hy, h⟩ := exists_of_bind_eq_ok h
    obtain ⟨ys', hys', -⟩ := exists_of_bind_eq_ok h
    exact List.forall_mem_cons.mpr ⟨⟨y, hy⟩, ih hys'⟩

namespace Comparison

variable {c : Comparison} {α β : Type}

/-- The pairing lists a symbol that is not in the table it is listed for. -/
def Unknown (c : Comparison) (id : SymbolId) : Prop :=
  (id ∈ c.pairing.afterIds ∧ c.after.get? id = none) ∨
    (id ∈ c.pairing.beforeIds ∧ c.before.get? id = none)

/-- A computation can only fail by naming an unknown symbol of the pairing. -/
def OnlyUnknown (c : Comparison) (x : Except Error α) : Prop :=
  ∀ e, x = .error e → ∃ id, c.Unknown id ∧ e = .unknownSymbol id.index

namespace OnlyUnknown

/-- A result is no failure. -/
theorem pure (a : α) : c.OnlyUnknown (.ok a) :=
  fun _ h => nomatch h

/-- Two steps in a row fail as one of them does. -/
theorem bind {x : Except Error α} {f : α → Except Error β} (hx : c.OnlyUnknown x)
    (hf : ∀ a, x = .ok a → c.OnlyUnknown (f a)) : c.OnlyUnknown (x >>= f) := by
  cases x with
  | error e => exact fun e' h => hx e' (by cases h; rfl)
  | ok a => exact hf a rfl

/-- A list is processed with the failures of its elements. -/
theorem mapM {f : α → Except Error β} {xs : List α} (h : ∀ x ∈ xs, c.OnlyUnknown (f x)) :
    c.OnlyUnknown (xs.mapM f) := by
  induction xs with
  | nil => exact .pure []
  | cons x xs ih =>
    obtain ⟨hx, hxs⟩ := List.forall_mem_cons.mp h
    rw [List.mapM_cons]
    exact hx.bind fun y _ => (ih hxs).bind fun ys _ => .pure (y :: ys)

end OnlyUnknown

/-- The lookup of a symbol of the second tree fails only when it is unknown. -/
theorem onlyUnknown_get_after {id : SymbolId} (hid : id ∈ c.pairing.afterIds) :
    c.OnlyUnknown (c.after.get id) := by
  intro e h
  obtain ⟨hnone, he⟩ := Table.get_eq_error_iff.mp h
  exact ⟨id, .inl ⟨hid, hnone⟩, he⟩

/-- The lookup of a symbol of the first tree fails only when it is unknown. -/
theorem onlyUnknown_get_before {id : SymbolId} (hid : id ∈ c.pairing.beforeIds) :
    c.OnlyUnknown (c.before.get id) := by
  intro e h
  obtain ⟨hnone, he⟩ := Table.get_eq_error_iff.mp h
  exact ⟨id, .inr ⟨hid, hnone⟩, he⟩

/-- The search for alias groups that live on fails as the lookups of its symbols do. -/
theorem OnlyUnknown.keptGroups {t : Table} {ids : List SymbolId} (keeps : AliasGroupId → Bool)
    (h : ∀ id ∈ ids, c.OnlyUnknown (t.get id)) : c.OnlyUnknown (keptGroups t keeps ids) :=
  (OnlyUnknown.mapM h).bind fun _ _ => .pure _

/-- The draft of a source of the pairing fails only on an unknown symbol. -/
theorem onlyUnknown_draft {src : Source} (hsrc : src ∈ c.pairing.sources) :
    c.OnlyUnknown (c.draft src) := by
  have hnew : ∀ id ∈ src.new?, c.OnlyUnknown (c.after.get id) := by
    intro id hid
    refine onlyUnknown_get_after ?_
    rw [← Pairing.filterMap_new_sources]
    exact List.mem_filterMap.mpr ⟨src, hsrc, hid⟩
  have hold : ∀ id ∈ src.old?, c.OnlyUnknown (c.before.get id) := by
    intro id hid
    refine onlyUnknown_get_before ?_
    rw [← Pairing.filterMap_old_sources]
    exact List.mem_filterMap.mpr ⟨src, hsrc, hid⟩
  cases src with
  | added new => exact (hnew new rfl).bind fun _ _ => .pure _
  | removed old => exact (hold old rfl).bind fun _ _ => .pure _
  | paired old new =>
    exact (hold old rfl).bind fun _ _ => (hnew new rfl).bind fun _ _ => .pure _

/-- A pairing is known when its new symbols, its removed symbols and its pairs are looked up without
error. -/
theorem known_of_lookups {keptAfter keptBefore : List AliasGroupId} {paired : List Draft}
    (hafter : keptGroups c.after c.keepsAfter c.pairing.afterIds = .ok keptAfter)
    (hbefore : keptGroups c.before c.keepsBefore c.pairing.removed = .ok keptBefore)
    (hpaired : c.pairing.similar.mapM c.draftPaired = .ok paired) : c.Known := by
  obtain ⟨_, hafter, -⟩ := exists_of_bind_eq_ok hafter
  obtain ⟨_, hbefore, -⟩ := exists_of_bind_eq_ok hbefore
  refine ⟨fun id hid => ?_, fun id hid => ?_⟩
  · obtain ⟨s, hs⟩ := forall_of_mapM_eq_ok hafter id hid
    exact ⟨s, Table.get_eq_ok_iff.mp hs⟩
  · rcases List.mem_append.mp hid with hremoved | hsimilar
    · obtain ⟨s, hs⟩ := forall_of_mapM_eq_ok hbefore id hremoved
      exact ⟨s, Table.get_eq_ok_iff.mp hs⟩
    · -- The draft of a pair looks up the old symbol first.
      obtain ⟨pair, hpair, rfl⟩ := List.mem_map.mp hsimilar
      obtain ⟨_, hdraft⟩ := forall_of_mapM_eq_ok hpaired pair hpair
      obtain ⟨s, hs, -⟩ := exists_of_bind_eq_ok hdraft
      exact ⟨s, Table.get_eq_ok_iff.mp hs⟩

/-- The symbols of a pairing are known when its diff comes about. -/
theorem known_of_diff_eq_ok {name : String} {stamp : Stamp} {root : Logged Group}
    (h : c.diff name stamp = .ok root) : c.Known := by
  obtain ⟨_, hafter, h⟩ := exists_of_bind_eq_ok h
  obtain ⟨_, hbefore, h⟩ := exists_of_bind_eq_ok h
  obtain ⟨_, -, h⟩ := exists_of_bind_eq_ok h
  obtain ⟨_, -, h⟩ := exists_of_bind_eq_ok h
  obtain ⟨_, hpaired, -⟩ := exists_of_bind_eq_ok h
  exact known_of_lookups hafter hbefore hpaired

/-- The diff of a pairing with unknown symbols fails by naming one of them. -/
theorem exists_diff_eq_error (hunknown : ¬ c.Known) (name : String) (stamp : Stamp) :
    ∃ id, c.Unknown id ∧ c.diff name stamp = .error (.unknownSymbol id.index) := by
  have hadded : c.OnlyUnknown (c.pairing.added.mapM c.draftAdded) :=
    .mapM fun id hid => onlyUnknown_draft (Pairing.added_mem_sources.mpr hid)
  have hremoved : c.OnlyUnknown (c.pairing.removed.mapM c.draftRemoved) :=
    .mapM fun id hid => onlyUnknown_draft (Pairing.removed_mem_sources.mpr hid)
  have hpaired : c.OnlyUnknown (c.pairing.similar.mapM c.draftPaired) :=
    .mapM fun _ hpair => onlyUnknown_draft (Pairing.paired_mem_sources.mpr hpair)
  have hall : c.OnlyUnknown (c.diff name stamp) := by
    refine OnlyUnknown.bind (.keptGroups _ fun id hid => onlyUnknown_get_after hid)
      fun _ hafter => ?_
    refine OnlyUnknown.bind (.keptGroups _ fun id hid =>
      onlyUnknown_get_before (List.mem_append_left _ hid)) fun _ hbefore => ?_
    refine hadded.bind fun _ _ => hremoved.bind fun _ _ => hpaired.bind fun _ hpairs => ?_
    -- The leaves are appended only after all lookups, which an unknown symbol rules out.
    exact absurd (known_of_lookups hafter hbefore hpairs) hunknown
  cases hdiff : c.diff name stamp with
  | ok root => exact absurd (known_of_diff_eq_ok hdiff) hunknown
  | error e =>
    obtain ⟨id, hid, rfl⟩ := hall e hdiff
    exact ⟨id, hid, rfl⟩

end Comparison

/-- A diff fails only on unknown symbols. As long as there are not more leaves than a table can
hold, the diff of two groups comes about for a pairing of any form exactly when the tables have all
symbols that it lists, and otherwise it fails by naming one that they do not have. No pairing at all
makes the alias groups of the leaves ill-formed. -/
theorem diffWith_fails_only_on_unknown (m : Matcher) {before after : Group}
    (hb : before.table.Built) (ha : after.table.Built) (stamp : Stamp) :
    ((m.pair before after).sources.length ≤ tableCapacity →
      ((∃ root, diffWith m before after stamp = .ok root) ↔ (m.compare before after).Known) ∧
      (¬ (m.compare before after).Known → ∃ id, (m.compare before after).Unknown id ∧
        diffWith m before after stamp = .error (.unknownSymbol id.index))) ∧
    ∀ fault, diffWith m before after stamp ≠ .error (.aliasGroup fault) := by
  have hdiff : diffWith m before after stamp = (m.compare before after).diff m.name stamp := rfl
  rw [hdiff]
  refine ⟨fun hcap => ⟨⟨?_, fun hk => ?_⟩, fun hunknown => ?_⟩, fun fault hfault => ?_⟩
  · rintro ⟨root, hroot⟩
    exact Comparison.known_of_diff_eq_ok hroot
  · obtain ⟨root, hroot, -⟩ := (Comparison.exists_diff hk ha hb m.name stamp).1 hcap
    exact ⟨root, hroot⟩
  · exact Comparison.exists_diff_eq_error hunknown m.name stamp
  · by_cases hk : (m.compare before after).Known
    · -- Known symbols are too many for a table, or else their alias groups are well-formed.
      obtain ⟨hok, hfull⟩ := Comparison.exists_diff hk ha hb m.name stamp
      rcases Nat.lt_or_ge tableCapacity (m.pair before after).sources.length with hcap | hcap
      · exact absurd ((hfull hcap).symm.trans hfault) nofun
      · obtain ⟨root, hroot, -⟩ := hok hcap
        exact absurd (hroot.symm.trans hfault) nofun
    · obtain ⟨id, -, herror⟩ := Comparison.exists_diff_eq_error hk m.name stamp
      exact absurd (herror.symm.trans hfault) nofun

/-- A pairing of aliases that lists symbols twice and on several sides has a diff, and one that
lists the symbol at place 9 has none. -/
theorem diffWith_fails_only_on_unknown_clones :
    let before : Group := .ofTable (.clones { sectionName := ".text", size := 41 } 2)
    let after : Group := .ofTable (.clones { sectionName := ".text", size := 50 } 3)
    let overlapping : Matcher := .always
      { similar := [(⟨0⟩, ⟨1⟩), (⟨0⟩, ⟨2⟩), (⟨1⟩, ⟨2⟩)], added := [⟨0⟩, ⟨0⟩, ⟨1⟩]
        removed := [⟨0⟩] }
    let unknown : Matcher := .always { similar := [(⟨0⟩, ⟨9⟩)], added := [⟨0⟩] }
    (∃ root, diffWith overlapping before after ⟨1⟩ = .ok root) ∧
      ¬ (∃ root, diffWith unknown before after ⟨1⟩ = .ok root) := by
  intro before after overlapping unknown
  have hb : before.table.Built := Table.built_clones _ (by decide) (by decide)
  have ha : after.table.Built := Table.built_clones _ (by decide) (by decide)
  constructor
  · exact ((diffWith_fails_only_on_unknown overlapping hb ha ⟨1⟩).1 (by decide)).1.mpr (by decide)
  · rw [((diffWith_fails_only_on_unknown unknown hb ha ⟨1⟩).1 (by decide)).1]
    decide

end Footprint
