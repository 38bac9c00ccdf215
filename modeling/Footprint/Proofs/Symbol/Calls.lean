import Footprint.Proofs.Symbol.Aliases

/-!
# Runs of calls to a builder

A builder is shared by its callers, and a call writes to it in place: `Edit` keeps what was written
before a failure. Declaring an alias group first checks all members and then writes to one after the
other, so it matters that no failure can come in between. `run_push`, `run_addAliasGroup` and
`run_setGeneratedSource` say that each call writes what the operation on builders says, or nothing.
So the invariants of built tables hold after any run of calls, some of which may fail
(`calls_consistent`).
-/

namespace Footprint

/-- Steps that write to a builder in place. After a failure the builder has what was written
before. -/
abbrev Edit (α : Type) := EStateM Error Builder α

namespace Edit

/-- A check, which writes nothing. -/
def check {α : Type} : Except Error α → Edit α
  | .ok a => pure a
  | .error e => throw e

/-- Appends a symbol. -/
def push (r : SymbolRecord) (delta : Option Delta) : Edit SymbolId := do
  let b ← get
  let id ← check (SymbolId.ofIndex b.size)
  modify fun b => { b with symbols := b.symbols.push { Symbol.ofRecord id r with delta } }
  return id

/-- Changes the symbol with an id. -/
def update (id : SymbolId) (f : Symbol → Symbol) : Edit Unit :=
  modify fun b => { b with symbols := b.symbols.modify id.index f }

/-- A symbol with the alias group and the number of its members written into it. -/
def enter (g : AliasGroupId) (count : Nat) (s : Symbol) : Symbol :=
  { s with aliasGroup := some g, numAliases := count }

/-- Checks the members of a new alias group, then writes the group into each of them. -/
def addAliasGroup (members : List SymbolId) : Edit AliasGroupId := do
  if members.length < 2 then
    throw (.aliasGroup (.tooFew members.length))
  let b ← get
  check (b.checkAliases [] none members)
  if tableCapacity ≤ b.aliasGroups.size then
    throw (.tableFull b.aliasGroups.size)
  members.forM fun id => update id (enter ⟨b.aliasGroups.size⟩ members.length)
  modify fun b => { b with aliasGroups := b.aliasGroups.push members }
  return ⟨b.aliasGroups.size⟩

/-- Sets or clears the generated source flag of a symbol. -/
def setGeneratedSource (id : SymbolId) (value : Bool) : Edit Unit := do
  let b ← get
  if (b.get? id).isNone then
    throw (.unknownSymbol id.index)
  update id fun s => { s with flags := s.flags.set .generatedSource value }

/-- How an edit ends that writes all of a result or nothing. -/
def allOrNothing {α : Type} (b : Builder) :
    Except Error (α × Builder) → EStateM.Result Error Builder α
  | .ok (a, b') => .ok a b'
  | .error e => .error e b

/-- A check ends with its result and leaves the builder. -/
theorem run_check {α : Type} (x : Except Error α) (b : Builder) :
    (check x).run b =
      match x with
      | .ok a => .ok a b
      | .error e => .error e b := by
  cases x <;> rfl

/-- Appending a symbol writes it, or nothing when the builder is full. -/
theorem run_push (r : SymbolRecord) (delta : Option Delta) (b : Builder) :
    (push r delta).run b = allOrNothing b (b.push r delta) := by
  rw [Builder.push_eq]
  unfold push SymbolId.ofIndex
  simp only [EStateM.run_bind, EStateM.run_get, run_check]
  by_cases hlt : b.size < tableCapacity
  · simp only [if_pos hlt]
    rfl
  · simp only [if_neg hlt]
    rfl

/-- Changing the symbol at a place replaces it. -/
theorem modify_eq_setIfInBounds {xs : Array Symbol} {place : Nat} {s : Symbol}
    (h : xs[place]? = some s) (f : Symbol → Symbol) :
    xs.modify place f = xs.setIfInBounds place (f s) := by
  refine Array.ext_getElem? fun i => ?_
  rw [Array.getElem?_modify, Array.getElem?_setIfInBounds]
  by_cases hi : place = i
  · subst hi
    have hlt := (Array.getElem?_eq_some_iff.mp h).1
    rw [if_pos rfl, if_pos rfl, if_pos hlt, h, Option.map_some]
  · rw [if_neg hi, if_neg hi]

/-- Setting the flag of a symbol writes it, or nothing when there is no such symbol. -/
theorem run_setGeneratedSource (id : SymbolId) (value : Bool) (b : Builder) :
    (setGeneratedSource id value).run b =
      allOrNothing b ((b.setGeneratedSource id value).map fun b' => ((), b')) := by
  unfold setGeneratedSource Builder.setGeneratedSource
  simp only [EStateM.run_bind, EStateM.run_get]
  cases hs : b.get? id with
  | none => rfl
  | some s =>
    have hwrite := modify_eq_setIfInBounds hs fun s =>
      { s with flags := s.flags.set .generatedSource value }
    exact congrArg (fun xs => EStateM.Result.ok () { b with symbols := xs }) hwrite

/-- The symbols after a write to each of some places. -/
theorem run_forM_update (ids : List SymbolId) (f : Symbol → Symbol) (b : Builder) :
    (ids.forM fun id => update id f).run b =
      .ok () { b with symbols := ids.foldl (fun xs id => xs.modify id.index f) b.symbols } := by
  induction ids generalizing b with
  | nil => rfl
  | cons id ids ih =>
    rw [List.forM_eq_forM, List.forM_cons, EStateM.run_bind]
    exact ih _

/-- Writing the same thing to several places writes it once to each of them. -/
theorem getElem?_foldl_modify {f : Symbol → Symbol} (hf : ∀ s, f (f s) = f s)
    (ids : List SymbolId) (xs : Array Symbol) (i : Nat) :
    (ids.foldl (fun xs id => xs.modify id.index f) xs)[i]? =
      xs[i]?.map fun s => if ⟨i⟩ ∈ ids then f s else s := by
  induction ids generalizing xs with
  | nil => simp
  | cons id ids ih =>
    rw [List.foldl_cons, ih, Array.getElem?_modify]
    by_cases hid : id = ⟨i⟩
    · subst hid
      simp [Function.comp_def, hf]
    · have hplace : id.index ≠ i := fun h => hid (by rw [← h])
      simp [hplace, Ne.symm hid]

/-- Declaring an alias group writes it into all its members, or nothing when it is refused. -/
theorem run_addAliasGroup (members : List SymbolId) {b : Builder} (hb : b.Built) :
    (addAliasGroup members).run b = allOrNothing b (b.addAliasGroup members) := by
  unfold addAliasGroup Builder.addAliasGroup
  by_cases hlen : members.length < 2
  · simp only [if_pos hlen]
    rfl
  simp only [if_neg hlen, EStateM.run_bind, EStateM.run_get, run_check]
  cases hcheck : b.checkAliases [] none members with
  | error e => rfl
  | ok u =>
    by_cases hcap : tableCapacity ≤ b.aliasGroups.size
    · simp only [if_pos hcap]
      rfl
    -- The id of a symbol is its place, so that the written places are those of the members.
    have htwice : ∀ s, enter ⟨b.aliasGroups.size⟩ members.length
        (enter ⟨b.aliasGroups.size⟩ members.length s) =
          enter ⟨b.aliasGroups.size⟩ members.length s := fun _ => rfl
    have hsymbols : members.foldl (fun xs id => xs.modify id.index
        (enter ⟨b.aliasGroups.size⟩ members.length)) b.symbols =
          b.symbols.map (Symbol.join ⟨b.aliasGroups.size⟩ members) := by
      refine Array.ext_getElem? fun i => ?_
      rw [getElem?_foldl_modify htwice, Array.getElem?_map]
      cases hs : b.symbols[i]? with
      | none => rfl
      | some s =>
        rw [Option.map_some, Option.map_some, ← hb.arena.id_eq hs]
        rfl
    simp only [if_neg hcap, EStateM.run_bind, EStateM.run_pure, run_forM_update, hsymbols]
    rfl

end Edit

/-- A call to a builder. -/
inductive Call where
  /-- Appends a symbol. -/
  | push (r : SymbolRecord) (delta : Option Delta := none)
  /-- Declares an alias group. -/
  | addAliasGroup (members : List SymbolId)
  /-- Sets or clears the generated source flag of a symbol. -/
  | setGeneratedSource (id : SymbolId) (value : Bool)

/-- What a call writes. -/
def Call.edit : Call → Edit Unit
  | push r delta => do let _ ← Edit.push r delta
  | addAliasGroup members => do let _ ← Edit.addAliasGroup members
  | setGeneratedSource id value => Edit.setGeneratedSource id value

/-- A call either succeeds and reaches a builder that a run reaches, or fails and leaves the builder
as it was. -/
theorem Call.run_edit (c : Call) {b : Builder} (hb : b.Built) :
    (∃ b', b'.Built ∧ c.edit.run b = .ok () b') ∨ ∃ e, c.edit.run b = .error e b := by
  cases c with
  | push r delta =>
    simp only [edit, EStateM.run_bind, Edit.run_push]
    cases h : b.push r delta with
    | error e => exact .inr ⟨e, rfl⟩
    | ok p => exact .inl ⟨p.2, hb.push h, rfl⟩
  | addAliasGroup members =>
    simp only [edit, EStateM.run_bind, Edit.run_addAliasGroup members hb]
    cases h : b.addAliasGroup members with
    | error e => exact .inr ⟨e, rfl⟩
    | ok p => exact .inl ⟨p.2, hb.addAliasGroup h, rfl⟩
  | setGeneratedSource id value =>
    simp only [edit, Edit.run_setGeneratedSource]
    cases h : b.setGeneratedSource id value with
    | error e => exact .inr ⟨e, rfl⟩
    | ok b' => exact .inl ⟨b', hb.setGeneratedSource h, rfl⟩

namespace Builder

/-- The builder after a call, which may have failed. -/
def call (b : Builder) (c : Call) : Builder :=
  match c.edit.run b with
  | .ok _ b' => b'
  | .error _ b' => b'

/-- The builder after calls to an empty one. -/
def ofCalls (calls : List Call) : Builder :=
  calls.foldl call {}

/-- A call keeps a builder one that a run reaches. -/
theorem Built.call {b : Builder} (hb : b.Built) (c : Call) : (b.call c).Built := by
  unfold Builder.call
  rcases c.run_edit hb with ⟨b', hb', hrun⟩ | ⟨e, hrun⟩
  · rw [hrun]
    exact hb'
  · rw [hrun]
    exact hb

/-- Calls, of which some may fail, reach builders that runs without failures reach. -/
theorem built_ofCalls (calls : List Call) : (ofCalls calls).Built := by
  have hfold : ∀ b : Builder, b.Built → (calls.foldl Builder.call b).Built := by
    induction calls with
    | nil => exact fun b hb => hb
    | cons c calls ih => exact fun b hb => ih _ (hb.call c)
  exact hfold {} .empty

/-- The three places where a builder says which symbols are aliases agree, and the alias groups are
well formed. -/
structure Consistent (b : Builder) : Prop where
  /-- The id of a symbol is its place. -/
  id_eq : ∀ {i : Nat} {s : Symbol}, b.symbols[i]? = some s → s.id = ⟨i⟩
  /-- An alias group lists two or more symbols. -/
  two_le : ∀ ms ∈ b.aliasGroups.toList, 2 ≤ ms.length
  /-- No alias group lists a symbol twice. -/
  nodup : ∀ ms ∈ b.aliasGroups.toList, ms.Nodup
  /-- The members of an alias group are symbols of the builder with one address. -/
  known : ∀ ms ∈ b.aliasGroups.toList, ∃ a, ∀ id ∈ ms, ∃ s, b.get? id = some s ∧ s.address = a
  /-- No two alias groups have a common member. -/
  disjoint : b.aliasGroups.toList.Pairwise List.Disjoint
  /-- A symbol has the alias group that lists it. -/
  aliasGroup_iff : ∀ {id : SymbolId} {s : Symbol} (g : AliasGroupId), b.get? id = some s →
    (s.aliasGroup = some g ↔ ∃ ms, b.aliasGroups[g.index]? = some ms ∧ id ∈ ms)
  /-- A symbol has as many aliases as its alias group has members, and only itself without one. -/
  numAliases_eq : ∀ {id : SymbolId} {s : Symbol}, b.get? id = some s →
    s.numAliases = s.aliasGroup.elim 1 fun g => (b.aliasGroups.getD g.index []).length

/-- A builder that a run reaches is consistent. -/
theorem Built.consistent {b : Builder} (hb : b.Built) : b.Consistent := by
  have h := hb.arena
  have hlists : ∀ (g : Nat) (id : SymbolId), id ∈ b.aliasGroups.getD g [] ↔
      ∃ ms, b.aliasGroups[g]? = some ms ∧ id ∈ ms := by
    intro g id
    rw [Array.getD_eq_getD_getElem?]
    cases b.aliasGroups[g]? <;> simp
  obtain ⟨hnodup, hdisjoint⟩ := List.nodup_flatten.mp h.nodup
  refine { id_eq := h.id_eq, two_le := h.two_le, nodup := hnodup, known := ?known,
           disjoint := hdisjoint, aliasGroup_iff := ?aliasGroup_iff,
           numAliases_eq := h.numAliases_eq }
  case aliasGroup_iff =>
    intro id s g hs
    rw [h.aliasGroup_iff g hs, hlists]
  case known =>
    intro ms hms
    obtain ⟨g, hg, rfl⟩ := Array.getElem_of_mem (Array.mem_toList_iff.mp hms)
    -- All members have the alias group at the place of the list, which fixes the address.
    have hmember : ∀ id ∈ b.aliasGroups[g], ∃ s, b.get? id = some s ∧ s.aliasGroup = some ⟨g⟩ := by
      intro id hid
      have hlt := h.known _ hms id hid
      have hs : b.get? id = some b.symbols[id.index] := Array.getElem?_eq_getElem hlt
      exact ⟨_, hs, (h.aliasGroup_iff ⟨g⟩ hs).mpr
        ((hlists g id).mpr ⟨_, Array.getElem?_eq_getElem hg, hid⟩)⟩
    have htwo := h.two_le _ hms
    obtain ⟨first, hfirst⟩ := List.exists_mem_of_length_pos (by omega : 0 < b.aliasGroups[g].length)
    obtain ⟨s, hs, hsg⟩ := hmember first hfirst
    refine ⟨s.address, fun id hid => ?_⟩
    obtain ⟨s', hs', hsg'⟩ := hmember id hid
    exact ⟨s', hs', h.address_eq hs' hs hsg' hsg⟩

end Builder

/-- After any run of calls, of which some may fail, the builder is consistent, the next call leaves
it as it is when it fails, and the alias relation of the frozen table is an equivalence relation
with the alias groups and the other symbols as classes. No bound on the run is needed, since a full
builder refuses more symbols. -/
theorem calls_consistent (calls : List Call) :
    (Builder.ofCalls calls).Consistent ∧
      (∀ (c : Call) (e : Error) (b' : Builder),
        c.edit.run (Builder.ofCalls calls) = .error e b' → b' = Builder.ofCalls calls) ∧
      ∀ stamp, ((Builder.ofCalls calls).freeze stamp).value.AliasClasses := by
  have hb := Builder.built_ofCalls calls
  refine ⟨hb.consistent, fun c e b' hrun => ?_, fun stamp => ?_⟩
  · rcases c.run_edit hb with ⟨b'', -, hok⟩ | ⟨e', herror⟩
    · rw [hok] at hrun
      cases hrun
    · rw [herror] at hrun
      cases hrun
      rfl
  · exact Table.Built.aliasClasses ⟨_, hb, stamp, rfl⟩

end Footprint
