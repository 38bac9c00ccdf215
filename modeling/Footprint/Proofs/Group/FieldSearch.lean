import Footprint.Group.Search
import Footprint.Proofs.Group.FirstFailure

/-!
# Searches in several fields

A search in all paths and names of the members, or in their paths, agrees with the searches in the
single fields. It looks into the texts one after the other until something is found
(`foundAnywhere_eq_anyM`) and leaves out names that equal the full name, in which nothing new could
be found. The search itself is any function that may fail, and the engine for patterns any engine.
-/

namespace Footprint

/-- A text of a symbol or a group into which a search looks. -/
inductive SearchField where
  /-- The source file. -/
  | sourcePath
  /-- The object file. -/
  | objectPath
  /-- The name with templates and parameters. -/
  | fullName
  /-- The name with templates and without parameters. -/
  | templateName
  /-- The name without templates and parameters. -/
  | name

namespace SearchField

/-- The text of a field. -/
def text (k : SearchField) (f : Facts) : String :=
  match k with
  | sourcePath => f.sourcePath
  | objectPath => f.objectPath
  | fullName => f.fullName
  | templateName => f.templateName
  | name => f.name

/-- The fields with a path. -/
def paths : List SearchField := [sourcePath, objectPath]

/-- The fields with a path or a name. -/
def all : List SearchField := paths ++ [fullName, templateName, name]

end SearchField

section Any

variable {α ε : Type} {test : α → Except ε Bool} {xs : List α}

/-- A test for any of some elements asks about the first one, then about the others. -/
theorem anyM_cons_eq (x : α) (xs : List α) :
    (x :: xs).anyM test =
      (test x >>= fun pass => if pass then pure true else xs.anyM test) := by
  rw [List.anyM]
  cases test x with
  | error e => rfl
  | ok pass => cases pass <;> rfl

/-- A test for any of some elements asks about the front ones, then about the others. -/
theorem anyM_append_eq (xs ys : List α) :
    (xs ++ ys).anyM test =
      (xs.anyM test >>= fun pass => if pass then pure true else ys.anyM test) := by
  induction xs with
  | nil => rfl
  | cons x xs ih =>
    rw [List.cons_append, anyM_cons_eq, anyM_cons_eq, ih]
    cases test x with
    | error e => rfl
    | ok pass => cases pass <;> rfl

/-- A test for any of some elements that does not fail has the answer yes when one of them has. -/
theorem anyM_eq_ok (h : ∀ x ∈ xs, ∃ pass, test x = .ok pass) :
    xs.anyM test = .ok (xs.any (answer test)) := by
  induction xs with
  | nil => rfl
  | cons x xs ih =>
    obtain ⟨hx, hxs⟩ := List.forall_mem_cons.mp h
    rw [List.anyM, eq_ok_answer hx, List.any_cons]
    cases answer test x with
    | true => rfl
    | false => exact ih hxs

/-- A test for any of some elements fails only if it fails on one of them. -/
theorem failure_of_anyM {e : ε} (h : xs.anyM test = .error e) : ∃ x ∈ xs, test x = .error e := by
  induction xs with
  | nil => cases h
  | cons x xs ih =>
    rw [List.anyM] at h
    cases hx : test x with
    | error e' =>
      rw [hx] at h
      cases h
      exact ⟨x, List.mem_cons_self, hx⟩
    | ok pass =>
      rw [hx] at h
      cases pass with
      | true => cases h
      | false =>
        obtain ⟨y, hy, hfails⟩ := ih h
        exact ⟨y, List.mem_cons_of_mem x hy, hfails⟩

end Any

namespace Facts

variable {ε : Type} (found : Probe ε) (f : Facts)

/-- The texts of the paths and names, without the names that equal the full name. -/
def differingTexts : List String :=
  [f.sourcePath, f.objectPath] ++ f.fullName ::
    ((if f.templateName != f.fullName then [f.templateName] else []) ++
      if f.name != f.fullName then [f.name] else [])

/-- A search in the paths looks into one after the other. -/
theorem foundInPath_eq_anyM :
    f.foundInPath found = [f.sourcePath, f.objectPath].anyM found := by
  unfold foundInPath
  rw [anyM_cons_eq, anyM_cons_eq]
  cases found f.objectPath with
  | error e => rfl
  | ok pass => cases pass <;> rfl

/-- A search in all paths and names looks into one after the other. -/
theorem foundAnywhere_eq_anyM : f.foundAnywhere found = f.differingTexts.anyM found := by
  unfold foundAnywhere differingTexts
  rw [anyM_append_eq, anyM_cons_eq, foundInPath_eq_anyM]
  -- What is left to see is which of the last two texts are there.
  cases f.templateName != f.fullName <;> cases f.name != f.fullName <;>
    simp only [Bool.false_eq_true, if_false, if_true, List.cons_append, List.nil_append,
      anyM_cons_eq] <;> rfl

/-- The paths are looked into. -/
theorem mem_paths_iff (t : String) :
    t ∈ [f.sourcePath, f.objectPath] ↔ ∃ k ∈ SearchField.paths, k.text f = t := by
  simp [SearchField.paths, SearchField.text, eq_comm]

/-- All paths and names are looked into, names that equal the full name as the full name. -/
theorem mem_differingTexts_iff (t : String) :
    t ∈ f.differingTexts ↔ ∃ k ∈ SearchField.all, k.text f = t := by
  have hall : (∃ k ∈ SearchField.all, k.text f = t) ↔ t = f.sourcePath ∨ t = f.objectPath ∨
      t = f.fullName ∨ t = f.templateName ∨ t = f.name := by
    simp [SearchField.all, SearchField.paths, SearchField.text, eq_comm]
  rw [hall]
  unfold differingTexts
  by_cases htemplate : f.templateName = f.fullName <;> by_cases hname : f.name = f.fullName <;>
    simp [htemplate, hname]
  all_goals tauto

end Facts

namespace Group

variable {ε : Type} {g : Group} {found : Probe ε} {fields : List SearchField}

/-- A filter by a search in some fields of each member agrees with the filters by the search in one
field. -/
structure JoinsFields (g : Group) (found : Probe ε) (fields : List SearchField)
    (single : SearchField → Logged (Except ε Group)) (joint : Logged (Except ε Group)) : Prop where
  /-- When no search fails, no filter does. -/
  succeeds : (∀ n ∈ g.members, ∀ k ∈ fields, ∃ pass, found (k.text n.facts) = .ok pass) →
    ∀ k ∈ fields, ∃ kept, single k = ⟨.ok kept, []⟩
  /-- When no filter by a field fails, the members that one of them keeps are kept, in the order of
  the group, and the others are filtered out. -/
  keeps : ∀ kept : SearchField → Group, (∀ k ∈ fields, (single k).value = .ok (kept k)) →
    ∃ keep : Node → Bool, joint = ⟨.ok (g.filter keep), []⟩ ∧
      ∀ n ∈ g.members, keep n = true ↔ ∃ k ∈ fields, n ∈ (kept k).members
  /-- A failure is one of a filter by a field. -/
  fails : ∀ e, joint.value = .error e → ∃ k ∈ fields, ∃ e', (single k).value = .error e'

/-- A search that looks into the texts of some fields, one after the other, joins the searches in
the single fields. -/
theorem joinsFields_of_texts {look : Facts → Except ε Bool} {texts : Facts → List String}
    (hlook : ∀ f, look f = (texts f).anyM found)
    (htexts : ∀ f t, t ∈ texts f ↔ ∃ k ∈ fields, k.text f = t) :
    g.JoinsFields found fields (fun k => g.whereFound fun f => found (k.text f))
      (g.whereFound look) where
  succeeds h k hk := ⟨_, tryFilter_eq_filter fun n hn => eq_ok_answer (h n hn k hk)⟩
  keeps kept hkept := by
    have hanswers := fun k hk => answers_of_tryFilter (hkept k hk)
    have hjoint : ∀ n ∈ g.members, look n.facts = .ok ((texts n.facts).any (answer found)) := by
      intro n hn
      rw [hlook]
      refine anyM_eq_ok fun t ht => ?_
      obtain ⟨k, hk, rfl⟩ := (htexts n.facts t).mp ht
      exact ⟨_, (hanswers k hk).1 n hn⟩
    refine ⟨_, tryFilter_eq_filter hjoint, fun n hn => ?_⟩
    have hkeeps : ∀ k ∈ fields, (n ∈ (kept k).members ↔ answer found (k.text n.facts) = true) := by
      intro k hk
      rw [(hanswers k hk).2]
      exact (List.mem_filter).trans (and_iff_right hn)
    rw [List.any_eq_true]
    constructor
    · rintro ⟨t, ht, hpass⟩
      obtain ⟨k, hk, rfl⟩ := (htexts n.facts t).mp ht
      exact ⟨k, hk, (hkeeps k hk).mpr hpass⟩
    · rintro ⟨k, hk, hmem⟩
      exact ⟨_, (htexts n.facts _).mpr ⟨k, hk, rfl⟩, (hkeeps k hk).mp hmem⟩
  fails e he := by
    obtain ⟨n, hn, hfails⟩ := failure_of_tryFilter he
    rw [hlook] at hfails
    obtain ⟨t, ht, hfails⟩ := failure_of_anyM hfails
    obtain ⟨k, hk, rfl⟩ := (htexts n.facts t).mp ht
    exact ⟨k, hk, exists_failure_of_tryFilter hn hfails⟩

/-- The filter by a search for a pattern in one field. -/
def whereFieldMatches (g : Group) (engine : Pattern.Engine) (pattern : String) :
    SearchField → Logged (Except Error Group)
  | .sourcePath => g.whereSourcePathMatches engine pattern
  | .objectPath => g.whereObjectPathMatches engine pattern
  | .fullName => g.whereFullNameMatches engine pattern
  | .templateName => g.whereTemplateNameMatches engine pattern
  | .name => g.whereNameMatches engine pattern

section Patterns

variable {engine : Pattern.Engine} {pattern : String}

/-- The filters by a pattern in one field differ in the text of the field only. -/
theorem whereFieldMatches_eq (g : Group) (k : SearchField) :
    g.whereFieldMatches engine pattern k =
      g.wherePattern engine pattern fun found f => found (k.text f) := by
  cases k <;> rfl

/-- A filter by a pattern that compiles is the filter by the search for it. -/
theorem wherePattern_of_compile {g : Group} {p : engine.Program}
    (h : engine.compile pattern = .ok p) (look : Probe Error → Facts → Except Error Bool) :
    g.wherePattern engine pattern look = g.whereFound (look (engine.found p)) := by
  unfold wherePattern
  rw [h]

/-- A filter by a pattern that does not compile fails and reports nothing. -/
theorem wherePattern_of_not_compile {g : Group} {e : Error}
    (h : engine.compile pattern = .error e) (look : Probe Error → Facts → Except Error Bool) :
    g.wherePattern engine pattern look = ⟨.error .invalidPattern, []⟩ := by
  have he : e = .invalidPattern := by
    unfold Pattern.Engine.compile at h
    split at h
    · cases h
    · exact (Except.error.inj h).symm
  unfold wherePattern
  rw [h, he]
  rfl

end Patterns

/-- The filters by a pattern agree with each other. -/
structure PatternFilters (g : Group) (engine : Pattern.Engine) (pattern : String) : Prop where
  /-- The filter by all paths and names joins those by each of them. -/
  anywhere : ∀ p, engine.compile pattern = .ok p →
    g.JoinsFields (engine.found p) SearchField.all (g.whereFieldMatches engine pattern)
      (g.whereMatches engine pattern)
  /-- The filter by the paths joins those by each of them. -/
  inPath : ∀ p, engine.compile pattern = .ok p →
    g.JoinsFields (engine.found p) SearchField.paths (g.whereFieldMatches engine pattern)
      (g.wherePathMatches engine pattern)
  /-- A pattern that does not compile makes every filter fail. -/
  invalid : ∀ e, engine.compile pattern = .error e →
    (∀ k, g.whereFieldMatches engine pattern k = ⟨.error .invalidPattern, []⟩) ∧
      g.whereMatches engine pattern = ⟨.error .invalidPattern, []⟩ ∧
      g.wherePathMatches engine pattern = ⟨.error .invalidPattern, []⟩

end Group

/-- A search in several fields keeps what the searches in one of them keep, and fails only where one
of them does, whatever the search. So do the filters by a pattern, whatever the engine. -/
theorem searches_join_fields (g : Group) :
    (∀ {ε : Type} (found : Probe ε),
      g.JoinsFields found SearchField.all (fun k => g.whereFound fun f => found (k.text f))
        (g.whereFound (Facts.foundAnywhere found)) ∧
      g.JoinsFields found SearchField.paths (fun k => g.whereFound fun f => found (k.text f))
        (g.whereFound (Facts.foundInPath found))) ∧
      ∀ engine pattern, g.PatternFilters engine pattern := by
  have hanywhere := fun {ε} (found : Probe ε) => Group.joinsFields_of_texts (g := g)
    (Facts.foundAnywhere_eq_anyM found) Facts.mem_differingTexts_iff
  have hpath := fun {ε} (found : Probe ε) => Group.joinsFields_of_texts (g := g)
    (Facts.foundInPath_eq_anyM found) Facts.mem_paths_iff
  refine ⟨fun found => ⟨hanywhere found, hpath found⟩, fun engine pattern => ?_⟩
  have hsingle : g.whereFieldMatches engine pattern = fun k =>
      g.wherePattern engine pattern fun found f => found (k.text f) :=
    funext g.whereFieldMatches_eq
  refine { anywhere := ?anywhere, inPath := ?inPath, invalid := ?invalid }
  case anywhere =>
    intro p hp
    rw [hsingle, Group.whereMatches]
    simp only [Group.wherePattern_of_compile hp]
    exact hanywhere (engine.found p)
  case inPath =>
    intro p hp
    rw [hsingle, Group.wherePathMatches]
    simp only [Group.wherePattern_of_compile hp]
    exact hpath (engine.found p)
  case invalid =>
    intro e he
    have hfails := Group.wherePattern_of_not_compile (g := g) he
    exact ⟨fun k => (g.whereFieldMatches_eq k).trans (hfails _), hfails _, hfails _⟩

end Footprint
