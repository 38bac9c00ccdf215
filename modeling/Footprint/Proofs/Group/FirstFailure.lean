import Footprint.Proofs.Group.Complement

/-!
# Filters by tests that can fail

A filter asks a test about its members in order, and no more after the first failure. The test may
keep a state from one answer to the next: `Answered` says that it answers about all elements of a
list, and a list on which it does not has a first element on which it fails (`answered_or_failed`).
What the filter makes of either case is said by `splitM_answered` and `splitM_failed`, and the
members that it asks about by a test that writes them down (`noted`).
-/

namespace Footprint

section Run

variable {σ α ε : Type} {test : α → StateM σ (Except ε Bool)}

/-- A test with a state answers about the elements of a list, one after the other. -/
inductive Answered (test : α → StateM σ (Except ε Bool)) :
    (s : σ) → List α → (answers : List Bool) → (t : σ) → Prop where
  /-- There is nothing to ask. -/
  | nil (s : σ) : Answered test s [] [] s
  /-- The first element is answered, then the others. -/
  | cons {x : α} {xs : List α} {pass : Bool} {answers : List Bool} {s t u : σ}
      (hfirst : (test x).run s = (.ok pass, t)) (hrest : Answered test t xs answers u) :
      Answered test s (x :: xs) (pass :: answers) u

/-- A test answers about the elements before one on which it fails. -/
def Failed (test : α → StateM σ (Except ε Bool)) (s : σ) (front : List α) (x : α) (e : ε)
    (u : σ) : Prop :=
  ∃ answers t, Answered test s front answers t ∧ (test x).run t = (.error e, u)

/-- A test answers about all elements of a list, or it has a first failure. -/
theorem answered_or_failed (test : α → StateM σ (Except ε Bool)) (s : σ) (xs : List α) :
    (∃ answers t, Answered test s xs answers t) ∨
      ∃ front x rest e u, xs = front ++ x :: rest ∧ Failed test s front x e u := by
  induction xs generalizing s with
  | nil => exact .inl ⟨[], s, .nil s⟩
  | cons x xs ih =>
    cases hx : (test x).run s with
    | mk answer t =>
      cases answer with
      | error e => exact .inr ⟨[], x, xs, e, t, rfl, ⟨[], s, .nil s, hx⟩⟩
      | ok pass =>
        obtain ⟨answers, u, hrest⟩ | ⟨front, y, rest, e, u, rfl, ⟨answers, v, hfront, hy⟩⟩ := ih t
        · exact .inl ⟨pass :: answers, u, .cons hx hrest⟩
        · exact .inr ⟨x :: front, y, rest, e, u, rfl, ⟨pass :: answers, v, .cons hx hfront, hy⟩⟩

/-- The elements with an answer. -/
def answering (pass : Bool) (xs : List α) (answers : List Bool) : List α :=
  ((xs.zip answers).filter fun xa => xa.2 == pass).map Prod.fst

/-- An element belongs to those with its answer. -/
theorem answering_cons (pass b : Bool) (x : α) (xs : List α) (answers : List Bool) :
    answering pass (x :: xs) (b :: answers) =
      if b = pass then x :: answering pass xs answers else answering pass xs answers := by
  unfold answering
  rw [List.zip_cons_cons, List.filter_cons]
  cases b <;> cases pass <;> rfl

/-- The elements with the answers of a test are those that the test filters out. -/
theorem answering_map (pass : Bool) (keep : α → Bool) (xs : List α) :
    answering pass xs (xs.map keep) = xs.filter fun x => keep x == pass := by
  induction xs with
  | nil => rfl
  | cons x xs ih =>
    rw [List.map_cons, answering_cons, ih, List.filter_cons]
    simp only [beq_iff_eq]

/-- A test that answers about all elements parts them by its answers. -/
theorem splitM_answered {s t : σ} {xs : List α} {answers : List Bool}
    (h : Answered test s xs answers t) :
    (splitM test xs).run s =
      (.ok (answering true xs answers, answering false xs answers), t) := by
  induction h with
  | nil => rfl
  | @cons x xs pass answers s t u hfirst _ ih =>
    rw [splitM, StateT.run_bind, hfirst, answering_cons, answering_cons]
    show ((splitM test xs >>= _).run t) = _
    rw [StateT.run_bind, ih]
    cases pass <;> rfl

/-- A test that fails stops there. -/
theorem splitM_failed {s u : σ} {front rest : List α} {x : α} {e : ε}
    (h : Failed test s front x e u) :
    (splitM test (front ++ x :: rest)).run s = (.error (x, e), u) := by
  obtain ⟨answers, t, hfront, hx⟩ := h
  induction hfront with
  | nil s =>
    rw [List.nil_append, splitM, StateT.run_bind, hx]
    rfl
  | @cons y front pass answers s t v hfirst _ ih =>
    rw [List.cons_append, splitM, StateT.run_bind, hfirst]
    show ((splitM test (front ++ x :: rest) >>= _).run t) = _
    rw [StateT.run_bind, ih hx]
    rfl

/-- A test that also writes down what it is asked about. -/
def noted (test : α → StateM σ (Except ε Bool)) (x : α) :
    StateM (List α × σ) (Except ε Bool) := fun (asked, s) =>
  let (answer, t) := (test x).run s
  (answer, asked ++ [x], t)

/-- Writing down what a test is asked about changes no answer. -/
theorem Answered.noted {s t : σ} {xs : List α} {answers : List Bool}
    (h : Answered test s xs answers t) (asked : List α) :
    Answered (noted test) (asked, s) xs answers (asked ++ xs, t) := by
  induction h generalizing asked with
  | nil s =>
    rw [List.append_nil]
    exact .nil (asked, s)
  | @cons x xs pass answers s t u hfirst _ ih =>
    have hnoted : (Footprint.noted test x).run (asked, s) = (.ok pass, asked ++ [x], t) := by
      show ((((test x).run s).1, asked ++ [x], ((test x).run s).2) : Except ε Bool × List α × σ) = _
      rw [hfirst]
    have hrest := ih (asked ++ [x])
    rw [List.append_assoc] at hrest
    exact .cons hnoted hrest

/-- Writing down what a test is asked about changes no failure. -/
theorem Failed.noted {s u : σ} {front : List α} {x : α} {e : ε} (h : Failed test s front x e u)
    (asked : List α) : Failed (noted test) (asked, s) front x e (asked ++ front ++ [x], u) := by
  obtain ⟨answers, t, hfront, hx⟩ := h
  refine ⟨answers, _, hfront.noted asked, ?_⟩
  show ((((test x).run t).1, asked ++ front ++ [x], ((test x).run t).2) :
    Except ε Bool × List α × σ) = _
  rw [hx]

/-- A test without a state answers about all elements of a list, or it has a first failure. -/
theorem answers_or_failure (test : α → Except ε Bool) (xs : List α) :
    (∀ x ∈ xs, ∃ pass, test x = .ok pass) ∨
      ∃ front x rest e, xs = front ++ x :: rest ∧ (∀ y ∈ front, ∃ pass, test y = .ok pass) ∧
        test x = .error e := by
  induction xs with
  | nil => exact .inl (by simp)
  | cons x xs ih =>
    cases hx : test x with
    | error e => exact .inr ⟨[], x, xs, e, rfl, by simp, hx⟩
    | ok pass =>
      obtain hxs | ⟨front, y, rest, e, rfl, hfront, hy⟩ := ih
      · exact .inl (List.forall_mem_cons.mpr ⟨⟨pass, hx⟩, hxs⟩)
      · exact .inr ⟨x :: front, y, rest, e, rfl, List.forall_mem_cons.mpr ⟨⟨pass, hx⟩, hfront⟩, hy⟩

/-- The answer of a test without a state, which is no where the test fails. -/
def answer (test : α → Except ε Bool) (x : α) : Bool :=
  (test x).toOption.getD false

/-- A test that does not fail gives its answer. -/
theorem eq_ok_answer {test : α → Except ε Bool} {x : α} (h : ∃ pass, test x = .ok pass) :
    test x = .ok (answer test x) := by
  obtain ⟨pass, hx⟩ := h
  unfold answer
  rw [hx]
  rfl

/-- A test without a state that does not fail has answered. -/
theorem answered_pure {test : α → Except ε Bool} {xs : List α}
    (h : ∀ x ∈ xs, ∃ pass, test x = .ok pass) (s : σ) :
    Answered (fun x => pure (test x)) s xs (xs.map (answer test)) s := by
  induction xs with
  | nil => exact .nil s
  | cons x xs ih =>
    obtain ⟨hx, hxs⟩ := List.forall_mem_cons.mp h
    exact .cons (congrArg (·, s) (eq_ok_answer hx)) (ih hxs)

/-- A test without effects parts a list as it does without a monad. -/
theorem splitM_pure {m : Type → Type} [Monad m] [LawfulMonad m] (test : α → Except ε Bool)
    (xs : List α) : splitM (fun x => (pure (test x) : m _)) xs =
      pure (Id.run (splitM (fun x => pure (test x)) xs)) := by
  induction xs with
  | nil => rfl
  | cons x xs ih =>
    rw [splitM, splitM, pure_bind, pure_bind]
    cases test x with
    | error e => rfl
    | ok pass =>
      show (splitM _ xs >>= _) = pure (Id.run (splitM _ xs >>= _))
      rw [ih, pure_bind, Id.run_bind]
      cases Id.run (splitM (fun x => pure (test x)) xs) <;> rfl

end Run

namespace Group

variable {σ ε : Type}

/-- What a filter makes of the answers about the members of a group. -/
def parted (g : Group) (answers : List Bool) : Group :=
  g.transformed (answering true g.members answers) (answering false g.members answers)
    g.sectionLabel g.isSorted

/-- The answers of a test that cannot fail make its filter. -/
theorem parted_map (g : Group) (keep : Node → Bool) :
    g.parted (g.members.map keep) = g.filter keep := by
  unfold parted filter
  rw [answering_map, answering_map]
  simp only [beq_true, beq_false]

/-- A filter by a test that answers about all members keeps those with the answer yes. -/
theorem tryFilterM_answered {g : Group} {test : Node → StateM σ (Except ε Bool)} {s t : σ}
    {answers : List Bool} (h : Answered test s g.members answers t) :
    (g.tryFilterM test).run s = (pure (.ok (g.parted answers)), t) := by
  unfold tryFilterM
  rw [StateT.run_bind, splitM_answered h]
  rfl

/-- A filter by a test that fails reports the member on which it does. -/
theorem tryFilterM_failed {g : Group} {test : Node → StateM σ (Except ε Bool)} {s u : σ}
    {front rest : List Node} {n : Node} {e : ε} (hmembers : g.members = front ++ n :: rest)
    (h : Failed test s front n e u) :
    (g.tryFilterM test).run s = (⟨.error e, [.filterFailed n.describe]⟩, u) := by
  unfold tryFilterM
  rw [StateT.run_bind, hmembers, splitM_failed h]
  rfl

/-- A filter by a test without effects is the same in every monad. -/
theorem tryFilterM_pure {m : Type → Type} [Monad m] [LawfulMonad m] (g : Group)
    (test : Node → Except ε Bool) :
    (g.tryFilterM fun n => (pure (test n) : m _)) = pure (g.tryFilter test) := by
  unfold tryFilter tryFilterM
  rw [splitM_pure, pure_bind, Id.run_bind]
  cases Id.run (splitM (fun n => pure (test n)) g.members) <;> rfl

/-- A filter by a test without a state is the filter by its answers, when it does not fail. -/
theorem tryFilter_eq_filter {g : Group} {test : Node → Except ε Bool} {keep : Node → Bool}
    (h : ∀ n ∈ g.members, test n = .ok (keep n)) :
    g.tryFilter test = ⟨.ok (g.filter keep), []⟩ := by
  unfold tryFilter tryFilterM
  rw [Id.run_bind, splitM_eq_ok h]
  rfl

/-- A filter by a test without a state reports the first member on which it fails. -/
theorem tryFilter_eq_error {g : Group} {test : Node → Except ε Bool} {front rest : List Node}
    {n : Node} {e : ε} (hmembers : g.members = front ++ n :: rest)
    (hfront : ∀ m ∈ front, ∃ pass, test m = .ok pass) (hn : test n = .error e) :
    g.tryFilter test = ⟨.error e, [.filterFailed n.describe]⟩ := by
  have hrun : (g.tryFilterM fun n => (pure (test n) : StateM Unit _)).run () = _ :=
    tryFilterM_failed hmembers ⟨_, (), answered_pure hfront (), congrArg (·, ()) hn⟩
  rw [tryFilterM_pure] at hrun
  exact congrArg Prod.fst hrun

/-- A filter by a test without a state succeeds only if the test does not fail. -/
theorem answers_of_tryFilter {g r : Group} {test : Node → Except ε Bool}
    (h : (g.tryFilter test).value = .ok r) :
    (∀ n ∈ g.members, test n = .ok (answer test n)) ∧ r = g.filter (answer test) := by
  obtain hanswers | ⟨front, n, rest, e, hmembers, hfront, hn⟩ := answers_or_failure test g.members
  · have heq : ∀ n ∈ g.members, test n = .ok (answer test n) :=
      fun n hn => eq_ok_answer (hanswers n hn)
    rw [tryFilter_eq_filter heq] at h
    exact ⟨heq, (Except.ok.inj h).symm⟩
  · rw [tryFilter_eq_error hmembers hfront hn] at h
    cases h

/-- A filter by a test without a state fails only if the test fails on a member. -/
theorem failure_of_tryFilter {g : Group} {test : Node → Except ε Bool} {e : ε}
    (h : (g.tryFilter test).value = .error e) : ∃ n ∈ g.members, test n = .error e := by
  obtain hanswers | ⟨front, n, rest, e', hmembers, hfront, hn⟩ := answers_or_failure test g.members
  · rw [tryFilter_eq_filter fun n hn => eq_ok_answer (hanswers n hn)] at h
    cases h
  · rw [tryFilter_eq_error hmembers hfront hn] at h
    cases h
    exact ⟨n, hmembers ▸ List.mem_append_right front List.mem_cons_self, hn⟩

/-- A filter by a test without a state fails if the test fails on a member. -/
theorem exists_failure_of_tryFilter {g : Group} {test : Node → Except ε Bool} {n : Node} {e : ε}
    (hn : n ∈ g.members) (hfails : test n = .error e) :
    ∃ e', (g.tryFilter test).value = .error e' := by
  cases hvalue : (g.tryFilter test).value with
  | error e' => exact ⟨e', rfl⟩
  | ok r =>
    have hpass := (answers_of_tryFilter hvalue).1 n hn
    rw [hfails] at hpass
    cases hpass

/-- The members that a filter asks a test about, in the order in which it does. -/
def asked (g : Group) (test : Node → StateM σ (Except ε Bool)) (s : σ) : List Node :=
  ((g.tryFilterM (noted test)).run ([], s)).2.1

/-- A filter asks a test about the members in order, up to the first one on which it fails, and
reports that one. -/
structure AsksInOrder (g : Group) (test : Node → StateM σ (Except ε Bool)) (s : σ) : Prop where
  /-- Either the test answers about all members or it has a first failure. -/
  exhaustive : (∃ answers t, Answered test s g.members answers t) ∨
    ∃ front n rest e u, g.members = front ++ n :: rest ∧ Failed test s front n e u
  /-- When the test answers about all members, they are parted by the answers and nothing is
  reported. -/
  passes : ∀ {answers t}, Answered test s g.members answers t →
    (g.tryFilterM test).run s = (⟨.ok (g.parted answers), []⟩, t) ∧ g.asked test s = g.members
  /-- The same answers make the same group when they are those of a test that cannot fail. -/
  filters : ∀ keep : Node → Bool, g.parted (g.members.map keep) = g.filter keep
  /-- When the test fails, its error is the result, and the member is all that is reported. -/
  stops : ∀ {front n rest e u}, g.members = front ++ n :: rest → Failed test s front n e u →
    (g.tryFilterM test).run s = (⟨.error e, [.filterFailed n.describe]⟩, u) ∧
      g.asked test s = front ++ [n]

/-- Every filter asks its test in order. -/
theorem asksInOrder (g : Group) (test : Node → StateM σ (Except ε Bool)) (s : σ) :
    g.AsksInOrder test s where
  exhaustive := answered_or_failed test s g.members
  passes h := by
    refine ⟨tryFilterM_answered h, ?_⟩
    unfold asked
    rw [tryFilterM_answered (h.noted [])]
    rfl
  filters := g.parted_map
  stops hmembers h := by
    refine ⟨tryFilterM_failed hmembers h, ?_⟩
    unfold asked
    rw [tryFilterM_failed hmembers (h.noted [])]
    rfl

/-- A filter by a test that can fail agrees with the one by a test that cannot. -/
structure FailsFirst (g : Group) (test : Node → Except ε Bool) : Prop where
  /-- Either the test answers about all members or it has a first failure. -/
  exhaustive : (∀ n ∈ g.members, ∃ pass, test n = .ok pass) ∨
    ∃ front n rest e, g.members = front ++ n :: rest ∧ (∀ m ∈ front, ∃ pass, test m = .ok pass) ∧
      test n = .error e
  /-- When the test does not fail, the group is the one filtered by its answers, and nothing is
  reported. -/
  passes : ∀ keep : Node → Bool, (∀ n ∈ g.members, test n = .ok (keep n)) →
    g.tryFilter test = ⟨.ok (g.filter keep), []⟩ ∧
      g.asked (fun n => (pure (test n) : StateM Unit _)) () = g.members
  /-- When the test fails, the first failure is the result, and the member is all that is
  reported. -/
  stops : ∀ {front n rest e}, g.members = front ++ n :: rest →
    (∀ m ∈ front, ∃ pass, test m = .ok pass) → test n = .error e →
    g.tryFilter test = ⟨.error e, [.filterFailed n.describe]⟩ ∧
      g.asked (fun n => (pure (test n) : StateM Unit _)) () = front ++ [n]

end Group

/-- A filter by a test that can fail parts the members as one by a test that cannot, and stops at
the first failure. This holds of tests that keep a state from one answer to the next as well. -/
theorem tryFilter_stops_at_first_failure (g : Group) :
    (∀ {ε : Type} (test : Node → Except ε Bool), g.FailsFirst test) ∧
      ∀ {σ ε : Type} (test : Node → StateM σ (Except ε Bool)) (s : σ), g.AsksInOrder test s := by
  refine ⟨fun test => ?_, fun test s => g.asksInOrder test s⟩
  have hasks := g.asksInOrder (fun n => (pure (test n) : StateM Unit _)) ()
  refine { exhaustive := answers_or_failure test g.members, passes := ?passes, stops := ?stops }
  case passes =>
    intro keep hkeep
    have hanswers : ∀ n ∈ g.members, ∃ pass, test n = .ok pass := fun n hn => ⟨_, hkeep n hn⟩
    exact ⟨Group.tryFilter_eq_filter hkeep, (hasks.passes (answered_pure hanswers ())).2⟩
  case stops =>
    intro front n rest e hmembers hfront hn
    exact ⟨Group.tryFilter_eq_error hmembers hfront hn,
      (hasks.stops hmembers ⟨_, (), answered_pure hfront (), congrArg (·, ()) hn⟩).2⟩

end Footprint
