import Footprint.Proofs.Pattern.Meaning

/-!
# An engine that keeps to the meaning

`reference` is the plainest engine that keeps to the meaning of regular expressions
(`reference_documented`). It reads an expression as a list of atoms, for which the parentheses of
groups count nothing, and tries from each place of a text whether the atoms follow one after the
other. Since no atom leaves a choice, nothing is ever tried again.
-/

namespace Footprint.Pattern

/-- What a regular expression consists of when its groups are opened. -/
inductive Atom where
  /-- A character that stands for itself. -/
  | literal (c : Char)
  /-- No character of some ranges before the place. -/
  | notBehind (ranges : List (Char × Char))
  /-- No character of some ranges behind the place. -/
  | notAhead (ranges : List (Char × Char))

/-- The atoms of a regular expression in order. -/
def Regex.atoms : Regex → List Atom
  | empty => []
  | literal c _ => [.literal c]
  | seq a b => a.atoms ++ b.atoms
  | group body => body.atoms
  | notBehind k => [.notBehind k.ranges]
  | notAhead k => [.notAhead k.ranges]

namespace Atom

/-! ### Reading -/

/-- Where a reading is: between atoms, or in the brackets of the atom that `make` makes of the
ranges read there, of which the last one stands first. -/
inductive Spot where
  /-- Between atoms. -/
  | outside
  /-- In brackets. -/
  | brackets (make : List (Char × Char) → Atom) (ranges : List (Char × Char))

/-- The atoms of a text, from a spot on. -/
def read? : Spot → List Char → Option (List Atom)
  | .outside, [] => some []
  | .outside, '(' :: '?' :: ':' :: cs => read? .outside cs
  | .outside, '(' :: '?' :: '<' :: '!' :: '[' :: cs => read? (.brackets notBehind []) cs
  | .outside, '(' :: '?' :: '!' :: '[' :: cs => read? (.brackets notAhead []) cs
  | .outside, ')' :: cs => read? .outside cs
  | .outside, c :: cs => if isPlain c then (read? .outside cs).map (literal c :: ·) else none
  | .brackets make ranges, ']' :: ')' :: cs => (read? .outside cs).map (make ranges.reverse :: ·)
  | .brackets make (r :: ranges), '-' :: c :: cs => read? (.brackets make ((r.1, c) :: ranges)) cs
  | .brackets make ranges, c :: cs => read? (.brackets make ((c, c) :: ranges)) cs
  | .brackets _ _, [] => none

/-- A plain character is read as itself. -/
theorem read?_literal {c : Char} (hc : isPlain c = true) (cs : List Char) :
    read? .outside (c :: cs) = (read? .outside cs).map (literal c :: ·) := by
  have hopen : c ≠ '(' := by rintro rfl; exact absurd hc (by decide)
  have hclose : c ≠ ')' := by rintro rfl; exact absurd hc (by decide)
  rw [read?, if_pos hc] <;> simp [hopen, hclose]

/-- A character in brackets is read as a range. -/
theorem read?_single {c : Char} (hc : isIdentifierChar c = true) (make : List (Char × Char) → Atom)
    (ranges : List (Char × Char)) (cs : List Char) :
    read? (.brackets make ranges) (c :: cs) = read? (.brackets make ((c, c) :: ranges)) cs := by
  have hclose : c ≠ ']' := by rintro rfl; exact absurd hc (by decide)
  have hdash : c ≠ '-' := by rintro rfl; exact absurd hc (by decide)
  rw [read?] <;> simp [hclose, hdash]

/-- A range is read as it is written. -/
theorem read?_range {r : Char × Char} (hfirst : isIdentifierChar r.1 = true)
    (make : List (Char × Char) → Atom) (ranges : List (Char × Char)) (cs : List Char) :
    read? (.brackets make ranges) (rangeText r ++ cs) =
      read? (.brackets make (r :: ranges)) cs := by
  obtain ⟨first, last⟩ := r
  unfold rangeText
  split
  · next heq =>
    cases heq
    exact read?_single hfirst make ranges cs
  · rw [List.cons_append, read?_single hfirst]
    rfl

/-- Brackets are read as their ranges. -/
theorem read?_ranges {ranges : List (Char × Char)}
    (hranges : ∀ r ∈ ranges, isIdentifierChar r.1 = true) (make : List (Char × Char) → Atom)
    (front : List (Char × Char)) (cs : List Char) :
    read? (.brackets make front) (ranges.flatMap rangeText ++ ']' :: ')' :: cs) =
      (read? .outside cs).map (make (front.reverse ++ ranges) :: ·) := by
  induction ranges generalizing front with
  | nil => rw [List.flatMap_nil, List.nil_append, List.append_nil, read?]
  | cons r ranges ih =>
    obtain ⟨hr, hranges⟩ := List.forall_mem_cons.mp hranges
    rw [List.flatMap_cons, List.append_assoc, read?_range hr, ih hranges, List.reverse_cons,
      List.append_assoc, List.singleton_append]

/-- A set of characters is read as its ranges. -/
theorem read?_class (k : CharClass) (make : List (Char × Char) → Atom) (cs : List Char) :
    read? (.brackets make []) (k.ranges.flatMap rangeText ++ [']'] ++ ")".toList ++ cs) =
      (read? .outside cs).map ([make k.ranges] ++ ·) := by
  have h := read?_ranges (fun r hr => (k.isIdentifierChar_of_mem r hr).1) make [] cs
  rw [List.append_assoc, List.append_assoc]
  exact h

/-- A regular expression is read as its atoms. -/
theorem read?_text (r : Regex) (cs : List Char) :
    read? .outside (r.text ++ cs) = (read? .outside cs).map (r.atoms ++ ·) := by
  induction r generalizing cs with
  | empty => simp [Regex.text, Regex.atoms]
  | literal c h => exact read?_literal h cs
  | seq a b iha ihb =>
    rw [Regex.text, List.append_assoc, iha, ihb, Option.map_map]
    simp only [Regex.atoms, Function.comp_def, List.append_assoc]
  | group body ih =>
    rw [Regex.text, List.append_assoc, List.append_assoc]
    exact ih (')' :: cs)
  | notBehind k => exact read?_class k notBehind cs
  | notAhead k => exact read?_class k notAhead cs

/-! ### Matching -/

/-- Whether atoms match one after the other from a place of a text. -/
def follow : List Atom → (before behind : List Char) → Bool
  | [], _, _ => true
  | literal _ :: _, _, [] => false
  | literal c :: atoms, before, d :: behind => c == d && follow atoms (before ++ [d]) behind
  | notBehind ranges :: atoms, before, behind =>
    !before.getLast?.any (inRanges ranges) && follow atoms before behind
  | notAhead ranges :: atoms, before, behind =>
    !behind.head?.any (inRanges ranges) && follow atoms before behind

/-- The atoms of a regular expression follow one after the other along its matches. -/
theorem follow_atoms_append_iff (r : Regex) (atoms : List Atom) (before behind : List Char) :
    follow (r.atoms ++ atoms) before behind = true ↔
      ∃ m rest, behind = m ++ rest ∧ r.Matches before m rest ∧
        follow atoms (before ++ m) rest = true := by
  induction r generalizing atoms before behind with
  | empty =>
    simp only [Regex.matches_empty_iff]
    constructor
    · intro h
      exact ⟨[], behind, rfl, rfl, by rwa [List.append_nil]⟩
    · rintro ⟨_, rest, rfl, rfl, h⟩
      rwa [List.append_nil] at h
  | literal c h =>
    simp only [Regex.matches_literal_iff]
    constructor
    · intro hfollow
      cases behind with
      | nil => cases hfollow
      | cons d behind =>
        obtain ⟨hcd, hrest⟩ := Bool.and_eq_true_iff.mp hfollow
        obtain rfl := beq_iff_eq.mp hcd
        exact ⟨[c], behind, rfl, rfl, hrest⟩
    · rintro ⟨_, rest, rfl, rfl, hrest⟩
      exact Bool.and_eq_true_iff.mpr ⟨beq_self_eq_true c, hrest⟩
  | seq a b iha ihb =>
    simp only [Regex.atoms, List.append_assoc, iha, ihb, Regex.matches_seq_iff]
    constructor
    · rintro ⟨m, _, rfl, ha, n, rest, rfl, hb, hrest⟩
      exact ⟨m ++ n, rest, (List.append_assoc m n rest).symm, ⟨m, n, rfl, ha, hb⟩, hrest⟩
    · rintro ⟨_, rest, rfl, ⟨m, n, rfl, ha, hb⟩, hrest⟩
      exact ⟨m, n ++ rest, List.append_assoc m n rest, ha, n, rest, rfl, hb, hrest⟩
  | group body ih => simp only [Regex.atoms, ih, Regex.matches_group_iff]
  | notBehind k =>
    rw [Regex.atoms, List.singleton_append, follow, Bool.and_eq_true, Bool.not_eq_true']
    simp only [Regex.matches_notBehind_iff]
    constructor
    · rintro ⟨hk, hrest⟩
      exact ⟨[], behind, rfl, ⟨rfl, hk⟩, by rwa [List.append_nil]⟩
    · rintro ⟨_, rest, rfl, ⟨rfl, hk⟩, hrest⟩
      rw [List.append_nil] at hrest
      exact ⟨hk, hrest⟩
  | notAhead k =>
    rw [Regex.atoms, List.singleton_append, follow, Bool.and_eq_true, Bool.not_eq_true']
    simp only [Regex.matches_notAhead_iff]
    constructor
    · rintro ⟨hk, hrest⟩
      exact ⟨[], behind, rfl, ⟨rfl, hk⟩, by rwa [List.append_nil]⟩
    · rintro ⟨_, rest, rfl, ⟨rfl, hk⟩, hrest⟩
      rw [List.append_nil] at hrest
      exact ⟨hk, hrest⟩

end Atom

/-- An engine that tries the atoms of a regular expression from each place of a text. -/
def reference : Engine where
  Program := List Atom
  compile? text := Atom.read? .outside text.toList
  isMatch? atoms text :=
    let cs := text.toList
    some ((List.range (cs.length + 1)).any fun n => Atom.follow atoms (cs.take n) (cs.drop n))

/-- The atoms of a regular expression follow from some place of a text when a match is there. -/
theorem any_follow_iff (r : Regex) (cs : List Char) :
    ((List.range (cs.length + 1)).any fun n => Atom.follow r.atoms (cs.take n) (cs.drop n)) = true ↔
      r.Finds cs := by
  have hfollow (before behind : List Char) := Atom.follow_atoms_append_iff r [] before behind
  simp only [List.append_nil] at hfollow
  simp only [List.any_eq_true, List.mem_range, Nat.lt_succ_iff, hfollow]
  constructor
  · rintro ⟨n, -, m, rest, hcut, hm, -⟩
    exact ⟨cs.take n, m, rest, by rw [List.append_assoc, ← hcut, List.take_append_drop], hm⟩
  · rintro ⟨before, m, behind, rfl, hm⟩
    refine ⟨before.length, by simp, m, behind, by simp, ?_, rfl⟩
    simpa using hm

/-- The engine keeps to the meaning of regular expressions. -/
theorem reference_documented : reference.Documented := by
  have hcompile (r : Regex) : reference.compile? (String.ofList r.text) = some r.atoms := by
    have hread := Atom.read?_text r []
    rw [List.append_nil, Atom.read?, Option.map_some, List.append_nil] at hread
    rw [← hread]
    exact congrArg (Atom.read? .outside) String.toList_ofList
  refine { compiles := fun r _ => ⟨_, hcompile r⟩, answers := ?answers, finds := ?finds }
  case answers =>
    intro r p hp s hnone
    cases hnone
  case finds =>
    intro r p hp s
    obtain rfl := Option.some.inj ((hcompile r).symm.trans hp)
    rw [← any_follow_iff]
    exact Option.some_inj

end Footprint.Pattern
