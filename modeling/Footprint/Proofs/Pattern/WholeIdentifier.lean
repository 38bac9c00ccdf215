import Footprint.Proofs.Pattern.Reference
import Footprint.Proofs.Pattern.Template

/-!
# Whole identifiers

A placeholder with an identifier in it is written out as a regular expression (`wholeWord`) that
matches the identifier where it stands as a whole (`matches_wholeWord_iff`), so the texts in which a
match of it is found are those in which the identifier stands so somewhere. Two placeholders next to
each other match no text: the first one ends behind a character of identifiers, and there the second
one does not begin. Both hold for every engine that keeps to the meaning of regular expressions
(`placeholders_match_whole_identifiers`).
-/

namespace Footprint.Pattern

/-- An identifier: a word of characters of identifiers. -/
def IsIdentifier (w : List Char) : Prop :=
  w ≠ [] ∧ ∀ c ∈ w, isIdentifierChar c = true

instance (w : List Char) : Decidable (IsIdentifier w) :=
  decidable_of_iff ((!w.isEmpty && w.all isIdentifierChar) = true) (by simp [IsIdentifier])

/-- A word stands in a text as a whole identifier: neither before nor behind it stands a character
of identifiers. -/
def HasWhole (w text : List Char) : Prop :=
  ∃ front back, text = front ++ w ++ back ∧ front.getLast?.any isIdentifierChar = false ∧
    back.head?.any isIdentifierChar = false

/-- To see whether a word stands in a text as a whole identifier, each place is tried. -/
instance (w text : List Char) : Decidable (HasWhole w text) :=
  decidable_of_iff (∃ n, n < text.length + 1 ∧ w <+: text.drop n ∧
      (text.take n).getLast?.any isIdentifierChar = false ∧
        ((text.drop n).drop w.length).head?.any isIdentifierChar = false) <| by
    constructor
    · rintro ⟨n, -, ⟨back, hback⟩, hfront, hstop⟩
      refine ⟨text.take n, back, ?_, hfront, ?_⟩
      · rw [List.append_assoc, hback, List.take_append_drop]
      · rwa [← hback, List.drop_left] at hstop
    · rintro ⟨front, back, rfl, hfront, hback⟩
      have hlt : front.length < (front ++ w ++ back).length + 1 := by
        simp only [List.length_append]
        omega
      refine ⟨front.length, hlt, ⟨back, by simp⟩, by simpa using hfront, ?_⟩
      simpa using hback

/-! ### How a placeholder is written out -/

/-- In an identifier there are only characters of identifiers. -/
theorem IsIdentifier.not_mem {w : List Char} (hw : IsIdentifier w) {c : Char}
    (hc : isIdentifierChar c = false) : c ∉ w := by
  intro hmem
  rw [hw.2 c hmem] at hc
  cases hc

/-- An identifier as the content of a placeholder. -/
def IsIdentifier.content {w : List Char} (hw : IsIdentifier w) : Content where
  text := String.ofList w
  not_closed := by
    rw [String.toList_ofList]
    exact fun h => hw.not_mem (by decide) (h.subset List.mem_cons_self)
  not_closing := by
    rw [String.toList_ofList]
    exact fun h => hw.not_mem (by decide) (List.mem_of_getLast? h)
  one_line := by
    rw [String.toList_ofList]
    exact hw.not_mem (by decide)

/-- The set `[A-Za-z0-9_]`. -/
def identifierClass : CharClass where
  ranges := [('A', 'Z'), ('a', 'z'), ('0', '9'), ('_', '_')]
  ranges_ne_nil := List.cons_ne_nil _ _
  isIdentifierChar_of_mem := by simp [isIdentifierChar]
  le_of_mem := by simp

/-- The set holds the characters of identifiers. -/
theorem contains_identifierClass : identifierClass.contains = isIdentifierChar := by
  funext c
  have hupper : (decide ('A' ≤ c) && decide (c ≤ 'Z')) = c.isUpper := (Bool.decide_and _ _).symm
  have hone : (decide ('_' ≤ c) && decide (c ≤ '_')) = (c == '_') := by
    rw [Bool.eq_iff_iff, beq_iff_eq, Bool.and_eq_true, decide_eq_true_eq, decide_eq_true_eq]
    exact ⟨fun h => Char.le_antisymm h.2 h.1, fun h => h ▸ ⟨Char.le_refl _, Char.le_refl _⟩⟩
  calc identifierClass.contains c
      = ((decide ('A' ≤ c) && decide (c ≤ 'Z')) || (c.isLower || (c.isDigit ||
          ((decide ('_' ≤ c) && decide (c ≤ '_')) || false)))) := rfl
    _ = (c.isUpper || c.isLower || c.isDigit || c == '_') := by
      rw [hupper, hone, Bool.or_false, Bool.or_assoc, Bool.or_assoc]
    _ = isIdentifierChar c := rfl

/-- A character of identifiers is plain. -/
theorem isPlain_of_isIdentifierChar {c : Char} (h : isIdentifierChar c = true) :
    isPlain c = true := by
  have hspecial : "\\.+*?()|[]\x7b\x7d^$#&-~".toList.all (!isIdentifierChar ·) = true := by decide
  unfold isPlain
  rw [Bool.not_eq_true', ← Bool.not_eq_true, List.contains_iff_mem]
  intro hmem
  have := List.all_eq_true.mp hspecial c hmem
  rw [h] at this
  cases this

/-- The regular expression of a text of plain characters. -/
def Regex.word : (w : List Char) → (∀ c ∈ w, isPlain c = true) → Regex
  | [], _ => .empty
  | c :: w, h =>
    .seq (.literal c (h c List.mem_cons_self)) (word w fun d hd => h d (List.mem_cons_of_mem c hd))

/-- A text of plain characters is written as it is. -/
theorem Regex.text_word {w : List Char} (h : ∀ c ∈ w, isPlain c = true) : (word w h).text = w := by
  induction w with
  | nil => rfl
  | cons c w ih => rw [word, text, ih, text, List.singleton_append]

/-- There are no groups in a text of plain characters. -/
theorem Regex.nesting_word {w : List Char} (h : ∀ c ∈ w, isPlain c = true) :
    (word w h).nesting = 0 := by
  induction w with
  | nil => rfl
  | cons c w ih => rw [word, nesting, ih, nesting, Nat.max_self]

/-- A text of plain characters matches itself only. -/
theorem Regex.matches_word_iff {w : List Char} (h : ∀ c ∈ w, isPlain c = true)
    {before m behind : List Char} : (word w h).Matches before m behind ↔ m = w := by
  induction w generalizing before m with
  | nil => exact matches_empty_iff
  | cons c w ih =>
    simp only [word, matches_seq_iff, matches_literal_iff, ih]
    constructor
    · rintro ⟨_, _, rfl, rfl, rfl⟩
      rfl
    · rintro rfl
      exact ⟨[c], w, rfl, rfl, rfl⟩

/-- The regular expression of a whole identifier. -/
def Regex.wholeWord {w : List Char} (hw : IsIdentifier w) : Regex :=
  .seq (.notBehind identifierClass)
    (.seq (.group (word w fun c hc => isPlain_of_isIdentifierChar (hw.2 c hc)))
      (.notAhead identifierClass))

/-- The expression of a whole identifier is written with two lookarounds and a group. -/
theorem Regex.text_wholeWord {w : List Char} (hw : IsIdentifier w) :
    (wholeWord hw).text = identifierStart.toList ++ (w ++ identifierStop.toList) := by
  simp only [wholeWord, text, text_word, List.append_assoc]
  rfl

/-- In the expression of a whole identifier no group stands in another one. -/
theorem Regex.nesting_wholeWord {w : List Char} (hw : IsIdentifier w) :
    (wholeWord hw).nesting = 1 := by
  simp only [wholeWord, nesting, nesting_word]
  rfl

/-- An identifier in braces. -/
def placeholder (w : String) : String :=
  "\x7b\x7b" ++ w ++ "\x7d\x7d"

/-- A placeholder with an identifier in it is written out as the expression of the identifier. -/
theorem expandChars_placeholder_append {w : String} (hw : IsIdentifier w.toList)
    (rest : List Char) :
    expandChars ((placeholder w).toList ++ rest) =
      (Regex.wholeWord hw).text ++ expandChars rest := by
  have hwritten := expandChars_content hw.content rest
  rw [show hw.content.text.toList = w.toList from String.toList_ofList] at hwritten
  rw [Regex.text_wholeWord, placeholder, String.toList_append, String.toList_append]
  simpa only [List.append_assoc] using hwritten

/-! ### What it matches -/

/-- The expression of an identifier matches it where it stands as a whole. -/
theorem Regex.matches_wholeWord_iff {w : List Char} (hw : IsIdentifier w)
    {before m behind : List Char} : (wholeWord hw).Matches before m behind ↔
      m = w ∧ before.getLast?.any isIdentifierChar = false ∧
        behind.head?.any isIdentifierChar = false := by
  simp only [wholeWord, matches_seq_iff, matches_group_iff, matches_word_iff,
    matches_notBehind_iff, matches_notAhead_iff, contains_identifierClass]
  constructor
  · rintro ⟨_, _, rfl, ⟨rfl, hbefore⟩, _, _, rfl, rfl, rfl, hbehind⟩
    rw [List.nil_append, List.append_nil]
    exact ⟨rfl, hbefore, hbehind⟩
  · rintro ⟨rfl, hbefore, hbehind⟩
    exact ⟨[], m, rfl, ⟨rfl, hbefore⟩, m, [], (List.append_nil m).symm, rfl, rfl, hbehind⟩

/-- A match of the expression is found where the identifier stands as a whole. -/
theorem Regex.finds_wholeWord_iff {w : List Char} (hw : IsIdentifier w) (text : List Char) :
    (wholeWord hw).Finds text ↔ HasWhole w text := by
  constructor
  · rintro ⟨before, m, behind, rfl, hm⟩
    obtain ⟨rfl, hbefore, hbehind⟩ := (matches_wholeWord_iff hw).mp hm
    exact ⟨before, behind, rfl, hbefore, hbehind⟩
  · rintro ⟨before, behind, rfl, hbefore, hbehind⟩
    exact ⟨before, w, behind, rfl, (matches_wholeWord_iff hw).mpr ⟨rfl, hbefore, hbehind⟩⟩

/-- Where a whole identifier ends no other one begins. -/
theorem Regex.not_finds_pair {u w : List Char} (hu : IsIdentifier u) (hw : IsIdentifier w)
    (text : List Char) : ¬ (seq (wholeWord hu) (wholeWord hw)).Finds text := by
  rintro ⟨before, _, behind, -, hm⟩
  cases hm with
  | seq hfirst hsecond =>
    obtain ⟨rfl, -, -⟩ := (matches_wholeWord_iff hu).mp hfirst
    obtain ⟨-, hend, -⟩ := (matches_wholeWord_iff hw).mp hsecond
    obtain ⟨v, c, rfl⟩ := (List.eq_nil_or_concat' _).resolve_left hu.1
    rw [← List.append_assoc, List.getLast?_concat, Option.any_some,
      hu.2 c List.mem_concat_self] at hend
    cases hend

/-- With every engine that keeps to the meaning of regular expressions, a placeholder matches the
texts in which its identifier stands as a whole identifier, and two placeholders next to each other
match no text. -/
theorem placeholders_match_whole_identifiers (engine : Engine) (h : engine.Documented) :
    (∀ w : String, IsIdentifier w.toList →
      ∃ p, engine.compile (placeholder w) = .ok p ∧ ∀ s : String,
        (engine.found p s = .ok true ↔ HasWhole w.toList s.toList) ∧
          (engine.found p s = .ok false ↔ ¬ HasWhole w.toList s.toList)) ∧
      ∀ u w : String, IsIdentifier u.toList → IsIdentifier w.toList →
        ∃ p, engine.compile (placeholder u ++ placeholder w) = .ok p ∧
          ∀ s : String, engine.found p s = .ok false := by
  refine ⟨fun w hw => ?_, fun u w hu hw => ?_⟩
  · have hone : expand (placeholder w) = String.ofList (Regex.wholeWord hw).text := by
      have hwritten := expandChars_placeholder_append hw []
      rw [List.append_nil, expandChars, List.append_nil] at hwritten
      rw [expand, hwritten]
    obtain ⟨p, hp, hfound⟩ := h.found_iff (Regex.nesting_wholeWord hw).le hone
    refine ⟨p, hp, fun s => ?_⟩
    rw [← Regex.finds_wholeWord_iff hw]
    exact hfound s
  · have htwo : expand (placeholder u ++ placeholder w) =
        String.ofList (Regex.seq (Regex.wholeWord hu) (Regex.wholeWord hw)).text := by
      have hwritten := expandChars_placeholder_append hw []
      rw [List.append_nil, expandChars, List.append_nil] at hwritten
      rw [expand, String.toList_append, expandChars_placeholder_append hu, hwritten, Regex.text]
    have hnesting : (Regex.seq (Regex.wholeWord hu) (Regex.wholeWord hw)).nesting ≤ 1 :=
      Nat.max_le.mpr ⟨(Regex.nesting_wholeWord hu).le, (Regex.nesting_wholeWord hw).le⟩
    obtain ⟨p, hp, hfound⟩ := h.found_iff hnesting htwo
    exact ⟨p, hp, fun s => (hfound s).2.mpr (Regex.not_finds_pair hu hw s.toList)⟩

/-- The name `foo` is found in a call of it and not in longer names. -/
theorem placeholders_match_foo :
    (∃ p, reference.compile (placeholder "foo") = .ok p ∧
        reference.found p "ns::foo()" = .ok true ∧ reference.found p "foo_1" = .ok false) ∧
      ∃ p, reference.compile (placeholder "foo" ++ placeholder "bar") = .ok p ∧
        reference.found p "foobar" = .ok false := by
  obtain ⟨hone, htwo⟩ := placeholders_match_whole_identifiers reference reference_documented
  obtain ⟨p, hp, hfound⟩ := hone "foo" (by decide)
  obtain ⟨q, hq, hnever⟩ := htwo "foo" "bar" (by decide) (by decide)
  exact ⟨⟨p, hp, (hfound "ns::foo()").1.mpr (by decide), (hfound "foo_1").2.mpr (by decide)⟩,
    q, hq, hnever "foobar"⟩

end Footprint.Pattern
