import Mathlib.Data.List.Chain
import Mathlib.Data.List.Infix
import Mathlib.Data.List.TakeDrop
import Mathlib.Data.List.TakeWhile
import Footprint.Text.Counter

/-!
# Texts without their counter

The characters of one kind at the front of a text end where the first character of another kind
stands, whatever follows it (`span_finds_cut`). So a counter is a text that can be cut into blanks,
digits and a remark (`isCounter_iff`). Of the counters at the end of a text the longest one is
replaced (`withoutCounter_append`). It ends in a digit or in a parenthesis, and the `s` that is
written for it is neither, so that there is no second counter to replace
(`withoutCounter_withoutCounter`).
-/

namespace Footprint.Text

open Unicode

/-! ### Spans at the front of a text -/

section Span

variable {p : Char → Bool} {front rest : List Char}

/-- Characters of a kind are dropped up to the first one of another kind. -/
theorem dropWhile_append_of_head? (hfront : ∀ c ∈ front, p c)
    (hrest : ∀ c ∈ rest.head?, p c = false) : (front ++ rest).dropWhile p = rest := by
  rw [List.dropWhile_append_of_pos hfront]
  cases rest with
  | nil => rfl
  | cons c rest => exact List.dropWhile_cons_of_neg (by simp [hrest c rfl])

/-- Characters of a kind are taken up to the first one of another kind. -/
theorem takeWhile_append_of_head? (hfront : ∀ c ∈ front, p c)
    (hrest : ∀ c ∈ rest.head?, p c = false) : (front ++ rest).takeWhile p = front := by
  have hparts : (front ++ rest).takeWhile p ++ (front ++ rest).dropWhile p = front ++ rest :=
    List.takeWhile_append_dropWhile
  rw [dropWhile_append_of_head? hfront hrest] at hparts
  exact List.append_cancel_right hparts

/-- Where what may stand behind the characters of a kind does not begin with one of them, a text can
be cut there only at the end of its span. -/
theorem span_finds_cut {q : List Char → Prop}
    (hstop : ∀ rest, q rest → ∀ c ∈ rest.head?, p c = false) {cs : List Char} :
    (cs.takeWhile p ≠ [] ∧ q (cs.dropWhile p)) ↔
      ∃ front rest, front ≠ [] ∧ (∀ c ∈ front, p c) ∧ q rest ∧ cs = front ++ rest := by
  constructor
  · rintro ⟨hne, hrest⟩
    exact ⟨_, _, hne, fun c hc => List.mem_takeWhile_imp hc, hrest,
      List.takeWhile_append_dropWhile.symm⟩
  · rintro ⟨front, rest, hne, hfront, hrest, rfl⟩
    rw [takeWhile_append_of_head? hfront (hstop rest hrest),
      dropWhile_append_of_head? hfront (hstop rest hrest)]
    exact ⟨hne, hrest⟩

end Span

/-! ### Counters -/

/-- The parts of a counter. -/
structure Counter where
  /-- The blanks in front of the number. -/
  blanks : String
  /-- The digits of the number. -/
  digits : String
  /-- What is remarked in parentheses behind the number, if anything is. -/
  remark : Option String
  /-- There is a blank. -/
  blanks_ne_empty : blanks ≠ ""
  /-- There is nothing else in front of the number. -/
  isBlank_of_mem : ∀ c ∈ blanks.toList, isBlank c
  /-- There is a digit. -/
  digits_ne_empty : digits ≠ ""
  /-- The number is written in digits. -/
  isDecimalDigit_of_mem : ∀ c ∈ digits.toList, isDecimalDigit c
  /-- The remark stands on one line. -/
  one_line : ∀ x ∈ remark, '\n' ∉ x.toList

/-- The text of a remark behind a number. -/
def remarkText (remark : Option String) : String :=
  remark.elim "" fun x => " (" ++ x ++ ")"

/-- The text of a counter. -/
def Counter.text (k : Counter) : String :=
  k.blanks ++ (k.digits ++ remarkText k.remark)

/-- A remark is read where one is written. -/
theorem isRemark_iff {cs : List Char} : isRemark cs = true ↔
    ∃ x : String, '\n' ∉ x.toList ∧ cs = (remarkText (some x)).toList := by
  constructor
  · intro h
    unfold isRemark at h
    split at h
    · next rest =>
      rw [Bool.and_eq_true, beq_iff_eq, List.getLast?_eq_some_iff] at h
      obtain ⟨⟨x, rfl⟩, hline⟩ := h
      exact ⟨String.ofList x, by simpa using hline, by simp [remarkText]⟩
    · cases h
  · rintro ⟨x, hline, rfl⟩
    simpa [isRemark, remarkText] using hline

/-- Neither the end of a text nor a remark begins with a digit. -/
theorem isDecimalDigit_head_of_isRemark {rest : List Char} (h : rest = [] ∨ isRemark rest = true) :
    ∀ c ∈ rest.head?, isDecimalDigit c = false := by
  rcases h with rfl | hremark
  · simp
  · obtain ⟨x, -, rfl⟩ := isRemark_iff.mp hremark
    have hhead : (remarkText (some x)).toList.head? = some ' ' := by simp [remarkText]
    have hspace : isDecimalDigit ' ' = false := by decide
    simpa [hhead] using hspace

/-- A text is numbered when it can be cut into digits and what may follow them: a remark or
nothing. -/
theorem isNumbered_iff {cs : List Char} : isNumbered cs = true ↔
    ∃ digits rest, digits ≠ [] ∧ (∀ c ∈ digits, isDecimalDigit c) ∧
      (rest = [] ∨ isRemark rest = true) ∧ cs = digits ++ rest := by
  rw [← span_finds_cut fun _ h => isDecimalDigit_head_of_isRemark h]
  unfold isNumbered
  rw [List.span_eq_takeWhile_dropWhile]
  cases cs.takeWhile isDecimalDigit with
  | nil => simp
  | cons d digits => simp [List.isEmpty_iff]

/-- What is numbered begins with a digit. -/
theorem exists_digit_of_isNumbered {rest : List Char} (h : isNumbered rest = true) :
    ∃ d rest', rest = d :: rest' ∧ isDecimalDigit d = true := by
  obtain ⟨digits, back, hne, hdigits, -, rfl⟩ := isNumbered_iff.mp h
  obtain ⟨d, digits, rfl⟩ := List.exists_cons_of_ne_nil hne
  exact ⟨d, digits ++ back, rfl, hdigits d List.mem_cons_self⟩

/-- What is numbered does not begin with a blank. -/
theorem isBlank_head_of_isNumbered {rest : List Char} (h : isNumbered rest = true) :
    ∀ c ∈ rest.head?, isBlank c = false := by
  obtain ⟨d, rest', rfl, hdigit⟩ := exists_digit_of_isNumbered h
  simpa using isBlank_of_isDecimalDigit hdigit

/-- A text is a counter when it can be cut into blanks and what is numbered. -/
theorem isCounter_iff_exists_cut {cs : List Char} : isCounter cs = true ↔
    ∃ blanks rest, blanks ≠ [] ∧ (∀ c ∈ blanks, isBlank c) ∧ isNumbered rest = true ∧
      cs = blanks ++ rest := by
  rw [← span_finds_cut fun _ h => isBlank_head_of_isNumbered h]
  unfold isCounter
  rw [List.span_eq_takeWhile_dropWhile]
  cases cs.takeWhile isBlank with
  | nil => simp
  | cons c blanks => simp

/-- A text is a counter when it is made of the parts of one. -/
theorem isCounter_iff {cs : List Char} :
    isCounter cs = true ↔ ∃ k : Counter, cs = k.text.toList := by
  rw [isCounter_iff_exists_cut]
  constructor
  · rintro ⟨blanks, numbered, hblanks, hblank, hnumbered, rfl⟩
    obtain ⟨digits, rest, hdigits, hdigit, hrest, rfl⟩ := isNumbered_iff.mp hnumbered
    have hremark : ∃ remark : Option String, (∀ x ∈ remark, '\n' ∉ x.toList) ∧
        rest = (remarkText remark).toList := by
      rcases hrest with rfl | hremark
      · exact ⟨none, by simp, rfl⟩
      · obtain ⟨x, hline, rfl⟩ := isRemark_iff.mp hremark
        exact ⟨some x, by simpa using hline, rfl⟩
    obtain ⟨remark, hline, rfl⟩ := hremark
    exact ⟨{ blanks := .ofList blanks, digits := .ofList digits, remark
             blanks_ne_empty := by simpa using hblanks
             isBlank_of_mem := by simpa using hblank
             digits_ne_empty := by simpa using hdigits
             isDecimalDigit_of_mem := by simpa using hdigit
             one_line := hline }, by simp [Counter.text]⟩
  · rintro ⟨k, rfl⟩
    have hremark : (remarkText k.remark).toList = [] ∨
        isRemark (remarkText k.remark).toList = true := by
      cases hk : k.remark with
      | none => exact .inl rfl
      | some x => exact .inr (isRemark_iff.mpr ⟨x, k.one_line x hk, rfl⟩)
    refine ⟨_, _, ?_, k.isBlank_of_mem, isNumbered_iff.mpr ⟨_, _, ?_, k.isDecimalDigit_of_mem,
      hremark, rfl⟩, by simp [Counter.text]⟩
    · exact String.toList_eq_nil_iff.not.mpr k.blanks_ne_empty
    · exact String.toList_eq_nil_iff.not.mpr k.digits_ne_empty

/-- A counter ends in a digit or in a parenthesis. -/
theorem Counter.exists_last (k : Counter) :
    ∃ c, k.text.toList.getLast? = some c ∧ (isDecimalDigit c = true ∨ c = ')') := by
  have hdigits : k.digits.toList ≠ [] := String.toList_eq_nil_iff.not.mpr k.digits_ne_empty
  unfold text
  cases k.remark with
  | none =>
    refine ⟨_, ?_, .inl (k.isDecimalDigit_of_mem _ (List.getLast_mem hdigits))⟩
    rw [← List.getLast?_eq_some_getLast hdigits]
    simp [remarkText, List.getLast?_append_of_ne_nil _ hdigits]
  | some x => exact ⟨')', by simp [remarkText, List.getLast?_cons], .inr rfl⟩

/-- The `s` that is written for a counter is the end of no counter. -/
theorem isCounter_append_s (cs : List Char) : isCounter (cs ++ ['s']) = false := by
  rw [Bool.eq_false_iff, ne_eq, isCounter_iff]
  rintro ⟨k, hk⟩
  obtain ⟨c, hlast, hc⟩ := k.exists_last
  rw [← hk, List.getLast?_concat] at hlast
  obtain rfl := Option.some.inj hlast
  exact absurd hc (by decide)

/-- No counter begins in a text that does not end in a blank and in which no blank is followed by a
digit, whatever stands behind it. -/
theorem isCounter_append {cs : List Char} (hne : cs ≠ [])
    (hlast : ∀ c ∈ cs.getLast?, isBlank c = false)
    (hpairs : cs.IsChain fun c d => isBlank c → isDecimalDigit d = false) (rest : List Char) :
    isCounter (cs ++ rest) = false := by
  rw [Bool.eq_false_iff, ne_eq, isCounter_iff_exists_cut]
  rintro ⟨blanks, numbered, hblanks, hblank, hnumbered, heq⟩
  obtain ⟨d, numbered, rfl, hdigit⟩ := exists_digit_of_isNumbered hnumbered
  have hend : ¬ ∀ c ∈ cs, isBlank c := by
    intro hall
    have hno := hlast _ (List.getLast?_eq_some_getLast hne)
    rw [hall _ (List.getLast_mem hne)] at hno
    cases hno
  rcases List.append_eq_append_iff.mp heq with ⟨beyond, rfl, -⟩ | ⟨inner, rfl, hinner⟩
  · -- The blanks would be all that there is of the text.
    exact hend fun c hc => hblank c (List.mem_append_left beyond hc)
  · cases inner with
    | nil => exact hend (by simpa using hblank)
    | cons c inner =>
      -- The last blank and the digit would be neighbours in the text.
      obtain ⟨rfl, -⟩ := List.cons.inj hinner
      obtain ⟨-, -, hpair⟩ := List.isChain_append.mp hpairs
      have hno := hpair _ (List.getLast?_eq_some_getLast hblanks) d rfl
        (hblank _ (List.getLast_mem hblanks))
      rw [hdigit] at hno
      cases hno

/-- The counter that is replaced is the longest one: no text that begins further in front is a
counter. -/
theorem withoutCounter_append {front back : List Char} (hback : isCounter back = true)
    (hfront : ∀ inner, inner <:+ front → inner ≠ [] → isCounter (inner ++ back) = false) :
    withoutCounter (front ++ back) = front ++ ['s'] := by
  induction front with
  | nil =>
    cases back with
    | nil => cases hback
    | cons c back => rw [List.nil_append, withoutCounter, if_pos hback, List.nil_append]
  | cons c front ih =>
    have hno : isCounter (c :: (front ++ back)) = false :=
      hfront (c :: front) List.suffix_rfl (List.cons_ne_nil c front)
    have htail := ih fun inner hinner => hfront inner (hinner.trans (List.suffix_cons c front))
    rw [List.cons_append, withoutCounter, hno, htail]
    rfl

/-- A text is kept exactly when no counter stands at its end. -/
theorem withoutCounter_eq_self_iff {cs : List Char} :
    withoutCounter cs = cs ↔ ∀ back, back <:+ cs → isCounter back = false := by
  induction cs with
  | nil => simp [withoutCounter, isCounter]
  | cons c cs ih =>
    rw [withoutCounter]
    simp only [List.suffix_cons_iff, or_imp, forall_and, forall_eq]
    cases hcounter : isCounter (c :: cs) with
    | true =>
      -- A counter of one character would be an `s`.
      have hne : ['s'] ≠ c :: cs := by
        intro heq
        have hno : isCounter ['s'] = false := isCounter_append_s []
        rw [heq, hcounter] at hno
        cases hno
      simp [hne]
    | false => simp [ih]

/-- A text that ends in an `s` has no counter. -/
theorem withoutCounter_append_s (cs : List Char) :
    withoutCounter (cs ++ ['s']) = cs ++ ['s'] := by
  rw [withoutCounter_eq_self_iff]
  rintro back ⟨front, hfront⟩
  rcases List.eq_nil_or_concat back with rfl | ⟨inner, c, rfl⟩
  · rfl
  · obtain rfl : c = 's' := by simpa using congrArg List.getLast? hfront
    rw [List.concat_eq_append]
    exact isCounter_append_s inner

/-- A text without its counter is the text itself, or it ends in an `s`. -/
theorem withoutCounter_cases (cs : List Char) :
    withoutCounter cs = cs ∨ ∃ front, withoutCounter cs = front ++ ['s'] := by
  induction cs with
  | nil => exact .inl rfl
  | cons c cs ih =>
    rw [withoutCounter]
    split
    · exact .inr ⟨[], rfl⟩
    · obtain h | ⟨front, h⟩ := ih
      · exact .inl (by rw [h])
      · exact .inr ⟨c :: front, by rw [h, List.cons_append]⟩

/-- A text loses no more than one counter. -/
theorem withoutCounter_withoutCounter (cs : List Char) :
    withoutCounter (withoutCounter cs) = withoutCounter cs := by
  obtain h | ⟨front, h⟩ := withoutCounter_cases cs
  · rw [h, h]
  · rw [h, withoutCounter_append_s]

/-- A text that does not begin with a blank keeps its first character. -/
theorem withoutCounter_cons {c : Char} (hc : isBlank c = false) (cs : List Char) :
    withoutCounter (c :: cs) = c :: withoutCounter cs := by
  have hno : isCounter (c :: cs) = false := by
    simp [isCounter, List.span_eq_takeWhile_dropWhile, hc]
  rw [withoutCounter, hno]
  rfl

end Footprint.Text
