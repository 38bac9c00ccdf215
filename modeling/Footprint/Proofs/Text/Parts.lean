import Mathlib.Data.List.Infix
import Footprint.Text.Separated

/-!
# The parts of a text

A separator cuts a text where it is found from the left, each time behind the place where it was
found before (`SplitsInto`). Every text has its parts, which joined by the separator are the text
again (`splitsInto_parts`, `SplitsInto.parts_eq`). The first parts of a text, joined, have just
these parts (`SplitsInto.take`), so that a text cut to some of its parts tells what it is when it
is cut to fewer.
-/

namespace Footprint.Text

/-- A separator is found behind a part of a text, and nowhere earlier. -/
def FoundFirst (sep part rest : List Char) : Prop :=
  ∀ front back, part ++ sep ++ rest = front ++ sep ++ back → part.length ≤ front.length

/-- A text with its parts: what stands before the separator where it is found first, and the parts
of what stands behind it. -/
inductive SplitsInto (sep : List Char) : List Char → List (List Char) → Prop where
  /-- A text without a separator is one part. -/
  | whole {text : List Char} (h : ¬ sep <:+: text) : SplitsInto sep text [text]
  /-- A text with separators is cut at the first one. -/
  | cut {part rest : List Char} {ps : List (List Char)} (hfirst : FoundFirst sep part rest)
      (hrest : SplitsInto sep rest ps) : SplitsInto sep (part ++ sep ++ rest) (part :: ps)

section Search

variable {sep : List Char}

/-- A text that begins with a separator goes on behind it. -/
theorem afterSeparator?_eq_some_iff {text rest : List Char} :
    afterSeparator? sep text = some rest ↔ text = sep ++ rest := by
  induction sep generalizing text with
  | nil => simp [afterSeparator?]
  | cons s sep ih =>
    cases text with
    | nil => simp [afterSeparator?]
    | cons c text =>
      rw [afterSeparator?]
      split
      · next heq => simp [ih, heq]
      · next hne => simp [Ne.symm hne]

/-- A text that does not begin with a separator does not go on behind one. -/
theorem afterSeparator?_eq_none_iff {text : List Char} :
    afterSeparator? sep text = none ↔ ¬ sep <+: text := by
  rw [Option.eq_none_iff_forall_ne_some]
  constructor
  · rintro h ⟨rest, heq⟩
    exact h rest (afterSeparator?_eq_some_iff.mpr heq.symm)
  · intro h rest heq
    exact h ⟨rest, (afterSeparator?_eq_some_iff.mp heq).symm⟩

/-- The first place of a separator is one place. -/
theorem FoundFirst.unique {part rest part' rest' : List Char} (h : FoundFirst sep part rest)
    (h' : FoundFirst sep part' rest') (heq : part ++ sep ++ rest = part' ++ sep ++ rest') :
    part = part' ∧ rest = rest' := by
  have hlength : part.length = part'.length := le_antisymm (h _ _ heq) (h' _ _ heq.symm)
  rw [List.append_assoc, List.append_assoc] at heq
  obtain ⟨rfl, hrest⟩ := List.append_inj heq hlength
  exact ⟨rfl, List.append_cancel_left hrest⟩

/-- Where a separator is found first does not depend on what stands behind it. -/
theorem FoundFirst.congr {part rest : List Char} (h : FoundFirst sep part rest)
    (rest' : List Char) : FoundFirst sep part rest' := by
  intro front back heq
  by_contra hlt
  -- A separator in front of that place would be there whatever follows.
  have hprefix : front ++ sep <+: part ++ sep := by
    refine List.prefix_of_prefix_length_le (List.prefix_append _ back) ?_ ?_
    · rw [← heq]
      exact List.prefix_append _ rest'
    · simp only [List.length_append]
      omega
  obtain ⟨back', hback⟩ := hprefix
  refine hlt (h front (back' ++ rest) ?_)
  rw [← hback, List.append_assoc _ back' rest]

/-- A part has no separator. -/
theorem FoundFirst.not_infix (hsep : sep ≠ []) {part rest : List Char}
    (h : FoundFirst sep part rest) : ¬ sep <:+: part := by
  rintro ⟨front, back, rfl⟩
  have hle := h front (back ++ sep ++ rest) (by simp only [List.append_assoc])
  have hpos := List.length_pos_iff.mpr hsep
  simp only [List.length_append] at hle
  omega

/-- The search for a separator finds none just when there is none. -/
theorem splitFirst?_eq_none_iff (hsep : sep ≠ []) {text : List Char} :
    splitFirst? sep text = none ↔ ¬ sep <:+: text := by
  induction text with
  | nil => simp [splitFirst?, hsep]
  | cons c text ih =>
    rw [splitFirst?, List.infix_cons_iff, not_or, ← ih, ← afterSeparator?_eq_none_iff]
    cases afterSeparator? sep (c :: text) with
    | none => simp
    | some rest => simp

/-- What the search for a separator finds is the first one. -/
theorem foundFirst_of_splitFirst? {text part rest : List Char}
    (h : splitFirst? sep text = some (part, rest)) :
    text = part ++ sep ++ rest ∧ FoundFirst sep part rest := by
  induction text generalizing part with
  | nil => cases h
  | cons c text ih =>
    rw [splitFirst?] at h
    cases hafter : afterSeparator? sep (c :: text) with
    | some rest' =>
      simp only [hafter, Option.some.injEq, Prod.mk.injEq] at h
      obtain ⟨rfl, rfl⟩ := h
      exact ⟨afterSeparator?_eq_some_iff.mp hafter, fun front _ _ => Nat.zero_le _⟩
    | none =>
      simp only [hafter, Option.map_eq_some_iff, Prod.mk.injEq] at h
      obtain ⟨⟨part, _⟩, hsplit, rfl, rfl⟩ := h
      obtain ⟨rfl, hfirst⟩ := ih hsplit
      refine ⟨rfl, fun front back heq => ?_⟩
      cases front with
      | nil =>
        -- The text does not begin with a separator.
        rw [afterSeparator?_eq_none_iff] at hafter
        exact absurd ⟨back, heq.symm⟩ hafter
      | cons c' front =>
        have htail := (List.cons.inj heq).2
        exact Nat.succ_le_succ (hfirst front back htail)

/-- The search for a separator finds the first one. -/
theorem splitFirst?_eq_some (hsep : sep ≠ []) {part rest : List Char}
    (h : FoundFirst sep part rest) : splitFirst? sep (part ++ sep ++ rest) = some (part, rest) := by
  cases hsplit : splitFirst? sep (part ++ sep ++ rest) with
  | none => exact absurd ⟨part, rest, rfl⟩ ((splitFirst?_eq_none_iff hsep).mp hsplit)
  | some found =>
    obtain ⟨part', rest'⟩ := found
    obtain ⟨heq, h'⟩ := foundFirst_of_splitFirst? hsplit
    obtain ⟨rfl, rfl⟩ := h.unique h' heq
    rfl

end Search

/-- The parts of a text. -/
def parts (sep text : List Char) : List (List Char) :=
  match splitFirst? sep text with
  | none => [text]
  | some (part, rest) =>
    if rest.length < text.length then part :: parts sep rest else [text]
termination_by text.length

namespace SplitsInto

variable {sep text : List Char} {ps qs : List (List Char)}

/-- There is no text without parts. -/
theorem ne_nil (h : SplitsInto sep text ps) : ps ≠ [] := by
  cases h with
  | whole => exact List.cons_ne_nil _ _
  | cut => exact List.cons_ne_nil _ _

/-- The parts joined by the separator are the text. -/
theorem intercalate_eq (h : SplitsInto sep text ps) : sep.intercalate ps = text := by
  induction h with
  | whole => exact List.intercalate_singleton
  | cut _ hrest ih => rw [List.intercalate_cons_of_ne_nil hrest.ne_nil, ih]

/-- The parts of a text are those that it is cut into. -/
theorem parts_eq (hsep : sep ≠ []) (h : SplitsInto sep text ps) : parts sep text = ps := by
  induction h with
  | whole hnone => rw [parts, (splitFirst?_eq_none_iff hsep).mpr hnone]
  | @cut part rest ps hfirst _ ih =>
    have hlt : rest.length < (part ++ sep ++ rest).length := by
      have hpos := List.length_pos_iff.mpr hsep
      simp only [List.length_append]
      omega
    rw [parts, splitFirst?_eq_some hsep hfirst]
    dsimp only
    rw [if_pos hlt, ih]

/-- The first parts of a text, joined, are cut into these parts again. -/
theorem take (hsep : sep ≠ []) (h : SplitsInto sep text ps) {k : Nat} (hk : 0 < k) :
    SplitsInto sep (sep.intercalate (ps.take k)) (ps.take k) := by
  induction h generalizing k with
  | @whole text hnone =>
    obtain ⟨k, rfl⟩ := Nat.exists_eq_add_one.mpr hk
    rw [List.take_succ_cons, List.take_nil, List.intercalate_singleton]
    exact .whole hnone
  | @cut part rest ps hfirst hrest ih =>
    obtain ⟨k, rfl⟩ := Nat.exists_eq_add_one.mpr hk
    rw [List.take_succ_cons]
    cases k with
    | zero =>
      rw [List.take_zero, List.intercalate_singleton]
      exact .whole (hfirst.not_infix hsep)
    | succ k =>
      have hne : ps.take (k + 1) ≠ [] := by
        simpa using hrest.ne_nil
      rw [List.intercalate_cons_of_ne_nil hne]
      exact .cut (hfirst.congr _) (ih k.succ_pos)

end SplitsInto

/-- Every text is cut into its parts. -/
theorem splitsInto_parts {sep : List Char} (hsep : sep ≠ []) (text : List Char) :
    SplitsInto sep text (parts sep text) := by
  fun_induction parts sep text with
  | case1 text hnone => exact .whole ((splitFirst?_eq_none_iff hsep).mp hnone)
  | case2 text part rest hsplit _ ih =>
    obtain ⟨htext, hfirst⟩ := foundFirst_of_splitFirst? hsplit
    rw [htext]
    exact .cut hfirst ih
  | case3 text part rest hsplit hlt =>
    -- The separator takes up room, so that less is left behind it.
    obtain ⟨rfl, -⟩ := foundFirst_of_splitFirst? hsplit
    have hpos := List.length_pos_iff.mpr hsep
    simp only [List.length_append] at hlt
    omega

/-- A text has one part when the search for a separator finds none. -/
theorem SplitsInto.isNone_splitFirst?_iff {sep text : List Char} {ps : List (List Char)}
    (hsep : sep ≠ []) (h : SplitsInto sep text ps) :
    (splitFirst? sep text).isNone ↔ ps.length = 1 := by
  cases h with
  | whole hnone => simp [(splitFirst?_eq_none_iff hsep).mpr hnone]
  | cut hfirst hrest =>
    rw [splitFirst?_eq_some hsep hfirst]
    simp [hrest.ne_nil]

/-- How many of the parts of a text are kept when it is cut to `count` of them: all but the last
one at most, and the first one at least. -/
def keptOf (count total : Nat) : Nat :=
  max 1 (min count (total - 1))

/-- One part at least is kept. -/
theorem keptOf_pos (count total : Nat) : 0 < keptOf count total :=
  Nat.lt_of_lt_of_le Nat.one_pos (Nat.le_max_left ..)

/-- No more parts are kept than there are. -/
theorem keptOf_le (count : Nat) {total : Nat} (h : 0 < total) : keptOf count total ≤ total := by
  unfold keptOf
  omega

/-- A text is cut to the first of its parts. -/
theorem SplitsInto.takeParts_eq {sep text : List Char} {ps : List (List Char)} (hsep : sep ≠ [])
    (h : SplitsInto sep text ps) {count : Nat} (hcount : 0 < count) :
    takeParts sep count text = sep.intercalate (ps.take (keptOf count ps.length)) := by
  induction h generalizing count with
  | @whole text hnone =>
    obtain ⟨count, rfl⟩ := Nat.exists_eq_add_one.mpr hcount
    have hkept : keptOf (count + 1) [text].length = 1 := by simp [keptOf]
    rw [hkept, List.take_succ_cons, List.take_nil, List.intercalate_singleton, takeParts,
      (splitFirst?_eq_none_iff hsep).mpr hnone]
  | @cut part rest ps hfirst hrest ih =>
    obtain ⟨count, rfl⟩ := Nat.exists_eq_add_one.mpr hcount
    have hpos := List.length_pos_iff.mpr hrest.ne_nil
    rw [takeParts, splitFirst?_eq_some hsep hfirst]
    simp only [hrest.isNone_splitFirst?_iff hsep]
    split
    · next hone =>
      have hkept : keptOf (count + 1) (part :: ps).length = 1 := by
        rw [keptOf, List.length_cons]
        omega
      rw [hkept, List.take_succ_cons, List.take_zero, List.intercalate_singleton]
    · next hmore =>
      have hkept : keptOf (count + 1) (part :: ps).length = keptOf count ps.length + 1 := by
        rw [keptOf, keptOf, List.length_cons]
        omega
      have hne : ps.take (keptOf count ps.length) ≠ [] := by
        simp [(keptOf_pos count ps.length).ne', hrest.ne_nil]
      rw [hkept, List.take_succ_cons, List.intercalate_cons_of_ne_nil hne, ih (by omega)]

/-- Two lists joined by a separator are joined by it as one. -/
theorem intercalate_append {α : Type} (sep : List α) {xs ys : List (List α)} (hxs : xs ≠ [])
    (hys : ys ≠ []) :
    sep.intercalate (xs ++ ys) = sep.intercalate xs ++ sep ++ sep.intercalate ys := by
  induction xs with
  | nil => exact absurd rfl hxs
  | cons x xs ih =>
    cases xs with
    | nil =>
      rw [List.singleton_append, List.intercalate_cons_of_ne_nil hys, List.intercalate_singleton]
    | cons x' xs =>
      have hne : x' :: xs ≠ [] := List.cons_ne_nil x' xs
      rw [List.cons_append,
        List.intercalate_cons_of_ne_nil (List.append_ne_nil_of_left_ne_nil hne ys), ih hne,
        List.intercalate_cons_of_ne_nil hne]
      simp only [List.append_assoc]

section Leading

variable {sep : List Char} (hsep : sep ≠ [])

/-- The first `k` parts of a text, joined by the separator. -/
def leading (sep : List Char) (k : Nat) (text : List Char) : List Char :=
  sep.intercalate ((parts sep text).take k)

include hsep

/-- There is no text without parts. -/
theorem length_parts_pos (text : List Char) : 0 < (parts sep text).length :=
  List.length_pos_iff.mpr (splitsInto_parts hsep text).ne_nil

/-- The first parts of a text, joined, have just these parts. -/
theorem parts_leading {k : Nat} (hk : 0 < k) (text : List Char) :
    parts sep (leading sep k text) = (parts sep text).take k :=
  ((splitsInto_parts hsep text).take hsep hk).parts_eq hsep

/-- The first parts of the first parts of a text. -/
theorem leading_leading (j : Nat) {k : Nat} (hk : 0 < k) (text : List Char) :
    leading sep j (leading sep k text) = leading sep (min j k) text := by
  rw [leading, parts_leading hsep hk, List.take_take, leading]

/-- Different numbers of parts are different texts. -/
theorem leading_inj {j k : Nat} {text : List Char} (hj : 0 < j) (hk : 0 < k)
    (hj' : j ≤ (parts sep text).length) (hk' : k ≤ (parts sep text).length) :
    leading sep j text = leading sep k text ↔ j = k := by
  constructor
  · intro h
    have hlength := congrArg (fun cs => (parts sep cs).length) h
    simpa only [parts_leading hsep hj, parts_leading hsep hk, List.length_take_of_le hj',
      List.length_take_of_le hk'] using hlength
  · rintro rfl
    rfl

/-- All parts of a text are the text. -/
theorem leading_of_le {k : Nat} {text : List Char} (hk : (parts sep text).length ≤ k) :
    leading sep k text = text := by
  rw [leading, List.take_of_length_le hk, (splitsInto_parts hsep text).intercalate_eq]

/-- A text is cut to the first of its parts. -/
theorem takeParts_eq_leading {count : Nat} (hcount : 0 < count) (text : List Char) :
    takeParts sep count text = leading sep (keptOf count (parts sep text).length) text :=
  (splitsInto_parts hsep text).takeParts_eq hsep hcount

/-- There are no more first parts of a text than it has parts. -/
theorem leading_min (k : Nat) (text : List Char) :
    leading sep (min k (parts sep text).length) text = leading sep k text := by
  rw [← leading_leading hsep k (length_parts_pos hsep text), leading_of_le hsep le_rfl]

/-- A text that is cut to more parts is enough to cut it to fewer. -/
theorem leading_takeParts {d d' : Nat} (hd : 0 < d) (hle : d ≤ d') (text : List Char) :
    leading sep d (takeParts sep d' text) = takeParts sep d text := by
  have hpos := length_parts_pos hsep text
  have hkept : min d (keptOf d' (parts sep text).length) = keptOf d (parts sep text).length := by
    unfold keptOf
    omega
  rw [takeParts_eq_leading hsep (by omega), leading_leading hsep d (keptOf_pos _ _), hkept,
    takeParts_eq_leading hsep hd]

/-- A text is cut to its first `count` parts, unless it has no more than these and more than one. -/
theorem takeParts_eq_leading_iff {count : Nat} (hcount : 0 < count) (text : List Char) :
    takeParts sep count text = leading sep count text ↔
      (parts sep text).length = 1 ∨ count < (parts sep text).length := by
  have hpos := length_parts_pos hsep text
  rw [takeParts_eq_leading hsep hcount, ← leading_min hsep count, leading_inj hsep (keptOf_pos _ _)
    (by omega) (keptOf_le _ hpos) (Nat.min_le_right ..), keptOf]
  omega

/-- What is left of a text is cut again when it has more than one part, except to no parts. -/
theorem takeParts_takeParts_iff (count : Nat) (text : List Char) :
    takeParts sep count (takeParts sep count text) = takeParts sep count text ↔
      count ≤ 1 ∨ (parts sep text).length ≤ 2 := by
  rcases Nat.eq_zero_or_pos count with rfl | hcount
  · exact iff_of_true rfl (.inl (Nat.zero_le 1))
  · have hpos := length_parts_pos hsep text
    have hkept := keptOf_pos count (parts sep text).length
    have hle := keptOf_le count hpos
    rw [takeParts_eq_leading hsep hcount text, takeParts_eq_leading hsep hcount,
      parts_leading hsep hkept, List.length_take_of_le hle, leading_leading hsep _ hkept,
      leading_inj hsep (lt_min (keptOf_pos _ _) hkept) hkept (by omega) hle]
    unfold keptOf
    omega

/-- Behind the parts to which a text is cut stand the separator and then the other parts. -/
theorem takeParts_append {count : Nat} (hcount : 0 < count) {text : List Char}
    (hlt : count < (parts sep text).length) :
    takeParts sep count text ++ sep ++ sep.intercalate ((parts sep text).drop count) = text := by
  have hpos := length_parts_pos hsep text
  have hfirst : (parts sep text).take count ≠ [] := by
    rw [← List.length_pos_iff, List.length_take]
    omega
  have hrest : (parts sep text).drop count ≠ [] := by
    rw [← List.length_pos_iff, List.length_drop]
    omega
  rw [(takeParts_eq_leading_iff hsep hcount text).mpr (.inr hlt), leading,
    ← intercalate_append sep hfirst hrest, List.take_append_drop,
    (splitsInto_parts hsep text).intercalate_eq]

end Leading

/-- What a text that is cut to its first parts keeps: the text has its parts, of which all but the
last one are kept at most and the first one at least. -/
structure KeepsParts (sep text : List Char) : Prop where
  /-- The text is cut into its parts. -/
  splits : SplitsInto sep text (parts sep text)
  /-- It is cut into no others. -/
  unique : ∀ ps, SplitsInto sep text ps → ps = parts sep text
  /-- The parts joined by the separator are the text. -/
  joined : sep.intercalate (parts sep text) = text
  /-- A text that is not cut is kept. -/
  whole : takeParts sep 0 text = text
  /-- The first parts are kept. -/
  kept : ∀ count, 0 < count →
    takeParts sep count text = leading sep (keptOf count (parts sep text).length) text
  /-- Behind them stands the separator, if there are more parts than are asked for. -/
  before : ∀ count, 0 < count → count < (parts sep text).length →
    takeParts sep count text ++ sep ++ sep.intercalate ((parts sep text).drop count) = text
  /-- All the parts that are asked for are kept if there are more, or if there is just one. -/
  asked_iff : ∀ count, 0 < count → (takeParts sep count text = leading sep count text ↔
    (parts sep text).length = 1 ∨ count < (parts sep text).length)
  /-- Cutting a second time changes nothing if one part at most is asked for, or if there are two at
  most. -/
  twice_iff : ∀ count, takeParts sep count (takeParts sep count text) = takeParts sep count text ↔
    count ≤ 1 ∨ (parts sep text).length ≤ 2

/-- Every text keeps its first parts. -/
theorem keepsParts {sep : List Char} (hsep : sep ≠ []) (text : List Char) :
    KeepsParts sep text where
  splits := splitsInto_parts hsep text
  unique _ h := (h.parts_eq hsep).symm
  joined := (splitsInto_parts hsep text).intercalate_eq
  whole := rfl
  kept _ hcount := takeParts_eq_leading hsep hcount text
  before _ hcount hlt := takeParts_append hsep hcount hlt
  asked_iff _ hcount := takeParts_eq_leading_iff hsep hcount text
  twice_iff count := takeParts_takeParts_iff hsep count text

/-- Trailing parts are dropped one after the other. -/
theorem dropTrailingParts_add (sep : List Char) (m n : Nat) (text : List Char) :
    dropTrailingParts sep (m + n) text =
      dropTrailingParts sep n (dropTrailingParts sep m text) := by
  induction m generalizing text with
  | zero => rw [Nat.zero_add, dropTrailingParts]
  | succ m ih =>
    rw [Nat.succ_add, dropTrailingParts, dropTrailingParts]
    cases hlast : beforeLast? sep text with
    | some before => exact ih before
    | none =>
      cases n with
      | zero => rfl
      | succ n => rw [dropTrailingParts, hlast]

end Footprint.Text
