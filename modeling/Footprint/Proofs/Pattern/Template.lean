import Mathlib.Data.List.Infix
import Footprint.Pattern.Placeholder

/-!
# Patterns with placeholders

A template is a pattern cut at its placeholders. The conditions on its texts say that each
placeholder is found where it stands: no placeholder begins earlier, since the texts between do not
open one, and none ends earlier or later, since the contents do not close one. Then just the
placeholders are written out (`expandChars_append`).
-/

namespace Footprint.Pattern

/-- A text between placeholders. -/
structure PlainText where
  /-- The text. -/
  text : String
  /-- No placeholder is opened in the text. -/
  not_opened : ¬ ['\x7b', '\x7b'] <:+: text.toList
  /-- None is opened by the end of the text and what stands behind it. -/
  not_open : text.toList.getLast? ≠ some '\x7b'

/-- A text in a placeholder. -/
structure Content where
  /-- The text. -/
  text : String
  /-- The placeholder is not closed in the text. -/
  not_closed : ¬ ['\x7d', '\x7d'] <:+: text.toList
  /-- It is not closed one character earlier by the end of the text. -/
  not_closing : text.toList.getLast? ≠ some '\x7d'
  /-- The text stands on one line. -/
  one_line : '\n' ∉ text.toList

/-- A pattern cut at its placeholders. -/
structure Template where
  /-- The text before the first placeholder. -/
  opening : PlainText
  /-- The content of each placeholder with the text behind it. -/
  rest : List (Content × PlainText)

namespace Template

/-- The pattern with `write` applied to the contents of its placeholders. -/
def fill (t : Template) (write : String → String) : String :=
  t.opening.text ++ t.rest.foldr (fun (x, after) rest => write x.text ++ after.text ++ rest) ""

/-- The pattern as it stands. -/
def source (t : Template) : String :=
  t.fill fun x => "\x7b\x7b" ++ x ++ "\x7d\x7d"

/-- The pattern with its placeholders written out as whole identifiers. -/
def written (t : Template) : String :=
  t.fill fun x => "(?<![A-Za-z0-9_])(?:" ++ x ++ ")(?![A-Za-z0-9_])"

end Template

/-- Behind a text without a pair of braces that does not end in a brace, a pair is as far away as
before: none begins in the text. -/
theorem not_pair_begins {brace c : Char} {front : List Char}
    (hpair : ¬ [brace, brace] <:+: c :: front) (hlast : (c :: front).getLast? ≠ some brace)
    (rest : List Char) : ¬ [brace, brace] <+: c :: (front ++ rest) := by
  rintro ⟨back, heq⟩
  cases front with
  | nil =>
    obtain ⟨rfl, -⟩ := List.cons.inj heq
    exact hlast rfl
  | cons d front =>
    obtain ⟨rfl, htail⟩ := List.cons.inj heq
    obtain ⟨rfl, -⟩ := List.cons.inj htail
    exact hpair ⟨[], front, rfl⟩

/-- A text that ends in no brace does so without its first character. -/
theorem getLast?_ne_of_cons {brace c : Char} {front : List Char}
    (hlast : (c :: front).getLast? ≠ some brace) : front.getLast? ≠ some brace := by
  intro h
  rw [List.getLast?_cons, h] at hlast
  exact hlast rfl

/-- Where no placeholder stands, a character is kept. -/
theorem expandChars_cons {c : Char} {rest : List Char} (h : placeholder? (c :: rest) = none) :
    expandChars (c :: rest) = c :: expandChars rest := by
  rw [expandChars]
  split
  · next hsome =>
    rw [h] at hsome
    cases hsome
  · rfl

/-- Where a placeholder stands, it is written out. -/
theorem expandChars_placeholder {c : Char} {rest inner after : List Char}
    (h : placeholder? (c :: rest) = some (inner, after)) :
    expandChars (c :: rest) =
      identifierStart.toList ++ inner ++ identifierStop.toList ++ expandChars after := by
  rw [expandChars]
  split
  · next hsome =>
    obtain ⟨rfl, rfl⟩ := Prod.mk.inj (Option.some.inj (h.symm.trans hsome))
    rfl
  · next hnone =>
    rw [h] at hnone
    cases hnone

/-- A placeholder begins with two opening braces. -/
theorem placeholder?_eq_none {cs : List Char} (h : ¬ ['\x7b', '\x7b'] <+: cs) :
    placeholder? cs = none := by
  unfold placeholder?
  split
  · next body => exact absurd ⟨body, rfl⟩ h
  · rfl

/-- A text between placeholders is kept, whatever stands behind it. -/
theorem expandChars_append {front : List Char} (hopened : ¬ ['\x7b', '\x7b'] <:+: front)
    (hopen : front.getLast? ≠ some '\x7b') (rest : List Char) :
    expandChars (front ++ rest) = front ++ expandChars rest := by
  induction front with
  | nil => rfl
  | cons c front ih =>
    have hnone := placeholder?_eq_none (not_pair_begins hopened hopen rest)
    have htail := ih (fun h => hopened (h.trans (List.suffix_cons c front).isInfix))
      (getLast?_ne_of_cons hopen)
    rw [List.cons_append, expandChars_cons hnone, htail, List.cons_append]

/-- A pattern without opening braces is kept. -/
theorem expandChars_eq_self {cs : List Char} (h : ¬ ['\x7b', '\x7b'] <:+: cs) :
    expandChars cs = cs := by
  induction cs with
  | nil => rw [expandChars]
  | cons c cs ih =>
    rw [List.infix_cons_iff, not_or] at h
    rw [expandChars_cons (placeholder?_eq_none h.1), ih h.2]

/-- A placeholder is closed behind its content. -/
theorem untilClosing?_append {inner : List Char} (hclosed : ¬ ['\x7d', '\x7d'] <:+: inner)
    (hclosing : inner.getLast? ≠ some '\x7d') (hline : '\n' ∉ inner) (after : List Char) :
    untilClosing? (inner ++ '\x7d' :: '\x7d' :: after) = some (inner, after) := by
  induction inner with
  | nil => rfl
  | cons c inner ih =>
    have htail := ih (fun h => hclosed (h.trans (List.suffix_cons c inner).isInfix))
      (getLast?_ne_of_cons hclosing) (fun h => hline (List.mem_cons_of_mem c h))
    have hc : c ≠ '\n' := fun h => hline (h ▸ List.mem_cons_self)
    rw [List.cons_append]
    unfold untilClosing?
    split
    · next heq => exact absurd heq (List.cons_ne_nil _ _)
    · next rest heq =>
      exact absurd ⟨rest, heq.symm⟩ (not_pair_begins hclosed hclosing _)
    · next heq =>
      obtain ⟨rfl, rfl⟩ := List.cons.inj heq
      rw [if_neg hc, htail]
      rfl

/-- A placeholder is written out. -/
theorem expandChars_content (x : Content) (after : List Char) :
    expandChars ("\x7b\x7b".toList ++ (x.text.toList ++ ("\x7d\x7d".toList ++ after))) =
      identifierStart.toList ++
        (x.text.toList ++ (identifierStop.toList ++ expandChars after)) := by
  have hclosed := untilClosing?_append x.not_closed x.not_closing x.one_line after
  have hplaceholder : placeholder? ('\x7b' :: '\x7b' :: (x.text.toList ++
      '\x7d' :: '\x7d' :: after)) = some (x.text.toList, after) := hclosed
  have hwritten := expandChars_placeholder hplaceholder
  rw [List.append_assoc, List.append_assoc] at hwritten
  exact hwritten

namespace Template

/-- A template that is followed by a pattern is written out, and the pattern is expanded. -/
theorem expandChars_source (t : Template) (rest : List Char) :
    expandChars (t.source.toList ++ rest) = t.written.toList ++ expandChars rest := by
  obtain ⟨opening, placeholders⟩ := t
  unfold source written fill
  induction placeholders generalizing opening with
  | nil =>
    simp only [List.foldr_nil, String.append_empty]
    exact expandChars_append opening.not_opened opening.not_open rest
  | cons xt placeholders ih =>
    obtain ⟨x, after⟩ := xt
    simp only [List.foldr_cons, String.toList_append, List.append_assoc] at ih ⊢
    rw [expandChars_append opening.not_opened opening.not_open, expandChars_content, ih]
    rfl

/-- A template is written out. -/
theorem expand_source (t : Template) : expand t.source = t.written := by
  have h := t.expandChars_source []
  rw [List.append_nil, expandChars, List.append_nil] at h
  unfold expand
  rw [h, String.ofList_toList]

end Template

/-- Placeholders are written out where they stand, and nothing else is changed: so are all the
placeholders of a template, also with a pattern behind it, and none in a pattern without a pair of
opening braces. -/
theorem expand_templates :
    (∀ t : Template, expand t.source = t.written) ∧
      (∀ (t : Template) (rest : String),
        expand (t.source ++ rest) = expand t.source ++ expand rest) ∧
      ∀ pattern : String, ¬ ['\x7b', '\x7b'] <:+: pattern.toList → expand pattern = pattern := by
  refine ⟨Template.expand_source, fun t rest => ?_, fun pattern h => ?_⟩
  · rw [t.expand_source]
    unfold expand
    rw [String.toList_append, t.expandChars_source, String.ofList_append, String.ofList_toList]
  · unfold expand
    rw [expandChars_eq_self h, String.ofList_toList]

/-- A template with braces that belong to no placeholder. -/
def strayBraces : Template where
  opening := ⟨"a\x7d", by decide, by decide⟩
  rest := [(⟨"\x7bb\x7dc", by decide, by decide, by decide⟩, ⟨"\x7d", by decide, by decide⟩),
    (⟨"d", by decide, by decide, by decide⟩, ⟨"\x7be", by decide, by decide⟩)]

/-- The braces that belong to no placeholder are kept. -/
theorem expand_templates_strayBraces :
    strayBraces.source = "a\x7d\x7b\x7b\x7bb\x7dc\x7d\x7d\x7d\x7b\x7bd\x7d\x7d\x7be" ∧
      expand strayBraces.source = "a\x7d(?<![A-Za-z0-9_])(?:\x7bb\x7dc)(?![A-Za-z0-9_])\x7d" ++
        "(?<![A-Za-z0-9_])(?:d)(?![A-Za-z0-9_])\x7be" :=
  ⟨by decide, (expand_templates.1 strayBraces).trans (by decide)⟩

end Footprint.Pattern
