/-!
# Identifier placeholders

In a pattern, `{{x}}` stands for an `x` that is a whole identifier: neither the character before it
nor the one after it belongs to an identifier. `expand` writes the placeholder out as two
lookarounds of one character and a group.
-/

namespace Footprint.Pattern

/-- The text up to the next `}}` on its line, and the text after it. -/
def untilClosing? : List Char → Option (List Char × List Char)
  | [] => none
  | '\x7d' :: '\x7d' :: rest => some ([], rest)
  | c :: rest =>
    if c = '\n' then none
    else (untilClosing? rest).map fun (inner, after) => (c :: inner, after)

/-- What is before the content of a placeholder when it is written out. -/
def identifierStart : String := "(?<![A-Za-z0-9_])(?:"

/-- What is after it. -/
def identifierStop : String := ")(?![A-Za-z0-9_])"

/-- The content of the placeholder at the front of a text, and the text after the placeholder. -/
def placeholder? : List Char → Option (List Char × List Char)
  | '\x7b' :: '\x7b' :: body => untilClosing? body
  | _ => none

/-- What follows a closing is shorter than the text before it. -/
theorem length_untilClosing? {cs inner after : List Char}
    (h : untilClosing? cs = some (inner, after)) : after.length < cs.length := by
  fun_induction untilClosing? cs generalizing inner after with
  | case1 => simp at h
  | case2 rest =>
    obtain ⟨rfl, rfl⟩ := h
    simp only [List.length_cons]
    omega
  | case3 => simp at h
  | case4 c rest _ _ ih =>
    obtain ⟨⟨i, a⟩, h1, h2⟩ := Option.map_eq_some_iff.1 h
    obtain ⟨rfl, rfl⟩ := Prod.mk.inj h2
    have := ih h1
    simp only [List.length_cons]
    omega

/-- What follows a placeholder is shorter than the text before it. -/
theorem length_placeholder? {cs inner after : List Char}
    (h : placeholder? cs = some (inner, after)) : after.length < cs.length := by
  unfold placeholder? at h
  split at h
  · have := length_untilClosing? h
    simp only [List.length_cons]
    omega
  · simp at h

/-- A pattern with its placeholders written out, each as early and as short as possible. -/
def expandChars : List Char → List Char
  | [] => []
  | c :: rest =>
    match _h : placeholder? (c :: rest) with
    | some (inner, after) =>
      identifierStart.toList ++ inner ++ identifierStop.toList ++ expandChars after
    | none => c :: expandChars rest
termination_by cs => cs.length
decreasing_by
  · exact length_placeholder? _h
  · simp

/-- A pattern with its placeholders written out. -/
def expand (pattern : String) : String :=
  String.ofList (expandChars pattern.toList)

end Footprint.Pattern
