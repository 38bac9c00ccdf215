import Mathlib.Data.List.Forall2
import Mathlib.Data.Nat.Digits.Defs
import Footprint.Group.Filter
import Footprint.Proofs.Text.Counter

/-!
# Texts of addresses

An address is written in one or more hexadecimal digits of either case, with blanks around them and
`0x` or `0X` in front (`Spells`). These texts are read, and no others are but those with a plus sign
between the mark and the digits (`address_grammar`). What is printed is read back.
-/

namespace Footprint.Text

open Unicode

/-- A hexadecimal digit of either case, and its value. -/
def HexDigit (c : Char) (d : Nat) : Prop :=
  d < 16 ∧ (c = d.digitChar ∨ c = d.digitChar.toUpper)

/-- The number that hexadecimal digits denote, the first digit being the highest one. -/
def Denotes (cs : List Char) (n : Nat) : Prop :=
  ∃ ds, List.Forall₂ HexDigit cs ds ∧ n = Nat.ofDigits 16 ds.reverse

/-- What may stand before the digits of an address. -/
def hexMarks : List (List Char) := [[], ['0', 'x'], ['0', 'X']]

/-- A text with a number in hexadecimal digits that follow a sign: there are blanks around it, and a
mark may stand in front. -/
inductive Spells (sign : List Char) : List Char → Nat → Prop where
  /-- The parts of the text. -/
  | mk {front mark digits back : List Char} {n : Nat} (hfront : ∀ c ∈ front, isBlank c)
      (hmark : mark ∈ hexMarks) (hne : digits ≠ []) (hdigits : Denotes digits n)
      (hback : ∀ c ∈ back, isBlank c) : Spells sign (front ++ (mark ++ sign ++ digits) ++ back) n

/-- A digit is read as its value. -/
theorem hexDigit?_eq_some_iff {c : Char} {d : Nat} : hexDigit? c = some d ↔ HexDigit c d := by
  constructor
  · intro h
    have hsmall : c.toNat < 128 := by
      have hle : ∀ {a b : Char}, a ≤ b → a.toNat ≤ b.toNat := id
      unfold hexDigit? at h
      split_ifs at h with h1 h2 h3
      · exact lt_of_le_of_lt (hle h1.2) (by decide)
      · exact lt_of_le_of_lt (hle h2.2) (by decide)
      · exact lt_of_le_of_lt (hle h3.2) (by decide)
    -- There are only so many characters that can be digits.
    have hall : ∀ n : Fin 128, ∀ d ∈ hexDigit? (Char.ofNat n), d < 16 ∧
        (Char.ofNat n = d.digitChar ∨ Char.ofNat n = d.digitChar.toUpper) := by decide
    have hc := hall ⟨c.toNat, hsmall⟩ d
    rw [Char.ofNat_toNat] at hc
    exact hc h
  · have hall : ∀ d : Fin 16, hexDigit? d.val.digitChar = some d.val ∧
        hexDigit? d.val.digitChar.toUpper = some d.val := by decide
    rintro ⟨hd, rfl | rfl⟩
    · exact (hall ⟨d, hd⟩).1
    · exact (hall ⟨d, hd⟩).2

/-- Digits are read as the number that they denote, from the number before them on. -/
theorem hexValue?_eq_some_iff {acc : Nat} {cs : List Char} {n : Nat} : hexValue? acc cs = some n ↔
    ∃ ds, List.Forall₂ HexDigit cs ds ∧ n = acc * 16 ^ ds.length + Nat.ofDigits 16 ds.reverse := by
  induction cs generalizing acc with
  | nil =>
    rw [hexValue?, Option.some.injEq]
    constructor
    · rintro rfl
      exact ⟨[], .nil, by simp⟩
    · rintro ⟨ds, hds, rfl⟩
      rw [List.forall₂_nil_left_iff.mp hds]
      simp
  | cons c cs ih =>
    have hstep : ∀ d (ds : List Nat), acc * 16 ^ (d :: ds).length +
        Nat.ofDigits 16 (d :: ds).reverse =
          (16 * acc + d) * 16 ^ ds.length + Nat.ofDigits 16 ds.reverse := by
      intro d ds
      rw [Nat.ofDigits_reverse_cons, List.length_cons, pow_succ]
      ring
    rw [hexValue?]
    simp only [Option.bind_eq_bind, Option.bind_eq_some_iff, hexDigit?_eq_some_iff, ih]
    constructor
    · rintro ⟨d, hd, ds, hds, rfl⟩
      exact ⟨d :: ds, .cons hd hds, (hstep d ds).symm⟩
    · rintro ⟨_, hds, rfl⟩
      obtain ⟨d, ds, hd, hrest, rfl⟩ := List.forall₂_cons_left_iff.mp hds
      exact ⟨d, hd, ds, hrest, hstep d ds⟩

/-- A text of digits is read as the number that it denotes. -/
theorem hexValue?_zero_eq_some_iff {cs : List Char} {n : Nat} :
    hexValue? 0 cs = some n ↔ Denotes cs n := by
  simp [hexValue?_eq_some_iff, Denotes]

/-- What denotes a number is made of digits. -/
theorem Denotes.isSome_hexDigit? {cs : List Char} {n : Nat} (h : Denotes cs n) :
    ∀ c ∈ cs, (hexDigit? c).isSome :=
  isSome_hexDigit?_of_hexValue? (hexValue?_zero_eq_some_iff.mpr h)

/-- A digit is no blank. -/
theorem isBlank_of_isSome_hexDigit? {c : Char} (h : (hexDigit? c).isSome) : isBlank c = false := by
  obtain ⟨d, hd⟩ := Option.isSome_iff_exists.mp h
  have hall : ∀ d : Fin 16, isBlank d.val.digitChar = false ∧
      isBlank d.val.digitChar.toUpper = false := by decide
  obtain ⟨hlt, rfl | rfl⟩ := hexDigit?_eq_some_iff.mp hd
  · exact (hall ⟨d, hlt⟩).1
  · exact (hall ⟨d, hlt⟩).2

/-- What stands around a trimmed text is blank. -/
theorem exists_trimBlanks (cs : List Char) : ∃ front back, cs = front ++ trimBlanks cs ++ back ∧
    (∀ c ∈ front, isBlank c) ∧ ∀ c ∈ back, isBlank c := by
  refine ⟨cs.takeWhile isBlank, ((cs.dropWhile isBlank).reverse.takeWhile isBlank).reverse, ?_, ?_,
    ?_⟩
  · rw [trimBlanks, List.append_assoc, ← List.reverse_append, List.takeWhile_append_dropWhile,
      List.reverse_reverse, List.takeWhile_append_dropWhile]
  · exact fun c hc => List.mem_takeWhile_imp hc
  · exact fun c hc => List.mem_takeWhile_imp (List.mem_reverse.mp hc)

/-- A text that is not empty and has no blanks is what is left of it between blanks. -/
theorem trimBlanks_append {front core back : List Char} (hfront : ∀ c ∈ front, isBlank c)
    (hne : core ≠ []) (hcore : ∀ c ∈ core, isBlank c = false) (hback : ∀ c ∈ back, isBlank c) :
    trimBlanks (front ++ core ++ back) = core := by
  have hfirst : ∀ c ∈ (core ++ back).head?, isBlank c = false := by
    rw [List.head?_append_of_ne_nil _ hne]
    exact fun c hc => hcore c (List.mem_of_mem_head? hc)
  have hlast : ∀ c ∈ core.reverse.head?, isBlank c = false :=
    fun c hc => hcore c (List.mem_reverse.mp (List.mem_of_mem_head? hc))
  have hback : ∀ c ∈ back.reverse, isBlank c := fun c hc => hback c (List.mem_reverse.mp hc)
  rw [trimBlanks, List.append_assoc, dropWhile_append_of_head? hfront hfirst, List.reverse_append,
    dropWhile_append_of_head? hback hlast, List.reverse_reverse]

/-- A mark is dropped from the front of a text. -/
theorem exists_dropHexMark (cs : List Char) : ∃ mark ∈ hexMarks, cs = mark ++ dropHexMark cs := by
  unfold dropHexMark
  split
  · exact ⟨['0', 'x'], by decide, rfl⟩
  · exact ⟨['0', 'X'], by decide, rfl⟩
  · exact ⟨[], by decide, rfl⟩

/-- Behind a mark, or where there is none, a text without the letter `x` stays. -/
theorem dropHexMark_append {mark cs : List Char} (hmark : mark ∈ hexMarks) (hx : 'x' ∉ cs)
    (hX : 'X' ∉ cs) : dropHexMark (mark ++ cs) = cs := by
  simp only [hexMarks, List.mem_cons, List.not_mem_nil, or_false] at hmark
  rcases hmark with rfl | rfl | rfl
  · unfold dropHexMark
    split
    · simp_all
    · simp_all
    · rfl
  · rfl
  · rfl

/-- What may stand between the mark and the digits of an address. -/
def signs : List (List Char) := [[], ['+']]

/-- A text without a plus sign at its front. -/
def dropPlus : List Char → List Char
  | '+' :: rest => rest
  | cs => cs

/-- A sign is dropped from the front of a text. -/
theorem exists_dropPlus (cs : List Char) : ∃ sign ∈ signs, cs = sign ++ dropPlus cs := by
  unfold dropPlus
  split
  · exact ⟨['+'], by decide, rfl⟩
  · exact ⟨[], by decide, rfl⟩

/-- Behind a sign, or where there is none, a text without a plus sign stays. -/
theorem dropPlus_append {sign cs : List Char} (hsign : sign ∈ signs) (hplus : '+' ∉ cs) :
    dropPlus (sign ++ cs) = cs := by
  simp only [signs, List.mem_cons, List.not_mem_nil, or_false] at hsign
  rcases hsign with rfl | rfl
  · unfold dropPlus
    split
    · simp_all
    · rfl
  · rfl

/-- A 64-bit number is read from the digits behind a sign. -/
theorem readHex64?_eq_some_iff {cs : List Char} {a : UInt64} : readHex64? cs = some a ↔
    dropPlus cs ≠ [] ∧ Denotes (dropPlus cs) a.toNat := by
  have hdef : readHex64? cs = if (dropPlus cs).isEmpty then none else
      (hexValue? 0 (dropPlus cs)).bind fun n =>
        if n < UInt64.size then some (UInt64.ofNat n) else none := by
    unfold readHex64?
    fun_cases dropPlus cs
    · rfl
    · next hplus =>
      split
      · exact absurd rfl (hplus _)
      · rfl
  rw [hdef, ← hexValue?_zero_eq_some_iff]
  generalize dropPlus cs = digits
  cases digits with
  | nil => simp
  | cons c cs =>
    rw [List.isEmpty_cons, if_neg Bool.false_ne_true, Option.bind_eq_some_iff,
      and_iff_right (List.cons_ne_nil c cs)]
    constructor
    · rintro ⟨n, hn, hread⟩
      split_ifs at hread with hlt
      rw [← Option.some.inj hread, UInt64.toNat_ofNat_of_lt' hlt]
      exact hn
    · intro h
      exact ⟨a.toNat, h, by rw [if_pos a.toNat_lt_size, UInt64.ofNat_toNat]⟩

/-- A character of an address is a blank, a digit, or one of the mark or of the sign. -/
theorem Spells.mem {sign cs : List Char} {n : Nat} (h : Spells sign cs n) {c : Char} (hc : c ∈ cs) :
    isBlank c ∨ c ∈ ['0', 'x', 'X'] ∨ c ∈ sign ∨ (hexDigit? c).isSome := by
  have hmarks : ∀ mark ∈ hexMarks, mark ⊆ ['0', 'x', 'X'] := by decide
  obtain ⟨hfront, hmark, -, hdigits, hback⟩ := h
  simp only [List.mem_append] at hc
  rcases hc with (hc | (hc | hc) | hc) | hc
  · exact .inl (hfront c hc)
  · exact .inr (.inl (hmarks _ hmark hc))
  · exact .inr (.inr (.inl hc))
  · exact .inr (.inr (.inr (hdigits.isSome_hexDigit? c hc)))
  · exact .inl (hback c hc)

/-- An address is read just when it is spelled with one of the signs. -/
theorem readAddress?_eq_some_iff {text : String} {a : UInt64} :
    readAddress? text = some a ↔ ∃ sign ∈ signs, Spells sign text.toList a.toNat := by
  rw [readAddress?, readHex64?_eq_some_iff]
  constructor
  · rintro ⟨hne, hdigits⟩
    obtain ⟨front, back, htext, hfront, hback⟩ := exists_trimBlanks text.toList
    obtain ⟨mark, hmark, hcore⟩ := exists_dropHexMark (trimBlanks text.toList)
    obtain ⟨sign, hsign, hrest⟩ := exists_dropPlus (dropHexMark (trimBlanks text.toList))
    have hspells : Spells sign _ a.toNat := .mk hfront hmark hne hdigits hback
    rw [List.append_assoc mark, ← hrest, ← hcore, ← htext] at hspells
    exact ⟨sign, hsign, hspells⟩
  · rintro ⟨sign, hsign, hspells⟩
    generalize text.toList = cs, a.toNat = n at hspells ⊢
    obtain ⟨hfront, hmark, hne, hdigits, hback⟩ := hspells
    next front mark digits back =>
    -- Neither a blank nor a letter of a mark nor a plus sign is a digit.
    have hdigit : ∀ c, (hexDigit? c).isSome = false → c ∉ digits := fun c hc hmem => by
      rw [hdigits.isSome_hexDigit? c hmem] at hc
      cases hc
    have hletters : ∀ sign ∈ signs, 'x' ∉ sign ∧ 'X' ∉ sign := by decide
    have hsigns : ∀ sign ∈ signs, sign.all (!isBlank ·) := by decide
    have hmarks : ∀ mark ∈ hexMarks, mark.all (!isBlank ·) := by decide
    obtain ⟨hx, hX⟩ := hletters sign hsign
    have hcore : ∀ c ∈ mark ++ sign ++ digits, isBlank c = false := by
      intro c hc
      rcases List.mem_append.mp hc with hc | hc
      · have hall : (mark ++ sign).all (!isBlank ·) := by
          rw [List.all_append, hmarks mark hmark, hsigns sign hsign]
          rfl
        simpa using List.all_eq_true.mp hall c hc
      · exact isBlank_of_isSome_hexDigit? (hdigits.isSome_hexDigit? c hc)
    have hmark : dropHexMark (mark ++ (sign ++ digits)) = sign ++ digits :=
      dropHexMark_append hmark (by simp [hx, hdigit 'x' rfl]) (by simp [hX, hdigit 'X' rfl])
    rw [trimBlanks_append hfront (List.append_ne_nil_of_right_ne_nil _ hne) hcore hback,
      List.append_assoc, hmark, dropPlus_append hsign (hdigit '+' rfl)]
    exact ⟨hne, hdigits⟩

/-- A text that is spelled with a plus sign is not spelled without one. -/
theorem not_spells_of_plus {cs : List Char} {m n : Nat} (h : Spells ['+'] cs m) :
    ¬ Spells [] cs n := by
  intro h'
  have hplus : '+' ∈ cs := by
    obtain ⟨-, -, -, -, -⟩ := h
    simp
  exact absurd (h'.mem hplus) (by decide)

/-- A printed number is spelled without a sign. -/
theorem spells_hex0x (n : Nat) : Spells [] (hex0x n).toList n := by
  have hne : Nat.toDigits 16 n ≠ [] := Nat.toDigits_ne_nil
  have hdigits : Denotes (Nat.toDigits 16 n) n :=
    hexValue?_zero_eq_some_iff.mp (hexValue?_toDigits n)
  have hspells : Spells [] ([] ++ (['0', 'x'] ++ [] ++ Nat.toDigits 16 n) ++ []) n :=
    .mk (by simp) (by decide) hne hdigits (by simp)
  simpa [hex0x, hex] using hspells

end Footprint.Text

namespace Footprint

open Text

/-- An address is what is read from its text. -/
theorem Group.address_eq_ok_iff {text : String} {a : UInt64} : address text = .ok a ↔
    Spells [] text.toList a.toNat ∨ Spells ['+'] text.toList a.toNat := by
  have hread : address text = .ok a ↔ readAddress? text = some a := by
    unfold address
    cases readAddress? text with
    | none => simp
    | some b => simp
  rw [hread, readAddress?_eq_some_iff]
  simp [signs]

/-- What is no address is refused with the text. -/
theorem Group.address_eq_error_iff {text : String} {e : Error} : address text = .error e ↔
    e = .invalidAddress text ∧ ∀ a, address text ≠ .ok a := by
  unfold address
  cases readAddress? text with
  | none => simp [eq_comm]
  | some a => simp

/-- How a text is read as an address, and how exactly. -/
structure ReadsAddress (text : String) : Prop where
  /-- The address is spelled without a sign, or with a plus sign. -/
  ok_iff : ∀ a, Group.address text = .ok a ↔
    Spells [] text.toList a.toNat ∨ Spells ['+'] text.toList a.toNat
  /-- Any other text is refused as it stands. -/
  error_iff : ∀ e, Group.address text = .error e ↔ e = .invalidAddress text ∧
    ∀ a : UInt64, ¬ Spells [] text.toList a.toNat ∧ ¬ Spells ['+'] text.toList a.toNat
  /-- Just the addresses without a sign are read, unless the text is one with a plus sign. -/
  exact_iff : (∀ a, Group.address text = .ok a ↔ Spells [] text.toList a.toNat) ↔
    ∀ a : UInt64, ¬ Spells ['+'] text.toList a.toNat
  /-- A text with a minus sign is refused. -/
  minus : '-' ∈ text.toList → Group.address text = .error (.invalidAddress text)
  /-- A printed address is read back. -/
  printed : ∀ a : UInt64, text = hex0x a.toNat → Group.address text = .ok a

/-- A text is read as an address just when it spells one, without a sign or else with a plus sign,
so that the texts with a plus sign are the only ones that are read and should not be. -/
theorem address_grammar (text : String) : ReadsAddress text where
  ok_iff _ := Group.address_eq_ok_iff
  error_iff e := by
    rw [Group.address_eq_error_iff]
    simp only [ne_eq, Group.address_eq_ok_iff, not_or]
  exact_iff := by
    simp only [Group.address_eq_ok_iff, or_iff_left_iff_imp]
    exact forall_congr' fun a => ⟨fun h hplus => not_spells_of_plus hplus (h hplus),
      fun h hplus => absurd hplus h⟩
  minus hminus := by
    refine Group.address_eq_error_iff.mpr ⟨rfl, fun a ha => ?_⟩
    rcases Group.address_eq_ok_iff.mp ha with h | h
    · exact absurd (h.mem hminus) (by decide)
    · exact absurd (h.mem hminus) (by decide)
  printed a htext := by
    rw [htext]
    exact Group.address_eq_ok_iff.mpr (.inl (spells_hex0x a.toNat))

/-- A plus sign before the digits is let through, behind a mark as well. -/
theorem address_plus :
    Group.address "+1f" = .ok 31 ∧ (∀ n, ¬ Spells [] "+1f".toList n) ∧
      Group.address "0x+1f" = .ok 31 ∧ ∀ n, ¬ Spells [] "0x+1f".toList n := by
  have hread : readAddress? "+1f" = some 31 ∧ readAddress? "0x+1f" = some 31 := by decide +kernel
  have hspells : ∀ cs n, '+' ∈ cs → ¬ Spells [] cs n := fun cs n hplus h =>
    absurd (h.mem hplus) (by decide)
  refine ⟨?_, fun n => hspells _ n (by decide), ?_, fun n => hspells _ n (by decide)⟩
  · rw [Group.address, hread.1]
  · rw [Group.address, hread.2]

end Footprint
