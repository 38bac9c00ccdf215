import Footprint.Unicode.Space

/-!
# Hexadecimal numbers

Addresses and ids are written in lower-case hexadecimal digits without leading zeros, and read
from digits of either case.
-/

namespace Footprint.Text

/-- A number in lower-case hexadecimal digits. -/
def hex (n : Nat) : String :=
  String.ofList (Nat.toDigits 16 n)

/-- A number in hexadecimal digits after `0x`. -/
def hex0x (n : Nat) : String :=
  "0x" ++ hex n

/-- The value of a hexadecimal digit. -/
def hexDigit? (c : Char) : Option Nat :=
  if '0' ≤ c ∧ c ≤ '9' then some (c.toNat - '0'.toNat)
  else if 'a' ≤ c ∧ c ≤ 'f' then some (c.toNat - 'a'.toNat + 10)
  else if 'A' ≤ c ∧ c ≤ 'F' then some (c.toNat - 'A'.toNat + 10)
  else none

/-- The value of a sequence of hexadecimal digits that follow the number `acc`. -/
def hexValue? (acc : Nat) : List Char → Option Nat
  | [] => some acc
  | c :: cs => do hexValue? (16 * acc + (← hexDigit? c)) cs

/-- Digits after others go on from the value of those. -/
theorem hexValue?_append (acc : Nat) (cs ds : List Char) :
    hexValue? acc (cs ++ ds) = (hexValue? acc cs).bind fun n => hexValue? n ds := by
  induction cs generalizing acc with
  | nil => rfl
  | cons c cs ih =>
    rw [List.cons_append, hexValue?, hexValue?]
    cases hexDigit? c with
    | none => rfl
    | some d => exact ih (16 * acc + d)

/-- A digit that is written has its value. -/
theorem hexDigit?_digitChar {d : Nat} (h : d < 16) : hexDigit? d.digitChar = some d := by
  have hall : ∀ d : Fin 16, hexDigit? d.val.digitChar = some d.val := by decide
  exact hall ⟨d, h⟩

/-- The digits of a number have its value. -/
theorem hexValue?_toDigits (n : Nat) : hexValue? 0 (Nat.toDigits 16 n) = some n := by
  induction n using Nat.strongRecOn with
  | ind n ih =>
    by_cases hlt : n < 16
    · rw [Nat.toDigits_of_lt_base hlt]
      simp [hexValue?, hexDigit?_digitChar hlt]
    · have hlast : n % 16 < 16 := Nat.mod_lt n (by decide)
      rw [Nat.toDigits_of_base_le (by decide) (by omega), hexValue?_append, ih _ (by omega)]
      simp [hexValue?, hexDigit?_digitChar hlast, Nat.div_add_mod]

/-- Two numbers with the same digits are the same. -/
theorem hex_inj {m n : Nat} (h : hex m = hex n) : m = n := by
  have hdigits : Nat.toDigits 16 m = Nat.toDigits 16 n := String.ofList_injective h
  exact Option.some.inj (by rw [← hexValue?_toDigits m, hdigits, hexValue?_toDigits])

/-- What has a value is made of digits. -/
theorem isSome_hexDigit?_of_hexValue? {acc n : Nat} {cs : List Char}
    (h : hexValue? acc cs = some n) : ∀ c ∈ cs, (hexDigit? c).isSome := by
  induction cs generalizing acc with
  | nil => simp
  | cons c cs ih =>
    rw [hexValue?] at h
    cases hc : hexDigit? c with
    | none => simp [hc] at h
    | some d =>
      simp only [hc, Option.bind_eq_bind, Option.bind_some] at h
      exact List.forall_mem_cons.mpr ⟨by simp [hc], ih h⟩

/-- A number is written in digits. -/
theorem isSome_hexDigit?_of_mem_hex {n : Nat} {c : Char} (h : c ∈ (hex n).toList) :
    (hexDigit? c).isSome := by
  rw [hex, String.toList_ofList] at h
  exact isSome_hexDigit?_of_hexValue? (hexValue?_toDigits n) c h

/-- A 64-bit number in one or more hexadecimal digits, after an optional plus sign. -/
def readHex64? (cs : List Char) : Option UInt64 := do
  let digits := match cs with
    | '+' :: rest => rest
    | _ => cs
  if digits.isEmpty then none
  let n ← hexValue? 0 digits
  if n < UInt64.size then some (UInt64.ofNat n) else none

/-- A text without a `0x` or `0X` at its front. -/
def dropHexMark : List Char → List Char
  | '0' :: 'x' :: rest => rest
  | '0' :: 'X' :: rest => rest
  | cs => cs

/-- Reads an address: blanks around it are ignored, and `0x` may stand before its digits. -/
def readAddress? (text : String) : Option UInt64 :=
  readHex64? (dropHexMark (Unicode.trimBlanks text.toList))

end Footprint.Text
