/-!
# Symbol flags

Seven attributes that the extractor of a symbol records. A set of them is a number of seven bits;
bits that stand for no attribute are dropped when a set is read from a number.
-/

namespace Footprint

/-- An attribute of a symbol. -/
inductive Flag where
  /-- The symbol lives in an anonymous namespace, which its names leave out. -/
  | anonymous
  /-- The symbol runs at startup. -/
  | startup
  /-- The symbol is a cold part of a function. -/
  | unlikely
  /-- The symbol holds relocations. -/
  | rel
  /-- The symbol holds local relocations. -/
  | relLocal
  /-- The symbol comes from a generated source file. -/
  | generatedSource
  /-- The symbol is a clone of a function. -/
  | clone
deriving Repr, DecidableEq

namespace Flag

/-- The flags in the order of their bits. -/
def all : List Flag :=
  [anonymous, startup, unlikely, rel, relLocal, generatedSource, clone]

/-- The place of the flag's bit. -/
def bit : Flag → Nat
  | anonymous => 0
  | startup => 1
  | unlikely => 2
  | rel => 3
  | relLocal => 4
  | generatedSource => 5
  | clone => 6

/-- The short name of the flag in listings. -/
def label : Flag → String
  | anonymous => "anon"
  | startup => "startup"
  | unlikely => "unlikely"
  | rel => "rel"
  | relLocal => "rel.loc"
  | generatedSource => "gen"
  | clone => "clone"

end Flag

/-- A set of flags. -/
structure Flags where
  /-- The bits of the flags. -/
  bits : BitVec 7
deriving Repr, DecidableEq

namespace Flags

/-- No flags. -/
def none : Flags := ⟨0⟩

/-- The known flags among the bits of a number. -/
def ofNat (n : Nat) : Flags := ⟨BitVec.ofNat 7 n⟩

/-- The number with the bits of the flags. -/
def toNat (s : Flags) : Nat := s.bits.toNat

/-- Whether a flag is in the set. -/
def has (s : Flags) (f : Flag) : Bool := s.bits.getLsbD f.bit

/-- The set with a flag put in or taken out. -/
def set (s : Flags) (f : Flag) (value : Bool) : Flags :=
  let mask := BitVec.twoPow 7 f.bit
  ⟨if value then s.bits ||| mask else s.bits &&& ~~~mask⟩

/-- The short names of the flags in the set. -/
def labels (s : Flags) : List String :=
  (Flag.all.filter s.has).map Flag.label

/-- Reading back the number of a set gives the set. -/
theorem ofNat_toNat (s : Flags) : ofNat s.toNat = s := by
  simp [ofNat, toNat]

/-- The number of the known flags is the number without its other bits. -/
theorem toNat_ofNat (n : Nat) : (ofNat n).toNat = n % 128 := by
  simp [ofNat, toNat]

/-- Setting a flag changes that flag only. -/
theorem has_set (s : Flags) (f g : Flag) (value : Bool) :
    (s.set f value).has g = if g = f then value else s.has g := by
  cases value <;> cases f <;> cases g <;> simp [set, has, Flag.bit]

end Flags

end Footprint
