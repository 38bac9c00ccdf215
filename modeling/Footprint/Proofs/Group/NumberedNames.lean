import Footprint.Proofs.Group.ClusterKey

/-!
# Names of numbered fragments

Synthetic names begin with a star, and the numbered fragments of one filler have a base in common
with a counter behind it. No counter begins within a base (`FragmentBase`), so that the cluster key
drops the counter, whatever its number and its remark are, and nothing else
(`numbered_fragments_share_keys`).
-/

namespace Footprint

/-- What the names of numbered fragments share in front of their counters. -/
structure FragmentBase where
  /-- The text. -/
  text : String
  /-- The name is synthetic. -/
  starred : text.toList.head? = some '*'
  /-- The blanks in front of a number are not of the text. -/
  not_blank_end : ∀ c ∈ text.toList.getLast?, Unicode.isBlank c = false
  /-- No number stands behind a blank of the text. -/
  not_numbered : text.toList.IsChain fun c d => Unicode.isBlank c → Unicode.isDecimalDigit d = false

/-- A text that begins with a star is not empty. -/
theorem ne_empty_of_starred {name : String} (h : name.toList.head? = some '*') : name ≠ "" := by
  rintro rfl
  cases h

namespace FragmentBase

/-- The counter behind a base is replaced from its first blank on. -/
theorem withoutCounter_append (base : FragmentBase) (k : Text.Counter) :
    Text.withoutCounter (base.text.toList ++ k.text.toList) = base.text.toList ++ ['s'] := by
  refine Text.withoutCounter_append (Text.isCounter_iff.mpr ⟨k, rfl⟩) fun inner hinner hne => ?_
  have hlast : inner.getLast? = base.text.toList.getLast? := by
    obtain ⟨front, hfront⟩ := hinner
    rw [← hfront, List.getLast?_append_of_ne_nil _ hne]
  exact Text.isCounter_append hne (hlast ▸ base.not_blank_end) (base.not_numbered.suffix hinner) _

end FragmentBase

variable {n : Node}

/-- The cluster key of a synthetic name is the name without its counter. -/
theorem toList_clusterKey_of_starred (h : n.facts.fullName.toList.head? = some '*') :
    (clusterKey n).toList = Text.withoutCounter n.facts.fullName.toList := by
  rw [clusterKey_of_named (ne_empty_of_starred h), if_pos h, String.toList_ofList]

/-- The cluster key of a numbered fragment is its base with an `s`. -/
theorem clusterKey_of_numbered {base : FragmentBase} {k : Text.Counter}
    (h : n.facts.fullName = base.text ++ k.text) : clusterKey n = base.text ++ "s" := by
  have hbase : base.text.toList ≠ [] :=
    String.toList_eq_nil_iff.not.mpr (ne_empty_of_starred base.starred)
  have hchars : n.facts.fullName.toList = base.text.toList ++ k.text.toList := by
    rw [h, String.toList_append]
  have hstar : n.facts.fullName.toList.head? = some '*' := by
    rw [hchars, List.head?_append_of_ne_nil _ hbase, base.starred]
  apply String.toList_injective
  calc (clusterKey n).toList
      = Text.withoutCounter n.facts.fullName.toList := toList_clusterKey_of_starred hstar
    _ = Text.withoutCounter (base.text.toList ++ k.text.toList) := by rw [hchars]
    _ = base.text.toList ++ ['s'] := base.withoutCounter_append k
    _ = (base.text ++ "s").toList := by rw [String.toList_append]; rfl

/-- A synthetic name is its own cluster key exactly when no counter stands at its end. -/
theorem clusterKey_eq_fullName_iff (h : n.facts.fullName.toList.head? = some '*') :
    clusterKey n = n.facts.fullName ↔
      ∀ (front : String) (k : Text.Counter), n.facts.fullName ≠ front ++ k.text := by
  rw [← String.toList_inj, toList_clusterKey_of_starred h, Text.withoutCounter_eq_self_iff]
  constructor
  · intro hnone front k heq
    have hback : k.text.toList <:+ n.facts.fullName.toList :=
      ⟨front.toList, by rw [heq, String.toList_append]⟩
    have hno := hnone _ hback
    rw [Text.isCounter_iff.mpr ⟨k, rfl⟩] at hno
    cases hno
  · rintro hnone back ⟨front, hfront⟩
    rw [Bool.eq_false_iff, ne_eq, Text.isCounter_iff]
    rintro ⟨k, rfl⟩
    refine hnone (.ofList front) k (String.toList_injective ?_)
    rw [String.toList_append, String.toList_ofList, hfront]

/-- The cluster key of a numbered fragment is its base with an `s`, so that fragments share a key
exactly when they share a base; and a synthetic name is its own key exactly when no counter stands
at its end. -/
theorem numbered_fragments_share_keys :
    (∀ (base : FragmentBase) (k : Text.Counter) (n : Node),
      n.facts.fullName = base.text ++ k.text → clusterKey n = base.text ++ "s") ∧
      (∀ (base base' : FragmentBase) (k k' : Text.Counter) (m n : Node),
        m.facts.fullName = base.text ++ k.text → n.facts.fullName = base'.text ++ k'.text →
          (clusterKey m = clusterKey n ↔ base.text = base'.text)) ∧
      ∀ n : Node, n.facts.fullName.toList.head? = some '*' →
        (clusterKey n = n.facts.fullName ↔
          ∀ (front : String) (k : Text.Counter), n.facts.fullName ≠ front ++ k.text) := by
  refine ⟨fun _ _ _ h => clusterKey_of_numbered h, fun base base' k k' m n hm hn => ?_,
    fun _ h => clusterKey_eq_fullName_iff h⟩
  rw [clusterKey_of_numbered hm, clusterKey_of_numbered hn, String.append_left_inj]

/-- A filler between symbols. -/
def filler (name : String) : Node :=
  .leaf (.ofRecord ⟨0⟩ { sectionName := ".rodata", size := 4, fullName := name })

/-- A base with digits and parentheses of its own. -/
def gapBase : FragmentBase where
  text := "** gap (7) of a1"
  starred := by decide
  not_blank_end := by
    rintro _ ⟨⟩
    decide
  not_numbered := by decide

/-- A counter without a remark. -/
def plainCounter : Text.Counter where
  blanks := " "
  digits := "3"
  remark := none
  blanks_ne_empty := by decide
  isBlank_of_mem := List.all_eq_true.mp (by decide)
  digits_ne_empty := by decide
  isDecimalDigit_of_mem := List.all_eq_true.mp (by decide)
  one_line := by simp

/-- A counter at the end of which another one stands. -/
def doubleCounter : Text.Counter where
  blanks := "\t "
  digits := "12"
  remark := some "x) 8 (end of section"
  blanks_ne_empty := by decide
  isBlank_of_mem := List.all_eq_true.mp (by decide)
  digits_ne_empty := by decide
  isDecimalDigit_of_mem := List.all_eq_true.mp (by decide)
  one_line := by simp

/-- Two fillers share a key, which keeps the digits and the parentheses of their base. -/
theorem numbered_fragments_share_keys_gaps :
    let gap := filler "** gap (7) of a1 3"
    let lastGap := filler "** gap (7) of a1\t 12 (x) 8 (end of section)"
    clusterKey gap = "** gap (7) of a1s" ∧ clusterKey lastGap = clusterKey gap ∧
      ∀ (front : String) (k : Text.Counter), "** gap (7) of a1" ≠ front ++ k.text := by
  intro gap lastGap
  have hgap : gap.facts.fullName = gapBase.text ++ plainCounter.text := by decide
  have hlastGap : lastGap.facts.fullName = gapBase.text ++ doubleCounter.text := by decide
  obtain ⟨hkey, hshare, hkept⟩ := numbered_fragments_share_keys
  exact ⟨hkey gapBase plainCounter gap hgap,
    (hshare gapBase gapBase doubleCounter plainCounter lastGap gap hlastGap hgap).mpr rfl,
    (hkept (filler gapBase.text) (by decide)).mp (by decide)⟩

end Footprint
