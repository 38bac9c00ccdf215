import Mathlib.Data.List.Basic
import Footprint.Group.Cluster
import Footprint.Proofs.Text.Counter

/-!
# Cluster keys

A node with a name has a cluster key that is made of the name, and a node without one has a mark of
its own, which is made of its identity. Identities have different texts, so that no two nodes have
one mark; but a mark is a text like any other, and a node may be named by it (`clusterKey_eq_mark_iff`).
A node that is named by a cluster key has this key (`clusterKey_of_fullName_eq_clusterKey`).
-/

namespace Footprint

/-- Nested groups with one text are the same. -/
theorem GroupId.text_inj {a b : GroupId} (h : a.text = b.text) : a = b := by
  have hnodot : ∀ id : GroupId,
      ∀ digits ∈ (id.stamp.time :: id.path).map fun n => (Text.hex n).toList, '.' ∉ digits := by
    intro id digits hdigits hdot
    obtain ⟨n, -, rfl⟩ := List.mem_map.mp hdigits
    have hdigit := Text.isSome_hexDigit?_of_mem_hex hdot
    exact absurd hdigit (by decide)
  have hchars : ∀ id : GroupId, id.text.toList =
      'g' :: ['.'].intercalate ((id.stamp.time :: id.path).map fun n => (Text.hex n).toList) := by
    intro id
    simp only [text, String.toList_append, String.toList_intercalate, List.map_map]
    rfl
  have hparts := (List.cons.inj ((hchars a).symm.trans ((congrArg String.toList h).trans
    (hchars b)))).2
  -- The parts of a text are read back at its dots.
  have hnumbers := congrArg (List.splitOn '.') hparts
  rw [List.splitOn_intercalate _ (hnodot a) (by simp),
    List.splitOn_intercalate _ (hnodot b) (by simp)] at hnumbers
  have hinj : Function.Injective fun n => (Text.hex n).toList := fun _ _ heq =>
    Text.hex_inj (String.toList_injective heq)
  obtain ⟨htime, hpath⟩ := List.cons.inj (List.map_injective_iff.mpr hinj hnumbers)
  obtain ⟨⟨time⟩, path⟩ := a
  obtain ⟨⟨time'⟩, path'⟩ := b
  cases htime
  cases hpath
  rfl

/-- The text of a symbol is not that of a nested group. -/
theorem SymbolId.text_ne_text (id : SymbolId) (group : GroupId) : id.text ≠ group.text := by
  intro h
  have hmem : 'g' ∈ (Text.hex id.index).toList := by
    rw [show Text.hex id.index = group.text from h, GroupId.text, String.toList_append]
    exact List.mem_append_left _ List.mem_cons_self
  exact absurd (Text.isSome_hexDigit?_of_mem_hex hmem) (by decide)

/-- Nodes with one text are the same. -/
theorem NodeId.text_inj {a b : NodeId} (h : a.text = b.text) : a = b := by
  cases a with
  | symbol id =>
    cases b with
    | symbol id' => exact congrArg (fun index => symbol ⟨index⟩) (Text.hex_inj h)
    | group group => exact absurd h (id.text_ne_text group)
  | group group =>
    cases b with
    | symbol id => exact absurd h.symm (id.text_ne_text group)
    | group group' => exact congrArg NodeId.group (GroupId.text_inj h)

/-- The cluster key that a node has when it has no name. -/
def Node.mark (n : Node) : String := "&" ++ n.id.text

/-- A mark begins with its sign. -/
theorem Node.head?_mark (n : Node) : n.mark.toList.head? = some '&' := by
  rw [mark, String.toList_append]
  rfl

/-- No mark is empty. -/
theorem Node.mark_ne_empty (n : Node) : n.mark ≠ "" := by
  intro hmark
  simpa [hmark] using n.head?_mark

/-- Nodes with one mark are the same. -/
theorem Node.id_eq_of_mark_eq {m n : Node} (h : m.mark = n.mark) : m.id = n.id :=
  NodeId.text_inj (by simpa [mark] using h)

variable {m n : Node}

/-- A node without a name has its mark as its cluster key. -/
theorem clusterKey_of_nameless (h : n.facts.fullName = "") : clusterKey n = n.mark := by
  unfold clusterKey
  simp [h, Node.mark]

/-- The cluster key of a node with a name is made of the name. -/
theorem clusterKey_of_named (h : n.facts.fullName ≠ "") :
    clusterKey n = if n.facts.fullName.toList.head? = some '*' then
      String.ofList (Text.withoutCounter n.facts.fullName.toList) else n.facts.fullName := by
  unfold clusterKey
  cases hchars : n.facts.fullName.toList with
  | nil => exact absurd (String.toList_eq_nil_iff.mp hchars) h
  | cons c rest =>
    by_cases hstar : c = '*'
    · simp [hstar, hchars]
    · simp [hstar, hchars]

/-- A cluster key that is made of a name begins as the name does. -/
theorem head?_clusterKey (h : n.facts.fullName ≠ "") :
    (clusterKey n).toList.head? = n.facts.fullName.toList.head? := by
  rw [clusterKey_of_named h]
  split
  · next hstar =>
    obtain ⟨rest, hrest⟩ := List.head?_eq_some_iff.mp hstar
    -- A star is no blank, so that no counter begins there.
    rw [hrest, String.toList_ofList, Text.withoutCounter_cons (by decide)]
    rfl
  · rfl

/-- No cluster key is empty. -/
theorem clusterKey_ne_empty (n : Node) : clusterKey n ≠ "" := by
  by_cases hname : n.facts.fullName = ""
  · rw [clusterKey_of_nameless hname]
    exact n.mark_ne_empty
  · intro hkey
    have hhead := head?_clusterKey hname
    rw [hkey] at hhead
    exact hname (String.toList_eq_nil_iff.mp (List.head?_eq_none_iff.mp hhead.symm))

/-- Two nodes have one cluster key when they have one name. -/
theorem clusterKey_eq_of_fullName_eq (h : m.facts.fullName = n.facts.fullName)
    (hne : n.facts.fullName ≠ "") : clusterKey m = clusterKey n := by
  rw [clusterKey_of_named (h ▸ hne), clusterKey_of_named hne, h]

/-- The nodes with the mark of a node as their cluster key: the node itself when it has no name, and
those that are named by the mark. -/
theorem clusterKey_eq_mark_iff : clusterKey m = n.mark ↔
    m.facts.fullName = "" ∧ m.id = n.id ∨ m.facts.fullName = n.mark := by
  by_cases hname : m.facts.fullName = ""
  · rw [clusterKey_of_nameless hname]
    simp only [hname, true_and, n.mark_ne_empty.symm, or_false]
    exact ⟨Node.id_eq_of_mark_eq, fun hid => by rw [Node.mark, Node.mark, hid]⟩
  · simp only [hname, false_and, false_or]
    have hhead := head?_clusterKey hname
    constructor
    · intro hkey
      -- The name begins with the sign of a mark, so that it is its own cluster key.
      have hstar : m.facts.fullName.toList.head? ≠ some '*' := by
        rw [← hhead, hkey, n.head?_mark]
        decide
      rwa [clusterKey_of_named hname, if_neg hstar] at hkey
    · intro hmark
      have hstar : m.facts.fullName.toList.head? ≠ some '*' := by
        rw [hmark, n.head?_mark]
        decide
      rw [clusterKey_of_named hname, if_neg hstar, hmark]

/-- A node that is named by a cluster key has this key. -/
theorem clusterKey_of_fullName_eq_clusterKey (h : n.facts.fullName = clusterKey m) :
    clusterKey n = clusterKey m := by
  have hne : n.facts.fullName ≠ "" := h ▸ clusterKey_ne_empty m
  rw [clusterKey_of_named hne, h]
  split
  · next hstar =>
    by_cases hname : m.facts.fullName = ""
    · rw [clusterKey_of_nameless hname, m.head?_mark] at hstar
      cases hstar
    · rw [head?_clusterKey hname] at hstar
      rw [clusterKey_of_named hname, if_pos hstar, String.toList_ofList,
        Text.withoutCounter_withoutCounter]
  · rfl

end Footprint
