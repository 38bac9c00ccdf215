import Footprint.Group.Grouping
import Footprint.Text.Counter

/-!
# Clustering

Parts of one symbol that were split apart, such as the hot and the cold part of a function or the
numbered fillers between symbols, become one nested group that looks like a single symbol.
-/

namespace Footprint

/-- The text that the parts of one symbol share. A nameless node has a text of its own, and a
synthetic name, which begins with a star, loses its counter. -/
def clusterKey (n : Node) : String :=
  let name := n.facts.fullName
  match name.toList with
  | [] => "&" ++ n.id.text
  | '*' :: _ => String.ofList (Text.withoutCounter name.toList)
  | _ => name

/-- The label of the parts that share a key: the names and the section of the first part under the
key as full name, or only the key for a synthetic name. -/
def clusterLabel (key : String) : List Node → Label
  | [] => .named key
  | first :: _ =>
    let f := first.facts
    if key.toList.head? == some '*' then .named key f.sectionName
    else ⟨key, f.templateName, f.name, f.sectionName⟩

/-- The parts of a symbol are labelled with the section of the first one. -/
@[simp]
theorem sectionName_clusterLabel_cons (key : String) (first : Node) (rest : List Node) :
    (clusterLabel key (first :: rest)).sectionName = first.facts.sectionName := by
  unfold clusterLabel
  dsimp only
  split <;> rfl

/-- The parts of a symbol are named by their key. -/
@[simp]
theorem fullName_clusterLabel (key : String) (parts : List Node) :
    (clusterLabel key parts).fullName = key := by
  cases parts with
  | nil => rfl
  | cons first rest =>
    unfold clusterLabel
    dsimp only
    split <;> rfl

/-- Parts that are all in one section are labelled with that section. -/
theorem sectionName_clusterLabel_of_forall {key sectionName : String} {parts : List Node}
    (hne : parts ≠ []) (h : ∀ n ∈ parts, n.facts.sectionName = sectionName) :
    (clusterLabel key parts).sectionName = sectionName := by
  obtain ⟨first, rest, rfl⟩ := List.exists_cons_of_ne_nil hne
  rw [sectionName_clusterLabel_cons]
  exact h first List.mem_cons_self

namespace Group

/-- The nested groups of the parts of split symbols, section by section, and the other members in
their places. -/
def clusterNodes (g : Group) (stamp : Stamp) : List Node :=
  (gather (fun n => some n.facts.sectionName) g.members).zipIdx.flatMap
    fun ((_, members), place) =>
      g.nestByToken (fun inner => ⟨stamp, [place, inner]⟩) (fun n => some (clusterKey n)) 2 true
        clusterLabel members

/-- Moves the parts of split symbols into nested groups, without crossing a section. -/
def clustered (g : Group) (stamp : Stamp) : Logged Group := do
  let r := g.transformed (g.clusterNodes stamp) [] {} g.isSorted
  .report (.clustered g.size r.size (r.members.countP Node.isGroup))
  return r

end Group

end Footprint
