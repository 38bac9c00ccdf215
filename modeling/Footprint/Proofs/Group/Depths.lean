import Footprint.Proofs.Group.SectionTotals
import Footprint.Proofs.Text.Parts

/-!
# Depths of a grouping

Names and paths are grouped by some of their parts. Two members share a group just when they have
the same token (`Group.together_groupedBy_iff`), and a token of fewer parts can be found from one
of more parts, so that deeper groupings refine shallower ones (`depths_refine`). A token has the
parts that the depth asks for if there are more of them, or only one; of other names it lacks the
last part (`groupedByName_keeps_parts`).
-/

namespace Footprint

open Text

/-- Elements are gathered alike by tokens that are the same for all of them. -/
theorem gather_congr {α : Type} {token token' : α → Option String} {xs : List α}
    (h : ∀ x ∈ xs, token x = token' x) : gather token xs = gather token' xs := by
  unfold gather tokensOf withToken
  rw [List.filterMap_congr h]
  refine List.map_congr_left fun t _ => congrArg (Prod.mk t) ?_
  exact List.filter_congr fun x hx => by rw [h x hx]

/-- The same grouping by paths at another depth. -/
def PathGrouping.atDepth (options : PathGrouping) (depth : Nat) : PathGrouping :=
  { options with depth }

namespace Group

variable {g : Group} {token token' : Node → Option String}

/-- Members are grouped alike by tokens that are the same for all of them. -/
theorem groupedBy_congr (stamp : Stamp) (h : ∀ n ∈ g.members, token n = token' n) :
    g.groupedBy stamp token = g.groupedBy stamp token' := by
  have hnone : (g.members.filter fun n => (token n).isNone) =
      g.members.filter fun n => (token' n).isNone :=
    List.filter_congr fun n hn => by rw [h n hn]
  unfold groupedBy groupedByWith nestByToken leftOver
  rw [gather_congr h, hnone]

/-- Members that have tokens are grouped alike just when they have the same ones. -/
theorem groupedBy_eq_iff (stamp : Stamp) (hsome : ∀ n ∈ g.members, (token n).isSome) :
    g.groupedBy stamp token = g.groupedBy stamp token' ↔ ∀ n ∈ g.members, token n = token' n := by
  refine ⟨fun heq n hn => ?_, groupedBy_congr stamp⟩
  obtain ⟨t, ht⟩ := Option.isSome_iff_exists.mp (hsome n hn)
  have hmem : t ∈ tokensOf token g.members := (mem_tokensOf token g.members).mpr ⟨n, hn, ht⟩
  obtain ⟨place, hplace, -⟩ := exists_child?_groupedBy stamp hmem
  rw [heq, child?_groupedBy] at hplace
  obtain ⟨u, -, hu⟩ := Option.map_eq_some_iff.mp hplace
  -- The nested groups at the place have one name and the same members.
  obtain rfl : u = t := congrArg (·.label.fullName) hu
  have hmembers : withToken token' g.members u = withToken token g.members u :=
    congrArg members hu
  have hn' : n ∈ withToken token g.members u := (mem_withToken token g.members).mpr ⟨hn, ht⟩
  rw [← hmembers, mem_withToken] at hn'
  exact ht.trans hn'.2.symm

/-- Two nodes are members of one nested group. -/
def Together (r : Group) (x y : Node) : Prop :=
  ∃ h members, Node.group h members ∈ r.members ∧ x ∈ members ∧ y ∈ members

/-- Nodes that share a nested group of the first list share one of the second list. -/
def Refines (r r' : Group) : Prop :=
  ∀ x y, r.Together x y → r'.Together x y

/-- Members share a group when they share a token. -/
theorem together_groupedBy_iff {stamp : Stamp} {name : Node → String} {x y : Node} :
    (g.groupedBy stamp fun n => some (name n)).Together x y ↔
      x ∈ g.members ∧ y ∈ g.members ∧ name x = name y := by
  unfold Together
  rw [members_groupedBy]
  constructor
  · rintro ⟨h, members, hmem, hx, hy⟩
    obtain ⟨⟨p, place⟩, hp, heq⟩ := List.mem_map.mp hmem
    obtain ⟨t, -, rfl⟩ := List.mem_map.mp (List.fst_mem_of_mem_zipIdx hp)
    obtain ⟨-, rfl⟩ := Node.group.inj heq
    obtain ⟨hx, hxt⟩ := (mem_withToken _ _).mp hx
    obtain ⟨hy, hyt⟩ := (mem_withToken _ _).mp hy
    exact ⟨hx, hy, Option.some.inj (hxt.trans hyt.symm)⟩
  · rintro ⟨hx, hy, heq⟩
    have hgather : (name y, withToken (fun n => some (name n)) g.members (name y)) ∈
        gather (fun n => some (name n)) g.members :=
      List.mem_map_of_mem ((mem_tokensOf _ _).mpr ⟨y, hy, rfl⟩)
    obtain ⟨place, hplace⟩ := List.mem_iff_getElem?.mp hgather
    have hzip := List.mk_mem_zipIdx_iff_getElem?.mpr hplace
    refine ⟨_, _, List.mem_map_of_mem hzip, ?_, ?_⟩
    · exact (mem_withToken _ _).mpr ⟨hx, congrArg some heq⟩
    · exact (mem_withToken _ _).mpr ⟨hy, rfl⟩

/-- A list that is grouped by other tokens is finer when the tokens of the second list can be found
from those of the first. -/
theorem refines_groupedBy {stamp stamp' : Stamp} {name name' : Node → String}
    (h : ∀ x y, name x = name y → name' x = name' y) :
    (g.groupedBy stamp fun n => some (name n)).Refines
      (g.groupedBy stamp' fun n => some (name' n)) := by
  intro x y hxy
  obtain ⟨hx, hy, heq⟩ := together_groupedBy_iff.mp hxy
  exact together_groupedBy_iff.mpr ⟨hx, hy, h x y heq⟩

/-- What separates the parts of a name. -/
def nameSeparator : List Char := "::".toList

/-- What separates the parts of a path. -/
def pathSeparator : List Char := "/".toList

/-- Something separates the parts of a name. -/
theorem nameSeparator_ne_nil : nameSeparator ≠ [] := by decide

/-- Something separates the parts of a path. -/
theorem pathSeparator_ne_nil : pathSeparator ≠ [] := by decide

/-- The token of a name. -/
theorem nameToken_eq (d : Int) (name : String) : nameToken d name = String.ofList
    (if 0 ≤ d then takeParts nameSeparator d.natAbs name.toList
      else dropTrailingParts nameSeparator d.natAbs name.toList) := rfl

/-- The token of a depth that is not negative. -/
theorem nameToken_of_nonneg {d : Int} (hd : 0 ≤ d) (name : String) :
    nameToken d name = String.ofList (takeParts nameSeparator d.natAbs name.toList) := by
  rw [nameToken_eq, if_pos hd]

/-- The token of a negative depth. -/
theorem nameToken_neg {d : Int} (hd : 1 ≤ d) (name : String) :
    nameToken (-d) name = String.ofList (dropTrailingParts nameSeparator d.natAbs name.toList) := by
  rw [nameToken_eq, if_neg (by omega), Int.natAbs_neg]

/-- The whole name is the token of depth 0. -/
theorem nameToken_zero (name : String) : nameToken 0 name = name :=
  (nameToken_of_nonneg le_rfl name).trans String.ofList_toList

/-- The token with fewer leading parts, found from the one with more. -/
theorem nameToken_of_le {d d' : Int} (hd : 1 ≤ d) (hle : d ≤ d') (name : String) :
    nameToken d name =
      String.ofList (leading nameSeparator d.natAbs (nameToken d' name).toList) := by
  rw [nameToken_of_nonneg (by omega), nameToken_of_nonneg (by omega), String.toList_ofList,
    leading_takeParts nameSeparator_ne_nil (by omega) (by omega)]

/-- The token without more trailing parts, found from the one without fewer. -/
theorem nameToken_neg_of_le {d d' : Int} (hd : 1 ≤ d) (hle : d ≤ d') (name : String) :
    nameToken (-d') name = String.ofList
      (dropTrailingParts nameSeparator (d' - d).natAbs (nameToken (-d) name).toList) := by
  have hsum : d'.natAbs = d.natAbs + (d' - d).natAbs := by omega
  rw [nameToken_neg (by omega), nameToken_neg hd, String.toList_ofList, hsum,
    dropTrailingParts_add]

/-- The first `k` parts of a name. -/
def leadingName (k : Nat) (name : String) : String :=
  String.ofList (leading nameSeparator k name.toList)

/-- The number of parts of a name. -/
def nameParts (name : String) : Nat :=
  (parts nameSeparator name.toList).length

/-- The token of a positive depth has the first parts of the name. -/
theorem nameToken_of_pos {d : Int} (hd : 0 < d) (name : String) :
    nameToken d name = leadingName (keptOf d.natAbs (nameParts name)) name := by
  rw [nameToken_of_nonneg hd.le, takeParts_eq_leading nameSeparator_ne_nil (by omega)]
  rfl

/-- The token has all the parts that the depth asks for if there are more, or just one. -/
theorem nameToken_eq_leadingName_iff {d : Int} (hd : 0 < d) (name : String) :
    nameToken d name = leadingName d.natAbs name ↔
      nameParts name = 1 ∨ d.natAbs < nameParts name := by
  rw [nameToken_of_nonneg hd.le, leadingName, String.ofList_inj]
  exact takeParts_eq_leading_iff nameSeparator_ne_nil (by omega) name.toList

/-- The token of a token is another one, unless one part is asked for or there are two at most. -/
theorem nameToken_nameToken_iff {d : Int} (hd : 0 < d) (name : String) :
    nameToken d (nameToken d name) = nameToken d name ↔ d ≤ 1 ∨ nameParts name ≤ 2 := by
  have hone : d ≤ 1 ↔ d.natAbs ≤ 1 := by omega
  rw [nameToken_of_nonneg hd.le, nameToken_of_nonneg hd.le, String.toList_ofList,
    String.ofList_inj, hone]
  exact takeParts_takeParts_iff nameSeparator_ne_nil d.natAbs name.toList

/-- The path by which a member is grouped: the source path, the object path or the fallback. -/
def groupingPath (options : PathGrouping) (f : Facts) : String :=
  let path :=
    if options.fallbackToObjectPath && f.sourcePath.isEmpty then f.objectPath else f.sourcePath
  if path.isEmpty then options.fallback else path

/-- The token of a path. -/
theorem pathToken_eq (options : PathGrouping) (f : Facts) : pathToken options f =
    String.ofList (takeParts pathSeparator options.depth (groupingPath options f).toList) := rfl

/-- The token with fewer directories, found from the one with more. -/
theorem pathToken_of_le (options : PathGrouping) {d d' : Nat} (hd : 1 ≤ d) (hle : d ≤ d')
    (f : Facts) : pathToken (options.atDepth d) f =
      String.ofList (leading pathSeparator d (pathToken (options.atDepth d') f).toList) := by
  rw [pathToken_eq, pathToken_eq, String.toList_ofList]
  exact congrArg String.ofList (leading_takeParts pathSeparator_ne_nil hd hle _).symm

/-- The whole path is the token of depth 0. -/
theorem pathToken_zero (options : PathGrouping) (f : Facts) :
    pathToken (options.atDepth 0) f = groupingPath options f :=
  String.ofList_toList

/-- The token with some of the directories, found from the whole path. -/
theorem pathToken_of_whole (options : PathGrouping) (d : Nat) (f : Facts) :
    pathToken (options.atDepth d) f =
      String.ofList (takeParts pathSeparator d (pathToken (options.atDepth 0) f).toList) := by
  rw [pathToken_zero]
  rfl

/-- A grouping by paths in which no group is too small. -/
theorem groupedByPath_atDepth (g : Group) (stamp : Stamp) {options : PathGrouping}
    (h : options.minCount = 0) (d : Nat) : g.groupedByPath stamp (options.atDepth d) =
      g.groupedBy stamp fun n => some (pathToken (options.atDepth d) n.facts) := by
  unfold groupedByPath
  rw [show (options.atDepth d).minCount = 0 from h]

/-- How the groups of different depths lie in each other, when no group is too small. -/
structure DepthsRefine (g : Group) : Prop where
  /-- Each member has a group at each depth. -/
  named : ∀ stamp d, ∀ n ∈ g.members, (g.groupedByName stamp d).Together n n
  /-- More leading parts of a name refine fewer. -/
  leadingParts : ∀ stamp stamp' d d', 1 ≤ d → d ≤ d' →
    (g.groupedByName stamp d').Refines (g.groupedByName stamp' d)
  /-- Fewer dropped trailing parts of a name refine more. -/
  trailingParts : ∀ stamp stamp' d d', 1 ≤ d → d ≤ d' →
    (g.groupedByName stamp (-d)).Refines (g.groupedByName stamp' (-d'))
  /-- The whole name refines each depth. -/
  wholeName : ∀ stamp stamp' d, (g.groupedByName stamp 0).Refines (g.groupedByName stamp' d)
  /-- Each member has a group by its path at each depth. -/
  located : ∀ stamp (options : PathGrouping), options.minCount = 0 → ∀ d, ∀ n ∈ g.members,
    (g.groupedByPath stamp (options.atDepth d)).Together n n
  /-- More directories of a path refine fewer. -/
  directories : ∀ stamp stamp' (options : PathGrouping), options.minCount = 0 → ∀ d d', 1 ≤ d →
    d ≤ d' → (g.groupedByPath stamp (options.atDepth d')).Refines
      (g.groupedByPath stamp' (options.atDepth d))
  /-- The whole path refines each depth. -/
  wholePath : ∀ stamp stamp' (options : PathGrouping), options.minCount = 0 → ∀ d,
    (g.groupedByPath stamp (options.atDepth 0)).Refines
      (g.groupedByPath stamp' (options.atDepth d))

end Group

/-- A grouping by more parts of names or paths refines the one by fewer, and one by all of them each
other one. Trailing parts may be dropped in two steps. -/
theorem depths_refine : (∀ g : Group, g.DepthsRefine) ∧ ∀ m n name,
    dropTrailingParts Group.nameSeparator n (dropTrailingParts Group.nameSeparator m name) =
      dropTrailingParts Group.nameSeparator (m + n) name := by
  refine ⟨fun g => ?_, fun m n name => (dropTrailingParts_add _ m n name).symm⟩
  refine { named := ?named, leadingParts := ?leadingParts, trailingParts := ?trailingParts,
           wholeName := ?wholeName, located := ?located, directories := ?directories,
           wholePath := ?wholePath }
  case named => exact fun stamp d n hn => Group.together_groupedBy_iff.mpr ⟨hn, hn, rfl⟩
  case leadingParts =>
    intro stamp stamp' d d' hd hle
    refine Group.refines_groupedBy fun x y heq => ?_
    rw [Group.nameToken_of_le hd hle, heq, ← Group.nameToken_of_le hd hle]
  case trailingParts =>
    intro stamp stamp' d d' hd hle
    refine Group.refines_groupedBy fun x y heq => ?_
    rw [Group.nameToken_neg_of_le hd hle, heq, ← Group.nameToken_neg_of_le hd hle]
  case wholeName =>
    intro stamp stamp' d
    refine Group.refines_groupedBy fun x y heq => ?_
    rw [Group.nameToken_zero, Group.nameToken_zero] at heq
    rw [heq]
  case located =>
    intro stamp options hmin d n hn
    rw [g.groupedByPath_atDepth stamp hmin]
    exact Group.together_groupedBy_iff.mpr ⟨hn, hn, rfl⟩
  case directories =>
    intro stamp stamp' options hmin d d' hd hle
    rw [g.groupedByPath_atDepth stamp hmin, g.groupedByPath_atDepth stamp' hmin]
    refine Group.refines_groupedBy fun x y heq => ?_
    rw [Group.pathToken_of_le options hd hle, heq, ← Group.pathToken_of_le options hd hle]
  case wholePath =>
    intro stamp stamp' options hmin d
    rw [g.groupedByPath_atDepth stamp hmin, g.groupedByPath_atDepth stamp' hmin]
    refine Group.refines_groupedBy fun x y heq => ?_
    rw [Group.pathToken_of_whole options d, heq, ← Group.pathToken_of_whole options d]

/-- A text is cut to the parts that are asked for, if there are more of them or only one; the last
part of any other text is lost. So names are grouped by their first parts just when each of them
has more parts than the depth asks for, or only one. -/
theorem groupedByName_keeps_parts {sep : List Char} (hsep : sep ≠ []) :
    (∀ text, KeepsParts sep text) ∧ ∀ (g : Group) stamp depth, 0 < depth →
      (∀ minCount, g.groupedByName stamp depth minCount = g.groupedBy stamp (fun n => some
        (Group.leadingName (keptOf depth.natAbs (Group.nameParts n.facts.name)) n.facts.name))
          minCount) ∧
      (g.groupedByName stamp depth =
          g.groupedBy stamp (fun n => some (Group.leadingName depth.natAbs n.facts.name)) ↔
        ∀ n ∈ g.members, Group.nameParts n.facts.name = 1 ∨
          depth.natAbs < Group.nameParts n.facts.name) ∧
      ∀ name, Group.nameToken depth (Group.nameToken depth name) = Group.nameToken depth name ↔
        depth ≤ 1 ∨ Group.nameParts name ≤ 2 := by
  refine ⟨keepsParts hsep, fun g stamp depth hdepth => ⟨fun minCount => ?_, ?_,
    Group.nameToken_nameToken_iff hdepth⟩⟩
  · unfold Group.groupedByName
    simp only [Group.nameToken_of_pos hdepth]
  · unfold Group.groupedByName
    rw [Group.groupedBy_eq_iff stamp fun _ _ => rfl]
    simp only [Option.some.injEq, Group.nameToken_eq_leadingName_iff hdepth]

/-- A name of three parts that is cut to two of them. -/
theorem groupedByName_keeps_two :
    let g := Group.ofTable ⟨⟨0⟩,
      #[.ofRecord ⟨0⟩ { sectionName := ".text", size := 4, name := "std::map::insert" }], #[]⟩
    Group.nameSeparator ≠ [] ∧ (0 : Int) < 2 ∧ Group.leadingName 2 "std::map::insert" = "std::map" ∧
      g.groupedByName ⟨1⟩ 2 =
        g.groupedBy ⟨1⟩ fun n => some (Group.leadingName 2 n.facts.name) := by
  intro g
  have hsep := Group.nameSeparator_ne_nil
  obtain ⟨-, hnames⟩ := groupedByName_keeps_parts hsep
  obtain ⟨-, hiff, -⟩ := hnames g ⟨1⟩ 2 (by decide)
  have hparts : ∀ n ∈ g.members, Group.nameParts n.facts.name = 1 ∨
    (2 : Int).natAbs < Group.nameParts n.facts.name := by decide +kernel
  exact ⟨hsep, by decide, by decide +kernel, hiff.mpr hparts⟩

/-- A name of two parts that is cut to two of them loses the second one, and a name of three parts
loses one each time it is cut to two. -/
theorem groupedByName_loses_part :
    let g := Group.ofTable ⟨⟨0⟩,
      #[.ofRecord ⟨0⟩ { sectionName := ".text", size := 4, name := "base::Foo" }], #[]⟩
    Group.leadingName 2 "base::Foo" = "base::Foo" ∧ Group.nameToken 2 "base::Foo" = "base" ∧
      (g.groupedByName ⟨1⟩ 2).members.map (·.facts.fullName) = ["base"] ∧
      Group.nameToken 2 "std::map::insert" = "std::map" ∧
      Group.nameToken 2 (Group.nameToken 2 "std::map::insert") = "std" := by
  decide +kernel

end Footprint
