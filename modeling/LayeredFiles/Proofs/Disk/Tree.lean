import LayeredFiles.Proofs.Disk.Files
import Mathlib.Data.List.Induction
/-
Module: LayeredFiles.Proofs.Disk.Tree
Layer: Proofs
Purpose: disks that are trees. Everything on them lies in a folder, so the folders on the way to a place
  are there as soon as the place holds something. Whatever is put into a folder, and does not take the
  place of a folder as a file, leaves a tree.
Main exports: Disk.IsTree, Disk.IsTree.find?_of_isFront, Disk.IsTree.put, Disk.IsTree.folder_of_walkFrom,
  Disk.IsTree.walkFrom_of_folder
-/

namespace LayeredFiles.Disk

/-- Everything lies in a folder, and so do the paths that start nowhere else. -/
structure IsTree (disk : Disk) : Prop where
  here : disk.find? disk.here = some .folder
  inside : ∀ entry ∈ disk.nodes, disk.find? entry.1.dropLast = some .folder

instance (disk : Disk) : Decidable disk.IsTree :=
  decidable_of_iff (disk.find? disk.here = some .folder ∧
      ∀ entry ∈ disk.nodes, disk.find? entry.1.dropLast = some .folder)
    ⟨fun ⟨here, inside⟩ => ⟨here, inside⟩, fun isTree => ⟨isTree.here, isTree.inside⟩⟩

@[simp] theorem find?_nil (disk : Disk) : disk.find? [] = some .folder := if_pos rfl

theorem mem_nodes_of_find? {disk : Disk} {place : Place} {node : Node} (below : place ≠ [])
    (found : disk.find? place = some node) : (place, node) ∈ disk.nodes := by
  rw [find?, if_neg below, Option.map_eq_some_iff] at found
  obtain ⟨⟨place', node'⟩, isFirst, rfl⟩ := found
  have same : place' = place := by simpa using List.find?_some isFirst
  exact same ▸ List.mem_of_find?_eq_some isFirst

namespace IsTree

variable {disk : Disk}

/-- Above everything there is a folder. -/
theorem find?_dropLast (isTree : disk.IsTree) {place : Place} {node : Node}
    (found : disk.find? place = some node) : disk.find? place.dropLast = some .folder := by
  by_cases root : place = []
  · rw [root]
    exact find?_nil disk
  · exact isTree.inside _ (mem_nodes_of_find? root found)

/-- On the way to a folder there are folders only. -/
theorem find?_of_isFront (isTree : disk.IsTree) {front place : Place} (isFront : front <+: place)
    (isFolder : disk.find? place = some .folder) : disk.find? front = some .folder := by
  obtain ⟨rest, rfl⟩ := isFront
  induction rest using List.reverseRecOn with
  | nil => simpa using isFolder
  | append_singleton rest last ih =>
      refine ih ?_
      have above := isTree.find?_dropLast isFolder
      rwa [← List.append_assoc, List.dropLast_concat] at above

/-- A node that is put into a folder leaves a tree, if it is not a file in the place of a folder. -/
theorem put (isTree : disk.IsTree) {place : Place} {node : Node} (below : place ≠ [])
    (inside : disk.find? place.dropLast = some .folder)
    (keeps : node = .folder ∨ disk.find? place ≠ some .folder) : (disk.put place node).IsTree := by
  have kept : ∀ other, disk.find? other = some .folder →
      (disk.put place node).find? other = some .folder := by
    intro other isFolder
    by_cases same : other = place
    · subst same
      rcases keeps with rfl | noFolder
      · exact find?_put_self disk other .folder below
      · exact absurd isFolder noFolder
    · rw [find?_put_of_ne disk node same]
      exact isFolder
  refine ⟨kept _ isTree.here, fun entry mem => kept _ ?_⟩
  rcases List.mem_cons.1 mem with rfl | mem
  · exact inside
  · exact isTree.inside entry (List.mem_filter.1 mem).1

/-- Names lead from a folder of the tree to one. -/
theorem folder_of_passes (isTree : disk.IsTree) {names : List (List Char)} {start top : Place}
    (isFolder : disk.find? start = some .folder) (passes : Passes disk start names top) :
    disk.find? top = some .folder := by
  induction passes with
  | done start => exact isFolder
  | stay _ ih => exact ih isFolder
  | back _ ih => exact ih (isTree.find?_dropLast isFolder)
  | enter _ isFolder' _ ih => exact ih isFolder'

/-- A walk from a folder ends in a folder. -/
theorem folder_of_walkFrom (isTree : disk.IsTree) {names : List (List Char)} {start folder : Place}
    {isOpen isOpen' : Bool} {last : String} (isFolder : disk.find? start = some .folder)
    (walked : disk.walkFrom start isOpen names = .ok (.entry folder last isOpen')) :
    disk.find? folder = some .folder := by
  obtain ⟨front, name, -, -, -, -, passes⟩ := walkFrom_eq_entry_iff.1 walked
  exact isTree.folder_of_passes isFolder passes

/-- A path leads into a folder. -/
theorem folder_of_walk (isTree : disk.IsTree) {path : String} {folder : Place} {last : String}
    {isOpen : Bool} (walked : disk.walk path = .ok (.entry folder last isOpen)) :
    disk.find? folder = some .folder := by
  refine isTree.folder_of_walkFrom ?_ (walkFrom_of_walk walked).2
  unfold startOf
  split
  · exact find?_nil disk
  · exact isTree.here

/-- Without double dots a walk goes down only. -/
theorem prefix_of_walkFrom {names : List (List Char)} {start folder : Place} {isOpen isOpen' : Bool}
    {last : String} (down : ['.', '.'] ∉ names)
    (walked : disk.walkFrom start isOpen names = .ok (.entry folder last isOpen')) :
    start <+: folder := by
  obtain ⟨front, name, rfl, -, -, -, passes⟩ := walkFrom_eq_entry_iff.1 walked
  rw [passes.eq_descend]
  exact prefix_descend (fun mem => down (List.mem_append_left _ mem)) start

/-- Names that lead down to a folder of the tree lead there on the tree, if they do on some disk. -/
theorem passes_of_folder {other : Disk} (isTree : disk.IsTree) {names : List (List Char)}
    {start top : Place} (down : ['.', '.'] ∉ names) (passes : Passes other start names top)
    (isFolder : disk.find? top = some .folder) : Passes disk start names top := by
  induction passes with
  | done start => exact .done start
  | stay _ ih => exact .stay (ih (fun mem => down (List.mem_cons_of_mem _ mem)) isFolder)
  | back => exact absurd List.mem_cons_self down
  | @enter start top name rest isName _ passes ih =>
      have downRest : ['.', '.'] ∉ rest := fun mem => down (List.mem_cons_of_mem _ mem)
      have onTheWay : start ++ [String.ofList name] <+: top := by
        rw [passes.eq_descend]
        exact prefix_descend downRest _
      exact .enter isName (isTree.find?_of_isFront onTheWay isFolder) (ih downRest isFolder)

/-- Where a walk down leads on some disk, it leads on every tree that has the folder at its end. -/
theorem walkFrom_of_folder {other : Disk} (isTree : disk.IsTree) {names : List (List Char)}
    {start folder : Place} {isOpen isOpen' : Bool} {last : String} (down : ['.', '.'] ∉ names)
    (walked : other.walkFrom start isOpen names = .ok (.entry folder last isOpen'))
    (isFolder : disk.find? folder = some .folder) :
    disk.walkFrom start isOpen names = .ok (.entry folder last isOpen') := by
  obtain ⟨front, name, rfl, isName, rfl, rfl, passes⟩ := walkFrom_eq_entry_iff.1 walked
  have downFront : ['.', '.'] ∉ front := fun mem => down (List.mem_append_left _ mem)
  exact walkFrom_eq_entry_iff.2
    ⟨front, name, rfl, isName, rfl, rfl, isTree.passes_of_folder downFront passes isFolder⟩

end IsTree

end LayeredFiles.Disk
