import LayeredFiles.Proofs.Disk.Reading
import LayeredFiles.Proofs.Disk.Tree
import LayeredFiles.Proofs.NormalPath
/-
Module: LayeredFiles.Proofs.Disk.Below
Layer: Proofs
Purpose: what lies below a folder. The text of a normal path is walked part by part, and a walk of some
  parts and then of others is a walk of the others from where the first have led. So a path that goes on
  from a folder by names, and not upwards, leads to what lies below that folder; by one name it leads to an
  entry of the folder.
Main exports: NormalPath.namesOf_chars, NormalPath.IsNormal.walkFrom_of_walk,
  Disk.exists_walkFrom_append, Disk.LiesBelow, Disk.liesBelow_of_stat, Disk.HasEntry,
  Disk.hasEntry_of_isFile, Disk.exists_mem_names_iff
-/

namespace LayeredFiles

open Text (splitOn joinWith)

namespace NormalPath

variable {p : NormalPath}

/-! ### The text of a path as a walk -/

/-- The names in the text of a path are its parts, if it has some. -/
theorem namesOf_chars (normal : p.IsNormal) (nonempty : p.parts ≠ []) :
    Disk.namesOf p.chars = p.parts := by
  have cut : splitOn '/' (joinWith ['/'] p.parts) = p.parts :=
    Text.splitOn_joinWith nonempty (fun part mem => (normal part mem).2.2)
  have named : p.parts.filter (· ≠ []) = p.parts := by
    apply List.filter_eq_self.2
    intro part mem
    simpa using (normal part mem).1
  have joined : rootText p.root ++ joinWith ['/'] p.parts ≠ [] :=
    fun empty => normal.joinWith_ne_nil nonempty (List.append_eq_nil_iff.1 empty).2
  rw [chars_of_ne_nil joined, Disk.namesOf]
  cases p.root with
  | relative =>
      change (splitOn '/' (joinWith ['/'] p.parts)).filter (· ≠ []) = p.parts
      rw [cut, named]
  | single =>
      change (splitOn '/' ('/' :: joinWith ['/'] p.parts)).filter (· ≠ []) = p.parts
      rw [Text.splitOn_cons_self, cut, List.filter_cons_of_neg (by simp), named]
  | double =>
      change (splitOn '/' ('/' :: '/' :: joinWith ['/'] p.parts)).filter (· ≠ []) = p.parts
      rw [Text.splitOn_cons_self, Text.splitOn_cons_self, cut, List.filter_cons_of_neg (by simp),
        List.filter_cons_of_neg (by simp), named]

/-- A walk of the text of a path is a walk of its parts. -/
theorem walkFrom_chars (normal : p.IsNormal) (disk : Disk) (start : Place) (isOpen : Bool)
    (rest : List (List Char)) : disk.walkFrom start isOpen (Disk.namesOf p.chars ++ rest) =
      disk.walkFrom start isOpen (p.parts ++ rest) := by
  by_cases empty : p.parts = []
  · obtain ⟨root, parts⟩ := p
    subst empty
    -- Without parts the text is a root, or the dot that stands for the folder one is in.
    cases root <;> rfl
  · rw [namesOf_chars normal empty]

/-- The folder that a path starts from. -/
def start (p : NormalPath) (disk : Disk) : Place :=
  if p.root = .relative then disk.here else []

theorem startOf_text (normal : p.IsNormal) (disk : Disk) : disk.startOf p.text = p.start disk := by
  have relative := normal.head?_joinWith
  obtain ⟨root, parts⟩ := p
  rw [Disk.startOf, start, text, String.toList_ofList]
  cases root with
  | single => rfl
  | double => rfl
  | relative =>
      have notRoot : (⟨.relative, parts⟩ : NormalPath).chars.head? ≠ some '/' := by
        by_cases empty : parts = []
        · subst empty
          decide
        · have isText : (⟨.relative, parts⟩ : NormalPath).chars = joinWith ['/'] parts :=
            chars_of_ne_nil (normal.joinWith_ne_nil empty)
          rw [isText]
          exact relative
      rw [if_neg notRoot, if_pos rfl]

/-- Where the text of a path leads, its parts lead. -/
theorem IsNormal.walkFrom_of_walk (normal : p.IsNormal) {disk : Disk} {spot : Disk.Spot}
    (walked : disk.walk p.text = .ok spot) :
    ∃ isOpen, disk.walkFrom (p.start disk) isOpen p.parts = .ok spot := by
  obtain ⟨-, walked⟩ := Disk.walkFrom_of_walk walked
  have names := walkFrom_chars normal disk (p.start disk) (p.text.toList.getLast? = some '/') []
  rw [List.append_nil, List.append_nil] at names
  rw [startOf_text normal, text, String.toList_ofList] at walked
  rw [text, String.toList_ofList] at names
  exact ⟨_, names ▸ walked⟩

/-- More parts make a longer text, unless the path is that of the folder one is in. -/
theorem chars_prefix (elsewhere : p ≠ here) (normal : p.IsNormal) (names : List (List Char)) :
    p.chars <+: (⟨p.root, p.parts ++ names⟩ : NormalPath).chars := by
  have longer : joinWith ['/'] p.parts <+: joinWith ['/'] (p.parts ++ names) := by
    induction names using List.reverseRecOn with
    | nil => exact (List.append_nil p.parts).symm ▸ List.prefix_rfl
    | append_singleton names last ih =>
        rw [← List.append_assoc]
        by_cases empty : p.parts ++ names = []
        · rw [(List.append_eq_nil_iff.1 empty).1]
          exact List.nil_prefix
        · rw [Text.joinWith_concat empty]
          exact ih.trans (List.prefix_append _ _)
  have nonempty : rootText p.root ++ joinWith ['/'] p.parts ≠ [] := by
    intro empty
    obtain ⟨noRoot, noParts⟩ := List.append_eq_nil_iff.1 empty
    apply elsewhere
    obtain ⟨root, parts⟩ := p
    have relative : root = .relative := by cases root <;> first | rfl | cases noRoot
    have none : parts = [] := by
      by_contra some
      exact normal.joinWith_ne_nil some noParts
    rw [relative, none, here]
  have whole : rootText p.root ++ joinWith ['/'] p.parts <+:
      rootText p.root ++ joinWith ['/'] (p.parts ++ names) := (List.prefix_append_right_inj _).2 longer
  have nonempty' : rootText p.root ++ joinWith ['/'] (p.parts ++ names) ≠ [] := by
    intro empty
    rw [empty] at whole
    exact nonempty (List.prefix_nil.1 whole)
  rw [chars_of_ne_nil nonempty, chars_of_ne_nil nonempty']
  exact whole

/-- A path that is short enough for a walk is so without its last parts. -/
theorem IsNormal.fits_of_longer (normal : p.IsNormal) (names : List (List Char))
    (fits : (⟨p.root, p.parts ++ names⟩ : NormalPath).text.utf8ByteSize < Disk.pathLimit) :
    p.text.utf8ByteSize < Disk.pathLimit := by
  by_cases here : p = NormalPath.here
  · subst here
    decide
  · obtain ⟨more, longer⟩ := chars_prefix here normal names
    rw [text, ← longer, String.ofList_append, String.utf8ByteSize_append] at fits
    rw [text]
    omega

theorem chars_ne_nil (p : NormalPath) : p.chars ≠ [] := by
  unfold chars
  split
  · exact List.cons_ne_nil _ _
  · rename_i nonempty
    exact nonempty

/-- Where the parts of a path lead, its text leads, if it is short enough. -/
theorem IsNormal.walk_of_walkFrom (normal : p.IsNormal) {disk : Disk} {spot : Disk.Spot}
    (fits : p.text.utf8ByteSize < Disk.pathLimit)
    (walked : disk.walkFrom (p.start disk) (p.text.toList.getLast? = some '/') p.parts = .ok spot) :
    disk.walk p.text = .ok spot := by
  have nonempty : p.text.toList ≠ [] := by
    rw [text, String.toList_ofList]
    exact p.chars_ne_nil
  have names : disk.walkFrom (p.start disk) (p.text.toList.getLast? = some '/')
      (Disk.namesOf p.text.toList) = .ok spot := by
    have parts := walkFrom_chars normal disk (p.start disk) (p.text.toList.getLast? = some '/') []
    rw [List.append_nil, List.append_nil, walked] at parts
    rw [← parts, text, String.toList_ofList]
  rw [← startOf_text normal] at names
  simp only [Disk.walk, if_neg nonempty, if_neg (Nat.not_le.2 fits)]
  exact names

end NormalPath

namespace Disk

variable {disk : Disk}

theorem fits_of_walk {path : String} {spot : Spot} (walked : disk.walk path = .ok spot) :
    path.utf8ByteSize < pathLimit := by
  simp only [walk] at walked
  split at walked
  · cases walked
  · split at walked
    · cases walked
    · rename_i fits
      exact Nat.not_le.1 fits

/-! ### Walks that go on -/

/-- What a walk has come to is a folder. -/
def Spot.IsFolder (disk : Disk) (top : Place) : Spot → Prop
  | .folder place => place = top
  | .entry inside name _ => inside ++ [name] = top ∧ disk.find? top = some .folder

theorem stat_of_isFolder {path : String} {spot : Spot} {top : Place}
    (walked : disk.walk path = .ok spot) (isFolder : spot.IsFolder disk top) :
    disk.stat path = .ok (top, .folder) := by
  rw [stat, walked]
  cases spot with
  | folder place =>
      have same : place = top := isFolder
      rw [same]
  | entry folder name isOpen =>
      obtain ⟨same, isFound⟩ := isFolder
      simp only [same, isFound]

/-- A walk that goes on behind some names has come to a folder by these. -/
theorem exists_walkFrom_append {front rest : List (List Char)} {start : Place} {isOpen : Bool}
    {spot : Spot} (more : rest ≠ [])
    (walked : disk.walkFrom start isOpen (front ++ rest) = .ok spot) :
    ∃ top, disk.walkFrom top isOpen rest = .ok spot ∧
      ∀ isOpen', ∃ spot', disk.walkFrom start isOpen' front = .ok spot' ∧ spot'.IsFolder disk top := by
  obtain ⟨top, passes, walkedRest⟩ := exists_passes_of_walkFrom more walked
  refine ⟨top, walkedRest, fun isOpen' => ?_⟩
  obtain walkedFront | ⟨folder, last, isTop, isFolder, walkedFront⟩ := passes.walkFrom isOpen'
  · exact ⟨_, walkedFront, rfl⟩
  · exact ⟨_, walkedFront, isTop, isFolder⟩

/-! ### Below a folder -/

/-- The place lies below what a path leads to, and that is a folder. -/
def LiesBelow (disk : Disk) (place : Place) (folder : NormalPath) : Prop :=
  ∃ top names, disk.stat folder.text = .ok (top, .folder) ∧ names ≠ [] ∧ place = top ++ names

theorem isOpen_of_walkFrom {names : List (List Char)} {start folder : Place} {last : String}
    {isOpen isOpen' : Bool}
    (walked : disk.walkFrom start isOpen names = .ok (.entry folder last isOpen')) :
    isOpen' = isOpen := by
  obtain ⟨-, -, -, -, -, same, -⟩ := walkFrom_eq_entry_iff.1 walked
  exact same

/-- Two paths that are walked alike lead to one file, if both lead to a file. -/
theorem stat_eq_of_walkFrom {path path' : String} {place place' : Place} {bytes bytes' : List UInt8}
    {start : Place} {names : List (List Char)}
    (found : disk.stat path = .ok (place, .file bytes))
    (found' : disk.stat path' = .ok (place', .file bytes'))
    (walks : ∀ spot, disk.walk path = .ok spot → ∃ isOpen, disk.walkFrom start isOpen names = .ok spot)
    (walks' : ∀ spot, disk.walk path' = .ok spot →
      ∃ isOpen, disk.walkFrom start isOpen names = .ok spot) :
    disk.stat path = disk.stat path' := by
  obtain ⟨folder, last, walked, -⟩ := walk_of_stat found
  obtain ⟨folder', last', walked', -⟩ := walk_of_stat found'
  obtain ⟨isOpen, way⟩ := walks _ walked
  obtain ⟨isOpen', way'⟩ := walks' _ walked'
  -- No slash comes behind either of them.
  have closed := isOpen_of_walkFrom way
  have closed' := isOpen_of_walkFrom way'
  rw [← closed] at way
  rw [← closed', way] at way'
  rw [stat, stat, walked, walked', way']

/-- A path to a file that goes on behind a folder by names was walked to that folder and then by the names. -/
theorem exists_walkFrom_of_stat {folder : NormalPath} {names : List (List Char)} {place : Place}
    {bytes : List UInt8} (normal : NormalPath.IsNormal ⟨folder.root, folder.parts ++ names⟩)
    (nonempty : names ≠ [])
    (found : disk.stat (⟨folder.root, folder.parts ++ names⟩ : NormalPath).text =
      .ok (place, .file bytes)) :
    ∃ top inside last isOpen, disk.stat folder.text = .ok (top, .folder) ∧
      disk.walkFrom top isOpen names = .ok (.entry inside last false) ∧ place = inside ++ [last] ∧
      disk.find? place = some (.file bytes) := by
  have normalFolder : folder.IsNormal := fun part mem => normal part (List.mem_append_left _ mem)
  obtain ⟨inside, last, walked, isPlace, holds⟩ := walk_of_stat found
  obtain ⟨isOpen, walkedParts⟩ := normal.walkFrom_of_walk walked
  obtain ⟨top, walkedNames, walkedFolder⟩ := exists_walkFrom_append nonempty walkedParts
  obtain ⟨spot', walkedFolder, isTop⟩ := walkedFolder (folder.text.toList.getLast? = some '/')
  have fits := normalFolder.fits_of_longer names (fits_of_walk walked)
  have isFolder := stat_of_isFolder (normalFolder.walk_of_walkFrom fits walkedFolder) isTop
  exact ⟨top, inside, last, isOpen, isFolder, walkedNames, isPlace, holds⟩

/-- A path that goes on from a folder by names leads to what lies below the folder. -/
theorem liesBelow_of_stat {folder : NormalPath} {names : List (List Char)} {place : Place}
    {bytes : List UInt8} (normal : NormalPath.IsNormal ⟨folder.root, folder.parts ++ names⟩)
    (nonempty : names ≠ []) (down : ['.', '.'] ∉ names)
    (found : disk.stat (⟨folder.root, folder.parts ++ names⟩ : NormalPath).text =
      .ok (place, .file bytes)) :
    disk.LiesBelow place folder := by
  obtain ⟨top, inside, last, isOpen, isFolder, walked, rfl, -⟩ :=
    exists_walkFrom_of_stat normal nonempty found
  obtain ⟨middle, rfl⟩ := IsTree.prefix_of_walkFrom down walked
  exact ⟨top, middle ++ [last], isFolder, by simp, by rw [List.append_assoc]⟩

/-! ### Entries of a folder -/

/-- The path is that of a folder, and something in it has the name. -/
def HasEntry (disk : Disk) (folder name : String) : Prop :=
  folder.toList.contains '\x00' = false ∧
    ∃ place node, disk.stat folder = .ok (place, .folder) ∧ disk.find? (place ++ [name]) = some node

/-- A file that is found right below a folder is an entry of the folder. -/
theorem hasEntry_of_isFile {folder : NormalPath} {name : List Char} (elsewhere : folder ≠ .here)
    (normal : NormalPath.IsNormal ⟨folder.root, folder.parts ++ [name]⟩) (down : name ≠ ['.', '.'])
    (isThere : disk.isFile (⟨folder.root, folder.parts ++ [name]⟩ : NormalPath).text = true) :
    disk.HasEntry folder.text (String.ofList name) := by
  have normalFolder : folder.IsNormal := fun part mem => normal part (List.mem_append_left _ mem)
  have notDot : name ≠ ['.'] := (normal name (by simp)).2.1
  obtain ⟨free, bytes, read⟩ := isFile_iff.1 isThere
  constructor
  · rw [List.contains_eq_mem, decide_eq_false_iff_not] at free ⊢
    rw [NormalPath.text, String.toList_ofList] at free ⊢
    exact fun nul => free ((NormalPath.chars_prefix elsewhere normalFolder [name]).subset nul)
  · obtain ⟨place, found⟩ := exists_stat_of_readBytes read
    obtain ⟨top, inside, last, isOpen, isFolder, walked, rfl, holds⟩ :=
      exists_walkFrom_of_stat normal (List.cons_ne_nil _ _) found
    obtain ⟨dot, -⟩ | ⟨dots, -⟩ | ⟨-, isEntry⟩ := cases_of_walkFrom_singleton walked
    · exact absurd dot notDot
    · exact absurd dots down
    · cases isEntry
      exact ⟨top, _, isFolder, holds⟩

theorem mem_names_iff {place : Place} {name : String} {node : Node} :
    (name, node) ∈ disk.names place ↔ (place ++ [name], node) ∈ disk.nodes := by
  rw [names, List.mem_filterMap]
  constructor
  · rintro ⟨⟨place', node'⟩, mem, taken⟩
    split at taken
    · rename_i last isLast
      split at taken
      · rename_i inside
        cases taken
        rw [beq_iff_eq] at inside
        rw [← inside, List.dropLast_append_getLast? name isLast]
        exact mem
      · cases taken
    · cases taken
  · intro mem
    exact ⟨_, mem, by simp⟩

/-- The names in a folder are those under which something is found. -/
theorem exists_mem_names_iff {place : Place} {name : String} :
    (∃ node, (name, node) ∈ disk.names place) ↔ ∃ node, disk.find? (place ++ [name]) = some node := by
  have below : place ++ [name] ≠ [] := by simp
  constructor
  · rintro ⟨node, mem⟩
    rw [mem_names_iff] at mem
    rw [find?, if_neg below]
    cases found : disk.nodes.find? (fun e => e.1 == place ++ [name]) with
    | none => exact absurd (List.find?_eq_none.1 found _ mem) (by simp)
    | some entry => exact ⟨entry.2, rfl⟩
  · rintro ⟨node, found⟩
    exact ⟨node, mem_names_iff.2 (mem_nodes_of_find? below found)⟩

end Disk

end LayeredFiles
