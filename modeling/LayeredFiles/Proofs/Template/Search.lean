import LayeredFiles.Proofs.Chain.Name
import LayeredFiles.Proofs.Template.Faults
import LayeredFiles.Proofs.Template.Lookup
/-
Module: LayeredFiles.Proofs.Template.Search
Layer: Proofs
Purpose: the search for the template of an identifier and what is loaded afterwards. The identifiers of a
  chain lead to places below the root, except for the empty one, whose last place stands for itself. The
  file that is found is the file that is rendered. The search tells that nothing was found just if every
  place was probed and none is a file; a name that is too long ends it earlier.
Main exports: Template.StaysBelow, Template.staysBelow_iff_of_candidate, Template.Library.findAmong_cases,
  Template.Library.findAmong_none_iff, Template.Library.yields_renderPath,
  Template.Library.render_of_findAmong, Template.Library.render_of_template
-/

namespace LayeredFiles

/-- The fault tells that no candidate is a file. -/
def Fault.isNotFound : Fault → Bool
  | .noTemplate _ _ => true
  | _ => false

theorem Fault.isNotFound_of_isOfValues {fault : Fault} (isOfValues : fault.isOfValues = true) :
    fault.isNotFound = false := by
  cases fault <;> first | rfl | cases isOfValues

theorem Disk.yields_readText (disk : Disk) (encoding path : String) :
    Yields (fun fault => fault.isNotFound = false) (fun _ => True) (disk.readText encoding path) := by
  fun_cases Disk.readText disk encoding path with
  | case1 | case2 | case3 | case4 | case5 => rfl
  | case6 => exact True.intro

namespace Template

/-! ### Places of an identifier -/

/-- The path leads downwards only, by one name or several, wherever the root is. -/
structure StaysBelow (root : NormalPath) (path : String) : Prop where
  relative : path.toList.head? ≠ some '/'
  below : ∃ names, names ≠ [] ∧ (∀ name ∈ names, IsName name) ∧
    root.appendText path = ⟨root.root, root.parts ++ names⟩

theorem staysBelow_placeOf (root : NormalPath) {folder file : List Char} (isFolder : IsName folder)
    (isFile : IsName file) : StaysBelow root (placeOf folder file) where
  relative := head?_placeOf isFolder
  below := by
    refine ⟨[folder, file], List.cons_ne_nil _ _, isName_of_mem isFolder isFile, ?_⟩
    rw [NormalPath.appendText, ofString_placeOf isFolder isFile]
    rfl

/-- The file name of the second place. -/
def pageName (id : String) : List Char := id.toList ++ ['.', 'h', 't', 'm', 'l', '.', 'j', '2']

/-- The file name of the last place. -/
def mainName : List Char := ['t', 'e', 'm', 'p', 'l', 'a', 't', 'e', '.', 'j', '2']

theorem isName_mainName : IsName mainName := .of_length (by decide) (by decide)

theorem isName_pageName {id : String} (slashless : '/' ∉ id.toList) : IsName (pageName id) := by
  apply IsName.of_length
  · simp only [pageName, List.length_append, List.length_cons]
    omega
  · simp [pageName, slashless]

theorem pagePlace_eq (id : String) :
    partialsFolder ++ "/" ++ id ++ ".html.j2" = placeOf partialsName (pageName id) := by
  rw [← String.toList_inj]
  simp [placeOf, pageName, partialsFolder, partialsName]

theorem candidates_eq (id : String) :
    candidates id = [placeOf partialsName (ownName id), placeOf partialsName (pageName id),
      placeOf id.toList mainName] := by
  have main : id ++ "/template.j2" = placeOf id.toList mainName := by
    rw [← String.toList_inj]
    simp [placeOf, mainName]
  rw [← ownPlace_eq, ← pagePlace_eq, ← main]
  rfl

/-- A segment of a file name has no dot, so it does not lead anywhere else. -/
theorem isName_of_isSegment {id : String} (segment : IsSegment id) (nonempty : id ≠ "") :
    IsName id.toList where
  nonempty := by
    intro empty
    apply nonempty
    rw [← String.toList_inj, empty]
    rfl
  notDot := by
    intro dot
    exact segment.1 (by rw [dot]; decide)
  notDots := by
    intro dots
    exact segment.1 (by rw [dots]; decide)
  slashless := segment.2

/-- The templates of a chain are segments of a file name. -/
theorem isSegment_of_mem {path id : String} (isTemplate : id ∈ (ChainName.parse path).templates) :
    IsSegment id := by
  have chained : (ChainName.parse path).hasChain = true := by
    cases templates : (ChainName.parse path).templates with
    | nil =>
        rw [templates] at isTemplate
        cases isTemplate
    | cons first rest =>
        rw [ChainName.hasChain, templates]
        rfl
  exact (ChainName.wellFormed_parse chained).segments id isTemplate

/-- Every place of a template of a chain is a file in a folder, but for the last place of the empty
    identifier. -/
theorem place_of_candidate {id place : String} (segment : IsSegment id)
    (isCandidate : place ∈ candidates id) :
    (id = "" ∧ place = "/template.j2") ∨
      ∃ folder file, IsName folder ∧ IsName file ∧ place = placeOf folder file := by
  rw [candidates_eq, List.mem_cons, List.mem_cons, List.mem_singleton] at isCandidate
  rcases isCandidate with rfl | rfl | rfl
  · exact Or.inr ⟨_, _, isName_partialsName, isName_ownName segment.2, rfl⟩
  · exact Or.inr ⟨_, _, isName_partialsName, isName_pageName segment.2, rfl⟩
  · by_cases empty : id = ""
    · left
      subst empty
      exact ⟨rfl, by decide⟩
    · exact Or.inr ⟨_, _, isName_of_isSegment segment empty, isName_mainName, rfl⟩

theorem not_staysBelow_slash (root : NormalPath) (rest : List Char) :
    ¬StaysBelow root (String.ofList ('/' :: rest)) := by
  intro below
  apply below.relative
  rw [String.toList_ofList]
  rfl

/-- The places that stay below the root. -/
theorem staysBelow_iff_of_candidate (root : NormalPath) {id place : String}
    (segment : IsSegment id) (isCandidate : place ∈ candidates id) :
    StaysBelow root place ↔ ¬(id = "" ∧ place = "/template.j2") := by
  have absolute : ¬StaysBelow root "/template.j2" := not_staysBelow_slash root mainName
  constructor
  · rintro below ⟨-, rfl⟩
    exact absolute below
  · intro other
    rcases place_of_candidate segment isCandidate with same | ⟨folder, file, isFolder, isFile, rfl⟩
    · exact absurd same other
    · exact staysBelow_placeOf root isFolder isFile

namespace Library

variable {lib : Library} {disk : Disk}

/-! ### The search -/

/-- The search ends with the first place that is a file, or at a name that is too long. -/
theorem findAmong_cases (lib : Library) (disk : Disk) (places : List String) :
    lib.findAmong disk places = .ok (places.find? (fun place => disk.isFile (lib.pathOf place))) ∨
      ∃ place ∈ places, Disk.IsTooLong (lib.pathOf place) ∧
        lib.findAmong disk places = .error (Disk.faultOf (lib.pathOf place) .nameTooLong) := by
  induction places with
  | nil => exact Or.inl rfl
  | cons place rest ih =>
      rcases Disk.probeFile_cases disk (lib.pathOf place) with probed | ⟨refused, -⟩
      · rw [findAmong, probed, List.find?_cons]
        cases disk.isFile (lib.pathOf place) with
        | true => exact Or.inl rfl
        | false =>
            rcases ih with found | ⟨other, mem, tooLong, failed⟩
            · exact Or.inl found
            · exact Or.inr ⟨other, List.mem_cons_of_mem _ mem, tooLong, failed⟩
      · have failed : lib.findAmong disk (place :: rest) =
            .error (Disk.faultOf (lib.pathOf place) .nameTooLong) := by
          rw [findAmong, refused]
        have tooLong := Disk.isTooLong_of_stat (Disk.stat_of_probeFile refused)
        exact Or.inr ⟨place, List.mem_cons_self, tooLong, failed⟩

theorem yields_findAmong (lib : Library) (disk : Disk) (places : List String) :
    Yields (fun fault => fault.isNotFound = false) (fun _ => True) (lib.findAmong disk places) := by
  rcases findAmong_cases lib disk places with found | ⟨place, -, -, failed⟩
  · rw [found]
    exact True.intro
  · rw [failed]
    rfl

/-- What is found is a file. -/
theorem isFile_of_findAmong {places : List String} {place : String}
    (found : lib.findAmong disk places = .ok (some place)) :
    place ∈ places ∧ disk.isFile (lib.pathOf place) = true := by
  rcases findAmong_cases lib disk places with first | ⟨_, -, -, failed⟩
  · rw [first, Except.ok.injEq] at found
    have isThere := List.find?_some found
    exact ⟨List.mem_of_find?_eq_some found, isThere⟩
  · rw [failed] at found
    cases found

/-- Nothing is found just if every place is probed and none is a file. -/
theorem findAmong_none_iff (lib : Library) (disk : Disk) (places : List String) :
    lib.findAmong disk places = .ok none ↔
      ∀ place ∈ places, disk.probeFile (lib.pathOf place) = .ok false := by
  induction places with
  | nil => simp [findAmong]
  | cons place rest ih =>
      rw [findAmong, List.forall_mem_cons, ← ih]
      cases disk.probeFile (lib.pathOf place) with
      | error problem => simp
      | ok isFile => cases isFile <;> simp

/-! ### Rendering what was found -/

/-- The text of the template in a file, in a context. -/
def renderFile (disk : Disk) (file : String) (context : Value) : Except Fault String :=
  match disk.readText "utf-8" file with
  | .error fault => .error fault
  | .ok source =>
    match Parsed.read source.toList false with
    | .error fault => .error (.template fault)
    | .ok t => (t.renderWith context).map String.ofList

theorem renderPath_of_source {place file : String}
    (isSource : lib.source disk place = disk.readText "utf-8" file) (context : Value) :
    lib.renderPath disk place context = renderFile disk file context := by
  unfold renderPath load renderFile
  rw [isSource]
  cases disk.readText "utf-8" file with
  | error fault => rfl
  | ok source =>
      simp only
      cases Parsed.read source.toList false with
      | error fault => rfl
      | ok t => rfl

theorem yields_source (lib : Library) (disk : Disk) (place : String) :
    Yields (fun fault => fault.isNotFound = false) (fun _ => True) (lib.source disk place) := by
  fun_cases Library.source lib disk place with
  | case1 => rfl
  | case2 => exact disk.yields_readText _ _
  | case3 => rfl

theorem yields_load (lib : Library) (disk : Disk) (place : String) :
    Yields (fun fault => fault.isNotFound = false) (fun _ => True) (lib.load disk place) := by
  have yields := lib.yields_source disk place
  fun_cases Library.load lib disk place with
  | case1 fault failed =>
      rw [failed] at yields
      exact yields
  | case2 => rfl
  | case3 => exact True.intro

/-- A template that is there is never reported as missing. -/
theorem yields_renderPath (lib : Library) (disk : Disk) (place : String) (context : Value) :
    Yields (fun fault => fault.isNotFound = false) (fun _ => True)
      (lib.renderPath disk place context) := by
  have yields := lib.yields_load disk place
  fun_cases Library.renderPath lib disk place context with
  | case1 fault failed =>
      rw [failed] at yields
      exact yields
  | case2 t =>
      have computes := Computes.iff_yields.1 ((t.computes_renderWith context).map String.ofList)
      exact computes.mono (fun _ => Fault.isNotFound_of_isOfValues) (fun _ _ => True.intro)

theorem renderPath_ne_noTemplate (lib : Library) (disk : Disk) (place : String) (context : Value)
    (name : String) (searched : List String) :
    lib.renderPath disk place context ≠ .error (.noTemplate name searched) := by
  intro missing
  have rendered := lib.yields_renderPath disk place context
  rw [missing] at rendered
  cases rendered

/-- What becomes of the answer of a search. -/
def renderFound (lib : Library) (disk : Disk) (id : String) (context : Value)
    (found : Except Fault (Option String)) : Except Fault String :=
  match found with
  | .error fault => .error fault
  | .ok none => .error (.noTemplate id (candidates id))
  | .ok (some place) => lib.renderPath disk place context

theorem render_eq_renderFound (lib : Library) (disk : Disk) (id : String) (context : Value) :
    lib.render disk (.str id) context =
      lib.renderFound disk id context (lib.findAmong disk (candidates id)) := by
  unfold render find?
  simp only [Value.display]
  generalize lib.findAmong disk (candidates id) = found
  cases found with
  | error fault => rfl
  | ok place => cases place <;> rfl

/-- A template is reported as missing just if nothing is found. -/
theorem renderFound_noTemplate_iff {lib : Library} {disk : Disk} {id : String} {context : Value}
    {found : Except Fault (Option String)}
    (searches : Yields (fun fault => fault.isNotFound = false) (fun _ => True) found)
    (name : String) (searched : List String) :
    lib.renderFound disk id context found = .error (.noTemplate name searched) ↔
      name = id ∧ searched = candidates id ∧ found = .ok none := by
  constructor
  · intro missing
    cases found with
    | error fault =>
        cases missing
        cases searches
    | ok place =>
        cases place with
        | none =>
            cases missing
            exact ⟨rfl, rfl, rfl⟩
        | some place =>
            exact absurd missing (renderPath_ne_noTemplate lib disk place context name searched)
  · rintro ⟨rfl, rfl, rfl⟩
    rfl

/-- The file that is found below the root is the file that is rendered. -/
theorem render_of_findAmong (normal : lib.root.IsNormal) {id place : String} (segment : IsSegment id)
    (found : lib.findAmong disk (candidates id) = .ok (some place)) (below : StaysBelow lib.root place)
    (context : Value) :
    lib.render disk (.str id) context = renderFile disk (lib.pathOf place) context := by
  have isPlace := isFile_of_findAmong found
  have isRendered := lib.render_eq_renderFound disk id context
  rw [found] at isRendered
  have notMain := (staysBelow_iff_of_candidate lib.root segment isPlace.1).1 below
  rcases place_of_candidate segment isPlace.1 with main | ⟨folder, file, isFolder, isFile, rfl⟩
  · exact absurd main notMain
  · have isSource := source_placeOf normal isFolder isFile isPlace.2
    exact isRendered.trans (renderPath_of_source isSource context)

/-- The search and the loading of a template of a chain. Every place where it is looked for stays below the
    root, except for one place of the empty identifier. The search finds the first place that is a file,
    unless it comes to a name that is too long. What it finds below the root is the file that is rendered,
    and a missing template is reported with all places just if all were probed and none is a file. -/
theorem render_of_template {path id : String} (isTemplate : id ∈ (ChainName.parse path).templates)
    (root : String) (disk : Disk) :
    let lib : Library := ⟨.ofString root⟩
    (∀ place ∈ candidates id, StaysBelow lib.root place ↔ ¬(id = "" ∧ place = "/template.j2")) ∧
      (lib.find? disk id =
          .ok ((candidates id).find? (fun place => disk.isFile (lib.pathOf place))) ∨
        ∃ place ∈ candidates id, Disk.IsTooLong (lib.pathOf place) ∧
          lib.find? disk id = .error (Disk.faultOf (lib.pathOf place) .nameTooLong)) ∧
      (∀ place context, lib.find? disk id = .ok (some place) → StaysBelow lib.root place →
        lib.render disk (.str id) context = renderFile disk (lib.pathOf place) context) ∧
      ∀ context name searched,
        lib.render disk (.str id) context = .error (.noTemplate name searched) ↔
          name = id ∧ searched = candidates id ∧
            ∀ place ∈ candidates id, disk.probeFile (lib.pathOf place) = .ok false := by
  intro lib
  have segment : IsSegment id := isSegment_of_mem isTemplate
  have normal : lib.root.IsNormal := NormalPath.isNormal_ofString root
  refine ⟨?_, findAmong_cases lib disk (candidates id), ?_, ?_⟩
  · intro place isCandidate
    exact staysBelow_iff_of_candidate lib.root segment isCandidate
  · intro place context found below
    exact render_of_findAmong normal segment found below context
  · intro context name searched
    rw [render_eq_renderFound, renderFound_noTemplate_iff (lib.yields_findAmong disk _),
      findAmong_none_iff]

/-- A template below a root, and two files of one name, of which one is outside. -/
def shelfDisk : Disk :=
  ⟨["home"], [(["home"], .folder), (["template.j2"], .file [0x4F]), (["shelf"], .folder),
    (["shelf", "template.j2"], .file [0x49]), (["shelf", "partials"], .folder),
    (["shelf", "partials", "page.html.j2"], .file [0x50])]⟩

/-- A template is found at its second place and rendered; another one is missing. -/
theorem render_of_template_page :
    (Library.render ⟨.ofString "/shelf"⟩ shelfDisk (.str "page") (.dict [])).toOption = some "P" ∧
      Library.render ⟨.ofString "/shelf"⟩ shelfDisk (.str "other") (.dict []) =
        .error (.noTemplate "other"
          ["partials/other.j2", "partials/other.html.j2", "other/template.j2"]) := by
  have isPage : "page" ∈ (ChainName.parse "x._other._page").templates := by decide
  have isOther : "other" ∈ (ChainName.parse "x._other._page").templates := by decide
  have pages := render_of_template isPage "/shelf" shelfDisk
  have others := render_of_template isOther "/shelf" shelfDisk
  constructor
  · have found : (Library.find? ⟨.ofString "/shelf"⟩ shelfDisk "page").toOption =
        some (some "partials/page.html.j2") := by decide
    have isCandidate : "partials/page.html.j2" ∈ candidates "page" := by decide
    have below := (pages.1 _ isCandidate).2 (by decide)
    rw [pages.2.2.1 _ (.dict []) (eq_ok_of_toOption found) below]
    decide +kernel
  · exact (others.2.2.2 (.dict []) "other" _).2 ⟨rfl, by decide, by decide⟩

/-- The last place of the empty identifier does not stay below the root, and the file that is found there
    is not the file that is rendered. -/
theorem render_elsewhere :
    (¬∀ path id root : String, id ∈ (ChainName.parse path).templates →
        ∀ place ∈ candidates id, StaysBelow (.ofString root) place) ∧
      ¬∀ (path id root place : String) (disk : Disk) (context : Value),
        id ∈ (ChainName.parse path).templates →
          Library.find? ⟨.ofString root⟩ disk id = .ok (some place) →
          Library.render ⟨.ofString root⟩ disk (.str id) context =
            renderFile disk (Library.pathOf ⟨.ofString root⟩ place) context := by
  have isTemplate : "" ∈ (ChainName.parse "a._").templates := by decide
  constructor
  · intro staysBelow
    have below := staysBelow "a._" "" "/shelf" isTemplate "/template.j2" (by decide)
    exact not_staysBelow_slash _ mainName below
  · intro agree
    have found : (Library.find? ⟨.ofString "/shelf"⟩ shelfDisk "").toOption =
        some (some "/template.j2") := by decide
    have inside : (Library.render ⟨.ofString "/shelf"⟩ shelfDisk (.str "") (.dict [])).toOption =
        some "I" := by decide +kernel
    have outside : (renderFile shelfDisk (Library.pathOf ⟨.ofString "/shelf"⟩ "/template.j2")
        (.dict [])).toOption = some "O" := by decide +kernel
    have same := agree "a._" "" "/shelf" "/template.j2" shelfDisk (.dict []) isTemplate
      (eq_ok_of_toOption found)
    rw [same, outside] at inside
    exact absurd inside (by decide)

end Library

end Template

end LayeredFiles
