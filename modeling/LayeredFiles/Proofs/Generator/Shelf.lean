import LayeredFiles.Generator.Basic
import LayeredFiles.Proofs.Disk.Reading
/-
Module: LayeredFiles.Proofs.Generator.Shelf
Layer: Proofs
Purpose: how the template of a generator is applied. It is looked for first, then rendered, then its text is
  written; what goes wrong in the last two steps is kept as the cause of one fault, and nothing is changed
  before the last. The search fails with a fault of another kind just where it comes to a name that is too
  long.
Main exports: Fault.isOfTemplates, Shelf.Applied, Shelf.applied_apply, Shelf.apply_fails_of_templates
-/

namespace LayeredFiles

/-- The fault tells that a template is missing or cannot be applied. -/
def Fault.isOfTemplates : Fault → Bool
  | .noTemplate _ _ => true
  | .noSourceFile _ => true
  | .notApplied _ => true
  | _ => false

/-- A path that is too long for a probe is one whose walk comes to a name that is too long. -/
theorem Disk.probeFile_eq_nameTooLong_iff {disk : Disk} {path : String} :
    disk.probeFile path = .error .nameTooLong ↔
      path.toList.contains '\x00' = false ∧ disk.walk path = .error .nameTooLong := by
  constructor
  · intro refused
    refine ⟨?_, walk_of_stat_nameTooLong (stat_of_probeFile refused)⟩
    by_contra nul
    rw [Bool.not_eq_false] at nul
    rw [probeFile, if_pos nul] at refused
    cases refused
  · rintro ⟨free, walked⟩
    rw [probeFile, free, if_neg Bool.false_ne_true, stat, walked]

/-- What a probe answers is whether the path is that of a file. -/
theorem Disk.isFile_of_probeFile {disk : Disk} {path : String} {found : Bool}
    (probed : disk.probeFile path = .ok found) : disk.isFile path = found := by
  rcases probeFile_cases disk path with answered | ⟨refused, -⟩
  · rw [answered] at probed
    exact Except.ok.inj probed
  · rw [refused] at probed
    cases probed

/-- A probe fails only for a name that is too long. -/
theorem Disk.nameTooLong_of_probeFile {disk : Disk} {path : String} {problem : DiskProblem}
    (refused : disk.probeFile path = .error problem) :
    problem = .nameTooLong ∧ disk.isFile path = false := by
  rcases probeFile_cases disk path with answered | ⟨tooLong, noFile⟩
  · rw [answered] at refused
    cases refused
  · rw [tooLong] at refused
    exact ⟨(Except.error.inj refused).symm, noFile⟩

namespace Shelf

theorem isFile_of_ok {disk : Disk} {path : NormalPath} {found : Bool}
    (answered : isFile disk path = .ok found) : disk.isFile path.text = found := by
  unfold isFile at answered
  cases probed : disk.probeFile path.text with
  | error problem =>
      rw [probed] at answered
      cases answered
  | ok found' =>
      rw [probed] at answered
      cases answered
      exact Disk.isFile_of_probeFile probed

variable {σ : Type} (shelf : Shelf σ) (disk : Disk) (name destination context : Value) (s : σ)

/-- The path of the template of a generator. -/
def file : String := (shelf.templatePath name).text

/-- The ways in which the attempt to apply a template ends. -/
inductive Applied : Except Fault String × σ → Prop where
  /-- The search comes to a name that is too long. -/
  | refused (tooLong : disk.probeFile (shelf.file name) = .error .nameTooLong) :
      Applied (.error (Disk.faultOf (shelf.file name) .nameTooLong), s)
  /-- There is no template. -/
  | missing (absent : disk.probeFile (shelf.file name) = .ok false) :
      Applied (.error (.noTemplate name.display [shelf.file name]), s)
  /-- The template cannot be rendered. -/
  | unrendered {cause : Fault} (isFile : disk.isFile (shelf.file name) = true)
      (failed : shelf.text disk name context = .error cause) : Applied (.error (.notApplied cause), s)
  /-- The text that the template makes cannot be written. -/
  | unwritten {text : String} {cause : Fault} {s' : σ} (isFile : disk.isFile (shelf.file name) = true)
      (made : shelf.text disk name context = .ok text)
      (failed : shelf.write destination.display (.str text) s = (.error cause, s')) :
      Applied (.error (.notApplied cause), s')
  /-- The text that the template makes is written. -/
  | written {text : String} {s' : σ} (isFile : disk.isFile (shelf.file name) = true)
      (made : shelf.text disk name context = .ok text)
      (wrote : shelf.write destination.display (.str text) s = (.ok (), s')) :
      Applied (.ok destination.display, s')

/-- Every attempt to apply a template ends in one of these ways. -/
theorem applied_apply :
    shelf.Applied disk name destination context s (shelf.apply disk name destination context s) := by
  unfold apply writeResult has isFile
  rw [← file]
  cases probed : disk.probeFile (shelf.file name) with
  | error problem =>
      obtain ⟨rfl, -⟩ := Disk.nameTooLong_of_probeFile probed
      exact .refused probed
  | ok found =>
      cases found with
      | false => exact .missing probed
      | true =>
          have isFile := Disk.isFile_of_probeFile probed
          cases made : shelf.text disk name context with
          | error cause => exact .unrendered isFile made
          | ok text =>
              simp only
              cases wrote : shelf.write destination.display (.str text) s with
              | mk answer s' =>
                  cases answer with
                  | error cause => exact .unwritten isFile made wrote
                  | ok => exact .written isFile made wrote

variable {shelf disk name destination context s}

/-- A fault of another kind than those of templates is that of a search that is refused. -/
theorem Applied.refused_of_isOfTemplates {fault : Fault} {s' : σ}
    (ended : shelf.Applied disk name destination context s (.error fault, s'))
    (other : fault.isOfTemplates = false) :
    disk.probeFile (shelf.file name) = .error .nameTooLong ∧
      fault = Disk.faultOf (shelf.file name) .nameTooLong := by
  cases ended with
  | refused tooLong => exact ⟨tooLong, rfl⟩
  | missing | unrendered | unwritten => cases other

theorem Applied.eq_of_nameTooLong {ended : Except Fault String × σ}
    (isEnd : shelf.Applied disk name destination context s ended)
    (tooLong : disk.probeFile (shelf.file name) = .error .nameTooLong) :
    ended = (.error (Disk.faultOf (shelf.file name) .nameTooLong), s) := by
  have noFile := (Disk.nameTooLong_of_probeFile tooLong).2
  cases isEnd with
  | refused => rfl
  | missing absent =>
      rw [absent] at tooLong
      cases tooLong
  | unrendered isFile | unwritten isFile | written isFile =>
      rw [isFile] at noFile
      cases noFile

/-- The cause of a failure is what the template or the writing of its text failed with. -/
theorem Applied.notApplied_iff {ended : Except Fault String × σ}
    (isEnd : shelf.Applied disk name destination context s ended) (cause : Fault) (s' : σ) :
    ended = (.error (.notApplied cause), s') ↔
      disk.isFile (shelf.file name) = true ∧
        (shelf.text disk name context = .error cause ∧ s' = s ∨
          ∃ text, shelf.text disk name context = .ok text ∧
            shelf.write destination.display (.str text) s = (.error cause, s')) := by
  constructor
  · rintro rfl
    cases isEnd with
    | unrendered isFile failed => exact ⟨isFile, Or.inl ⟨failed, rfl⟩⟩
    | unwritten isFile made failed => exact ⟨isFile, Or.inr ⟨_, made, failed⟩⟩
  · rintro ⟨isFile, way⟩
    cases isEnd with
    | refused tooLong =>
        rw [(Disk.nameTooLong_of_probeFile tooLong).2] at isFile
        cases isFile
    | missing absent =>
        rw [Disk.isFile_of_probeFile absent] at isFile
        cases isFile
    | unrendered _ failed =>
        rcases way with ⟨failed', rfl⟩ | ⟨text, made, -⟩
        · rw [failed] at failed'
          cases failed'
          rfl
        · rw [failed] at made
          cases made
    | unwritten _ made failed =>
        rcases way with ⟨failed', -⟩ | ⟨text, made', failed'⟩
        · rw [made] at failed'
          cases failed'
        · rw [made] at made'
          cases made'
          rw [failed] at failed'
          cases failed'
          rfl
    | written _ made wrote =>
        rcases way with ⟨failed', -⟩ | ⟨text, made', failed'⟩
        · rw [made] at failed'
          cases failed'
        · rw [made] at made'
          cases made'
          rw [wrote] at failed'
          cases failed'

/-- Without a template, or with one that cannot be rendered, nothing is changed. -/
theorem Applied.unchanged {ended : Except Fault String × σ}
    (isEnd : shelf.Applied disk name destination context s ended)
    (unmade : disk.isFile (shelf.file name) = false ∨
      ∃ cause, shelf.text disk name context = .error cause) :
    ended.2 = s ∧ ∃ fault, ended.1 = .error fault := by
  cases isEnd with
  | refused | missing | unrendered => exact ⟨rfl, _, rfl⟩
  | unwritten isFile made | written isFile made =>
      rcases unmade with noFile | ⟨cause, failed⟩
      · rw [isFile] at noFile
        cases noFile
      · rw [made] at failed
        cases failed

variable (shelf disk name destination context s)

/-- A template that is missing or cannot be rendered or written fails with a fault of templates. The last two
    keep their cause, and nothing is changed before the text is written. A fault of another kind comes just from
    a search that meets a name that is too long. -/
theorem apply_fails_of_templates :
    (∀ fault s', shelf.apply disk name destination context s = (.error fault, s') →
      fault.isOfTemplates = true ∨
        Disk.IsTooLong (shelf.file name) ∧ fault = Disk.faultOf (shelf.file name) .nameTooLong) ∧
    ((∃ fault s', shelf.apply disk name destination context s = (.error fault, s') ∧
        fault.isOfTemplates = false) ↔
      (shelf.file name).toList.contains '\x00' = false ∧
        disk.walk (shelf.file name) = .error .nameTooLong) ∧
    (∀ cause s', shelf.apply disk name destination context s = (.error (.notApplied cause), s') ↔
      disk.isFile (shelf.file name) = true ∧
        (shelf.text disk name context = .error cause ∧ s' = s ∨
          ∃ text, shelf.text disk name context = .ok text ∧
            shelf.write destination.display (.str text) s = (.error cause, s'))) ∧
    (disk.isFile (shelf.file name) = false ∨ (∃ cause, shelf.text disk name context = .error cause) →
      (shelf.apply disk name destination context s).2 = s ∧
        ∃ fault, (shelf.apply disk name destination context s).1 = .error fault) := by
  have isEnd := shelf.applied_apply disk name destination context s
  refine ⟨?_, ?_, isEnd.notApplied_iff, isEnd.unchanged⟩
  · intro fault s' failed
    cases kind : fault.isOfTemplates with
    | true => exact Or.inl rfl
    | false =>
        rw [failed] at isEnd
        obtain ⟨tooLong, isFault⟩ := isEnd.refused_of_isOfTemplates kind
        exact Or.inr ⟨Disk.isTooLong_of_stat (Disk.stat_of_probeFile tooLong), isFault⟩
  · rw [← Disk.probeFile_eq_nameTooLong_iff]
    constructor
    · rintro ⟨fault, s', failed, other⟩
      rw [failed] at isEnd
      exact (isEnd.refused_of_isOfTemplates other).1
    · intro tooLong
      exact ⟨_, s, isEnd.eq_of_nameTooLong tooLong, rfl⟩

/-- A world in which one generator has a template, and one has a template that asks for a missing name. -/
def worldOfTemplates : World :=
  ⟨⟨["home"], [(["home"], .folder), (["templates"], .folder), (["templates", "view"], .folder),
    (["templates", "view", "template.j2"], .file [0x54]), (["templates", "page"], .folder),
    (["templates", "page", "template.j2"], .file [0x7B, 0x7B, 0x61, 0x7D, 0x7D])]⟩, ""⟩

/-- The templates of that world. -/
def templatesOfWorld : Shelf World :=
  (Generator.standard (Settings.default (.ofString "/templates")) World.site).shelf

/-- A template that asks for a missing name, one that is not there and one whose text has no place. -/
theorem apply_fails_of_templates_page :
    let w := worldOfTemplates
    (∃ cause, templatesOfWorld.text w.disk (.str "page") (.dict []) = .error cause ∧
      templatesOfWorld.apply w.disk (.str "page") (.str "o.txt") (.dict []) w =
        (.error (.notApplied cause), w)) ∧
    (∃ fault, templatesOfWorld.apply w.disk (.str "gone") (.str "o.txt") (.dict []) w = (.error fault, w) ∧
      fault.isOfTemplates = true) ∧
    ∃ cause w', templatesOfWorld.write "." (.str "T") w = (.error cause, w') ∧
      templatesOfWorld.apply w.disk (.str "view") (.str ".") (.dict []) w =
        (.error (.notApplied cause), w') := by
  intro w
  refine ⟨?_, ?_, ?_⟩
  · obtain ⟨-, -, notApplied, -⟩ :=
      templatesOfWorld.apply_fails_of_templates w.disk (.str "page") (.str "o.txt") (.dict []) w
    have isFile : w.disk.isFile (templatesOfWorld.file (.str "page")) = true := by decide
    have unmade : (templatesOfWorld.text w.disk (.str "page") (.dict [])).toOption = none := by
      decide +kernel
    cases made : templatesOfWorld.text w.disk (.str "page") (.dict []) with
    | error cause => exact ⟨cause, rfl, (notApplied cause w).2 ⟨isFile, Or.inl ⟨made, rfl⟩⟩⟩
    | ok text =>
        rw [made] at unmade
        cases unmade
  · obtain ⟨kinds, -, -, unchanged⟩ :=
      templatesOfWorld.apply_fails_of_templates w.disk (.str "gone") (.str "o.txt") (.dict []) w
    have noFile : w.disk.isFile (templatesOfWorld.file (.str "gone")) = false := by decide
    obtain ⟨same, fault, failed⟩ := unchanged (Or.inl noFile)
    have ended : templatesOfWorld.apply w.disk (.str "gone") (.str "o.txt") (.dict []) w =
        (.error fault, w) := Prod.ext failed same
    have short : ¬Disk.IsTooLong (templatesOfWorld.file (.str "gone")) := by
      unfold Disk.IsTooLong
      decide
    exact ⟨fault, ended, (kinds fault w ended).resolve_right (fun long => short long.1)⟩
  · obtain ⟨-, -, notApplied, -⟩ :=
      templatesOfWorld.apply_fails_of_templates w.disk (.str "view") (.str ".") (.dict []) w
    have isFile : w.disk.isFile (templatesOfWorld.file (.str "view")) = true := by decide
    have made : (templatesOfWorld.text w.disk (.str "view") (.dict [])).toOption = some "T" := by
      decide +kernel
    have unwritten : (templatesOfWorld.write "." (.str "T") w).1.toOption = none := by decide
    cases failed : templatesOfWorld.write "." (.str "T") w with
    | mk answer w' =>
        cases answer with
        | ok =>
            rw [failed] at unwritten
            cases unwritten
        | error cause =>
            cases isText : templatesOfWorld.text w.disk (.str "view") (.dict []) with
            | error fault =>
                rw [isText] at made
                cases made
            | ok text =>
                rw [isText] at made
                cases made
                exact ⟨cause, w', rfl,
                  (notApplied cause w').2 ⟨isFile, Or.inr ⟨"T", isText, failed⟩⟩⟩

/-- A name that no disk can have makes the search for its template fail with a fault of another kind. -/
theorem apply_fails_otherwise :
    ¬∀ (name destination context : Value) (w w' : World) (fault : Fault),
      templatesOfWorld.apply w.disk name destination context w = (.error fault, w') →
      fault.isOfTemplates = true := by
  intro always
  -- The path is a list of characters here, for the kernel takes long to decode so long a name.
  have isPath : templatesOfWorld.templatePath (.str (String.ofList (List.replicate 256 'y'))) =
      ⟨.single, ["templates".toList, List.replicate 256 'y', mainTemplate.toList]⟩ := by
    simp only [templatePath, folder, Value.display, NormalPath.appendText, NormalPath.ofString,
      String.toList_ofList]
    decide +kernel
  have tooLong : worldOfTemplates.disk.probeFile
      (templatesOfWorld.file (.str (String.ofList (List.replicate 256 'y')))) =
        .error .nameTooLong := by
    rw [Disk.probeFile_eq_nameTooLong_iff, file, isPath, NormalPath.text]
    simp only [Disk.walk, String.toList_ofList]
    decide +kernel
  have isEnd := templatesOfWorld.applied_apply worldOfTemplates.disk
    (.str (String.ofList (List.replicate 256 'y'))) (.str "o.txt") (.dict []) worldOfTemplates
  cases always _ _ _ _ _ _ (isEnd.eq_of_nameTooLong tooLong)

end Shelf

end LayeredFiles
