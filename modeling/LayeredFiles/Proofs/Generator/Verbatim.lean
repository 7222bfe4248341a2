import LayeredFiles.Proofs.Chain.Ahead
import LayeredFiles.Proofs.Generator.Chains
import LayeredFiles.Proofs.Template.Literal
import LayeredFiles.Proofs.Template.Lookup
/-
Module: LayeredFiles.Proofs.Generator.Verbatim
Layer: Proofs
Purpose: content passes through the templates of a chain as it is. Every template puts literal text around
  the content; each stage adds one layer to the text of the stage before, whatever that text holds. The
  templates are read from the disk stage by stage while the chain writes to it, so the run needs that no
  stage but the last can write over a template: the file names of the others end in a segment of the chain.
Main exports: Template.Layer, Template.nested, Generator.written_verbatim
-/

namespace LayeredFiles

open Template

/-! ### Layers -/

namespace Template

/-- The literal texts that a template puts around its content. -/
structure Layer where
  front : List Char
  behind : List Char
  isFront : IsLiteral front
  isBehind : IsLiteral behind
  /-- No brace comes together with those of the tag. -/
  apart : front.getLast? ≠ some '{'

namespace Layer

/-- The text of the template. -/
def source (layer : Layer) : String := String.ofList (aroundContent layer.front layer.behind)

/-- A content with the texts around it. -/
def wrap (layer : Layer) (content : List Char) : List Char := layer.front ++ content ++ layer.behind

end Layer

/-- A seed inside layers, the first of them innermost. -/
def nested (layers : List Layer) (seed : List Char) : List Char :=
  layers.reverse.flatMap Layer.front ++ seed ++ layers.flatMap Layer.behind

theorem nested_cons (layer : Layer) (rest : List Layer) (seed : List Char) :
    nested (layer :: rest) seed = nested rest (layer.wrap seed) := by
  simp [nested, Layer.wrap]

/-- The texts that stages make of a seed, each with one layer more. -/
def layerTexts (layers : List Layer) (seed : List Char) : List Value :=
  (List.range layers.length).map (fun i =>
    .str (String.ofList (nested (layers.take (i + 1)) seed)))

theorem layerTexts_cons (layer : Layer) (rest : List Layer) (seed : List Char) :
    layerTexts (layer :: rest) seed =
      .str (String.ofList (layer.wrap seed)) :: layerTexts rest (layer.wrap seed) := by
  have first : nested [layer] seed = layer.wrap seed := by
    rw [nested_cons]
    simp [nested]
  simp only [layerTexts, List.length_cons, List.range_succ_eq_map, List.map_cons, List.map_map,
    List.take_succ_cons, List.take_zero, first]
  congr 1
  apply List.map_congr_left
  intro i _
  simp only [Function.comp, nested_cons]

end Template

namespace Generator

variable {settings : Settings}

/-! ### Rendering a layer -/

/-- The template is in the library, and it puts a layer around its content. -/
def HoldsLayer (library : Library) (disk : Disk) (template : Value) (layer : Layer) : Prop :=
  ∃ id, template = .str id ∧ '/' ∉ id.toList ∧
    disk.readText "utf-8" (library.pathOf (ownPlace id)) = .ok layer.source

/-- The context of a seed. -/
def seedContext (seed : String) : Entries := [(initialContentKey, .str seed)]

/-- A stage has only names that templates may have. -/
theorem checkNames_seedContext (seed : String) (content template : Value) :
    Parsed.checkNames (stageContext (seedContext seed) content template) = .ok () := by
  rfl

/-- A library renders the template of a layer to the content inside the layer. -/
theorem render_layer {library : Library} (normal : library.root.IsNormal) {disk : Disk}
    {template : Value} {layer : Layer} (holds : HoldsLayer library disk template layer)
    (seed : String) (content : List Char) :
    library.render disk template
        (.dict (stageContext (seedContext seed) (.str (String.ofList content)) template)) =
      .ok (String.ofList (layer.wrap content)) := by
  obtain ⟨id, rfl, free, read⟩ := holds
  obtain ⟨found, source⟩ := Library.source_of_readText normal free read
  have isContent := (get?_stageContext (seedContext seed) (.str (String.ofList content)) (.str id)).1
  have rendered := renderWith_aroundContent layer.front layer.behind
    (checkNames_seedContext seed (.str (String.ofList content)) (.str id)) isContent
  have parsed : Parsed.read layer.source.toList false =
      .ok ⟨aroundBody layer.front layer.behind, false⟩ := by
    rw [Layer.source, String.toList_ofList]
    exact read_aroundContent layer.isFront layer.apart layer.isBehind
  have loaded : library.load disk (ownPlace id) =
      .ok ⟨aroundBody layer.front layer.behind, false⟩ := by
    rw [Library.load, source]
    simp only [parsed]
  have found' : library.find? disk (Value.str id).display = .ok (some (ownPlace id)) := found
  refine Library.render_of_find? found' ?_
  rw [Library.renderPath, loaded]
  simp only [rendered, Except.map, String.toList_ofList]
  rw [Layer.wrap]

/-! ### What a write leaves -/

/-- A write to a path that is named otherwise leaves the template as it is. -/
theorem HoldsLayer.writeText {library : Library} (normal : library.root.IsNormal) {disk : Disk}
    {template : Value} {layer : Layer} (holds : HoldsLayer library disk template layer)
    {path : String} (named : ∀ id, Path.fileName path ≠ String.ofList (ownName id))
    (encoding : String) (content : Value) :
    HoldsLayer library (disk.writeText encoding path content).2 template layer := by
  obtain ⟨id, isId, free, read⟩ := holds
  refine ⟨id, isId, free, ?_⟩
  have apart : disk.fileAt (library.pathOf (ownPlace id)) ≠ disk.fileAt path := by
    intro same
    apply named id
    rw [← Library.fileName_pathOf_ownPlace normal free]
    exact (Disk.fileName_eq_of_fileAt_eq same).symm
  exact (Disk.grows_writeText disk encoding path content).readText read
    (Disk.writeText_content_of_ne disk encoding path content apart)

/-- The file of a stage that is not the last is not named as a template is. -/
theorem fileName_stagePath_ne {base : String} {templates : List String}
    (wellFormed : ChainName.WellFormed ⟨base, templates⟩) {i : Nat}
    (notLast : i + 1 < templates.length) (id : String) :
    Path.fileName (stagePath base templates i) ≠ String.ofList (ownName id) := by
  have pendingEq := pending_eq_drop templates (show -1 ≤ (i : Int) by omega)
  have someLeft : pending templates (i : Int) ≠ [] := by
    rw [pendingEq]
    intro none
    have := List.drop_eq_nil_iff.1 none
    omega
  have segments : ∀ template ∈ pending templates (i : Int), IsSegment template :=
    fun template mem => wellFormed.segments template (pending_subset mem)
  have isName : (Path.fileName (stagePath base templates i)).toList =
      Path.fileNameChars base.toList ++ chainChars (pending templates (i : Int)) := by
    have free : '/' ∉ Path.fileNameChars base.toList ++ chainChars (pending templates (i : Int)) := by
      simp [Path.slash_notMem_fileNameChars, slash_notMem_chainChars segments]
    rw [stagePath_of_pending_ne_nil someLeft]
    simp only [Path.join, Path.folder, Path.fileName, String.toList_append, String.toList_ofList,
      toList_decorators, Path.fileNameChars_joinChars free]
  intro same
  -- The last segment of the one starts with an underscore, that of the other is the ending.
  rw [same, String.toList_ofList] at isName
  have lastSegment := congrArg (fun name => (Text.splitOn '.' name).getLast?) isName
  have ending : (Text.splitOn '.' (ownName id)).getLast? = some ['j', '2'] := by
    rw [ownName, Text.splitOn_append_cons, List.getLast?_append]
    rfl
  obtain ⟨first, rest, whole⟩ := List.exists_cons_of_ne_nil someLeft
  have marked : (Text.splitOn '.' (Path.fileNameChars base.toList ++
      chainChars (pending templates (i : Int)))).getLast? = some ('_' :: first.toList) := by
    rw [chainChars, splitOn_append_decorators _ _ (fun template mem =>
      segments template (List.mem_reverse.1 mem)), whole, List.reverse_cons, List.map_append,
      ← List.append_assoc, List.getLast?_append]
    rfl
  simp only [ending, marked, Option.some.injEq, List.cons.injEq] at lastSegment
  exact absurd lastSegment.1 (by decide)

/-! ### Stages -/

/-- A stage whose template is a layer writes its content inside the layer. If that fails it is the last
    action; otherwise the others go on from there. -/
theorem runStages_layer [Host] (normal : settings.templatesPath.IsNormal) (seed : String) (total : Nat)
    {stage : Stage} {layer : Layer} {w : World}
    (holds : HoldsLayer (libraryOf settings) w.disk stage.template layer) (rest : List Stage)
    (content : List Char) (written : String) (journal : List Action) :
    ∃ call,
      (∃ cause, (runStages (standard settings World.site).chains.journaled total (seedContext seed)
        (stage :: rest) (.str (String.ofList content)) written (w, journal)).2.2 =
          journal ++ [.call call,
            .write ⟨stage.path, .str (String.ofList (layer.wrap content)), .error cause⟩]) ∨
      ∃ w', w'.disk = (w.disk.writeText settings.encoding stage.path
          (.str (String.ofList (layer.wrap content)))).2 ∧
        runStages (standard settings World.site).chains.journaled total (seedContext seed)
          (stage :: rest) (.str (String.ofList content)) written (w, journal) =
        runStages (standard settings World.site).chains.journaled total (seedContext seed) rest
          (.str (String.ofList (layer.wrap content))) stage.path
          (w', journal ++ [.call call,
            .write ⟨stage.path, .str (String.ofList (layer.wrap content)), .ok ()⟩]) := by
  have rendered : (standard settings World.site).chains.render stage.template
      (stageContext (seedContext seed) (.str (String.ofList content)) stage.template) w =
        (.ok (.str (String.ofList (layer.wrap content))), w) :=
    congrArg (fun text => (Except.map Value.str text, w)) (render_layer normal holds seed content)
  generalize Value.str (String.ofList (layer.wrap content)) = text at rendered ⊢
  have disk := (plain_standard settings).disk_write_chains stage.path text w
  refine ⟨⟨stage.template, stageContext (seedContext seed) (.str (String.ofList content))
    stage.template, .ok text⟩, ?_⟩
  simp only [runStages, runStage, Capabilities.journaled_render, rendered,
    Capabilities.journaled_write]
  cases done : (standard settings World.site).chains.write stage.path text w with
  | mk answer w' =>
      rw [done] at disk
      cases answer with
      | error cause => exact Or.inl ⟨cause, List.append_assoc _ _ _⟩
      | ok =>
          have announced := (plain_standard settings).disk_announce_chains (stage.index + 1) total
            stage.template stage.path w'
          refine Or.inr ⟨_, announced.trans disk, ?_⟩
          simp only [Capabilities.journaled_announce, List.append_assoc]
          rfl

/-- Stages whose templates are layers go well if their writes do, and each adds its layer. -/
theorem runStages_layers [Host] (normal : settings.templatesPath.IsNormal) (seed : String) (total : Nat)
    {stages : List Stage} {layers : List Layer} {content : List Char} {written : String} {w : World}
    {journal actions : List Action}
    (holds : List.Forall₂ (fun (stage : Stage) layer =>
      HoldsLayer (libraryOf settings) w.disk stage.template layer) stages layers)
    (named : ∀ stage ∈ stages.dropLast, ∀ id,
      Path.fileName stage.path ≠ String.ofList (ownName id))
    (journaled : (runStages (standard settings World.site).chains.journaled total (seedContext seed)
      stages (.str (String.ofList content)) written (w, journal)).2.2 = journal ++ actions)
    (wrote : ∀ write ∈ writesOf actions, write.answer = .ok ()) :
    (runStages (standard settings World.site).chains.journaled total (seedContext seed) stages
        (.str (String.ofList content)) written (w, journal)).1 =
          .ok ((stages.map Stage.path).getLast?.getD written) ∧
      writesOf actions = stageWrites (stages.map Stage.path) (layerTexts layers content) := by
  -- On the stages; the invariant is that the disk still holds the templates of those that are left.
  induction stages generalizing layers content written w journal actions with
  | nil =>
      cases holds
      have none : actions = [] := by simpa [runStages] using journaled
      rw [none]
      exact ⟨rfl, rfl⟩
  | cons stage rest ih =>
      cases holds with
      | @cons _ layer _ layers first others =>
          obtain ⟨call, ⟨cause, failed⟩ | ⟨w', disk, step⟩⟩ :=
            runStages_layer normal seed total first rest content written journal
          · rw [failed, List.append_cancel_left_eq] at journaled
            have isOk := wrote ⟨stage.path, .str (String.ofList (layer.wrap content)), .error cause⟩
              (by simp [← journaled, writesOf])
            cases isOk
          · obtain ⟨actions', isJournal, -⟩ := stagesRun_journaled
              (standard settings World.site).chains total (seedContext seed) rest
              (.str (String.ofList (layer.wrap content))) stage.path w'
              (journal ++ [.call call,
                .write ⟨stage.path, .str (String.ofList (layer.wrap content)), .ok ()⟩])
            rw [step, isJournal, List.append_assoc, List.append_cancel_left_eq] at journaled
            have others' : List.Forall₂ (fun (stage : Stage) layer =>
                HoldsLayer (libraryOf settings) w'.disk stage.template layer) rest layers := by
              cases others with
              | nil => exact .nil
              | cons next others =>
                  have notLast := named stage (by simp)
                  rw [disk]
                  exact .cons (next.writeText normal notLast _ _)
                    (others.imp (fun _ _ holds => holds.writeText normal notLast _ _))
            have named' : ∀ stage ∈ rest.dropLast, ∀ id,
                Path.fileName stage.path ≠ String.ofList (ownName id) := by
              intro other mem
              apply named other
              cases rest with
              | nil => cases mem
              | cons next rest => exact List.mem_cons_of_mem _ mem
            have wrote' : ∀ write ∈ writesOf actions', write.answer = .ok () := by
              intro write mem
              apply wrote write
              simp [← journaled, writesOf, mem]
            obtain ⟨ended, writes⟩ := ih others' named' isJournal wrote'
            constructor
            · rw [step, ended, List.map_cons, List.getLast?_cons, Option.getD_some]
            · rw [← journaled, layerTexts_cons]
              simp [writesOf, writes, stageWrites]

/-! ### Chains -/

/-- If every template of a chain puts literal text around its content and all writes go well, the chain
    goes well, and the text of every stage is the seed inside the layers up to that stage, whatever the
    seed holds. -/
theorem written_verbatim [Host] (settings : Settings) (w : World) {root path base seed : String}
    {templates : List String} {layers : List Layer} (isRoot : settings.templatesPath = .ofString root)
    (parsed : ChainName.parse path = ⟨base, templates⟩) (nonempty : templates ≠ [])
    (sources : List.Forall₂ (fun template layer =>
      w.disk.readText "utf-8" ((libraryOf settings).pathOf (ownPlace template)) = .ok layer.source)
      templates layers)
    (wrote : ∀ write ∈ (account (standard settings World.site).chains path (seedContext seed) w).writes,
      write.answer = .ok ()) :
    (process (standard settings World.site).chains (.str path) (.dict (seedContext seed)) w).1 =
        .ok base ∧
      (account (standard settings World.site).chains path (seedContext seed) w).writes =
        stageWrites (stagePaths base templates) (layerTexts layers seed.toList) := by
  have wellFormed := ChainName.wellFormed_of_parse parsed nonempty
  have normal : settings.templatesPath.IsNormal := isRoot ▸ NormalPath.isNormal_ofString root
  have holds : List.Forall₂ (fun (stage : Stage) layer =>
      HoldsLayer (libraryOf settings) w.disk stage.template layer)
      (plan base (templates.map .str)) layers := by
    rw [← List.forall₂_map_left_iff (R := fun template layer =>
      HoldsLayer (libraryOf settings) w.disk template layer), map_template_plan,
      List.forall₂_map_left_iff]
    rw [List.forall₂_iff_zip] at sources ⊢
    refine ⟨sources.1, fun mem => ⟨_, rfl, ?_, sources.2 mem⟩⟩
    exact (wellFormed.segments _ (List.of_mem_zip mem).1).2
  have named : ∀ stage ∈ (plan base (templates.map .str)).dropLast, ∀ id,
      Path.fileName stage.path ≠ String.ofList (ownName id) := by
    intro stage mem id
    rw [List.dropLast_eq_take, length_plan_str] at mem
    obtain ⟨i, isStage⟩ := List.getElem?_of_mem mem
    rw [List.getElem?_take, getElem?_plan_str] at isStage
    split at isStage
    · rename_i inRange
      obtain ⟨template, -, rfl⟩ := Option.map_eq_some_iff.1 isStage
      exact fileName_stagePath_ne wellFormed (by omega) id
    · cases isStage
  have ran : process (standard settings World.site).chains (.str path) (.dict (seedContext seed)) w =
      ((account (standard settings World.site).chains path (seedContext seed) w).ending,
        (account (standard settings World.site).chains path (seedContext seed) w).state) :=
    processName_eq_account _ path (seedContext seed) w
  have start : initialContent (seedContext seed) = .str (String.ofList seed.toList) := by
    rw [String.ofList_toList]
    exact initialContent_set_str [] seed
  rw [ran]
  simp only [Account.writes, account_eq parsed nonempty, start] at wrote ⊢
  obtain ⟨ended, writes⟩ := runStages_layers normal seed templates.length holds named
    (List.nil_append _).symm wrote
  rw [map_path_plan] at ended writes
  constructor
  · rw [ended, getLast?_stagePaths base nonempty, Option.getD_some]
  · exact writes

/-- A layer whose texts hold single braces and line ends. -/
def bracedLayer : Layer where
  front := "\x7b <p>\n".toList
  behind := "\x7d\x7d</p>\n\n".toList
  isFront := by decide +kernel
  isBehind := by decide +kernel
  apart := by decide +kernel

/-- A layer without text in front. -/
def tailLayer : Layer where
  front := []
  behind := "\n<hr>".toList
  isFront := by decide +kernel
  isBehind := by decide +kernel
  apart := by decide +kernel

/-- A disk with both templates. -/
def layeredWorld : World :=
  ⟨⟨["home"], [(["home"], .folder), (["home", "t"], .folder), (["home", "t", "partials"], .folder),
    (["home", "t", "partials", "p.j2"], .file (bracedLayer.source.toList.flatMap Text.utf8Bytes)),
    (["home", "t", "partials", "q.j2"], .file (tailLayer.source.toList.flatMap Text.utf8Bytes))]⟩, ""⟩

/-- A text that looks like tags and markup. -/
def markup : String := "\x7b\x7b x \x7d\x7d\x7b% &<\"'\\\n"

theorem layerTexts_eq_pair {inner outer : Layer} {seed first second : String}
    (isFirst : nested [inner] seed.toList = first.toList)
    (isSecond : nested [inner, outer] seed.toList = second.toList) :
    layerTexts [inner, outer] seed.toList = [.str first, .str second] := by
  rw [← String.ofList_toList (s := first), ← String.ofList_toList (s := second), ← isFirst,
    ← isSecond]
  rfl

/-- The seed comes out as it is, with the texts of both templates around it. -/
theorem written_verbatim_of_markup :
    (process (standard (Settings.default (.ofString "t")) World.site).chains (.str "out/a._p._q")
        (.dict (seedContext markup)) layeredWorld).1 = .ok "out/a" ∧
      (account (standard (Settings.default (.ofString "t")) World.site).chains "out/a._p._q"
        (seedContext markup) layeredWorld).writes =
      stageWrites ["out/a._p", "out/a"]
        [.str "\x7b\x7b x \x7d\x7d\x7b% &<\"'\\\n\n<hr>",
          .str "\x7b <p>\n\x7b\x7b x \x7d\x7d\x7b% &<\"'\\\n\n<hr>\x7d\x7d</p>\n\n"] := by
  have parsed : ChainName.parse "out/a._p._q" = ⟨"out/a", ["q", "p"]⟩ := by decide +kernel
  have paths : stagePaths "out/a" ["q", "p"] = ["out/a._p", "out/a"] := by decide +kernel
  have ok : ∀ {answer : Except Fault String} {text : String}, answer.toOption = some text →
      answer = .ok text := by
    intro answer text isText
    cases answer with
    | error fault => cases isText
    | ok => exact congrArg Except.ok (Option.some.inj isText)
  have sources : List.Forall₂ (fun template (layer : Layer) =>
      layeredWorld.disk.readText "utf-8"
        ((libraryOf (Settings.default (.ofString "t"))).pathOf (ownPlace template)) = .ok layer.source)
      ["q", "p"] [tailLayer, bracedLayer] :=
    .cons (ok (by decide +kernel)) (.cons (ok (by decide +kernel)) .nil)
  have wrote : ∀ write ∈ (account (standard (Settings.default (.ofString "t")) World.site).chains
      "out/a._p._q" (seedContext markup) layeredWorld).writes, write.answer = .ok () := by
    have all : (account (standard (Settings.default (.ofString "t")) World.site).chains "out/a._p._q"
        (seedContext markup) layeredWorld).writes.all (fun write => write.answer.toOption.isSome) =
          true := by decide +kernel
    intro write mem
    have isSome := List.all_eq_true.1 all write mem
    cases answered : write.answer with
    | error fault =>
        rw [answered] at isSome
        cases isSome
    | ok => rfl
  have isRoot : (Settings.default (.ofString "t")).templatesPath = .ofString "t" := rfl
  obtain ⟨ended, writes⟩ := written_verbatim (Settings.default (.ofString "t")) layeredWorld isRoot
    parsed (by decide) sources wrote
  refine ⟨ended, writes.trans ?_⟩
  rw [paths]
  exact congrArg _ (layerTexts_eq_pair (by decide +kernel) (by decide +kernel))

end Generator

end LayeredFiles
