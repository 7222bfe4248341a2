import LayeredFiles.Proofs.Chain.Mark
import LayeredFiles.Proofs.Chain.Contract
import LayeredFiles.Proofs.Console.Shown
import LayeredFiles.Proofs.Generator.Shelf
/-
Module: LayeredFiles.Proofs.Generator.Create
Layer: Proofs
Purpose: the path that a generator gives back was written. The mark in a file name sends it to its chain,
  and since a marked name has a chain, at least one stage has run; the last one has written the base. Any
  other name is written once, with the text that the template of the generator makes. A journal over the
  whole generator shows both.
Main exports: Generator.journaled, Generator.chains_journaled, Generator.create_journaled,
  Filing.OfGenerator, Generator.written_of_create
-/

namespace LayeredFiles

variable {σ : Type}

namespace Generator

/-! ### Journals of generators -/

/-- The generator with a journal of the templates that its chains render and of all texts that it writes. -/
def journaled [Host] (g : Generator σ) : Generator (σ × List Action) where
  settings := g.settings
  site :=
    { disk := fun s => g.site.disk s.1
      write := fun encoding path content s =>
        let done := g.site.write encoding path content s.1
        (done.1, done.2, s.2 ++ [.write ⟨path, content, done.1⟩])
      tell := fun text s => (g.site.tell text s.1, s.2) }
  render := g.chains.journaled.render
  shelf :=
    { library := g.shelf.library
      write := fun path content s =>
        let done := g.shelf.write path content s.1
        (done.1, done.2, s.2 ++ [.write ⟨path, content, done.1⟩]) }

variable (g : Generator σ)

/-- What is told leaves the journal as it is. -/
theorem report_journaled [Host] (status message : String) (s : σ) (journal : List Action) :
    g.journaled.report status message (s, journal) =
      ((g.report status message s).1, (g.report status message s).2, journal) := by
  unfold report
  cases Console.statusLine status message with
  | error fault => rfl
  | ok line => rfl

theorem report_of_line [Host] {status message line : String}
    (isLine : Console.statusLine status message = .ok line) (s : σ) :
    g.report status message s = (.ok (), g.site.tell line s) := by
  unfold report
  rw [isLine]

/-- The chains of a generator with a journal are its chains with a journal. -/
theorem chains_journaled [Host] : g.journaled.chains = g.chains.journaled := by
  have sameAnnounce : g.journaled.chains.announce = g.chains.journaled.announce := by
    funext number total template path s
    obtain ⟨s, journal⟩ := s
    simp only [Capabilities.journaled_announce, chains, report_journaled]
    by_cases verbose : g.settings.verbose = true
    · have verbose' : g.journaled.settings.verbose = true := verbose
      rw [if_pos verbose, if_pos verbose']
    · have verbose' : ¬g.journaled.settings.verbose = true := verbose
      rw [if_neg verbose, if_neg verbose']
  change Capabilities.mk _ _ g.journaled.chains.announce =
    Capabilities.mk _ _ g.chains.journaled.announce
  rw [sameAnnounce]
  rfl

/-- Without its journal, a shelf answers and acts as before. -/
theorem apply_journaled [Host] (disk : Disk) (name destination context : Value) (s : σ)
    (journal : List Action) :
    g.shelf.apply disk name destination context s =
      Prod.map id Prod.fst (g.journaled.shelf.apply disk name destination context (s, journal)) := by
  have sameHas : g.journaled.shelf.has disk name = g.shelf.has disk name := rfl
  have sameText : g.journaled.shelf.text disk name context = g.shelf.text disk name context := rfl
  unfold Shelf.apply Shelf.writeResult
  rw [sameHas, sameText]
  cases g.shelf.has disk name with
  | error fault => rfl
  | ok found =>
      cases found with
      | false => rfl
      | true =>
          cases g.shelf.text disk name context with
          | error fault => rfl
          | ok text =>
              simp only [journaled]
              cases g.shelf.write destination.display (.str text) s with
              | mk answer s₁ => cases answer <;> rfl

theorem make_journaled [Host] (name destination context : Value) (s : σ) (journal : List Action) :
    g.make name destination context s =
      Prod.map id Prod.fst (g.journaled.make name destination context (s, journal)) := by
  unfold make
  cases pathOf destination with
  | error fault => rfl
  | ok path =>
      simp only
      by_cases marked : isMarked path = true
      · rw [if_pos marked, if_pos marked, chains_journaled]
        unfold process
        cases pathOf destination with
        | error fault => rfl
        | ok path => exact processName_view g.chains.journaled_actsAs path context (s, journal)
      · rw [if_neg marked, if_neg marked]
        exact g.apply_journaled _ name destination context s journal

/-- What is told about a file that was made, or about the fault for which it was not. -/
def conclude (report : String → String → σ → Except Fault Unit × σ) (destination : Value)
    (made : Except Fault String × σ) : Except Fault String × σ :=
  match made with
  | (.error fault, s) =>
    match report "error" ("Failed to create " ++ destination.display ++ ": " ++ fault.message) s with
    | (.error unsaid, s) => (.error unsaid, s)
    | (.ok (), s) => (.error fault, s)
  | (.ok path, s) =>
    match report "create" path s with
    | (.error unsaid, s) => (.error unsaid, s)
    | (.ok (), s) => (.ok path, s)

theorem create_eq [Host] (name destination context : Value) (s : σ) :
    g.create name destination context s = conclude g.report destination
      (g.make name destination (if context.isTrue then context else .dict []) s) := by
  unfold create
  -- The fixed words of the messages must not be looked at.
  generalize g.report = report
  rfl

theorem conclude_view {τ : Type} {report : String → String → σ → Except Fault Unit × σ}
    {report' : String → String → τ → Except Fault Unit × τ} {view : τ → σ}
    (acts : ∀ status message s,
      report status message (view s) = Prod.map id view (report' status message s))
    (destination : Value) (made : Except Fault String × τ) :
    conclude report destination (Prod.map id view made) =
      Prod.map id view (conclude report' destination made) := by
  obtain ⟨answer, s⟩ := made
  cases answer with
  | error fault =>
      simp only [conclude, Prod.map, id, acts]
      cases report' "error"
        ("Failed to create " ++ destination.display ++ ": " ++ fault.message) s with
      | mk told s₁ => cases told <;> rfl
  | ok path =>
      simp only [conclude, Prod.map, id, acts]
      cases report' "create" path s with
      | mk told s₁ => cases told <;> rfl

/-- Without its journal, a generator answers and acts as before. -/
theorem create_journaled [Host] (name destination context : Value) (s : σ) (journal : List Action) :
    g.create name destination context s =
      Prod.map id Prod.fst (g.journaled.create name destination context (s, journal)) := by
  have tells : ∀ status message (s : σ × List Action), g.report status message s.1 =
      Prod.map id Prod.fst (g.journaled.report status message s) := by
    intro status message s
    rw [report_journaled]
    rfl
  rw [create_eq, create_eq, ← conclude_view tells, ← make_journaled]

/-! ### What was written -/

variable {g}

/-- A path that is given back was made, and then it was told. -/
theorem made_of_conclude {report : String → String → σ → Except Fault Unit × σ} {destination : Value}
    {made : Except Fault String × σ} {path : String} {s' : σ}
    (concluded : conclude report destination made = (.ok path, s')) :
    ∃ s₁, made = (.ok path, s₁) ∧ report "create" path s₁ = (.ok (), s') := by
  obtain ⟨answer, s₁⟩ := made
  cases answer with
  | error fault =>
      simp only [conclude] at concluded
      split at concluded <;> cases concluded
  | ok made =>
      simp only [conclude] at concluded
      cases said : report "create" made s₁ with
      | mk told s₂ =>
          rw [said] at concluded
          cases told with
          | error unsaid => cases concluded
          | ok =>
              cases concluded
              exact ⟨s₁, rfl, said⟩

theorem tell_of_report [Host] {status message : String} {s s' : σ}
    (told : g.report status message s = (.ok (), s')) : ∃ line, s' = g.site.tell line s := by
  unfold report at told
  cases said : Console.statusLine status message with
  | error fault =>
      rw [said] at told
      cases told
  | ok line =>
      rw [said] at told
      cases told
      exact ⟨line, rfl⟩

/-- A name with a chain that was processed is one whose stages have run from a context. -/
theorem runStages_of_process {can : Capabilities σ} {path made : String} {context : Value}
    {s s' : σ} (chained : (ChainName.parse path).hasChain = true)
    (processed : process can (.str path) context s = (.ok made, s')) :
    ∃ entries, runStages can (ChainName.parse path).templates.length entries
        (plan (ChainName.parse path).base ((ChainName.parse path).templates.map .str))
        (initialContent entries) (ChainName.parse path).base s = (.ok made, s') := by
  simp only [process, pathOf, processName, if_pos chained] at processed
  cases taken : entriesOf context with
  | error fault =>
      rw [taken] at processed
      cases processed
  | ok entries =>
      rw [taken] at processed
      simp only [applyChain, List.length_map] at processed
      exact ⟨entries, processed⟩

/-- A template that was applied has written its text to the destination. -/
theorem write_of_applied {shelf : Shelf σ} {disk : Disk} {name destination context : Value}
    {s s' : σ} {path : String}
    (applied : shelf.apply disk name destination context s = (.ok path, s')) :
    path = destination.display ∧ ∃ text, shelf.text disk name context = .ok text ∧
      shelf.write path (.str text) s = (.ok (), s') := by
  have isEnd := shelf.applied_apply disk name destination context s
  rw [applied] at isEnd
  cases isEnd with
  | written _ made wrote => exact ⟨rfl, _, made, wrote⟩

end Generator

/-! ### Chains and templates -/

namespace Filing

variable {g : Generator σ}

/-- The files are those of the whole generator: what it tells leaves them as they are, and its shelf writes
    as its chains do. -/
structure OfGenerator [Host] (files : Filing g.chains) : Prop where
  tell_content : ∀ text s, files.content (g.site.tell text s) = files.content s
  shelf_write : g.shelf.write = g.write

/-- The last of some writes went to a path and has left its text there. -/
def EndsWith [Host] (files : Filing g.chains) (s s' : σ) (path : String) (writes : List Write) : Prop :=
  ∃ front text, writes = front ++ [⟨path, text, .ok ()⟩] ∧ (files.form text).isSome ∧
    files.content s' (files.fileAt s path) = files.form text

end Filing

namespace Generator

variable {g : Generator σ}

theorem str_of_pathOf {destination : Value} {path : String} (isPath : pathOf destination = .ok path) :
    destination = .str path := by
  cases destination with
  | str text =>
      cases isPath
      rfl
  | _ => cases isPath

/-- A marked path has a chain, whose last stage has written its text to the base. -/
theorem written_by_chain [Host] {path made : String} {context : Value} {s s' : σ} {actions : List Action}
    (marked : isMarked path = true)
    (processed : process g.chains.journaled (.str path) context (s, []) = (.ok made, s', actions)) :
    made = (ChainName.parse path).base ∧ (ChainName.parse path).templates ≠ [] ∧
      (∃ front text, writesOf actions = front ++ [⟨made, text, .ok ()⟩] ∧
        (callsOf actions).getLast?.bind (fun call => call.answer.toOption) = some text) ∧
      ∀ files : Filing g.chains, files.EndsWith s s' made (writesOf actions) := by
  have chained := ChainName.hasChain_of_isMarked marked
  have nonempty : (ChainName.parse path).templates ≠ [] := by
    simpa [ChainName.hasChain] using chained
  obtain ⟨entries, ran⟩ := runStages_of_process chained processed
  obtain ⟨actions', journal, run⟩ := stagesRun_journaled g.chains
    (ChainName.parse path).templates.length entries
    (plan (ChainName.parse path).base ((ChainName.parse path).templates.map .str))
    (initialContent entries) (ChainName.parse path).base s []
  rw [ran] at journal run
  obtain rfl : actions = actions' := journal
  have stages : plan (ChainName.parse path).base ((ChainName.parse path).templates.map .str) ≠ [] := by
    rw [ne_eq, ← List.length_eq_zero_iff, length_plan_str, List.length_eq_zero_iff]
    exact nonempty
  obtain ⟨last, front, text, wrote, rendered⟩ := run.last_of_ok rfl stages
  rw [map_path_plan, getLast?_stagePaths _ nonempty, Option.some.injEq] at last
  refine ⟨last.symm, nonempty, ⟨front, text, wrote, rendered⟩, fun files => ?_⟩
  have follows := files.follows_runStages s (ChainName.parse path).templates.length entries
    (plan (ChainName.parse path).base ((ChainName.parse path).templates.map .str))
    (initialContent entries) (ChainName.parse path).base s [] (files.follows_nil s)
  rw [ran] at follows
  obtain ⟨hasForm, kept⟩ := follows.kept front ⟨made, text, .ok ()⟩ [] wrote rfl
    (fun _ later => absurd later List.not_mem_nil)
  exact ⟨front, text, wrote, hasForm, kept⟩

/-- A path without the mark is written once, by the shelf. -/
theorem written_by_shelf [Host] {path made : String} {name context : Value} {s s' : σ}
    {actions : List Action}
    (applied : g.journaled.shelf.apply (g.site.disk s) name (.str path) context (s, []) =
      (.ok made, s', actions)) :
    made = path ∧ ∃ text, g.shelf.text (g.site.disk s) name context = .ok text ∧
      writesOf actions = [⟨made, .str text, .ok ()⟩] ∧
      ∀ files : Filing g.chains, files.OfGenerator →
        files.EndsWith s s' made (writesOf actions) := by
  obtain ⟨rfl, text, rendered, wrote⟩ := write_of_applied applied
  simp only [journaled, Prod.mk.injEq, List.nil_append] at wrote
  obtain ⟨answered, rfl, rfl⟩ := wrote
  rw [answered]
  refine ⟨rfl, text, rendered, rfl, fun files whole => ⟨[], .str text, rfl, ?_⟩⟩
  rw [whole.shelf_write] at answered ⊢
  exact files.write_content _ _ _ answered

/-- The files on the disk are those of the whole generator that works with its templates alone. -/
theorem ofGenerator_standard [Host] (settings : Settings) :
    ((standard settings World.site).filing (plain_standard settings)).OfGenerator where
  tell_content _ _ := rfl
  shelf_write := rfl

/-- A path that is given back was written by the same call, last of all and with the text that was rendered
    last. It is the base of the destination's chain, which has at least one stage, if the destination is
    marked, and the destination itself otherwise; and wherever files are kept, the text is there. -/
theorem written_of_create [Host] {name destination context : Value} {s s' : σ} {made : String}
    {actions : List Action}
    (created : g.journaled.create name destination context (s, []) = (.ok made, s', actions)) :
    g.create name destination context s = (.ok made, s') ∧
    ∃ path, destination = .str path ∧
      (isMarked path = true →
        made = (ChainName.parse path).base ∧ (ChainName.parse path).templates ≠ [] ∧
        ∃ front text, writesOf actions = front ++ [⟨made, text, .ok ()⟩] ∧
          (callsOf actions).getLast?.bind (fun call => call.answer.toOption) = some text) ∧
      (isMarked path = false →
        made = path ∧ ∃ text,
          g.shelf.text (g.site.disk s) name (if context.isTrue then context else .dict []) =
            .ok text ∧
          writesOf actions = [⟨made, .str text, .ok ()⟩]) ∧
      ∀ files : Filing g.chains, files.OfGenerator →
        files.EndsWith s s' made (writesOf actions) := by
  refine ⟨by rw [create_journaled g name destination context s [], created]; rfl, ?_⟩
  rw [create_eq] at created
  obtain ⟨⟨s₁, actions₁⟩, isMade, told⟩ := made_of_conclude created
  obtain ⟨line, done⟩ := tell_of_report told
  simp only [journaled, Prod.mk.injEq] at done
  obtain ⟨rfl, rfl⟩ := done
  have keeps : ∀ files : Filing g.chains, files.OfGenerator →
      files.EndsWith s s₁ made (writesOf actions) →
      files.EndsWith s (g.site.tell line s₁) made (writesOf actions) := by
    rintro files whole ⟨front, text, wrote, hasForm, kept⟩
    exact ⟨front, text, wrote, hasForm, by rw [whole.tell_content, kept]⟩
  unfold make at isMade
  cases isPath : pathOf destination with
  | error fault =>
      rw [isPath] at isMade
      cases isMade
  | ok path =>
      obtain rfl := str_of_pathOf isPath
      rw [isPath] at isMade
      simp only at isMade
      refine ⟨path, rfl, ?_⟩
      by_cases marked : isMarked path = true
      · rw [if_pos marked, chains_journaled] at isMade
        obtain ⟨isBase, nonempty, wrote, ends⟩ := written_by_chain marked isMade
        refine ⟨fun _ => ⟨isBase, nonempty, wrote⟩, fun unmarked => ?_, fun files whole => ?_⟩
        · rw [marked] at unmarked
          cases unmarked
        · exact keeps files whole (ends files)
      · rw [if_neg marked] at isMade
        obtain ⟨same, text, rendered, wrote, ends⟩ := written_by_shelf isMade
        refine ⟨fun isMark => absurd isMark marked, fun _ => ⟨same, text, rendered, wrote⟩,
          fun files whole => ?_⟩
        exact keeps files whole (ends files whole)

/-! ### Both ways at work -/

theorem conclude_of_told {report : String → String → σ → Except Fault Unit × σ} (destination : Value)
    {path : String} {s s' : σ} (told : report "create" path s = (.ok (), s')) :
    conclude report destination (.ok path, s) = (.ok path, s') := by
  simp only [conclude]
  rw [told]

/-- A file that was made is created, if it can be told. -/
theorem create_of_make [Host] {g : Generator σ} {name destination context : Value} {path line : String}
    {s s₁ : σ} (told : Console.statusLine "create" path = .ok line)
    (made : g.make name destination (if context.isTrue then context else .dict []) s =
      (.ok path, s₁)) :
    g.create name destination context s = (.ok path, g.site.tell line s₁) := by
  have reported := g.report_of_line told s₁
  rw [create_eq, made]
  exact conclude_of_told destination reported

/-- A home next to a generator with a template. -/
def worldWithTemplate : World :=
  ⟨⟨["home"], [(["home"], .folder), (["templates"], .folder), (["templates", "view"], .folder),
    (["templates", "view", "template.j2"], .file [0x68, 0x69])]⟩, ""⟩

/-- A marked destination whose chain has two stages, and one without the mark. -/
theorem written_of_create_of_both :
    (∃ s' actions,
      wrapping.journaled.create (.str "view") (.str "out/a._p._q") .null (emptyWorld, []) =
        (.ok "out/a", s', actions) ∧
      ∃ front text, writesOf actions = front ++ [⟨"out/a", text, .ok ()⟩]) ∧
    ∃ s' actions,
      (standard (Settings.default (.ofChars "/templates".toList)) World.site).journaled.create
        (.str "view") (.str "b") .null (worldWithTemplate, []) = (.ok "b", s', actions) ∧
      ∃ text, writesOf actions = [⟨"b", .str text, .ok ()⟩] := by
  have both : ∀ (g : Generator World) (destination path : String) (w : World),
      (g.journaled.make (.str "view") (.str destination) (.dict []) (w, [])).1.toOption =
        some path →
      ∃ s' actions, g.journaled.create (.str "view") (.str destination) .null (w, []) =
        (.ok path, s', actions) := by
    intro g destination path w made
    have isPlain : Console.IsPlain "create".toList := Console.isPlain_of_all (by decide)
    obtain ⟨line, told⟩ := Console.exists_statusLine isPlain path
    generalize isMade : g.journaled.make (.str "view") (.str destination) (.dict []) (w, []) = done
      at made
    obtain ⟨answer, s', actions⟩ := done
    cases answer with
    | error fault => cases made
    | ok path' =>
        cases made
        exact ⟨_, _, create_of_make told isMade⟩
  refine ⟨?_, ?_⟩
  · obtain ⟨s', actions, created⟩ := both wrapping "out/a._p._q" "out/a" emptyWorld
      (by decide +kernel)
    obtain ⟨-, destination, same, chained, -⟩ := written_of_create created
    cases same
    obtain ⟨-, -, front, text, wrote, -⟩ := chained (by decide)
    exact ⟨s', actions, created, front, text, wrote⟩
  · obtain ⟨s', actions, created⟩ := both (standard (Settings.default (.ofChars "/templates".toList))
      World.site) "b" "b" worldWithTemplate (by decide +kernel)
    obtain ⟨-, destination, same, -, plain, -⟩ := written_of_create created
    cases same
    obtain ⟨-, text, -, wrote⟩ := plain (by decide)
    exact ⟨s', actions, created, text, wrote⟩

end Generator

end LayeredFiles
