import LayeredFiles.Proofs.Context
import LayeredFiles.Proofs.Yaml.Document
/-
Module: LayeredFiles.Proofs.Yaml.Loading
Layer: Proofs
Purpose: how the loading of a context fails. Files, bytes, JSON documents and YAML documents that are no
  mappings fail in the announced ways. The others are documents that are nested too deep for the host, and YAML
  documents in which an escape stands for a number that is too large, a part is made into a value by its text
  and has none, or a part stands in itself.
Main exports: BreaksYaml, loadContext_announces
-/

namespace LayeredFiles

/-- A folder with a context in which a word that is no truth value has the tag of truth values. -/
def wordDisk : Disk :=
  ⟨["home"], [(["home"], .folder),
    (["home", "y.yaml"], .file ("a: !!bool x\n".toList.flatMap Text.utf8Bytes))]⟩

/-- The word that is told not to be there. -/
def missingKey? : Except Fault Entries → Option String
  | .error (.key word) => some word
  | _ => none

theorem loadContext_wordDisk : loadContext wordDisk "y.yaml" = .error (.key "x") := by
  have isKey : missingKey? (loadContext wordDisk "y.yaml") = some "x" := by decide +kernel
  unfold missingKey? at isKey
  split at isKey
  · rename_i word isFault
    rw [isFault, Option.some.inj isKey]
  · cases isKey

/-- How a YAML document has no value without that being announced. A part that breaks has a tag, or it is a
    number in too many groups of sixty, or a word for a truth value with a line end behind it. A part that
    stands in itself has no end, and no tree of values holds it. -/
inductive BreaksYaml (document : List Char) (fault : Fault) : Prop
  | escape (fails : Yaml.readDocument (Yaml.scanTokens document) = .error .numberTooLarge)
      (isFault : fault = .arithmetic .numberTooLarge) : BreaksYaml document fault
  | part {parts : Yaml.Document} {place : Nat} {text : String}
      (isDocument : Yaml.readDocument (Yaml.scanTokens document) = .ok (some parts))
      (breaks : Yaml.BreaksAt parts.nodes place text fault)
      (untagged : (Yaml.nodeAt parts.nodes place).writtenTag = none →
        Yaml.IsOverlong (Yaml.unsigned (Text.lower (Yaml.digitsOf text.toList))) ∨
          ∃ word ∈ Yaml.boolWords, text = word ++ "\n") : BreaksYaml document fault
  | circle {parts : Yaml.Document}
      (isDocument : Yaml.readDocument (Yaml.scanTokens document) = .ok (some parts))
      (circles : Yaml.Circles parts.nodes fault) : BreaksYaml document fault

theorem breaksYaml_of_readYaml {document : List Char} {fault : Fault}
    (fails : Yaml.readYaml document = .error (.fault fault)) :
    fault.isAnnounced = true ∨ BreaksYaml document fault := by
  rcases Yaml.origin_of_readYaml fails with announced | ⟨isEscape, isFault⟩ | ⟨parts, isDocument, origin⟩
  · exact Or.inl announced
  · exact Or.inr (.escape isEscape isFault)
  · rcases origin with ⟨place, text, breaks⟩ | circles
    · exact Or.inr (.part isDocument breaks (Yaml.of_breaksAt_of_untagged breaks))
    · exact Or.inr (.circle isDocument circles)

/-- Loading a context fails in an announced way, unless the document in the file is nested deeper than the host
    can follow, or the file is a YAML document that breaks. -/
theorem loadContext_announces [Host] {disk : Disk} {path : String} {fault : Fault}
    (fails : loadContext disk path = .error fault) :
    fault.isAnnounced = true ∨ ∃ document : String,
      disk.readText "utf-8" (NormalPath.ofString path).text = .ok document ∧
        ((Host.sinks document.toList = true ∧ fault = .arithmetic .depthTooLarge) ∨
          (isYamlFile (.ofString path) = true ∧ BreaksYaml document.toList fault)) := by
  have yields := yields_loadContext disk path
  rw [fails] at yields
  rcases yields with announced | ⟨document, isYaml, isRead, stops⟩ | ⟨document, isRead, sinks, isDepth⟩
  · exact Or.inl announced
  · exact (breaksYaml_of_readYaml stops).imp_right (fun breaks => ⟨document, isRead, Or.inr ⟨isYaml, breaks⟩⟩)
  · exact Or.inr ⟨document, isRead, Or.inl ⟨sinks, isDepth⟩⟩

/-- The word is a part that breaks. -/
theorem loadContext_announces_of_word :
    loadContext wordDisk "y.yaml" = .error (.key "x") ∧ (Fault.key "x").isAnnounced = false ∧
      BreaksYaml "a: !!bool x\n".toList (.key "x") := by
  have isRead : wordDisk.readText "utf-8" (NormalPath.ofString "y.yaml").text = .ok "a: !!bool x\n" :=
    eq_ok_of_toOption (by decide +kernel)
  refine ⟨loadContext_wordDisk, rfl, ?_⟩
  rcases loadContext_announces loadContext_wordDisk with announced | ⟨document, isDocument, origin⟩
  · cases announced
  · obtain rfl := Except.ok.inj (isRead.symm.trans isDocument)
    rcases origin with ⟨-, other⟩ | ⟨-, breaks⟩
    · cases other
    · exact breaks

/-- Not every failure to load a context is announced. -/
theorem loadContext_not_announced : ¬∀ (disk : Disk) (path : String) (fault : Fault),
    loadContext disk path = .error fault → fault.isAnnounced = true := by
  intro all
  have announced := all wordDisk "y.yaml" (.key "x") loadContext_wordDisk
  cases announced

end LayeredFiles
