import LayeredFiles.Proofs.Chain.Contract
import LayeredFiles.Proofs.Disk.Reading
import LayeredFiles.Proofs.Json.RoundTrip
import LayeredFiles.Proofs.Settings.Valid
import LayeredFiles.Proofs.Value.Entries
import LayeredFiles.Settings.File
/-
Module: LayeredFiles.Proofs.Settings.RoundTrip
Layer: Proofs
Purpose: settings that are kept in a file and read back. Whatever was accepted once is accepted again, and
  comes back as it was, apart from two things: a limit of time that is infinite has no form in the file and
  is lost, and a number of files with too many digits cannot be read back.
Main exports: Settings.checkSettings_value, Settings.load_of_save, Settings.load_save_iff
-/

namespace LayeredFiles

open Number

namespace Settings

/-! ### Checked again -/

/-- A field that is there passes if its value does, and other fields do not matter. -/
theorem check_cons_self {α : Type} {place : List String} {name : String} {otherwise a : α}
    {field : Value → Field α} {v : Value} (isValue : field v = .ok a) (rest : Entries) :
    check place ((.str name, v) :: rest) name otherwise field = .ok a := by
  rw [check, Entries.find?_cons_self]
  simp only [isValue]

theorem check_cons_of_ne {α : Type} {place : List String} {name other : String} {otherwise : α}
    {field : Value → Field α} (differs : other ≠ name) (v : Value) (rest : Entries) :
    check place ((.str other, v) :: rest) name otherwise field =
      check place rest name otherwise field := by
  rw [check, check, Entries.find?_cons_of_ne differs]

theorem parallelValue_int {i : Int} (atLeast : 1 ≤ i) : parallelValue (.int i) = .ok i := by
  simp only [parallelValue, wholeNumber, bind, Except.bind, if_pos atLeast]
  rfl

theorem timeoutValue_value {timeout : Option Binary64}
    (positive : ∀ x, timeout = some x → Binary64.compareInt? 0 x = some .lt) :
    timeoutValue ((timeout.map .float).getD .null) = .ok timeout := by
  cases timeout with
  | none => rfl
  | some x => exact if_pos (positive x rfl)

theorem checkBatch_value (isDocument : Bool) (place : List String) {b : BatchSettings}
    (valid : b.IsValid) : checkBatch isDocument place b.value = .ok b := by
  have parallel := parallelValue_int valid.parallel
  have timeout := timeoutValue_value valid.timeout
  rw [BatchSettings.value, checkBatch, check_cons_self parallel, check_cons_of_ne (by decide),
    check_cons_self timeout]
  rfl

/-- Valid settings pass all checks again. -/
theorem checkSettings_value (isDocument : Bool) (home : NormalPath) {s : Settings} (valid : s.IsValid) :
    checkSettings isDocument home s.value = .ok s := by
  have path : pathValue (.str s.templatesPath.text) = .ok s.templatesPath := by
    rw [pathValue, NormalPath.ofString_text valid.path]
  have encoding : textValue (.str s.encoding) = .ok s.encoding := rfl
  have verbose : truthValue (.bool s.verbose) = .ok s.verbose := rfl
  have batch : checkBatchField isDocument [(.str "templates_path", .str s.templatesPath.text),
      (.str "encoding", .str s.encoding), (.str "verbose", .bool s.verbose),
      (.str "batch", s.batch.value)] = .ok s.batch := by
    rw [checkBatchField, Entries.find?_cons_of_ne (by decide), Entries.find?_cons_of_ne (by decide),
      Entries.find?_cons_of_ne (by decide), Entries.find?_cons_self]
    exact checkBatch_value isDocument ["batch"] valid.batch
  rw [value, checkSettings, batch, check_cons_self path, check_cons_of_ne (by decide),
    check_cons_self encoding, check_cons_of_ne (by decide), check_cons_of_ne (by decide),
    check_cons_self verbose]
  rfl

end Settings

/-! ### Documents -/

/-- The settings of a batch without a limit of time that is infinite. -/
def BatchSettings.kept (b : BatchSettings) : BatchSettings :=
  { b with chainTimeout := b.chainTimeout.filter Binary64.isFinite }

theorem readBack_timeout (timeout : Option Binary64) :
    Json.readBack ((timeout.map .float).getD .null) =
      .ok (((timeout.filter Binary64.isFinite).map .float).getD .null) := by
  cases timeout with
  | none => rfl
  | some x =>
      change Json.readBack (.float x) = _
      by_cases finite : x.isFinite = true
      · rw [Option.filter_some, if_pos finite, Json.readBack, if_pos finite]
        rfl
      · rw [Option.filter_some, if_neg finite, Json.readBack, if_neg finite]
        rfl

/-- What is read back of the settings of a batch. -/
theorem BatchSettings.readBack_value (b : BatchSettings) :
    Json.readBack b.value = (Json.wholeBack b.maxParallel).map (fun _ => b.kept.value) := by
  have isNamed : ∀ i timeout : Value, Entries.ofList [(.str "max_parallel", i),
      (.str "chain_timeout", timeout)] = [(.str "max_parallel", i), (.str "chain_timeout", timeout)] :=
    fun i timeout => Entries.ofList_named [("max_parallel", i), ("chain_timeout", timeout)] (by simp)
  have key : ∀ name, ((Value.str name).text?.getD "") = name := fun _ => rfl
  rw [value, Json.readBack, Json.readBack.readBackEntries, Json.readBack.readBackEntries,
    Json.readBack.readBackEntries, readBack_timeout, Json.readBack]
  rw [Json.wholeBack]
  split
  · rfl
  · simp only [key, pure, Except.pure, bind, Except.bind, Except.map, isNamed]
    rfl

namespace Settings

/-- The settings without a limit of time that is infinite. -/
def kept (s : Settings) : Settings := { s with batch := s.batch.kept }

/-- What is read back of settings. -/
theorem readBack_value (s : Settings) :
    Json.readBack s.value = (Json.wholeBack s.batch.maxParallel).map (fun _ => s.kept.value) := by
  have isNamed : ∀ path encoding verbose batch : Value,
      Entries.ofList [(.str "templates_path", path), (.str "encoding", encoding),
        (.str "verbose", verbose), (.str "batch", batch)] =
      [(.str "templates_path", path), (.str "encoding", encoding), (.str "verbose", verbose),
        (.str "batch", batch)] :=
    fun path encoding verbose batch => Entries.ofList_named [("templates_path", path),
      ("encoding", encoding), ("verbose", verbose), ("batch", batch)] (by simp)
  have key : ∀ name, ((Value.str name).text?.getD "") = name := fun _ => rfl
  have batch := s.batch.readBack_value
  rw [value, Json.readBack]
  simp only [Json.readBack.readBackEntries, Json.readBack, batch, key]
  cases Json.wholeBack s.batch.maxParallel with
  | error reason => rfl
  | ok whole =>
      simp only [pure, Except.pure, bind, Except.bind, Except.map, isNamed]
      rfl

/-- What a document of settings holds: the settings without a limit of time that is infinite, if the number
    of files can be read. -/
theorem ofDocument_document (home : NormalPath) {s : Settings} (valid : s.IsValid) :
    ofDocument home s.document =
      match Json.wholeBack s.batch.maxParallel with
      | .ok _ => .ok s.kept
      | .error _ => .error (.settings ⟨title, [⟨[], .jsonInvalid, .str s.document⟩]⟩) := by
  have kept : s.kept.IsValid := by
    refine ⟨valid.path, valid.batch.parallel, fun x isSome => valid.batch.timeout x ?_⟩
    exact (Option.filter_eq_some_iff.1 isSome).1
  have back := Json.read_write s.value
  rw [readBack_value] at back
  rw [ofDocument, Json.readDocument, document, back]
  cases Json.wholeBack s.batch.maxParallel with
  | error reason => rfl
  | ok whole =>
      simp only [Except.map, checkSettings_value true home kept]
      rfl

/-! ### Files -/

end Settings

/-- Folders can be made above the path, and a file can stand at it. -/
def Disk.IsWritable (disk : Disk) (path : NormalPath) : Prop :=
  path.text.toList.contains '\x00' = false ∧
    ∃ prepared place, disk.ensureFolder path.parent = (.ok (), prepared) ∧
      prepared.placeForFile path.text = .ok place

namespace Settings

/-- Settings are kept in a file wherever one can be written, and loading reads their document. -/
theorem load_of_save (s : Settings) {path : NormalPath} (isNormal : path.IsNormal) {disk : Disk}
    (writable : disk.IsWritable path) :
    ∃ disk', s.save path disk = (.ok path.text, disk') ∧
      ∀ home, load home disk' (.ofString path.text) = ofDocument home s.document := by
  obtain ⟨free, prepared, place, isPrepared, isPlace⟩ := writable
  have written := Disk.writeFile_utf8 free isPlace s.document
  have back := Disk.readText_writeFile written
  generalize wrote : prepared.writeFile "utf-8" path.text (.str s.document) = done at written back
  obtain ⟨answer, disk'⟩ := done
  cases written
  have lines : Text.unifyNewlines s.document.toList = s.document.toList := by
    refine Text.unifyNewlines_eq_self ?_
    rw [document, Json.write, String.toList_ofList]
    exact Json.noReturn_writeValue s.value 0
  refine ⟨disk', ?_, fun home => ?_⟩
  · simp only [save, isPrepared, wrote]
  · rw [load, NormalPath.ofString_text isNormal, back, lines, String.ofList_toList]
    simp only [bind, Except.bind]

theorem int_of_wholeBack {i : Int} {v : Value} (back : Json.wholeBack i = .ok v) : v = .int i := by
  unfold Json.wholeBack at back
  split at back
  · cases back
  · cases back
    rfl

/-- A number of files is read back unless it has too many digits. -/
theorem wholeBack_eq_ok_iff {i : Int} (positive : 1 ≤ i) :
    Json.wholeBack i = .ok (.int i) ↔ i < 10 ^ digitLimit := by
  have someDigits : 0 < digitLimit := by decide
  have short : (decimalDigits i.natAbs).length ≤ digitLimit ↔ i.natAbs < 10 ^ digitLimit :=
    Nat.length_toDigits_le_iff (by decide) someDigits
  have isInt : i < 10 ^ digitLimit ↔ i.natAbs < 10 ^ digitLimit := by
    obtain ⟨n, rfl⟩ := Int.eq_ofNat_of_zero_le (show 0 ≤ i by omega)
    rw [Int.natAbs_natCast]
    exact_mod_cast Iff.rfl
  rw [isInt, ← short, Json.wholeBack]
  by_cases tooLong : digitLimit < (decimalDigits i.natAbs).length
  · rw [if_pos tooLong]
    simp [tooLong]
  · rw [if_neg tooLong]
    simpa using tooLong

theorem lt_pow_digitLimit {i : Int} (oneDigit : i < 10 ^ 1) : i < 10 ^ digitLimit :=
  lt_of_lt_of_le oneDigit (pow_le_pow_right₀ (by decide) (by decide))

/-- A number above zero that is not finite is infinite. -/
theorem isFinite_iff {x : Binary64} (positive : Binary64.compareInt? 0 x = some .lt) :
    x.isFinite = true ↔ x ≠ .infinity false := by
  cases x with
  | nan => cases positive
  | number negative rank =>
      have isNumber : (Binary64.number negative rank).isNaN = false := rfl
      by_cases infinite : rank.val = infinityRank
      · have isInfinite : (Binary64.number negative rank).isInfinite = true := decide_eq_true infinite
        have sign : negative = false := by
          cases negative with
          | false => rfl
          | true =>
              have above : Binary64.compareInt? 0 (.number true rank) = some .gt := if_pos isInfinite
              rw [above] at positive
              cases positive
        have isLast : rank = Fin.last infinityRank := Fin.ext infinite
        have same : Binary64.number negative rank = .infinity false := by rw [sign, isLast]; rfl
        rw [Binary64.isFinite, isNumber, isInfinite]
        exact ⟨fun finite => absurd finite Bool.false_ne_true, fun other => absurd same other⟩
      · have notInfinite : (Binary64.number negative rank).isInfinite = false :=
          decide_eq_false infinite
        rw [Binary64.isFinite, isNumber, notInfinite]
        refine ⟨fun _ same => infinite ?_, fun _ => rfl⟩
        cases same
        rfl

/-- No limit of time is lost unless it is infinite. -/
theorem kept_eq_self_iff {s : Settings} (valid : s.IsValid) :
    s.kept = s ↔ s.batch.chainTimeout ≠ some (.infinity false) := by
  obtain ⟨path, encoding, verbose, maxParallel, timeout⟩ := s
  have timeout_iff : timeout.filter Binary64.isFinite = timeout ↔ timeout ≠ some (.infinity false) := by
    cases timeout with
    | none => simp
    | some x =>
        have finite := isFinite_iff (valid.batch.timeout x rfl)
        by_cases isFinite : x.isFinite = true
        · rw [Option.filter_some, if_pos isFinite]
          simpa using finite.1 isFinite
        · rw [Option.filter_some, if_neg isFinite]
          simpa using fun other => isFinite (finite.2 other)
  rw [← timeout_iff]
  simp [kept, BatchSettings.kept]

/-- Settings that were accepted are kept in every file that can be written. Loading the file gives them back,
    apart from a limit of time that is infinite, if the number of files has no more digits than can be read;
    so they come back as they were just if it has not and the limit is not infinite. -/
theorem load_save_iff {home : NormalPath} (isNormal : home.IsNormal) {v : Value} {s : Settings}
    (accepted : validate home v = .ok s) {path : NormalPath} (isPath : path.IsNormal) {disk : Disk}
    (writable : disk.IsWritable path) :
    ∃ disk', s.save path disk = (.ok path.text, disk') ∧
      ∀ home', (s.batch.maxParallel < 10 ^ digitLimit →
          load home' disk' (.ofString path.text) = .ok s.kept) ∧
        (load home' disk' (.ofString path.text) = .ok s ↔
          s.batch.maxParallel < 10 ^ digitLimit ∧
            s.batch.chainTimeout ≠ some (.infinity false)) := by
  have valid := isValid_of_checkSettings isNormal (of_reported accepted)
  obtain ⟨disk', saved, loads⟩ := s.load_of_save isPath writable
  refine ⟨disk', saved, fun home' => ?_⟩
  have readable := wholeBack_eq_ok_iff valid.batch.parallel
  rw [loads home', ofDocument_document home' valid, ← readable, ← kept_eq_self_iff valid]
  cases back : Json.wholeBack s.batch.maxParallel with
  | error reason => exact ⟨nofun, nofun, fun both => nomatch both.1⟩
  | ok whole =>
      have isWhole := int_of_wholeBack back
      rw [isWhole]
      exact ⟨fun _ => rfl, fun same => ⟨rfl, Except.ok.inj same⟩, fun both => congrArg _ both.2⟩

/-- Settings with a limit of time, in a folder that is made for them. -/
theorem load_save_of_half :
    let s : Settings := ⟨.ofString "templates", "utf-8", true, ⟨8, some (.ofRatio false 1 2)⟩⟩
    ∃ disk', s.save (.ofString "kept/settings.json") emptyWorld.disk =
        (.ok "kept/settings.json", disk') ∧
      load (.ofString "templates") disk' (.ofString "kept/settings.json") = .ok s := by
  intro s
  have valid : s.IsValid := by
    refine ⟨NormalPath.isNormal_ofString _, by decide, ?_⟩
    intro x isHalf
    cases isHalf
    decide +kernel
  have accepted : validate (.ofString "templates") s.value = .ok s := by
    rw [validate, checkSettings_value false _ valid]
    rfl
  have writable : emptyWorld.disk.IsWritable (.ofString "kept/settings.json") :=
    ⟨rfl, _, _, rfl, rfl⟩
  obtain ⟨disk', saved, loads⟩ := load_save_iff (NormalPath.isNormal_ofString "templates") accepted
    (NormalPath.isNormal_ofString "kept/settings.json") writable
  refine ⟨disk', saved, (loads _).2.2 ⟨?_, ?_⟩⟩
  · exact lt_pow_digitLimit (by decide)
  · decide +kernel

/-- An infinite limit of time is accepted and kept, and loading gives settings without a limit. -/
theorem timeout_lost :
    ∃ s disk', validate (.ofString "templates")
        (.dict [(.str "batch", .dict [(.str "chain_timeout", .str "inf")])]) = .ok s ∧
      s.save (.ofString "c.json") emptyWorld.disk = (.ok "c.json", disk') ∧
      load (.ofString "templates") disk' (.ofString "c.json") ≠ .ok s := by
  let s : Settings := ⟨.ofString "templates", "utf-8", false, ⟨4, some (.infinity false)⟩⟩
  have accepted : validate (.ofString "templates")
      (.dict [(.str "batch", .dict [(.str "chain_timeout", .str "inf")])]) = .ok s := rfl
  have valid := isValid_of_checkSettings (NormalPath.isNormal_ofString "templates")
    (of_reported accepted)
  have writable : emptyWorld.disk.IsWritable (.ofString "c.json") := ⟨rfl, _, _, rfl, rfl⟩
  obtain ⟨disk', saved, loads⟩ := s.load_of_save (NormalPath.isNormal_ofString "c.json") writable
  refine ⟨s, disk', accepted, saved, ?_⟩
  intro loaded
  have isText : NormalPath.ofString "c.json" = .ofString (NormalPath.ofString "c.json").text := rfl
  have back : Json.wholeBack s.batch.maxParallel = .ok (.int 4) :=
    (wholeBack_eq_ok_iff (by decide)).2 (lt_pow_digitLimit (by decide))
  rw [isText, loads, ofDocument_document _ valid, back] at loaded
  exact (kept_eq_self_iff valid).1 (Except.ok.inj loaded) rfl

end Settings

end LayeredFiles
