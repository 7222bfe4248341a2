import LayeredFiles.Number.Reading
import LayeredFiles.Settings.Basic
import LayeredFiles.Text.Case
import LayeredFiles.Text.Split
/-
Module: LayeredFiles.Settings.Validate
Layer: Settings
Purpose: settings out of values from outside. Numbers may come as texts, whole numbers with an empty
  fraction, truth values as words; fields that are absent have their defaults, unknown fields are
  passed over. All fields are looked at before the faults are reported.
Main exports: wholeNumber, realNumber, truthValue, validateBatch, validate
-/

namespace LayeredFiles

open Number

namespace Settings

/-- The result of looking at one value. -/
abbrev Field (α : Type) := Except SettingsProblem α

/-! ### Numbers -/

/-- A whole number in the strictest form: no sign but a minus, no zeros in front. -/
def strictInt (s : List Char) : Option (Field Int) :=
  let digits := match s with
    | '-' :: digits => digits
    | digits => digits
  if digits ≠ [] && digits.all Char.isDigit && (digits.length = 1 || digits.head? ≠ some '0') then
    match readInt 10 s with
    | .ok i => some (.ok i)
    | .error (.tooLong _) => some (.error .intSize)
    | .error .malformed => none
  else none

/-- A text without zeros in front; `last` is the character that was passed before. -/
def afterZeros (last : Char) : List Char → Option (List Char)
  | [] => some [last]
  | c :: rest =>
    if c = '0' || c = '_' then afterZeros c rest
    else if ('1' ≤ c && c ≤ '9') || c = '-' then some (c :: rest)
    else if c = '.' then some (last :: c :: rest)
    else none

/-- A text without zeros in front, none if it does not start like a number. -/
def withoutZeros (s : List Char) : Option (List Char) :=
  match s with
  | [] => none
  | '0' :: rest => afterZeros '0' rest
  | c :: rest => if ('1' ≤ c && c ≤ '9') || c = '-' then some (c :: rest) else none

/-- A text without a fraction of zeros. -/
def withoutEmptyFraction (s : List Char) : List Char :=
  match Text.cutAt? ['.'] s with
  | some (whole, fraction) => if fraction.all (· = '0') then whole else s
  | none => s

/-- A text without the underscores between its digits; one that has none or has them elsewhere is no
    such text. -/
def withoutUnderscores (s : List Char) : Option (List Char) :=
  if s.head? = some '_' || s.getLast? = some '_' || !s.contains '_' ||
      (Text.cutAt? ['_', '_'] s).isSome then none
  else some (s.filter (· != '_'))

/-- A text brought into the strictest form of a whole number. -/
def cleanInt (s : List Char) : Option (List Char) :=
  let unsigned := match s with
    | '+' :: '-' :: _ => none
    | '+' :: rest => some rest
    | s => some s
  (unsigned.bind withoutZeros).map (fun s =>
    let s := withoutEmptyFraction s
    (withoutUnderscores s).getD s)

/-- The whole number that a text is. -/
def intOfText (s : List Char) : Field Int :=
  let s := Text.strip s
  match strictInt s with
  | some result => result
  | none => ((cleanInt s).bind strictInt).getD (.error .intParsing)

/-- A whole number given as a value. -/
def wholeNumber (v : Value) : Field Int :=
  match v with
  | .int i => .ok i
  | .bool b => .ok (if b then 1 else 0)
  | .float x =>
    match x.toInt? with
    | some i => .ok i
    | none => .error (if x.isFinite then .intFromFloat else .finiteNumber)
  | .str s => intOfText s.toList
  | _ => .error .intType

/-- The floating-point number that a text is. -/
def floatOfText (s : List Char) : Field Binary64 :=
  let s := Text.strip s
  let plain := if s.contains '_' then withoutUnderscores s else some s
  match plain with
  | some s =>
    if s.all (fun c => c.toNat < 0x80) && !s.any Text.isBlank then
      match readFloat s with
      | some x => .ok x
      | none => .error .floatParsing
    else .error .floatParsing
  | none => .error .floatParsing

/-- A floating-point number given as a value. -/
def realNumber (v : Value) : Field Binary64 :=
  match v with
  | .float x => .ok x
  | .str s => floatOfText s.toList
  | v =>
    match v.int?.bind Binary64.ofInt? with
    | some x => .ok x
    | none => .error .floatType

/-! ### Truth values, texts and paths -/

/-- The words for truth values. -/
def truthWords : List (String × Bool) := [("0", false), ("off", false), ("f", false), ("false", false),
  ("n", false), ("no", false), ("1", true), ("on", true), ("t", true), ("true", true), ("y", true),
  ("yes", true)]

/-- A truth value given as a value. -/
def truthValue (v : Value) : Field Bool :=
  let ofInt (i : Int) : Field Bool :=
    if i = 0 then .ok false else if i = 1 then .ok true else .error .boolParsing
  match v with
  | .bool b => .ok b
  | .int i => ofInt i
  | .str s =>
    match truthWords.lookup s.toLower with
    | some b => .ok b
    | none => .error .boolParsing
  | .float x =>
    match x.toInt? with
    | some i => ofInt i
    | none => .error .boolType
  | _ => .error .boolType

/-- A text given as a value. -/
def textValue (v : Value) : Field String :=
  match v with
  | .str s => .ok s
  | _ => .error .stringType

/-- A path given as a value. -/
def pathValue (v : Value) : Field NormalPath :=
  match v with
  | .str s => .ok (.ofString s)
  | _ => .error .pathType

/-! ### Fields with bounds -/

/-- A number of files at once: at least one. -/
def parallelValue (v : Value) : Field Int := do
  let i ← wholeNumber v
  if 1 ≤ i then pure i else throw (.atLeast 1)

/-- A limit of time: more than nothing, or none. -/
def timeoutValue (v : Value) : Field (Option Binary64) :=
  match v with
  | .null => .ok none
  | v => do
    let x ← realNumber v
    if Binary64.compareInt? 0 x = some .lt then pure (some x) else throw (.above 0)

/-! ### Records -/

/-- A value for one field, or the faults of a record. -/
abbrev Checked (α : Type) := Except (List FieldFault) α

/-- Looks at one field of a record. -/
def check {α : Type} (place : List String) (entries : Entries) (name : String) (otherwise : α)
    (field : Value → Field α) : Checked α :=
  match Entries.find? entries name with
  | none => .ok otherwise
  | some v =>
    match field v with
    | .ok a => .ok a
    | .error problem => .error [⟨place ++ [name], problem, v⟩]

/-- Two results, or the faults of both. -/
def both {α β : Type} (a : Checked α) (b : Checked β) : Checked (α × β) :=
  match a, b with
  | .ok a, .ok b => .ok (a, b)
  | .ok _, .error fs => .error fs
  | .error fs, .ok _ => .error fs
  | .error fs, .error gs => .error (fs ++ gs)

/-- The fault of a value that is no record. -/
def notRecord {α : Type} (isDocument : Bool) (place : List String) (model : String) (v : Value) :
    Checked α :=
  .error [⟨place, if isDocument then .objectType else .modelType model, v⟩]

/-- The title of the settings of a batch. -/
def batchTitle : String := "BatchConfig"

/-- The title of the settings. -/
def title : String := "Config"

/-- The settings of a batch that a value holds; `isDocument` says that it comes from a document. -/
def checkBatch (isDocument : Bool) (place : List String) (v : Value) : Checked BatchSettings :=
  match v with
  | .dict entries =>
    (both (check place entries "max_parallel" BatchSettings.default.maxParallel parallelValue)
      (check place entries "chain_timeout" BatchSettings.default.chainTimeout timeoutValue)).map
      (fun r => ⟨r.1, r.2⟩)
  | v => notRecord isDocument place batchTitle v

/-- The settings of a batch inside other settings. -/
def checkBatchField (isDocument : Bool) (entries : Entries) : Checked BatchSettings :=
  match Entries.find? entries "batch" with
  | none => .ok .default
  | some v => checkBatch isDocument ["batch"] v

/-- The settings that a value holds; the templates are at `home` if nothing else is said. -/
def checkSettings (isDocument : Bool) (home : NormalPath) (v : Value) : Checked Settings :=
  match v with
  | .dict entries =>
    (both (check [] entries "templates_path" home pathValue)
      (both (check [] entries "encoding" defaultEncoding textValue)
        (both (check [] entries "verbose" false truthValue)
          (checkBatchField isDocument entries)))).map
      (fun r => ⟨r.1, r.2.1, r.2.2.1, r.2.2.2⟩)
  | v => notRecord isDocument [] title v

/-- Faults of fields as one fault. -/
def reported {α : Type} (title : String) (result : Checked α) : Except Fault α :=
  match result with
  | .ok a => .ok a
  | .error faults => .error (.settings ⟨title, faults⟩)

/-- The settings of a batch that a value holds. -/
def validateBatch (v : Value) : Except Fault BatchSettings :=
  reported batchTitle (checkBatch false [] v)

/-- The settings that a value holds. -/
def validate (home : NormalPath) (v : Value) : Except Fault Settings :=
  reported title (checkSettings false home v)

example : (intOfText " 007.0 ".toList).toOption = some 7 ∧ (intOfText "1_0".toList).toOption = some 10 ∧
    (intOfText "8.5".toList).toOption = none := by decide +kernel

end Settings

end LayeredFiles
