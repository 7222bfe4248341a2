import LayeredFiles.Value.Display
/-
Module: LayeredFiles.Settings.Fault
Layer: Settings
Purpose: why data are no valid settings. A validation reports every field that fails, in the order of
  the fields.
Main exports: SettingsProblem, SettingsProblem.code, SettingsProblem.message, FieldFault,
  ValidationFault, ValidationFault.message
-/

namespace LayeredFiles

/-- What is wrong with one field. -/
inductive SettingsProblem where
  | modelType (model : String)
  | objectType
  | intType
  | intParsing
  | intFromFloat
  | intSize
  | finiteNumber
  | floatType
  | floatParsing
  | stringType
  | boolType
  | boolParsing
  | pathType
  | atLeast (bound : Int)
  | above (bound : Int)
  | jsonInvalid
deriving DecidableEq, Repr

/-- The short name of a problem. -/
def SettingsProblem.code : SettingsProblem → String
  | .modelType _ => "model_type"
  | .objectType => "model_type"
  | .intType => "int_type"
  | .intParsing => "int_parsing"
  | .intFromFloat => "int_from_float"
  | .intSize => "int_parsing_size"
  | .finiteNumber => "finite_number"
  | .floatType => "float_type"
  | .floatParsing => "float_parsing"
  | .stringType => "string_type"
  | .boolType => "bool_type"
  | .boolParsing => "bool_parsing"
  | .pathType => "path_type"
  | .atLeast _ => "greater_than_equal"
  | .above _ => "greater_than"
  | .jsonInvalid => "json_invalid"

/-- The wording of a problem. -/
def SettingsProblem.message : SettingsProblem → String
  | .modelType model => "Input should be a valid dictionary or instance of " ++ model
  | .objectType => "Input should be an object"
  | .intType => "Input should be a valid integer"
  | .intParsing => "Input should be a valid integer, unable to parse string as an integer"
  | .intFromFloat => "Input should be a valid integer, got a number with a fractional part"
  | .intSize => "Unable to parse input string as an integer, exceeded maximum size"
  | .finiteNumber => "Input should be a finite number"
  | .floatType => "Input should be a valid number"
  | .floatParsing => "Input should be a valid number, unable to parse string as a number"
  | .stringType => "Input should be a valid string"
  | .boolType => "Input should be a valid boolean"
  | .boolParsing => "Input should be a valid boolean, unable to interpret input"
  | .pathType => "Input is not a valid path for <class 'pathlib.Path'>"
  | .atLeast bound => "Input should be greater than or equal to " ++ toString bound
  | .above bound => "Input should be greater than " ++ toString bound
  | .jsonInvalid => "Invalid JSON"

/-- A field that fails: its place, what is wrong and what was given. -/
structure FieldFault where
  location : List String
  problem : SettingsProblem
  input : Value
deriving Repr

/-- The fields of a record that fail. -/
structure ValidationFault where
  title : String
  fields : List FieldFault
deriving Repr

/-- The value that was given, cut in the middle if it is long. -/
def inputExcerpt (v : Value) : String :=
  let s := v.quoted.toList
  if s.length ≤ 50 then String.ofList s
  else String.ofList (s.take 25 ++ "...".toList ++ s.drop (s.length - 24))

/-- The lines that report one field. -/
def FieldFault.lines (f : FieldFault) : List String :=
  [".".intercalate f.location,
   "  " ++ f.problem.message ++ " [type=" ++ f.problem.code ++ ", input_value=" ++
     inputExcerpt f.input ++ ", input_type=" ++ f.input.typeName ++ "]"]

/-- The wording of a failed validation. -/
def ValidationFault.message (v : ValidationFault) : String :=
  let count := v.fields.length
  "\n".intercalate
    ((toString count ++ " validation error" ++ (if count = 1 then "" else "s") ++ " for " ++ v.title) ::
      v.fields.flatMap FieldFault.lines)

end LayeredFiles
