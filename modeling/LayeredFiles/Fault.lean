import LayeredFiles.Disk.Fault
import LayeredFiles.Json.Fault
import LayeredFiles.Settings.Fault
import LayeredFiles.Template.Fault
import LayeredFiles.Text.Codec
/-
Module: LayeredFiles.Fault
Layer: Fault
Purpose: every way in which an operation of the library can fail. A fault is a cause, and its wording
  is one function of the cause. The faults of chains keep the fault that stopped them.
Main exports: TypeFault, ValueFault, ArithmeticFault, MarkupFault, StageFailure, Fault, Fault.message,
  Fault.isReported
-/

namespace LayeredFiles

open Text

/-- A value of a type that an operation has no meaning for. -/
inductive TypeFault where
  | notPath (typeName : String)
  | notIterable (typeName : String)
  | notReversible (typeName : String)
  | noLength (typeName : String)
  | notWritable (typeName : String)
  | notPattern (typeName : String)
  | bytesPattern
  | notStrippable
  | notCallable (typeName : String)
  | notContainer (typeName : String)
  | notSearchable (typeName : String)
  | notRepeatable (typeName : String)
  | notFormattable (typeName : String)
  | notUnpackable (typeName : String)
  | notHashable (typeName : String)
  | notSubscriptable (typeName : String)
  | sliceBounds
  | notNumber (typeName : String)
  | notInteger (typeName : String)
  | notComparable (left right : String)
  | clocks
  | notConcatenable (left right : String)
  | operands (symbol left right : String)
  | operand (symbol typeName : String)
  | order (symbol left right : String)
  | pairForm (index : Nat)
  | keyword
  | keywordTwice (name : String)
  | notMapping (typeName : String)
  | formatCount (isShort : Bool)
  | formatNumber (code : Char) (typeName : String)
  | formatMapping
  /-- A call whose arguments the callee does not take, in the callee's words. -/
  | arguments (detail : String)
deriving DecidableEq, Repr

/-- The wording of a type fault. -/
def TypeFault.message : TypeFault → String
  | .notPath t => "expected str, bytes or os.PathLike object, not " ++ t
  | .notIterable t => "'" ++ t ++ "' object is not iterable"
  | .notReversible t => "'" ++ t ++ "' object is not reversible"
  | .noLength t => "object of type '" ++ t ++ "' has no len()"
  | .notWritable t => "write() argument must be str, not " ++ (if t = "NoneType" then "None" else t)
  | .notPattern t => "expected string or bytes-like object, got '" ++ t ++ "'"
  | .bytesPattern => "cannot use a string pattern on a bytes-like object"
  | .notStrippable => "strip arg must be None or str"
  | .notCallable t => "'" ++ t ++ "' object is not callable"
  | .notContainer t => "argument of type '" ++ t ++ "' is not iterable"
  | .notSearchable t => "'in <string>' requires string as left operand, not " ++ t
  | .notRepeatable t => "can't multiply sequence by non-int of type '" ++ t ++ "'"
  | .notFormattable t => "unsupported format string passed to " ++ t ++ ".__format__"
  | .notUnpackable t => "cannot unpack non-iterable " ++ t ++ " object"
  | .notHashable t => "unhashable type: '" ++ t ++ "'"
  | .notSubscriptable t => "'" ++ t ++ "' object is not subscriptable"
  | .sliceBounds => "slice indices must be integers or None or have an __index__ method"
  | .notNumber t => "float() argument must be a string or a real number, not '" ++ t ++ "'"
  | .notInteger t => "'" ++ t ++ "' object cannot be interpreted as an integer"
  | .notComparable left right => "can't compare " ++ left ++ " to " ++ right
  | .clocks => "can't compare offset-naive and offset-aware datetimes"
  | .notConcatenable left right =>
    "can only concatenate " ++ left ++ " (not \"" ++ right ++ "\") to " ++ left
  | .operands symbol left right =>
    "unsupported operand type(s) for " ++ symbol ++ ": '" ++ left ++ "' and '" ++ right ++ "'"
  | .operand symbol t => "bad operand type for unary " ++ symbol ++ ": '" ++ t ++ "'"
  | .order symbol left right =>
    "'" ++ symbol ++ "' not supported between instances of '" ++ left ++ "' and '" ++ right ++ "'"
  | .pairForm index =>
    "cannot convert dictionary update sequence element #" ++ toString index ++ " to a sequence"
  | .keyword => "keywords must be strings"
  | .keywordTwice name => "Template.render() got multiple values for argument " ++ quoted name
  | .notMapping t =>
    "jinja2.environment.Template.render() argument after ** must be a mapping, not " ++ t
  | .formatCount isShort =>
    if isShort then "not enough arguments for format string"
    else "not all arguments converted during string formatting"
  | .formatNumber code t =>
    "%" ++ code.toString ++ " format: a real number is required, not " ++ t
  | .formatMapping => "format requires a mapping"
  | .arguments detail => detail

/-- A value of a suitable type that is out of range or malformed. -/
inductive ValueFault where
  | intText (base : Nat) (text : String)
  | intTextTooLong (digits : Nat)
  | intTooLong
  | floatText (text : String)
  | pairLength (index length : Nat)
  | formatCode (typeName : String)
  | formatLetter (c : Char) (index : Nat)
  | formatCut
  | assignment (item : String)
  | contextYaml (path detail : String)
  | contextForm (path : String)
  | noParallelism
  /-- A path that is not below another. -/
  | notBelow (path root : String)
  | tooFewToUnpack (wanted found : Nat)
  | tooManyToUnpack (wanted : Nat)
  | emptySeparator
  | zeroStep
  | calendar (detail : String)
  | timeZone (detail : String)
  | intOfNaN
  /-- A fault that a renderer reports in its own words. -/
  | reported (detail : String)
deriving DecidableEq, Repr

/-- The wording of a value fault. -/
def ValueFault.message : ValueFault → String
  | .intText base text =>
    "invalid literal for int() with base " ++ toString base ++ ": " ++
      String.ofList ((quoted text).toList.take 200)
  | .intTextTooLong digits =>
    "Exceeds the limit (4300 digits) for integer string conversion: value has " ++ toString digits ++
      " digits; use sys.set_int_max_str_digits() to increase the limit"
  | .intTooLong =>
    "Exceeds the limit (4300 digits) for integer string conversion; " ++
      "use sys.set_int_max_str_digits() to increase the limit"
  | .floatText text => "could not convert string to float: " ++ quoted text
  | .pairLength index length =>
    "dictionary update sequence element #" ++ toString index ++ " has length " ++ toString length ++
      "; 2 is required"
  | .formatCode t => "Unknown format code 'f' for object of type '" ++ t ++ "'"
  | .formatLetter c index =>
    "unsupported format character '" ++ c.toString ++ "' (0x" ++
      String.ofList (Nat.toDigits 16 c.toNat) ++ ") at index " ++ toString index
  | .formatCut => "incomplete format"
  | .assignment item => "Expected KEY=VALUE, got: " ++ quoted item
  | .contextYaml path detail => "Invalid YAML in context file " ++ path ++ ": " ++ detail
  | .contextForm path => "Context file must contain a mapping: " ++ path
  | .noParallelism => "max_parallel must be at least 1"
  | .notBelow path root =>
    quoted path ++ " is not in the subpath of " ++ quoted root ++
      " OR one path is relative and the other is absolute."
  | .tooFewToUnpack wanted found =>
    "not enough values to unpack (expected " ++ toString wanted ++ ", got " ++ toString found ++ ")"
  | .tooManyToUnpack wanted => "too many values to unpack (expected " ++ toString wanted ++ ")"
  | .emptySeparator => "empty separator"
  | .zeroStep => "slice step cannot be zero"
  | .calendar detail => detail
  | .timeZone detail => detail
  | .intOfNaN => "cannot convert float NaN to integer"
  | .reported detail => detail

/-- A result that does not exist, or that is too large for what is to hold it. -/
inductive ArithmeticFault where
  | trueDivision
  | wholeDivision
  | wholeRest
  | realDivision
  | realFloorDivision
  | realRest
  | zeroPower
  | intTooLarge
  | quotientTooLarge
  | powerTooLarge
  | countTooLarge
  | intOfInfinity
  | numberTooLarge
  /-- Something is nested deeper than the machine can follow. -/
  | depthTooLarge
  /-- A value that is a part of itself. -/
  | endless
deriving DecidableEq, Repr

/-- Division by zero, as opposed to a result that is too large. -/
def ArithmeticFault.isDivision : ArithmeticFault → Bool
  | .intTooLarge => false
  | .quotientTooLarge => false
  | .powerTooLarge => false
  | .countTooLarge => false
  | .intOfInfinity => false
  | .numberTooLarge => false
  | .depthTooLarge => false
  | .endless => false
  | _ => true

/-- The wording of an arithmetic fault. -/
def ArithmeticFault.message : ArithmeticFault → String
  | .trueDivision => "division by zero"
  | .wholeDivision => "integer division or modulo by zero"
  | .wholeRest => "integer modulo by zero"
  | .realDivision => "float division by zero"
  | .realFloorDivision => "float floor division by zero"
  | .realRest => "float modulo"
  | .zeroPower => "0.0 cannot be raised to a negative power"
  | .intTooLarge => "int too large to convert to float"
  | .quotientTooLarge => "integer division result too large for a float"
  | .powerTooLarge => "(34, 'Numerical result out of range')"
  | .intOfInfinity => "cannot convert float infinity to integer"
  | .countTooLarge => "cannot fit 'int' into an index-sized integer"
  | .numberTooLarge => "Python int too large to convert to C int"
  | .depthTooLarge => "maximum recursion depth exceeded"
  | .endless => "a value cannot be a part of itself here"

/-- Why a tag of a console text cannot be followed. -/
inductive MarkupFault where
  /-- It closes a style that is not open. -/
  | unopened (tag : String) (position : Nat)
  /-- It closes whatever is open, and nothing is. -/
  | nothingOpen (position : Nat)
  /-- It closes a reaction whose parameters have no meaning. -/
  | parameters (text : String)
deriving DecidableEq, Repr

/-- The wording of a markup fault. What exactly is wrong with parameters is left out. -/
def MarkupFault.message : MarkupFault → String
  | .unopened tag position =>
    "closing tag '" ++ tag ++ "' at position " ++ toString position ++ " doesn't match any open tag"
  | .nothingOpen position =>
    "closing tag '[/]' at position " ++ toString position ++ " has nothing to close"
  | .parameters text => "error parsing " ++ quoted text

/-- What a stage of a chain was doing when it failed. -/
inductive StageFailure where
  /-- No template has the stage's identifier. -/
  | lookup
  | rendering
  | writing
deriving DecidableEq, Repr

/-- Why an operation failed. -/
inductive Fault where
  | type (fault : TypeFault)
  | value (fault : ValueFault)
  | arithmetic (fault : ArithmeticFault)
  | codec (fault : CodecFault)
  | disk (fault : DiskFault)
  | json (fault : JsonFault)
  | settings (fault : ValidationFault)
  | template (fault : TemplateFault)
  /-- The text or a part of a missing value is wanted. -/
  | missing (m : Missing)
  /-- A value has no operation of this name. -/
  | attribute (typeName name : String)
  /-- A key that a table of words does not hold. -/
  | key (key : String)
  /-- A place beyond the end of a text. -/
  | index
  | markup (fault : MarkupFault)
  /-- No candidate path of a template identifier is a file. -/
  | noTemplate (id : String) (searched : List String)
  /-- A generator has no file of this path. -/
  | noSourceFile (path : String)
  /-- A generator template could not be applied. -/
  | notApplied (cause : Fault)
  /-- A stage of a chain failed. -/
  | stage (failure : StageFailure) (index : Nat) (template : Value) (path : String) (cause : Fault)
deriving Repr

namespace Fault

/-- The wording of a fault. -/
def message : Fault → String
  | .type fault => fault.message
  | .value fault => fault.message
  | .arithmetic fault => fault.message
  | .codec fault => fault.message
  | .disk fault => fault.message
  | .json fault => fault.message
  | .settings fault => fault.message
  | .template fault => fault.message
  | .missing m => m.message
  | .attribute t name => "'" ++ t ++ "' object has no attribute '" ++ name ++ "'"
  | .key k => quoted k
  | .index => "string index out of range"
  | .markup fault => fault.message
  | .noTemplate id _ => "Template not found: " ++ id
  | .noSourceFile path => "Template file not found: " ++ path
  | .notApplied cause => "Failed to apply template: " ++ cause.message
  | .stage .lookup place id _ _ =>
    "Template not found: " ++ id.display ++ " (stage " ++ toString place ++ ")"
  | .stage .rendering place id _ cause =>
    "Failed to render template " ++ id.quoted ++ " at stage " ++ toString place ++ ": " ++
      cause.message
  | .stage .writing place _ path cause =>
    "Failed to write " ++ path ++ " at stage " ++ toString place ++ ": " ++ cause.message

/-- Faults that the command line reports in one line: those of chains and templates, malformed
    values and refusals of the disk. All others end the program. -/
def isReported : Fault → Bool
  | .value _ => true
  | .codec (.unknownEncoding _) => false
  | .codec (.notTextEncoding _) => false
  | .codec _ => true
  | .disk _ => true
  | .json _ => true
  | .settings _ => true
  | .template (.notFound _ _) => true
  | .template (.outsideRoot _) => true
  | .noTemplate _ _ => true
  | .noSourceFile _ => true
  | .notApplied _ => true
  | .stage _ _ _ _ _ => true
  | _ => false

end Fault

end LayeredFiles
