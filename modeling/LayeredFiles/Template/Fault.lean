import LayeredFiles.Text.Quoted
/-
Module: LayeredFiles.Template.Fault
Layer: Template
Purpose: why a template text is no template, and why a template cannot be found or used.
Main exports: SyntaxFault, SyntaxFault.message, TemplateFault, TemplateFault.message
-/

namespace LayeredFiles

open Text

/-- What a template text violates. -/
inductive SyntaxFault where
  | unexpectedChar (c : Char) (offset : Nat)
  | unexpectedClosing (found : String)
  | mismatchedClosing (found expected : String)
  | unclosedComment
  | unclosedRaw
  | identifier
  | escape (detail : String)
  /-- Another token stands where one kind is expected. -/
  | expected (wanted found : String)
  /-- The text ends where a token is expected. -/
  | endedBefore (wanted : String)
  | unexpected (found : String)
  | noExpression (found : String)
  | noTagName
  | noPart
  | callForm
  | chainedTests
  | assignment (kind : String)
  /-- A block ends in an unknown tag, or the text ends inside a block. -/
  | block (tag : Option String) (isMisplaced : Bool) (wanted : List String) (innermost : Option String)
deriving DecidableEq, Repr

/-- The wording for a block that is not closed as it should be. -/
def blockMessage (tag : Option String) (isMisplaced : Bool) (wanted : List String)
    (innermost : Option String) : String :=
  let looking := " or ".intercalate (wanted.map quoted)
  " ".intercalate <|
    (match tag with
      | none => ["Unexpected end of template."]
      | some name => ["Encountered unknown tag " ++ quoted name ++ "."]) ++
    (if wanted = [] then []
      else if isMisplaced then
        ["You probably made a nesting mistake. Jinja is expecting this tag, but currently looking for " ++
          looking ++ "."]
      else ["Jinja was looking for the following tags: " ++ looking ++ "."]) ++
    (match innermost with
      | none => []
      | some name => ["The innermost block that needs to be closed is " ++ quoted name ++ "."])

/-- The wording of a syntax fault. -/
def SyntaxFault.message : SyntaxFault → String
  | .unexpectedChar c offset => "unexpected char " ++ quoted c.toString ++ " at " ++ toString offset
  | .unexpectedClosing found => "unexpected '" ++ found ++ "'"
  | .mismatchedClosing found wanted => "unexpected '" ++ found ++ "', expected '" ++ wanted ++ "'"
  | .unclosedComment => "Missing end of comment tag"
  | .unclosedRaw => "Missing end of raw directive"
  | .identifier => "Invalid character in identifier"
  | .escape detail => detail
  | .expected wanted found => "expected token " ++ quoted wanted ++ ", got " ++ quoted found
  | .endedBefore wanted => "unexpected end of template, expected " ++ quoted wanted ++ "."
  | .unexpected found => "unexpected " ++ quoted found
  | .noExpression found => "Expected an expression, got " ++ quoted found
  | .noTagName => "tag name expected"
  | .noPart => "expected name or number"
  | .callForm => "invalid syntax for function call expression"
  | .chainedTests => "You cannot chain multiple tests with is"
  | .assignment kind => "can't assign to " ++ quoted kind
  | .block tag isMisplaced wanted innermost => blockMessage tag isMisplaced wanted innermost

/-- Why a template cannot be found, read or used. -/
inductive TemplateFault where
  | malformed (fault : SyntaxFault)
  /-- A filter or test that does not exist, found while the template is read. -/
  | unknownOperation (kind name : String)
  /-- A filter or test that does not exist, found when it is applied. -/
  | unavailableOperation (kind name : String)
  /-- Something inside a loop binds the name that stands for the loop. -/
  | loopTarget
  | attributeTarget
  /-- No template has this name below the root. -/
  | notFound (name root : String)
  /-- The name leaves the root. -/
  | outsideRoot (name : String)
deriving DecidableEq, Repr

/-- The wording of a template fault. -/
def TemplateFault.message : TemplateFault → String
  | .malformed fault => fault.message
  | .unknownOperation kind name => "No " ++ kind ++ " named " ++ quoted name ++ "."
  | .unavailableOperation kind name => "No " ++ kind ++ " named " ++ quoted name ++ " found."
  | .loopTarget => "Can't assign to special loop variable in for-loop target"
  | .attributeTarget => "cannot assign attribute on non-namespace object"
  | .notFound name root => quoted name ++ " not found in search path: " ++ quoted root
  | .outsideRoot name => name

end LayeredFiles
