import LayeredFiles.Text.Quoted
/-
Module: LayeredFiles.Yaml.Fault
Layer: Yaml
Purpose: why a text is no YAML document that has a value.
Main exports: YamlProblem, YamlProblem.message
-/

namespace LayeredFiles

/-- What is wrong with a YAML text. -/
inductive YamlProblem where
  | character (c : Char)
  | key
  | indentation
  | directive
  | anchorName
  | tagName
  | blockHeader
  | escape
  | unterminated
  | content (found : String)
  | undefinedHandle (handle : String)
  | unknownAnchor (name : String)
  | repeatedAnchor (name : String)
  | secondDocument
  | unhashableKey
  | merge
  | kind (tag : String)
  | unknownTag (tag : String)
  | binary
deriving DecidableEq, Repr

/-- The wording of a problem. -/
def YamlProblem.message : YamlProblem → String
  | .character c => "unacceptable character " ++ Text.quoted c.toString
  | .key => "could not find expected ':'"
  | .indentation => "entries and keys are not allowed here"
  | .directive => "malformed directive"
  | .anchorName => "malformed anchor or alias"
  | .tagName => "malformed tag"
  | .blockHeader => "malformed header of a block scalar"
  | .escape => "unknown escape character"
  | .unterminated => "found unexpected end of a quoted scalar"
  | .content found => "found unexpected " ++ found
  | .undefinedHandle handle => "found undefined tag handle " ++ Text.quoted handle
  | .unknownAnchor name => "found undefined alias " ++ Text.quoted name
  | .repeatedAnchor name => "found duplicate anchor " ++ Text.quoted name
  | .secondDocument => "expected a single document in the stream"
  | .unhashableKey => "found unhashable key"
  | .merge => "expected a mapping or list of mappings for merging"
  | .kind tag => "found a node of another kind than that of the tag " ++ Text.quoted tag
  | .unknownTag tag => "could not determine a constructor for the tag " ++ Text.quoted tag
  | .binary => "failed to decode base64 data"

end LayeredFiles
