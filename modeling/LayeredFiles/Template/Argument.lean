import LayeredFiles.Fault
/-
Module: LayeredFiles.Template.Argument
Layer: Template
Purpose: the arguments of filters, tests and operations, and how they find the parameters they are
  meant for: first by place, then by name. What does not fit is a fault that names the callee.
Main exports: Arguments, Signature, Signature.bind
-/

namespace LayeredFiles.Template

/-- Arguments by place and by name. -/
structure Arguments where
  positional : List Value
  named : List (String × Value)

/-- The parameters of a callee. The first `given` of them are always provided. -/
structure Signature where
  name : String
  given : Nat
  required : List String
  optional : List String

namespace Signature

/-- Nouns with their number, for messages. -/
def counted (n : Nat) (noun : String) : String := toString n ++ " " ++ noun ++ (if n = 1 then "" else "s")

/-- Names as a sentence lists them. -/
def listed : List String → String
  | [] => ""
  | [name] => "'" ++ name ++ "'"
  | [first, last] => "'" ++ first ++ "' and '" ++ last ++ "'"
  | names =>
    ", ".intercalate (names.dropLast.map (fun name => "'" ++ name ++ "'")) ++
      ", and '" ++ names.getLast?.getD "" ++ "'"

/-- The fault of a call with these words behind the callee's name. -/
def fault (s : Signature) (words : String) : Fault := .type (.arguments (s.name ++ "() " ++ words))

/-- The names of all parameters that a caller fills. -/
def parameters (s : Signature) : List String := s.required ++ s.optional

/-- A fault of the arguments by name: an unknown name, or one that is also filled by place. -/
def namedFault? (s : Signature) (filled : List String) : List (String × Value) → Option Fault
  | [] => none
  | (name, _) :: rest =>
    if !s.parameters.contains name then
      some (s.fault ("got an unexpected keyword argument '" ++ name ++ "'"))
    else if filled.contains name then
      some (s.fault ("got multiple values for argument '" ++ name ++ "'"))
    else s.namedFault? (name :: filled) rest

/-- The fault of too many arguments by place. -/
def tooMany (s : Signature) (count : Nat) : Fault :=
  let least := s.given + s.required.length
  let most := least + s.optional.length
  let were := toString (s.given + count) ++ (if s.given + count = 1 then " was" else " were") ++ " given"
  if s.optional = [] then
    s.fault ("takes " ++ counted most "positional argument" ++ " but " ++ were)
  else s.fault ("takes from " ++ toString least ++ " to " ++ counted most "positional argument" ++
    " but " ++ were)

/-- The values of the parameters, in their order; an optional parameter may have none. -/
def bind (s : Signature) (args : Arguments) : Except Fault (List (Option Value)) :=
  match s.namedFault? (s.parameters.take args.positional.length) args.named with
  | some fault => .error fault
  | none =>
    if s.parameters.length < args.positional.length then .error (s.tooMany args.positional.length)
    else
      let byName := s.parameters.drop args.positional.length
      let absent := byName.filter (fun name =>
        s.required.contains name && !args.named.any (fun e => e.1 == name))
      if absent ≠ [] then
        .error (s.fault ("missing " ++ toString absent.length ++ " required positional argument" ++
          (if absent.length = 1 then "" else "s") ++ ": " ++ listed absent))
      else .ok (args.positional.map some ++ byName.map (fun name => args.named.lookup name))

end Signature

end LayeredFiles.Template
