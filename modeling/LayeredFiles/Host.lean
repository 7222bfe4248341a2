import LayeredFiles.Text.Blank
/-
Module: LayeredFiles.Host
Layer: Host
Purpose: what the machine under the library decides: how wide its console is, which pictures the console
  knows by name, which parameters of a tag it can read, and which documents are nested deeper than it can
  follow. Everything above is about any host.
Main exports: Host, plainHost
-/

namespace LayeredFiles

/-- The machine that a program runs on. -/
class Host where
  /-- How many cells a line of the console has. -/
  columns : Nat
  /-- What the console shows for a name between two colons, if that is the code of a picture. -/
  picture? : List Char → Option (List Char)
  /-- The code of a picture holds nothing that tags are made of. -/
  unmarked_of_picture : ∀ name picture, picture? name = some picture → ∀ c ∈ name, c ≠ '\\' ∧ c ≠ '['
  /-- The parameters of a tag that is to react to the user have a meaning. -/
  reads : List Char → Bool
  /-- A document is nested deeper than the machine can follow. -/
  sinks : List Char → Bool

/-- The name of a reaction, with nothing or an empty list of arguments behind it. -/
def isReaction (s : List Char) : Bool :=
  let behind := (Text.strip s).dropWhile (fun c => c.isAlphanum || c = '_' || c = '.')
  behind = [] || behind = ['(', ')']

/-- A host with a wide console that knows no pictures, and that follows all documents. -/
instance plainHost : Host where
  columns := 300
  picture? _ := none
  unmarked_of_picture := by simp
  reads := isReaction
  sinks _ := false

end LayeredFiles
