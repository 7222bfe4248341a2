import LayeredFiles.Fault
import LayeredFiles.Path
import LayeredFiles.Value.Order
/-
Module: LayeredFiles.Settings.Basic
Layer: Settings
Purpose: the settings of a generator: where the templates are, how files are encoded, whether stages are
  announced, and how many files are made at once and in which time.
Main exports: BatchSettings, Settings, Settings.partialsPath, Settings.value
-/

namespace LayeredFiles

open Number

/-- How many files are made at once, and the seconds that each may take if they are limited. -/
structure BatchSettings where
  maxParallel : Int
  chainTimeout : Option Binary64
deriving DecidableEq, Repr

/-- The settings of a generator. -/
structure Settings where
  templatesPath : NormalPath
  encoding : String
  verbose : Bool
  batch : BatchSettings
deriving DecidableEq, Repr

namespace BatchSettings

/-- Four files at once without a limit of time. -/
def default : BatchSettings := ⟨4, none⟩

/-- The settings as a record of values. -/
def value (b : BatchSettings) : Value :=
  .dict [(.str "max_parallel", .int b.maxParallel),
    (.str "chain_timeout", (b.chainTimeout.map .float).getD .null)]

end BatchSettings

namespace Settings

/-- The encoding of files. -/
def defaultEncoding : String := "utf-8"

/-- The settings when nothing is given but the place of the templates. -/
def default (templatesPath : NormalPath) : Settings :=
  ⟨templatesPath, defaultEncoding, false, .default⟩

/-- The folder of the templates of chains. -/
def partialsPath (s : Settings) : NormalPath := s.templatesPath.appendText "partials"

/-- The settings as a record of values. -/
def value (s : Settings) : Value :=
  .dict [(.str "templates_path", .str s.templatesPath.text), (.str "encoding", .str s.encoding),
    (.str "verbose", .bool s.verbose), (.str "batch", s.batch.value)]

end Settings

end LayeredFiles
