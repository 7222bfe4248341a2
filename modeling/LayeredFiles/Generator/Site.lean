import LayeredFiles.Disk.TextFile
/-
Module: LayeredFiles.Generator.Site
Layer: Generator
Purpose: where a generator works: it sees a disk, writes files and tells what it does. The site is given
  over a state of any kind; the plain one is a world that is a disk and the text that was shown so far.
Main exports: Site, World, World.site
-/

namespace LayeredFiles

/-- What a generator sees and does, over a state `σ`. -/
structure Site (σ : Type) where
  /-- The disk that is looked at. -/
  disk : σ → Disk
  /-- Writes a text in an encoding to a path. -/
  write : String → String → Value → σ → Except Fault Unit × σ
  /-- Shows a text. -/
  tell : String → σ → σ

/-- A disk and what was shown so far. -/
structure World where
  disk : Disk
  shown : String

namespace World

/-- Writes a file and makes the folders above it. -/
def write (encoding path : String) (content : Value) (w : World) : Except Fault Unit × World :=
  let (result, disk) := w.disk.writeText encoding path content
  (result, { w with disk := disk })

/-- Shows a text behind what was shown before. -/
def tell (text : String) (w : World) : World := { w with shown := w.shown ++ text }

/-- A world as a site. -/
def site : Site World := ⟨World.disk, write, tell⟩

end World

end LayeredFiles
