import LayeredFiles.Generator.Basic
import LayeredFiles.Proofs.Chain.Ahead
import LayeredFiles.Proofs.Disk.Files
/-
Module: LayeredFiles.Proofs.Generator.Chains
Layer: Proofs
Purpose: the chains of a generator over the plain world keep their files on its disk. A path leads to the
  place that it names, a file holds the bytes of its text in the encoding of the settings, and what is
  shown along the way has no influence on what is done.
Main exports: Generator.Plain, Generator.plain_standard, Generator.filing, Generator.respects_disk
-/

namespace LayeredFiles.Generator

/-- The generator works on the plain world, and rendering leaves its disk as it is. -/
structure Plain (g : Generator World) : Prop where
  site : g.site = World.site
  render_disk : ∀ template context w, (g.render template context w).2.disk = w.disk

/-- The generator that works with the templates of its settings is plain. -/
theorem plain_standard (settings : Settings) : (standard settings World.site).Plain where
  site := rfl
  render_disk _ _ _ := rfl

/-- The generator that renders by a function of identifier and context. -/
def ofText (settings : Settings) (text : Value → Entries → Except Fault String) :
    Generator World :=
  { standard settings World.site with
    render := fun template context w => ((text template context).map .str, w) }

theorem plain_ofText (settings : Settings) (text : Value → Entries → Except Fault String) :
    (ofText settings text).Plain where
  site := rfl
  render_disk _ _ _ := rfl

theorem rendersBy_ofText [Host] (settings : Settings) (text : Value → Entries → Except Fault String) :
    (ofText settings text).chains.RendersBy text := fun _ _ _ => rfl

namespace Plain

variable [Host] {g : Generator World} (plain : g.Plain)
include plain

/-- A write of a chain answers as the disk does. -/
theorem answer_write_chains (path : String) (content : Value) (w : World) :
    (g.chains.write path content w).1 = (w.disk.writeText g.settings.encoding path content).1 := by
  simp only [chains, Generator.write, plain.site, World.site, World.write]

/-- A write of a chain leaves the disk that a write to the disk leaves. -/
theorem disk_write_chains (path : String) (content : Value) (w : World) :
    (g.chains.write path content w).2.disk =
      (w.disk.writeText g.settings.encoding path content).2 := by
  simp only [chains, Generator.write, plain.site, World.site, World.write]

/-- What is told about a stage leaves the disk as it is. -/
theorem disk_announce_chains (number total : Nat) (template : Value) (path : String) (w : World) :
    (g.chains.announce number total template path w).disk = w.disk := by
  simp only [chains, report]
  split
  · split
    · rfl
    · rw [plain.site]
      rfl
  · rfl

end Plain

/-- The files on the disk, for the chains of a plain generator. -/
def filing [Host] (g : Generator World) (plain : g.Plain) : Filing g.chains where
  File := Place
  Content := List UInt8
  fileAt w := w.disk.fileAt
  content w := w.disk.contentAt
  form text := (Disk.bytesToWrite g.settings.encoding text).toOption
  render_fileAt template context w := by
    rw [chains, plain.render_disk]
  render_content template context w := by
    rw [chains, plain.render_disk]
  announce_fileAt number total template path w := by
    rw [plain.disk_announce_chains]
  announce_content number total template path w := by
    rw [plain.disk_announce_chains]
  write_fileAt path text w := by
    rw [plain.disk_write_chains]
    exact Disk.fileAt_of_here (Disk.here_writeText w.disk g.settings.encoding path text)
  write_content path text w written := by
    rw [plain.answer_write_chains] at written
    rw [plain.disk_write_chains]
    obtain ⟨bytes, encoded, kept⟩ := Disk.writeText_content written
    simp [encoded, kept, Except.toOption]
  write_content_of_ne path text w file other := by
    rw [plain.disk_write_chains]
    exact Disk.writeText_content_of_ne w.disk g.settings.encoding path text other
  fileName_eq _ _ _ same := Disk.fileName_eq_of_fileAt_eq same

/-- Worlds with the same disk cannot be told apart by the chains of a plain generator. -/
theorem respects_disk [Host] (g : Generator World) (plain : g.Plain) :
    g.chains.Respects (fun w w' => w.disk = w'.disk) where
  render_state template context context' w w' same := by
    simpa only [chains, plain.render_disk] using same
  write_answer path content w w' same := by
    rw [plain.answer_write_chains, plain.answer_write_chains, same]
  write_state path content w w' same := by
    rw [plain.disk_write_chains, plain.disk_write_chains, same]
  announce_state number number' total total' template path w w' same := by
    rw [plain.disk_announce_chains, plain.disk_announce_chains, same]

end LayeredFiles.Generator
