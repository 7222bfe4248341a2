import LayeredFiles.Generator.Basic
import LayeredFiles.Proofs.Disk.Reading
import LayeredFiles.Proofs.Text.Inverse
import LayeredFiles.Proofs.Generator.Create
/-
Module: LayeredFiles.Proofs.Generator.Copy
Layer: Proofs
Purpose: what a copy of a file that is no template holds. The file is read as a text and written as one, so
  the copy has the bytes of the text with its line ends unified. They are the bytes of the file just if it
  has no carriage return and begins with the byte order mark of the encoding, if that has one.
Main exports: Disk.exists_decoded, Generator.copy_eq, Generator.copied_bytes
-/

namespace LayeredFiles

open Text (Encoding unifyNewlines)

/-! ### Texts on the disk -/

namespace Disk

/-- A text that was read is what its bytes stand for, with unified line ends. -/
theorem exists_decoded {disk : Disk} {name path text : String}
    (read : disk.readText name path = .ok text) :
    ∃ encoding bytes s, Encoding.find? name = .ok encoding ∧ disk.readBytes path = .ok bytes ∧
      encoding.decode bytes = .ok s ∧ text = String.ofList (unifyNewlines s) := by
  obtain ⟨free, bytes, isBytes⟩ := readBytes_of_readText read
  rw [readText, free, isBytes] at read
  split at read
  · cases read
  · simp only [Bool.false_eq_true, if_false] at read
    cases found : Encoding.find? name with
    | error fault =>
        rw [found] at read
        cases read
    | ok encoding =>
        rw [found] at read
        simp only at read
        cases decoded : encoding.decode bytes with
        | error fault =>
            rw [decoded] at read
            cases read
        | ok s =>
            rw [decoded] at read
            cases read
            exact ⟨encoding, bytes, s, rfl, isBytes, decoded, rfl⟩

/-- The bytes that are written for a text. -/
theorem encode_of_bytesToWrite {name text : String} {encoding : Encoding} {bytes : List UInt8}
    (found : Encoding.find? name = .ok encoding)
    (isBytes : bytesToWrite name (.str text) = .ok bytes) :
    encoding.encode text.toList = .ok bytes := by
  rw [bytesToWrite, found] at isBytes
  simp only [Value.text?] at isBytes
  cases encoded : encoding.encode text.toList with
  | error fault =>
      rw [encoded] at isBytes
      cases isBytes
  | ok written =>
      rw [encoded] at isBytes
      simp only [Except.ok.injEq] at isBytes
      rw [isBytes]

end Disk

namespace Generator

/-! ### The steps of a copy -/

variable {σ : Type} {g : Generator σ}

/-- What is done with the text of a copy, if there is one. -/
def finishCopy (write : String → Value → σ → Except Fault Unit × σ)
    (report : String → String → σ → Except Fault Unit × σ) (path : String)
    (made : Except Fault String) (s : σ) : Except Fault String × σ :=
  match made with
  | .error fault => (.error fault, s)
  | .ok text =>
    match write path (.str text) s with
    | (.error fault, s) => (.error fault, s)
    | (.ok (), s) =>
      match report "create" path s with
      | (.error unsaid, s) => (.error unsaid, s)
      | (.ok (), s) => (.ok path, s)

theorem copy_eq [Host] (name source destination context : Value) (s : σ) :
    g.copy name source destination context s =
      finishCopy g.write g.report destination.display (g.copiedText name source context s) s := by
  unfold copy
  -- The fixed words of the message must not be looked at.
  generalize g.report = report
  rfl

/-- A copy that was made has a text that was written and told. -/
theorem text_of_finishCopy {write : String → Value → σ → Except Fault Unit × σ}
    {report : String → String → σ → Except Fault Unit × σ} {place path : String}
    {made : Except Fault String} {s s' : σ}
    (finished : finishCopy write report place made s = (.ok path, s')) :
    path = place ∧ ∃ text s₁, made = .ok text ∧ write place (.str text) s = (.ok (), s₁) ∧
      report "create" place s₁ = (.ok (), s') := by
  unfold finishCopy at finished
  cases made with
  | error fault => cases finished
  | ok text =>
      cases wrote : write place (.str text) s with
      | mk answer s₁ =>
          simp only [wrote] at finished
          cases answer with
          | error fault => cases finished
          | ok =>
              cases said : report "create" place s₁ with
              | mk told s₂ =>
                  simp only [said] at finished
                  cases told with
                  | error unsaid => cases finished
                  | ok =>
                      cases finished
                      exact ⟨rfl, text, s₁, rfl, wrote, said⟩

/-- The text of a file that is no template is read from it. -/
theorem read_of_copiedText {name source context : Value} {s : σ} {text : String}
    (plain : isTemplate source.display = false)
    (isText : g.copiedText name source context s = .ok text) :
    ∃ file, g.sourceOf name source = .ok file ∧ g.read file.text s = .ok text := by
  unfold copiedText at isText
  simp only [bind, Except.bind] at isText
  cases isSource : g.sourceOf name source with
  | error fault =>
      rw [isSource] at isText
      cases isText
  | ok file =>
      rw [isSource] at isText
      simp only at isText
      split at isText
      · cases isText
      · split at isText
        · simp only [plain, Bool.false_eq_true, if_false] at isText
          exact ⟨file, rfl, isText⟩
        · cases isText

/-! ### What a copy holds -/

section Written

variable {settings : Settings} {content : Value} {w w₁ : World} {path other : String}

/-- A file that was written, on the disk. -/
theorem writeText_of_write
    (wrote : (standard settings World.site).write path content w = (.ok (), w₁)) :
    (w.disk.writeText settings.encoding path content).1 = .ok () ∧
      w₁.disk = (w.disk.writeText settings.encoding path content).2 := by
  simp only [write, standard, World.site, World.write] at wrote
  generalize w.disk.writeText settings.encoding path content = done at wrote ⊢
  obtain ⟨answer, disk⟩ := done
  cases wrote
  exact ⟨rfl, rfl⟩

/-- Another file keeps its bytes. -/
theorem bytes_kept {bytes : List UInt8} (isBytes : w.disk.readBytes other = .ok bytes)
    (wrote : (standard settings World.site).write path content w = (.ok (), w₁))
    (isOther : w.disk.fileAt other ≠ w.disk.fileAt path) : w₁.disk.readBytes other = .ok bytes := by
  rw [(writeText_of_write wrote).2]
  apply (Disk.grows_writeText w.disk settings.encoding path content).readBytes isBytes
  rw [Disk.writeText_content_of_ne _ _ _ _ isOther]
  exact Disk.contentAt_of_readBytes isBytes

end Written

/-- A copy of a file that is no template, in a setting of one of the encodings listed here: the bytes of the
    file stand for a text in that encoding, and the copy holds the bytes of that text with its line ends
    unified. So the copy has the bytes of the file just if the text has no carriage return and the bytes begin
    with the mark that the encoding writes. The file itself stays as it is, if the copy is another one. Of
    encodings that are not listed, such as those that can write one text in several ways, nothing is said. -/
theorem copied_bytes [Host] {settings : Settings} {encoding : Encoding} {spellings : List String}
    {name source destination context : Value} {w w' : World} {path : String}
    (listed : (encoding, spellings) ∈ Text.encodingNames)
    (spelled : Text.plainName settings.encoding ∈ spellings)
    (plain : isTemplate source.display = false)
    (copied : (standard settings World.site).copy name source destination context w =
      (.ok path, w')) :
    path = destination.display ∧ ∃ file bytes s written,
      (standard settings World.site).sourceOf name source = .ok file ∧
      w.disk.readBytes file.text = .ok bytes ∧ encoding.decode bytes = .ok s ∧
      encoding.encode (unifyNewlines s) = .ok written ∧ w'.disk.readBytes path = .ok written ∧
      (w.disk.fileAt file.text ≠ w.disk.fileAt path → w'.disk.readBytes file.text = .ok bytes) ∧
      (written = bytes ↔ '\r' ∉ s ∧ encoding.mark <+: bytes) := by
  rw [copy_eq] at copied
  obtain ⟨rfl, text, w₁, isText, wrote, told⟩ := text_of_finishCopy copied
  obtain ⟨file, isSource, read⟩ := read_of_copiedText plain isText
  obtain ⟨encoding', bytes, s, found, isBytes, decoded, rfl⟩ := Disk.exists_decoded read
  cases found.symm.trans (Encoding.find?_of_spelled listed spelled)
  obtain ⟨line, rfl⟩ := tell_of_report told
  have told' : ((standard settings World.site).site.tell line w₁).disk = w₁.disk := rfl
  rw [told']
  obtain ⟨answered, isDisk⟩ := writeText_of_write wrote
  obtain ⟨written, isWritten, after⟩ := Disk.readBytes_writeText answered
  rw [← isDisk] at after
  have encoded := Disk.encode_of_bytesToWrite found isWritten
  rw [String.toList_ofList] at encoded
  have sound := Encoding.isSound_of_find? found
  exact ⟨rfl, file, bytes, s, written, isSource, isBytes, decoded, encoded, after,
    bytes_kept isBytes wrote, Encoding.encode_unifyNewlines_eq_iff sound decoded encoded⟩

/-! ### Two copies -/

theorem finishCopy_of_told {write : String → Value → σ → Except Fault Unit × σ}
    {report : String → String → σ → Except Fault Unit × σ} {place text : String} {s s₁ s₂ : σ}
    (wrote : write place (.str text) s = (.ok (), s₁))
    (told : report "create" place s₁ = (.ok (), s₂)) :
    finishCopy write report place (.ok text) s = (.ok place, s₂) := by
  simp only [finishCopy, wrote, told]

/-- A copy whose text can be made, written and told is made. -/
theorem copy_of_text [Host] {name source destination context : Value} {text line : String} {s s₁ : σ}
    (isText : g.copiedText name source context s = .ok text)
    (wrote : g.write destination.display (.str text) s = (.ok (), s₁))
    (told : Console.statusLine "create" destination.display = .ok line) :
    g.copy name source destination context s = (.ok destination.display, g.site.tell line s₁) := by
  have said := g.report_of_line told s₁
  rw [copy_eq, isText]
  exact finishCopy_of_told wrote said

/-- A generator with two files, of which one has a line end of two characters. -/
def worldWithFiles : World :=
  ⟨⟨["home"], [(["home"], .folder), (["templates"], .folder), (["templates", "view"], .folder),
    (["templates", "view", "plain.txt"], .file [0x61, 0x0A, 0x62]),
    (["templates", "view", "returns.txt"], .file [0x61, 0x0D, 0x0A, 0x62])]⟩, ""⟩

/-- The generators of that world. -/
def fileGenerator : Generator World :=
  standard (Settings.default (.ofString "/templates")) World.site

theorem exists_copy [Host] (w : World) (source text : String)
    (isText : (fileGenerator.copiedText (.str "view") (.str source) .null w).toOption = some text)
    (wrote : (fileGenerator.write "o.txt" (.str text) w).1.toOption = some ()) :
    ∃ w', fileGenerator.copy (.str "view") (.str source) (.str "o.txt") .null w = (.ok "o.txt", w') ∧
      w'.disk = (fileGenerator.write "o.txt" (.str text) w).2.disk := by
  have isPlain : Console.IsPlain "create".toList := Console.isPlain_of_all (by decide)
  obtain ⟨line, told⟩ := Console.exists_statusLine isPlain "o.txt"
  generalize isDone : fileGenerator.write "o.txt" (.str text) w = done at wrote
  obtain ⟨answer, w₁⟩ := done
  cases answer with
  | error fault => cases wrote
  | ok =>
      cases made : fileGenerator.copiedText (.str "view") (.str source) .null w with
      | error fault =>
          rw [made] at isText
          cases isText
      | ok text' =>
          rw [made] at isText
          cases isText
          exact ⟨_, copy_of_text made isDone told, rfl⟩

/-- A file whose lines end in line feeds is copied byte for byte. -/
theorem copied_bytes_of_plain :
    ∃ w', fileGenerator.copy (.str "view") (.str "plain.txt") (.str "o.txt") .null worldWithFiles =
        (.ok "o.txt", w') ∧
      worldWithFiles.disk.readBytes "/templates/view/plain.txt" = .ok [0x61, 0x0A, 0x62] ∧
      w'.disk.readBytes "o.txt" = .ok [0x61, 0x0A, 0x62] := by
  have holds : worldWithFiles.disk.readBytes "/templates/view/plain.txt" = .ok [0x61, 0x0A, 0x62] := by
    decide
  have text : Encoding.utf8.decode [0x61, 0x0A, 0x62] = .ok ['a', '\n', 'b'] := by decide
  obtain ⟨w', copied, -⟩ := exists_copy worldWithFiles "plain.txt" "a\nb" (by decide)
    (by decide)
  obtain ⟨spellings, listed, spelled⟩ : ∃ spellings, (Encoding.utf8, spellings) ∈ Text.encodingNames ∧
      Text.plainName fileGenerator.settings.encoding ∈ spellings := ⟨_, List.mem_cons_self, by decide⟩
  obtain ⟨-, file, bytes, s, written, isSource, isBytes, decoded, -, after, -, same⟩ :=
    copied_bytes listed spelled (by decide) copied
  have isFile : file.text = "/templates/view/plain.txt" := by
    cases isSource
    decide
  rw [isFile, holds, Except.ok.injEq] at isBytes
  cases isBytes
  rw [text, Except.ok.injEq] at decoded
  cases decoded
  refine ⟨w', copied, holds, ?_⟩
  rw [after, same.2 ⟨by decide, List.nil_prefix⟩]

/-- A file whose line ends are two characters each loses one of them. -/
theorem copy_not_verbatim :
    ¬∀ (settings : Settings) (name source destination context : Value) (w w' : World) (path : String)
      (file : NormalPath) (bytes : List UInt8), isTemplate source.display = false →
      (standard settings World.site).sourceOf name source = .ok file →
      w.disk.readBytes file.text = .ok bytes →
      w.disk.fileAt file.text ≠ w.disk.fileAt destination.display →
      (standard settings World.site).copy name source destination context w = (.ok path, w') →
      w'.disk.readBytes path = .ok bytes := by
  intro verbatim
  obtain ⟨w', copied, isDisk⟩ := exists_copy worldWithFiles "returns.txt" "a\nb" (by decide)
    (by decide)
  have after : w'.disk.readBytes "o.txt" = .ok [0x61, 0x0A, 0x62] := by
    rw [isDisk]
    decide
  have kept := verbatim _ _ _ _ _ _ _ _ _ [0x61, 0x0D, 0x0A, 0x62] (by decide) rfl
    (by decide) (by decide) copied
  rw [after] at kept
  cases kept

end Generator

end LayeredFiles
