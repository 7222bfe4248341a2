import LayeredFiles.Proofs.Chain.Journal
/-
Module: LayeredFiles.Proofs.Chain.Filing
Layer: Proofs
Purpose: the files that a chain leaves. A `Filing` says which file a path leads to and what a file holds,
  for capabilities that touch files by writing only: rendering and announcing leave all files alone, and a
  write, whether it goes well or fails, touches the one file that its path leads to. The journal of a run
  then tells all there is to know: files that nobody wrote to are as they were, and a file holds the text
  of the last write to it.
Main exports: Filing, Filing.Follows, Filing.follows_runStages, Filing.follows_account,
  Filing.Follows.content_of_nodup
-/

namespace LayeredFiles

variable {σ : Type} {can : Capabilities σ}

/-- The files that capabilities work on. -/
structure Filing (can : Capabilities σ) where
  File : Type
  Content : Type
  /-- The file that a path leads to, be it there or not. -/
  fileAt : σ → String → File
  /-- What a file holds; nothing if it is not there. -/
  content : σ → File → Option Content
  /-- What a text is kept as, if it can be kept. -/
  form : Value → Option Content
  render_fileAt : ∀ template context s, fileAt (can.render template context s).2 = fileAt s
  render_content : ∀ template context s, content (can.render template context s).2 = content s
  announce_fileAt : ∀ number total template path s,
    fileAt (can.announce number total template path s) = fileAt s
  announce_content : ∀ number total template path s,
    content (can.announce number total template path s) = content s
  write_fileAt : ∀ path text s, fileAt (can.write path text s).2 = fileAt s
  /-- A write that goes well leaves the text in the file. -/
  write_content : ∀ path text s, (can.write path text s).1 = .ok () →
    (form text).isSome ∧ content (can.write path text s).2 (fileAt s path) = form text
  /-- Every other file stays as it is, also if the write fails. -/
  write_content_of_ne : ∀ path text s file, file ≠ fileAt s path →
    content (can.write path text s).2 file = content s file
  /-- A file has one name. -/
  fileName_eq : ∀ s path other, fileAt s path = fileAt s other →
    Path.fileName path = Path.fileName other

namespace Filing

variable {files : Filing can}

/-- The files of a state are those of an earlier state after some writes. -/
structure Follows (files : Filing can) (start : σ) (writes : List Write) (s : σ) : Prop where
  fileAt : files.fileAt s = files.fileAt start
  /-- A file that no path of the writes leads to is as it was. -/
  untouched : ∀ file, (∀ write ∈ writes, files.fileAt start write.path ≠ file) →
    files.content s file = files.content start file
  /-- A text that was written is kept until the next write to its file. -/
  kept : ∀ before write after, writes = before ++ write :: after → write.answer = .ok () →
    (∀ later ∈ after, files.fileAt start later.path ≠ files.fileAt start write.path) →
    (files.form write.content).isSome ∧
      files.content s (files.fileAt start write.path) = files.form write.content

theorem follows_nil (files : Filing can) (s : σ) : files.Follows s [] s where
  fileAt := rfl
  untouched _ _ := rfl
  kept before write after split := by simp at split

namespace Follows

variable {start s : σ} {writes : List Write}

/-- A change that leaves all files alone adds no write. -/
theorem of_eq {s' : σ} (follows : files.Follows start writes s)
    (sameNames : files.fileAt s' = files.fileAt s) (sameContent : files.content s' = files.content s) :
    files.Follows start writes s' where
  fileAt := sameNames.trans follows.fileAt
  untouched file free := by rw [sameContent, follows.untouched file free]
  kept before write after split wrote free := by
    rw [sameContent]
    exact follows.kept before write after split wrote free

/-- A write is added behind the others. -/
theorem write (follows : files.Follows start writes s) (path : String) (text : Value) :
    files.Follows start (writes ++ [⟨path, text, (can.write path text s).1⟩])
      (can.write path text s).2 where
  fileAt := (files.write_fileAt path text s).trans follows.fileAt
  untouched file free := by
    have other : file ≠ files.fileAt s path := by
      rw [follows.fileAt]
      exact Ne.symm (free ⟨path, text, (can.write path text s).1⟩ (by simp))
    rw [files.write_content_of_ne path text s file other]
    exact follows.untouched file (fun write mem => free write (List.mem_append_left _ mem))
  kept before write after split wrote free := by
    rcases List.eq_nil_or_concat after with rfl | ⟨after, last, rfl⟩
    · -- The write in question is the one that was added.
      obtain ⟨-, added⟩ := List.append_inj' split rfl
      obtain rfl : _ = write := by simpa using added
      rw [← follows.fileAt]
      exact files.write_content path text s wrote
    · -- It is an earlier one, and the one that was added goes to another file.
      rw [List.concat_eq_append] at split free
      rw [← List.cons_append, ← List.append_assoc] at split
      obtain ⟨earlier, added⟩ := List.append_inj' split rfl
      obtain rfl : _ = last := by simpa using added
      have other : files.fileAt start write.path ≠ files.fileAt s path := by
        rw [follows.fileAt]
        exact Ne.symm (free ⟨path, text, (can.write path text s).1⟩ (by simp))
      rw [files.write_content_of_ne path text s _ other]
      exact follows.kept before write after earlier wrote
        (fun later mem => free later (List.mem_append_left _ mem))

/-- If no two writes go to one file, every write that went well has left its text. -/
theorem content_of_nodup (follows : files.Follows start writes s)
    (distinct : (writes.map (fun write => files.fileAt start write.path)).Nodup) {write : Write}
    (mem : write ∈ writes) (wrote : write.answer = .ok ()) :
    (files.form write.content).isSome ∧
      files.content s (files.fileAt start write.path) = files.form write.content := by
  obtain ⟨before, after, split⟩ := List.append_of_mem mem
  refine follows.kept before write after split wrote (fun later isLater same => ?_)
  rw [split, List.map_append, List.map_cons] at distinct
  have apart := (List.nodup_cons.1 (List.nodup_append.1 distinct).2.1).1
  exact apart (List.mem_map.2 ⟨later, isLater, same⟩)

end Follows

/-- The files that a run leaves follow the writes in its journal. -/
theorem follows_runStages (files : Filing can) (start : σ) (total : Nat) (context : Entries)
    (stages : List Stage) (content : Value) (written : String) (s : σ) (journal : List Action)
    (follows : files.Follows start (writesOf journal) s) :
    files.Follows start
      (writesOf (runStages can.journaled total context stages content written (s, journal)).2.2)
      (runStages can.journaled total context stages content written (s, journal)).2.1 := by
  refine runStages_preserves (fun s => files.Follows start (writesOf s.2) s.1)
    ?_ ?_ ?_ total context stages content written (s, journal) follows
  · rintro template context ⟨s, journal⟩ follows
    simpa [writesOf] using
      follows.of_eq (files.render_fileAt template context s) (files.render_content template context s)
  · rintro path text ⟨s, journal⟩ follows
    simpa [writesOf] using follows.write path text
  · rintro number total template path ⟨s, journal⟩ follows
    simpa using follows.of_eq (files.announce_fileAt number total template path s)
      (files.announce_content number total template path s)

/-- The files that are left when a path was worked on follow the writes in the account. -/
theorem follows_account (files : Filing can) (path : String) (context : Entries) (s : σ) :
    files.Follows s (account can path context s).writes (account can path context s).state := by
  have start : files.Follows s (writesOf []) s := files.follows_nil s
  simp only [account, Account.writes, processName]
  split
  · cases entriesOf (.dict context) with
    | error fault => exact start
    | ok context =>
        simp only [applyChain]
        exact files.follows_runStages s _ context _ _ _ s [] start
  · exact start

end Filing

end LayeredFiles
