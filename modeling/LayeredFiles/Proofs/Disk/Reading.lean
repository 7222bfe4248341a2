import LayeredFiles.Proofs.Disk.Writing
import LayeredFiles.Proofs.Text.Codec
/-
Module: LayeredFiles.Proofs.Disk.Reading
Layer: Proofs
Purpose: reading texts. The text of a file depends on its bytes alone, so it stays as it is while other
  files are written, and it is the same under two spellings of one path. A text that was written in UTF-8
  is read back with its line ends unified.
Main exports: Disk.readText_of_readBytes, Disk.isFile_iff, Disk.probeFile_cases, Disk.IsTooLong,
  Disk.Grows.readText, Disk.stat_dot, Disk.writeFile_utf8, Disk.readText_writeFile
-/

namespace LayeredFiles.Disk

open Text (splitOn unifyNewlines)

/-- A text that was read stems from the bytes of its file. -/
theorem readBytes_of_readText {disk : Disk} {encoding path text : String}
    (read : disk.readText encoding path = .ok text) :
    path.toList.contains '\x00' = false ∧ ∃ bytes, disk.readBytes path = .ok bytes := by
  unfold readText at read
  split at read
  · cases read
  · split at read
    · cases read
    · rename_i free
      split at read
      · cases read
      · rename_i bytes isBytes
        exact ⟨Bool.eq_false_iff.2 free, bytes, isBytes⟩

/-- Where the same bytes are read, the same text is read. -/
theorem readText_of_readBytes {disk disk' : Disk} {encoding path path' text : String}
    (read : disk.readText encoding path = .ok text) (free : path'.toList.contains '\x00' = false)
    (same : disk'.readBytes path' = disk.readBytes path) :
    disk'.readText encoding path' = .ok text := by
  obtain ⟨free', bytes, isBytes⟩ := readBytes_of_readText read
  unfold readText at read ⊢
  rw [free', isBytes] at read
  rw [free, same, isBytes]
  exact read

/-- Two paths from which the same bytes are read give the same text, or fail for the same reason. -/
theorem readText_congr {disk : Disk} {path path' : String} {bytes : List UInt8}
    (free : path.toList.contains '\x00' = false) (free' : path'.toList.contains '\x00' = false)
    (read : disk.readBytes path = .ok bytes) (read' : disk.readBytes path' = .ok bytes)
    (encoding : String) : disk.readText encoding path = disk.readText encoding path' := by
  rw [readText, readText, free, free', read, read']

/-- A path is that of a file just if bytes can be read from it. -/
theorem isFile_iff {disk : Disk} {path : String} :
    disk.isFile path = true ↔
      path.toList.contains '\x00' = false ∧ ∃ bytes, disk.readBytes path = .ok bytes := by
  rw [isFile, Bool.and_eq_true, Bool.not_eq_true', readBytes]
  apply and_congr_right
  intro _
  cases disk.stat path with
  | error problem => simp
  | ok found =>
      obtain ⟨place, node⟩ := found
      cases node <;> simp

/-- A probe says whether a path is that of a file, unless a name is too long. -/
theorem probeFile_cases (disk : Disk) (path : String) :
    disk.probeFile path = .ok (disk.isFile path) ∨
      disk.probeFile path = .error .nameTooLong ∧ disk.isFile path = false := by
  unfold probeFile isFile
  by_cases nul : path.toList.contains '\x00' = true
  · rw [if_pos nul, nul]
    exact Or.inl rfl
  · rw [if_neg nul, Bool.eq_false_iff.2 nul]
    cases disk.stat path with
    | error problem =>
        cases problem with
        | nameTooLong => exact Or.inr ⟨rfl, rfl⟩
        | _ => exact Or.inl rfl
    | ok found =>
        obtain ⟨place, node⟩ := found
        cases node <;> exact Or.inl rfl

/-- The path is too long for a disk, as a whole or in one of its names. -/
def IsTooLong (path : String) : Prop :=
  pathLimit ≤ path.utf8ByteSize ∨
    ∃ name ∈ namesOf path.toList, nameLimit < (String.ofList name).utf8ByteSize

theorem exists_long_of_walkFrom {disk : Disk} {names : List (List Char)} {start : Place}
    {isOpen : Bool} (failed : disk.walkFrom start isOpen names = .error .nameTooLong) :
    ∃ name ∈ names, nameLimit < (String.ofList name).utf8ByteSize := by
  fun_induction walkFrom disk start isOpen names with
  | case1 | case5 | case6 | case7 => cases failed
  | case2 _ _ ih | case3 _ _ ih =>
      obtain ⟨name, mem, long⟩ := ih failed
      exact ⟨name, List.mem_cons_of_mem _ mem, long⟩
  | case4 _ chars _ _ _ _ long => exact ⟨chars, List.mem_cons_self, long⟩
  | case8 =>
      rename_i ih
      obtain ⟨name, mem, long⟩ := ih failed
      exact ⟨name, List.mem_cons_of_mem _ mem, long⟩

theorem stat_of_probeFile {disk : Disk} {path : String}
    (refused : disk.probeFile path = .error .nameTooLong) : disk.stat path = .error .nameTooLong := by
  revert refused
  fun_cases probeFile disk path with
  | case4 _ stopped =>
      intro _
      exact stopped
  | case1 | case2 | case3 | case5 => simp

theorem walk_of_stat_nameTooLong {disk : Disk} {path : String}
    (stopped : disk.stat path = .error .nameTooLong) : disk.walk path = .error .nameTooLong := by
  revert stopped
  fun_cases stat disk path with
  | case1 problem walked =>
      intro stopped
      cases stopped
      exact walked
  | case2 | case3 | case4 | case5 | case6 => simp

/-- Only a path that is too long is refused for that reason. -/
theorem isTooLong_of_stat {disk : Disk} {path : String}
    (stopped : disk.stat path = .error .nameTooLong) : IsTooLong path := by
  have walked := walk_of_stat_nameTooLong stopped
  simp only [walk] at walked
  split at walked
  · cases walked
  · split at walked
    · rename_i long
      exact Or.inl long
    · exact Or.inr (exists_long_of_walkFrom walked)

/-- A text stays under its path, if its file does. -/
theorem Grows.readText {disk disk' : Disk} (grows : Grows disk disk') {encoding path text : String}
    (read : disk.readText encoding path = .ok text)
    (same : disk'.contentAt (disk.fileAt path) = disk.contentAt (disk.fileAt path)) :
    disk'.readText encoding path = .ok text := by
  obtain ⟨free, bytes, isBytes⟩ := readBytes_of_readText read
  have holds : disk'.contentAt (disk.fileAt path) = some bytes := by
    rw [same, contentAt_of_readBytes isBytes]
  exact readText_of_readBytes read free (by rw [grows.readBytes isBytes holds, isBytes])

/-! ### Spellings of paths -/

/-- A dot in front of a relative path leads to the same. -/
theorem stat_dot (disk : Disk) {path : String} (nonempty : path.toList ≠ [])
    (relative : path.toList.head? ≠ some '/') (fits : path.utf8ByteSize + 2 < pathLimit) :
    disk.stat ("./" ++ path) = disk.stat path := by
  have size : ("./" ++ path).utf8ByteSize = path.utf8ByteSize + 2 := by
    rw [String.utf8ByteSize_append, Nat.add_comm]
    rfl
  have isText : ("./" ++ path).toList = '.' :: '/' :: path.toList := by
    rw [String.toList_append]
    rfl
  have names : (splitOn '/' ('.' :: '/' :: path.toList)).filter (· ≠ []) =
      ['.'] :: (splitOn '/' path.toList).filter (· ≠ []) := by
    rw [Text.splitOn_cons_of_ne (by decide) (Text.splitOn_cons_self path.toList)]
    rfl
  have last : ('.' :: '/' :: path.toList).getLast? = path.toList.getLast? := by
    obtain ⟨c, rest, whole⟩ := List.exists_cons_of_ne_nil nonempty
    rw [whole, List.getLast?_cons_cons, List.getLast?_cons_cons]
  have walks : disk.walk ("./" ++ path) = disk.walk path := by
    have dot : ('.' :: '/' :: path.toList).head? ≠ some '/' := by simp
    have fits' : ¬pathLimit ≤ path.utf8ByteSize + 2 := by omega
    have fits'' : ¬pathLimit ≤ path.utf8ByteSize := by omega
    simp only [walk, isText, size, names, last, if_neg fits', if_neg fits'', if_neg nonempty,
      if_neg relative, if_neg dot]
    rfl
  rw [stat, walks, stat]

/-! ### Reading back -/

theorem bytesToWrite_utf8 (text : String) :
    bytesToWrite "utf-8" (.str text) = .ok (text.toList.flatMap Text.utf8Bytes) := by
  rw [bytesToWrite, Text.find?_utf8]
  rfl

/-- A text can be written in UTF-8 wherever a file can stand. -/
theorem writeFile_utf8 {disk : Disk} {path : String} {place : Place}
    (free : path.toList.contains '\x00' = false) (isPlace : disk.placeForFile path = .ok place)
    (text : String) : (disk.writeFile "utf-8" path (.str text)).1 = .ok () := by
  have named : ("utf-8".toList.contains '\x00') = false := rfl
  rw [writeFile, clearFile, named, free, isPlace, if_neg Bool.false_ne_true, if_neg Bool.false_ne_true]
  simp only [bytesToWrite_utf8]

/-- A text that was written in UTF-8 is read back. -/
theorem readText_writeFile {disk : Disk} {path text : String}
    (written : (disk.writeFile "utf-8" path (.str text)).1 = .ok ()) :
    (disk.writeFile "utf-8" path (.str text)).2.readText "utf-8" path =
      .ok (String.ofList (unifyNewlines text.toList)) := by
  have wrote := fileWritten_writeFile disk "utf-8" path (.str text)
  rw [written] at wrote
  obtain ⟨bytes, isBytes, back⟩ := wrote.readBytes
  rw [bytesToWrite_utf8] at isBytes
  cases isBytes
  have free : path.toList.contains '\x00' = false := by
    by_contra nul
    rw [Bool.not_eq_false] at nul
    have refused : (disk.writeFile "utf-8" path (.str text)).1 = .error (.disk .nulInPath) := by
      rw [writeFile, clearFile, if_pos nul]
      rfl
    rw [refused] at written
    cases written
  have decoded : Text.Encoding.utf8.decode (text.toList.flatMap Text.utf8Bytes) = .ok text.toList :=
    Text.decodeUtf8_utf8Bytes 0 text.toList
  rw [readText, free, back, Text.find?_utf8]
  simp only [decoded]
  rfl

end LayeredFiles.Disk
