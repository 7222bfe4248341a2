import LayeredFiles.Text.Quoted
/-
Module: LayeredFiles.Disk.Fault
Layer: Disk
Purpose: why the disk refuses an operation.
Main exports: DiskProblem, DiskFault, DiskFault.message
-/

namespace LayeredFiles

/-- What stands in the way of a disk operation. -/
inductive DiskProblem where
  | notFound
  | alreadyExists
  | notDirectory
  | isDirectory
  | nameTooLong
deriving DecidableEq, Repr

/-- The number and the wording of a problem. -/
def DiskProblem.message : DiskProblem → String
  | .notFound => "[Errno 2] No such file or directory"
  | .alreadyExists => "[Errno 17] File exists"
  | .notDirectory => "[Errno 20] Not a directory"
  | .isDirectory => "[Errno 21] Is a directory"
  | .nameTooLong => "[Errno 36] File name too long"

/-- Why the disk refuses an operation on a path. -/
inductive DiskFault where
  | problem (problem : DiskProblem) (path : String)
  /-- No path holds a NUL character. -/
  | nulInPath
  /-- A path that may not be written, with the reason that its guard gives. -/
  | refused (reason : String)
deriving DecidableEq, Repr

/-- The wording of a disk fault. -/
def DiskFault.message : DiskFault → String
  | .problem p path => p.message ++ ": " ++ Text.quoted path
  | .nulInPath => "embedded null byte"
  | .refused reason => reason

end LayeredFiles
