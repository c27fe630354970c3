/-!
# Paths without a file

What keeps a file from being read at a path where there is none.  A path leads from name to name and
ends at the first that is not there; the names `.` and `..` are always there, and are directories.
A name has at most 255 bytes and a path at most 4095.
-/

namespace AuctionHouse

/-- Why there is no file to be read at a path. -/
inductive PathProblem where
  | notThere
  | isDirectory
  | nameTooLong
  /-- The path has the character of number zero in it, which no name can have. -/
  | zeroInName
deriving DecidableEq, Repr

namespace PathProblem

/-- What is said of a path without a file. -/
def message : PathProblem → String
  | notThere => "No such file or directory (os error 2)"
  | isDirectory => "Is a directory (os error 21)"
  | nameTooLong => "File name too long (os error 36)"
  | zeroInName => "file name contained an unexpected NUL byte"

/-- How many bytes a path may have at most. -/
def longestPath : Nat := 4095

/-- How many bytes a name may have at most. -/
def longestName : Nat := 255

/-- The first name on a path that is not there. -/
def missingName? (path : String) : Option String :=
  (path.splitOn "/").find? fun name => name != "" && name != "." && name != ".."

/-- The problem with a path on which nothing is there but directories that it starts from. -/
def ofPath (path : String) : PathProblem :=
  if path.toList.any (· = '\x00') then zeroInName
  else if longestPath < path.utf8ByteSize then nameTooLong
  else
    match missingName? path with
    | some name => if longestName < name.utf8ByteSize then nameTooLong else notThere
    | none => if path.isEmpty then notThere else isDirectory

end PathProblem

end AuctionHouse
