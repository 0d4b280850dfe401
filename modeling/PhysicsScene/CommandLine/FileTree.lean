/-!
# Files by path

Files stand in a tree of directories. A path is walked one name after the other, from the root if
it starts with `/` and from the current directory otherwise. Only a directory can be walked through,
even where the name behind it is empty, and only a file can be read.
-/

namespace PhysicsScene

namespace CommandLine

/-- Why the text of a file could not be read. -/
inductive FileProblem where
  | missing
  | forbidden
  /-- The path goes on behind a file. -/
  | notDirectory
  /-- The path ends at a directory. -/
  | isDirectory
  | nameTooLong
  | notText
  /-- A reason that only the system knows. -/
  | other (reason : String)
deriving DecidableEq, Repr

namespace FileProblem

/-- The reason that is given for a problem, with the number that the system gives it. -/
def message : FileProblem → String
  | missing => "No such file or directory (os error 2)"
  | forbidden => "Permission denied (os error 13)"
  | notDirectory => "Not a directory (os error 20)"
  | isDirectory => "Is a directory (os error 21)"
  | nameTooLong => "File name too long (os error 36)"
  | notText => "stream did not contain valid UTF-8"
  | other reason => reason

end FileProblem

/-- A place in a tree, as the names on the way from the root. -/
abbrev Place : Type := List String

/-- Files in directories. There is a directory wherever one is needed to hold them. -/
structure FileTree where
  /-- The files with their bytes. -/
  files : List (Place × List UInt8)
  /-- The directory from which a path is walked that does not start at the root. -/
  current : Place

namespace FileTree

/-- The number of bytes that a name may have. -/
def nameLimit : Nat := 255

/-- The number of bytes that a path may have. -/
def pathLimit : Nat := 4095

/-- Whether there is a directory at a place. -/
def hasDirectory (tree : FileTree) (place : Place) : Bool :=
  place.isPrefixOf tree.current ||
    tree.files.any fun file => place.isPrefixOf file.1 && place != file.1

/-- Whether there is anything at a place. -/
def hasPlace (tree : FileTree) (place : Place) : Bool :=
  tree.hasDirectory place || (tree.files.lookup place).isSome

/-- Goes from a place to a name in it; the root has no directory above it. -/
def step (tree : FileTree) (place : Place) (name : String) : Except FileProblem Place :=
  if !tree.hasDirectory place then .error .notDirectory
  else if name = "" || name = "." then .ok place
  else if name = ".." then .ok place.dropLast
  else if nameLimit < name.utf8ByteSize then .error .nameTooLong
  else if tree.hasPlace (place ++ [name]) then .ok (place ++ [name])
  else .error .missing

/-- The place to which a path leads. -/
def placeOf (tree : FileTree) (path : String) : Except FileProblem Place :=
  if path = "" then .error .missing
  else if pathLimit < path.utf8ByteSize then .error .nameTooLong
  else
    let start := if path.toList.head? = some '/' then [] else tree.current
    (path.splitOn "/").foldlM tree.step start

/-- The bytes of the file to which a path leads. -/
def read (tree : FileTree) (path : String) : Except FileProblem (List UInt8) := do
  match tree.files.lookup (← tree.placeOf path) with
  | some bytes => .ok bytes
  | none => .error .isDirectory

end FileTree

end CommandLine

end PhysicsScene
