/-!
# Files and paths

A tree of directories with files in it, and the rules by which a path leads to a
place in it.  A path is followed part by part, and only directories can be gone
through: what comes behind a file, be it an empty part, is a fault.  So is a
name or a path that is too long.

Reading needs a file.  Writing makes one where there is none, but only under a
name that the path ends with.
-/

namespace ChipEight

/-- Why a file cannot be read or written. -/
inductive FileError where
  /-- There is no such file, or no directory to put it in. -/
  | notFound
  /-- A part of the path is not a directory. -/
  | notDirectory
  /-- The path leads to a directory. -/
  | isDirectory
  /-- A part of the path or the whole path is too long. -/
  | nameTooLong
  /-- Something else, in the words of the host. -/
  | other (message : String)
deriving DecidableEq

namespace FileError

/-- The error in words. -/
def message : FileError → String
  | notFound => "No such file or directory (os error 2)"
  | notDirectory => "Not a directory (os error 20)"
  | isDirectory => "Is a directory (os error 21)"
  | nameTooLong => "File name too long (os error 36)"
  | other message => message

end FileError

/-- A place in a tree: the names on the way to it, the last one first. -/
abbrev Location := List String

/-- A tree of directories and files. -/
structure FileTree where
  /-- The directory that a path begins in, unless it begins with a slash. -/
  home : Location
  /-- Other directories.  The way to a directory leads through directories. -/
  directories : List Location
  /-- Files and contents; of two files at one place the first counts. -/
  files : List (Location × List UInt8)
deriving DecidableEq

namespace FileTree

/-- The greatest number of octets of a name. -/
def nameLimit : Nat := 255

/-- The greatest number of octets of a path. -/
def pathLimit : Nat := 4095

/-- The directories at the root of a common system. -/
def commonDirectories : List String :=
  ["bin", "boot", "dev", "etc", "home", "lib", "media", "mnt", "opt", "proc", "root", "run",
    "sbin", "srv", "sys", "tmp", "usr", "var"]

/-- A directory with the given files, which is the one that paths begin in, and
little around it: the common directories, and a file that is always empty. -/
def ofFiles (files : List (String × List UInt8)) : FileTree where
  home := ["work", "tmp"]
  directories := commonDirectories.map ([·])
  files := files.map (fun (name, content) => ([name, "work", "tmp"], content))
    ++ [(["null", "dev"], [])]

/-- Whether a directory is at a place. -/
def isDirectory (tree : FileTree) (location : Location) : Bool :=
  (tree.home :: tree.directories).any (location.isSuffixOf ·)

/-- The content of the file at a place. -/
def file? (tree : FileTree) (location : Location) : Option (List UInt8) :=
  tree.files.lookup location

/-! ## Following a path -/

/-- Whether a part of a path is a name, and not a way to stay or to go up. -/
def isName (part : String) : Bool :=
  part != "" && part != "." && part != ".."

/-- Go on from a place along one part of a path. -/
def step (tree : FileTree) (location : Location) (part : String) : Except FileError Location :=
  if !tree.isDirectory location then
    .error (if (tree.file? location).isSome then .notDirectory else .notFound)
  else if isName part then
    if nameLimit < part.utf8ByteSize then .error .nameTooLong else .ok (part :: location)
  else .ok (if part = ".." then location.drop 1 else location)

/-- The place that a path begins in, if it is a path. -/
def start (tree : FileTree) (path : String) : Except FileError Location :=
  if path = "" then .error .notFound
  else if pathLimit < path.utf8ByteSize then .error .nameTooLong
  else .ok (if path.startsWith "/" then [] else tree.home)

/-- The content of the file that a path leads to. -/
def read (tree : FileTree) (path : String) : Except FileError (List UInt8) := do
  let location ← (path.splitOn "/").foldlM tree.step (← tree.start path)
  if tree.isDirectory location then .error .isDirectory
  else
    match tree.file? location with
    | some content => .ok content
    | none => .error .notFound

/-- The tree with one file replaced or added.  The path must end with a name. -/
def write (tree : FileTree) (path : String) (content : List UInt8) : Except FileError FileTree := do
  let parts := path.splitOn "/"
  let way := ((parts.reverse.dropWhile (· == "")).drop 1).reverse
  let last := parts.getLastD ""
  let directory ← (way ++ [""]).foldlM tree.step (← tree.start path)
  if !isName last then .error .isDirectory
  else
    let location ← tree.step directory last
    if tree.isDirectory location then .error .isDirectory
    else .ok { tree with files := (location, content) :: tree.files.filter (·.1 != location) }

end FileTree
end ChipEight
