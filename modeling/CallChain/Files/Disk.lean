import CallChain.Files.Path
import CallChain.Files.Tree

/-!
# Reading and writing files by path

A disk is a tree with a working directory, at which relative paths start.  Paths are followed
part by part: every part but the last has to lead to a directory, and two dots go back to the
directory above.  What cannot be done is a `FileFault` with the path as it was given.  A file that
may not be opened can be neither read nor changed, but its path is there like any other.
-/

namespace CallChain

/-- Why a path cannot be used. -/
inductive FileCause where
  | notFound
  | exists
  | notDirectory
  | isDirectory
  | denied
  deriving DecidableEq

/-- The number and the words of a cause. -/
def FileCause.message : FileCause → String
  | .notFound => "[Errno 2] No such file or directory"
  | .exists => "[Errno 17] File exists"
  | .notDirectory => "[Errno 20] Not a directory"
  | .isDirectory => "[Errno 21] Is a directory"
  | .denied => "[Errno 13] Permission denied"

/-- A path that cannot be used. -/
structure FileFault where
  cause : FileCause
  path : String

def FileFault.message (f : FileFault) : String := f.cause.message ++ ": " ++ Text.quoted f.path

/-- A tree of files with a working directory. -/
structure Disk where
  tree : FileTree := .directory []
  directory : String := "/"
  deriving Inhabited

namespace Disk

/-- Follows one part of a path from a place; places are names from the innermost outwards. -/
def step (tree : FileTree) (here : List String) (part : String) : Except FileCause (List String) :=
  match tree.get? here.reverse with
  | none => .error .notFound
  | some (.file _) => .error .notDirectory
  | some (.directory _) =>
    .ok (if part = "" ∨ part = "." then here
      else if part = ".." then here.tail
      else part :: here)

/-- Follows the parts of a path. -/
def follow (tree : FileTree) : List String → List String → Except FileCause (List String)
  | here, [] => .ok here
  | here, part :: rest =>
    match step tree here part with
    | .ok next => follow tree next rest
    | .error cause => .error cause

/-- The names that a path leads along; the last of them need not exist. -/
def locate (d : Disk) (path : String) : Except FileCause (List String) :=
  if path = "" then .error .notFound
  else
    let start := if Path.isAbsolute path then [] else (Path.parts d.directory).reverse
    (follow d.tree start (Text.splitOn '/' path)).map List.reverse

/-- What a path leads to. -/
def find (d : Disk) (path : String) : Except FileCause FileTree :=
  match d.locate path with
  | .error cause => .error cause
  | .ok names =>
    match d.tree.get? names with
    | some found => .ok found
    | none => .error .notFound

def find? (d : Disk) (path : String) : Option FileTree := (d.find path).toOption

/-- Whether a path leads to something. -/
def contains (d : Disk) (path : String) : Bool := (d.find? path).isSome

def isFile (d : Disk) (path : String) : Bool := (d.find? path).any fun t => !t.isDirectory
def isDirectory (d : Disk) (path : String) : Bool := (d.find? path).any FileTree.isDirectory

/-- A path from the root. -/
def absolute (d : Disk) (path : String) : String := Path.absolute d.directory path

/-- The content of a file. -/
def read (d : Disk) (path : String) : Except FileFault Bytes :=
  match d.find path with
  | .ok (.file (some content)) => .ok content
  | .ok (.file none) => .error ⟨.denied, path⟩
  | .ok (.directory _) => .error ⟨.isDirectory, path⟩
  | .error cause => .error ⟨cause, path⟩

/-- The names in a directory with what they stand for. -/
def list (d : Disk) (path : String) : Except FileFault (List (String × FileTree)) :=
  match d.find path with
  | .ok (.directory entries) => .ok entries
  | .ok (.file _) => .error ⟨.notDirectory, path⟩
  | .error cause => .error ⟨cause, path⟩

/-- Changes the content of a file, which is made if it is missing. -/
def change (d : Disk) (path : String) (new : Bytes → Bytes) : Except FileFault Disk :=
  let slashed := Text.endsWith path "/"
  let place := if slashed then String.ofList (path.toList.reverse.dropWhile (· == '/')).reverse else path
  match d.locate (if place = "" then path else place) with
  | .error cause => .error ⟨cause, path⟩
  | .ok names =>
    if slashed then .error ⟨.isDirectory, path⟩
    else match d.tree.get? names with
      | some (.directory _) => .error ⟨.isDirectory, path⟩
      | some (.file (some old)) => .ok { d with tree := d.tree.put names (.file (new old)) }
      | some (.file none) => .error ⟨.denied, path⟩
      | none => .ok { d with tree := d.tree.put names (.file (new [])) }

/-- Writes a file, over what it held before. -/
def write (d : Disk) (path text : String) : Except FileFault Disk :=
  d.change path fun _ => Utf8.encode text

/-- Writes at the end of a file. -/
def append (d : Disk) (path text : String) : Except FileFault Disk :=
  d.change path (· ++ Utf8.encode text)

/-- Makes one directory. -/
def makeDirectory (d : Disk) (path : String) : Except FileCause Disk :=
  match d.locate path with
  | .error cause => .error cause
  | .ok names =>
    match d.tree.get? names with
    | some _ => .error .exists
    | none => .ok { d with tree := d.tree.put names (.directory []) }

/-- Makes a directory and those above it that are missing; the path is given by its parts from the
innermost outwards.  A directory that is there already is fine. -/
def makeParts (above : String) : List String → Disk → Except FileCause Disk
  | [], d => .ok d
  | part :: outer, d =>
    let path := above ++ Text.joinWith "/" (part :: outer).reverse
    match d.makeDirectory path with
    | .ok made => .ok made
    | .error .notFound =>
      match makeParts above outer d with
      | .error cause => .error cause
      | .ok made =>
        match made.makeDirectory path with
        | .ok done => .ok done
        | .error cause => if made.isDirectory path then .ok made else .error cause
    | .error cause => if d.isDirectory path then .ok d else .error cause

/-- Makes a directory, if one is named, with those above it; it may exist already. -/
def ensureDirectory (d : Disk) (path : String) : Except FileFault Disk :=
  let parts := (Path.parts path).filter (· != ".")
  let slash := if Path.isAbsolute path then "/" else ""
  (makeParts slash parts.reverse d).mapError fun cause => ⟨cause, slash ++ Text.joinWith "/" parts⟩

/-- Cuts a path before its last part. -/
def splitLast (path : String) : String × String :=
  match Text.cutLast? '/' path with
  | some (_, last) => (Path.parent path, last)
  | none => ("", path)

/-- Makes a new directory with those above it that are missing.  That one of those above exists
after all is no fault; that the directory itself exists is one. -/
def makeNewDirectory : Nat → Disk → String → Except FileFault Disk
  | 0, _, path => .error ⟨.notFound, path⟩
  | fuel + 1, d, path =>
    let (head, last) := if (splitLast path).2 = "" then splitLast (splitLast path).1 else splitLast path
    let make (d : Disk) : Except FileFault Disk := (d.makeDirectory path).mapError fun cause => ⟨cause, path⟩
    if head ≠ "" ∧ last ≠ "" ∧ !d.contains head then
      match makeNewDirectory fuel d head with
      | .ok made => if last = "." then .ok made else make made
      | .error ⟨.exists, _⟩ => if last = "." then .ok d else make d
      | .error fault => .error fault
    else make d

end Disk

end CallChain
