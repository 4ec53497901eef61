import CallChain.Files.Disk

/-!
# The source files below a path

Source files are found by their ending, in any case of letters, in a directory and in those below
it, except for directories of excluded names.  A path that is a file stands for itself.  The
result is in the order of the paths, so it does not depend on the order in which a disk lists the
entries of a directory.
-/

namespace CallChain

mutual

/-- The source files in a directory at `path`. -/
def FileTree.sources (excluded : List String) (path : String) : FileTree → List String
  | .file _ => []
  | .directory entries => entrySources excluded path entries

/-- The source files among some entries of a directory at `path`, and below them. -/
def entrySources (excluded : List String) (path : String) : List (String × FileTree) → List String
  | [] => []
  | (name, entry) :: rest =>
    let here := match entry with
      | .file _ => if Path.isPython name then [Path.join path name] else []
      | .directory _ =>
        if excluded.contains name then [] else entry.sources excluded (Path.join path name)
    here ++ entrySources excluded path rest

end

/-- Paths in order. -/
def sortPaths (paths : List String) : List String := paths.mergeSort fun a b => !(b < a)

namespace Disk

/-- The source files at and below a path. -/
def sources (d : Disk) (excluded : List String) (path : String) : List String :=
  match d.find? path with
  | some (.file _) => if Path.isPython path then [path] else []
  | some found => sortPaths (found.sources excluded path)
  | none => []

/-- The source files at a path, without those in directories below it. -/
def sourcesAt (d : Disk) (path : String) : Except FileFault (List String) :=
  if d.isFile path then .ok (if Path.isPython path then [path] else [])
  else (d.list path).map fun entries =>
    sortPaths ((entries.filter fun e => !e.2.isDirectory && Path.isPython e.1).map fun e =>
      Path.join path e.1)

/-- The text of a source file. -/
def sourceText (d : Disk) (path : String) : Except FileFault String :=
  (d.read path).map fun content => String.ofList (Text.unifyLineEnds (Utf8.lenient content))

end Disk

end CallChain
