import CallChain.CommandLine.Run
import Std.Time.Format

/-!
# The program

The one module that touches the world: it takes a picture of the files that a command may see, runs
the command on the picture and puts what has changed back.  In the picture are the files that the
command line names and those that a listing names, one path a line; the listing is the file that
the environment variable `CALLPATH_FILES` names.
-/

namespace CallChain.Program

open CommandLine

/-! ## The picture of the disk -/

/-- The paths that a command names. -/
def commandPaths : Command → List String
  | .find o => o.target.path :: (o.target.config.toList ++ o.target.logFile.toList ++ o.output.toList)
  | .routines target _ => target.path :: (target.config.toList ++ target.logFile.toList)
  | .listFiles target config => target :: config.toList
  | .help | .server | .serve _ => []

/-- A disk with one more file. -/
def addFile (d : Disk) (path : String) (content : Option Bytes) : Disk :=
  { d with tree := d.tree.put (Path.parts (d.absolute path)) (.file content) }

/-- A disk that holds a working directory and nothing else. -/
def emptyDisk (directory : String) : Disk where
  tree := (FileTree.directory []).put (Path.parts directory) (.directory [])
  directory

mutual

/-- All files of a tree that may be read, with their paths. -/
def filesAt (path : String) : FileTree → List (String × Bytes)
  | .file content => content.toList.map (path, ·)
  | .directory entries => filesAmong path entries

/-- All files among the entries of a directory. -/
def filesAmong (path : String) : List (String × FileTree) → List (String × Bytes)
  | [] => []
  | (name, tree) :: rest => filesAt (path ++ "/" ++ name) tree ++ filesAmong path rest

end

/-- The files of a disk that another disk does not hold with the same content. -/
def newFiles (before after : Disk) : List (String × Bytes) :=
  let old := filesAt "" before.tree
  (filesAt "" after.tree).filter fun file => !old.contains file

/-! ## The world -/

/-- Reads a file into a picture; what is not there, or is no file, is not in it. -/
def takeUp (d : Disk) (path : String) : IO Disk := do
  try
    return addFile d path (some (← IO.FS.readBinFile path).toList)
  catch
    | .permissionDenied .. => return addFile d path none
    | _ => return d

/-- The paths of a listing. -/
def listing : IO (List String) := do
  match ← IO.getEnv "CALLPATH_FILES" with
  | none => return []
  | some file => return (← IO.FS.lines file).toList.filter (· != "")

/-- The picture of the disk for some words of a command line. -/
def picture (words : List String) : IO Disk := do
  let named := match parse words with
    | .ok command => commandPaths command
    | .error _ => []
  let empty := emptyDisk ((← IO.getEnv "PWD").getD "/")
  (named ++ (← listing)).foldlM takeUp empty

/-- Whether a command asks for the name of a target. -/
def asks (words : List String) : Bool :=
  match parse words with
  | .ok (.find o) => o.method.isNone
  | _ => false

/-- The time of day. -/
def timeTexts : IO TimeTexts := do
  let here ← Std.Time.PlainDateTime.now
  let utc := Std.Time.DateTime.ofTimestamp (← Std.Time.Timestamp.now) .UTC
  return { record := here.format "uuuu-MM-dd HH:mm:ss,SSS"
           plain := here.format "uuuu-MM-dd HH:mm:ss"
           iso := utc.format "uuuu-MM-dd'T'HH:mm:ss.SSSSSS" ++ "+00:00" }

/-- What a session for some words of a command line is given.  No server is built in. -/
def surround (words : List String) : IO Surround := do
  let input ← if asks words then (← IO.getStdin).getLine else pure ""
  return { times := ← timeTexts, input, terminal := ← (← IO.getStdout).isTty, canServe := false }

/-- Writes a file and makes the directories above it. -/
def putBack (path : String) (content : Bytes) : IO Unit := do
  IO.FS.createDirAll (Path.parent path)
  IO.FS.writeBinFile path content.toByteArray

/-- Runs a command line.  The clock moves by a microsecond with every reading. -/
def run (words : List String) : IO UInt32 := do
  let disk ← picture words
  let session : Session := { surround := ← surround words, disk, clock := .ticking 0.000001 }
  let (exit, after) := CommandLine.run words session
  (newFiles disk after.disk).forM fun (path, content) => putBack path content
  IO.print after.out
  IO.eprint after.err
  match exit with
  | .done code => return code.toUInt32
  | .usage (.help program) =>
    IO.print (usageText program)
    return 0
  | .usage (.fault program message) =>
    IO.eprint (usageText program ++ program ++ ": error: " ++ message ++ "\n")
    return 2

end CallChain.Program

/-- The program. -/
def main (words : List String) : IO UInt32 := CallChain.Program.run words
