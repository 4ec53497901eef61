import CallChain.Failure
import CallChain.Files.Sources
import CallChain.Index
import CallChain.Log.Record

/-!
# Indexing a file or a directory

The source files of a target are read from a disk, named by their way from the indexed directory,
and indexed like texts by path.  A file that may not be read is skipped like one that cannot be
parsed.  The directory of a target that is a file is the one it stands in.

An index is handed out when it is `finished`, that is when all references in it have a source text;
`fromSources` and `fromDisk` are what the programs use.
-/

namespace CallChain

open Python

/-- A source file on a disk. -/
structure SourceFile where
  /-- Where it is. -/
  path : String
  /-- The way to it from the indexed directory. -/
  name : String
  /-- What it holds, if it may be read. -/
  text : Option String

/-- The directory that is indexed for a target. -/
def Disk.indexRoot (d : Disk) (target : String) : String :=
  let path := d.absolute target
  if d.isDirectory path then path else Path.parent path

/-- The source files of a target, in the order of their paths. -/
def Disk.sourceFiles (d : Disk) (settings : Settings) (target : String) : List SourceFile :=
  let root := d.indexRoot target
  (d.sources settings.excludeDirs (d.absolute target)).map fun path =>
    ⟨path, Path.relative d.directory root path, (d.sourceText path).toOption⟩

namespace Index

/-- What stands for the reason why a file could not be read or parsed. -/
def parseFailure : String := "PARSE-ERROR"

/-- What is logged about reading one file. -/
def fileRecords (file : SourceFile) (parsed : Bool) : List Log.Record :=
  Log.debug ("解析文件: " ++ file.path) ::
    if parsed then []
    else [Log.debug ("解析文件出错 " ++ file.path ++ ": " ++ parseFailure),
      Log.warning ("Skipping " ++ file.name ++ ": " ++ parseFailure)]

/-- What is logged about the call sites of an index. -/
def siteRecords (index : Index) : List Log.Record :=
  index.siteCounts.map fun (r, n) =>
    Log.debug (r.qualname ++ ": " ++ toString n ++ " call sites")

/-- The index of source files, and what is logged about it; the files come first, and what follows is
left out if the index is not handed out. -/
def ofFiles (settings : Settings) (root target : String) (files : List SourceFile) :
    Index × List Log.Record :=
  let parsed := files.map fun file => (file, file.text.bind parse?)
  let index := ofParsed settings (some root) (parsed.map fun (file, tree?) => (file.name, tree?))
  let indexed := "Indexed " ++ toString index.files.length ++ " files, " ++
    toString index.routines.length ++ " routines from " ++ target
  (index, (parsed.flatMap fun (file, tree?) => fileRecords file tree?.isSome) ++
    if index.fault?.isSome then []
    else siteRecords index ++ [⟨Log.Level.info.number, indexed, "callpath.analysis.index"⟩])

/-- The index of a file or a directory, before it is finished, and what is logged about it. -/
def build (d : Disk) (settings : Settings) (target : String) : Except Failure (Index × List Log.Record) :=
  if !d.contains target then .error (.targetNotFound target)
  else .ok (ofFiles settings (d.indexRoot target) (d.absolute target) (d.sourceFiles settings target))

/-- The index, if all references in it have a source text. -/
def finished (index : Index) : Except Failure Index :=
  match index.fault? with
  | none => .ok index
  | some fault => .error (.unprintable fault)

theorem finished_eq_ok_iff {index done : Index} :
    index.finished = .ok done ↔ index.fault? = none ∧ index = done := by
  rw [finished]
  cases index.fault? <;> simp

theorem finished_eq_error_iff {index : Index} {failure : Failure} :
    index.finished = .error failure ↔ ∃ fault, index.fault? = some fault ∧ .unprintable fault = failure := by
  rw [finished]
  cases index.fault? <;> simp

/-- The finished index of texts by path. -/
def fromSources (settings : Settings) (sources : List (String × String)) : Except Failure Index :=
  (ofSources settings none sources).finished

/-- The finished index of a file or a directory. -/
def fromDisk (d : Disk) (settings : Settings) (target : String) : Except Failure Index := do
  let (index, _) ← build d settings target
  index.finished

end Index

/-- The source files that a target stands for. -/
def Disk.targetFiles (d : Disk) (excluded : List String) (target : String) :
    Except Failure (List String) :=
  if d.contains target then .ok (d.sources excluded target) else .error (.targetNotFound target)

end CallChain
