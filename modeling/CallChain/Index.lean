import CallChain.CallSite
import CallChain.Files.Path
import CallChain.Python.Parser
import CallChain.Python.Printer
import CallChain.Resolver

/-!
# The index of a codebase

An index holds the parsed files in the order of their paths, the routines they declare and every
reference to one of those routines.  It is built once from the files that can be parsed; the
others are only listed.  `findRoutines` answers for the names that users type.

A reference that means a routine is recorded with its source text.  If it has none, the index is not
handed out; `fault?` says so of an index, and `Index.Build` acts on it.
-/

namespace CallChain

open Python

/-- The dotted name of the module in a file, and whether the file stands for its directory. -/
def moduleNameOf (path : String) : String × Bool :=
  let stem := if Text.endsWith path ".py" then Text.dropLast 3 path else path
  let parts := (Text.splitOn '/' stem).filter fun p => p != "" && p != "."
  if parts.getLast? = some "__init__" then (Text.joinWith "." parts.dropLast, true)
  else (Text.joinWith "." parts, false)

/-! ## References -/

/-- A reference in a tree: how it refers, the expression that names the routine, and where it
starts. -/
structure Reference where
  kind : SiteKind
  expression : Node
  span : Span

/-- The part that a spot plays in the spot above it. -/
def spotRole : Spot → Role
  | .root _ => .part
  | .child _ role _ _ => role

/-- Whether a spot is neither called nor part of a longer dotted name. -/
def isBare (s : Spot) : Bool := spotRole s != .callee && spotRole s != .receiver

/-- The reference at a spot: every call, and names and attributes that are used as values. -/
def referenceAt? (s : Spot) : Option Reference :=
  match s.node with
  | .call span callee _ _ => some ⟨.call, callee, span⟩
  | .name span _ .load => if isBare s then some ⟨.reference, s.node, span⟩ else none
  | .member span _ _ .load => if isBare s then some ⟨.reference, s.node, span⟩ else none
  | _ => none

namespace Resolver

/-- The routines that a reference means. -/
def targets (r : Resolver) (here : Surroundings) (ref : Reference) : List Routine :=
  match ref.kind with
  | .call => r.resolveCall here ref.expression
  | .reference => r.resolveReference here ref.expression

/-- The call sites at a spot of a file. -/
def sitesAt (r : Resolver) (names : HandOffNames) (source : SourceModule) (s : Spot) : List CallSite :=
  match referenceAt? s with
  | none => []
  | some ref =>
    let functions := enclosingFunctions s
    match r.targets ⟨source, functions⟩ ref with
    | [] => []
    | callees =>
      let caller := functions.head?.bind fun f => source.routineAt? f.path
      let handedOff := names.covers (some source.imports) (functions.head?.map Spot.path) s
      let expression := ref.expression.source
      callees.map fun callee =>
        { callee, caller, file := source.file, line := ref.span.line, column := ref.span.column
          kind := ref.kind, expression, handedOff }

/-- The call sites of a file, level by level through its tree. -/
def sitesIn (r : Resolver) (names : HandOffNames) (source : SourceModule) : List CallSite :=
  (Spot.root source.tree).walk.flatMap (r.sitesAt names source)

end Resolver

/-! ## The index -/

/-- The routines and call sites of a codebase. -/
structure Index where
  settings : Settings
  /-- The directory that was indexed, for files on disk. -/
  root : Option String
  /-- The files that could not be parsed. -/
  skipped : List String
  /-- The parsed files in the order of their paths. -/
  files : List SourceModule
  /-- The references in the order of files and, in a file, level by level. -/
  sites : List CallSite

namespace Index

/-- The index of parsed files. -/
def ofModules (settings : Settings) (root : Option String) (skipped : List String)
    (modules : List SourceModule) : Index :=
  let files := modules.mergeSort fun a b => !(b.file < a.file)
  let resolver : Resolver := ⟨files, settings.ambiguity⟩
  { settings, root, skipped, files
    sites := files.flatMap (resolver.sitesIn settings.handOffNames) }

/-- The tables of a file with the tree `tree`. -/
def moduleOf (path : String) (tree : Node) : SourceModule :=
  let (name, isPackage) := moduleNameOf path
  SourceModule.ofTree ⟨path, name, isPackage⟩ tree

/-- Texts of files by path, in the order of the paths. -/
def sortSources {α : Type} (sources : List (String × α)) : List (String × α) :=
  sources.mergeSort fun a b => !(b.1 < a.1)

/-- The index of parsed texts by path; those that could not be parsed are skipped. -/
def ofParsed (settings : Settings) (root : Option String) (parsed : List (String × Option Node)) : Index :=
  ofModules settings root
    ((parsed.filter fun p => p.2.isNone).map Prod.fst)
    (parsed.filterMap fun (path, tree?) => tree?.map (moduleOf path))

/-- The index of texts by path. -/
def ofSources (settings : Settings) (root : Option String) (sources : List (String × String)) : Index :=
  ofParsed settings root ((sortSources sources).map fun (path, text) => (path, parse? text))

/-- Why the index is not handed out: the first of its references without a source text, if there is
one. -/
def fault? (index : Index) : Option Unprintable := index.sites.findSome? CallSite.fault?

theorem fault?_eq_none_iff {index : Index} :
    index.fault? = none ↔ ∀ site ∈ index.sites, ∃ text, site.expression = .ok text := by
  simp only [fault?, List.findSome?_eq_none_iff, CallSite.fault?_eq_none_iff]

/-- How references of this index are bound. -/
def resolver (index : Index) : Resolver := ⟨index.files, index.settings.ambiguity⟩

/-- The routines in the order of files and lines. -/
def routines (index : Index) : List Routine := index.files.flatMap SourceModule.routines

/-- The routines and the references between them, references in the order of their places. -/
def graph (index : Index) : CallGraph := ⟨index.routines, CallSite.sort index.sites⟩

/-- The references to a routine, in the order of their places. -/
def sitesOf (index : Index) (r : Routine) : List CallSite := index.graph.sitesOf r

/-- Whether a routine is one of the index. -/
def contains (index : Index) (r : Routine) : Bool := index.routines.contains r

/-- The routine whose body a spot of a file stands in. -/
def enclosingRoutine? (index : Index) (file : String) (s : Spot) : Option Routine := do
  let source ← index.files.find? fun m => m.file == file
  let function ← (enclosingFunctions s).head?
  source.routineAt? function.path

/-! ## Finding routines -/

/-- Drops `./` from the front as often as it stands there. -/
def dropDots : Nat → List Char → List Char
  | fuel + 1, '.' :: '/' :: rest => dropDots fuel rest
  | _, cs => cs

/-- The file that a user means: an absolute path is taken relative to the directory that was
indexed. -/
def specFile (index : Index) (file : String) : String :=
  let file := match index.root with
    | some root => if root ≠ "" ∧ Path.isAbsolute file then Path.relative "/" root file else file
    | none => file
  String.ofList (dropDots file.length file.toList)

/-- The routines that a user means by `file.py:name`, a dotted name or a plain name. -/
def findRoutines (index : Index) (spec : String) : List Routine :=
  let spec := Text.trim spec
  if spec = "" then []
  else
    match (Text.cutLast? ':' spec).filter fun (file, _) => Text.endsWith file ".py" with
    | some (file, name) =>
      let file := index.specFile file
      index.routines.filter fun r =>
        (r.file == file || Text.endsWith r.file ("/" ++ file)) && (r.qualname == name || r.name == name)
    | none =>
      if !spec.toList.contains '.' then index.routines.filter fun r => r.name == spec
      else
        match index.routines.filter fun r => r.fullName == spec || r.qualname == spec with
        | [] => index.routines.filter fun r => Text.endsWith r.fullName ("." ++ spec)
        | exact => exact

/-! ## Summary -/

/-- How many references there are to each routine, in the order of first reference. -/
def siteCounts (index : Index) : List (Routine × Nat) :=
  let callees := firstOccurrences (index.sites.map CallSite.callee)
  callees.map fun r => (r, (index.sites.filter fun s => s.callee == r).length)

/-- The figures of an index, as data. -/
def summary (index : Index) : Value :=
  .object [("root", Value.ofText? index.root), ("files", .int index.files.length),
    ("skipped_files", .list (index.skipped.map Value.text)), ("routines", .int index.routines.length),
    ("routines_without_body", .int (index.routines.filter fun r => !r.hasBody).length),
    ("classes", .int (index.resolver.modules.flatMap fun m => m.2.classes).length),
    ("call_sites", .int index.sites.length),
    ("async_boundary_call_sites", .int (index.sites.filter CallSite.handedOff).length)]

end Index

end CallChain
