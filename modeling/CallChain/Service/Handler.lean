import CallChain.Detector
import CallChain.Index.Build
import CallChain.Output.Console
import CallChain.Service.Request
import CallChain.Settings.File

/-!
# Answering requests

A request is answered with a response, also when its settings or its target cannot be used; the
response then has the reason among its errors.  Only malformed YAML is not answered, nor whatever else
breaks off the reader of YAML, which is given from outside: `yaml`.
-/

namespace CallChain.Service

/-- The answer to a request for call paths. -/
structure FindResponse where
  success : Bool
  outcome : Option Outcome := none
  message : String := ""
  candidates : List Candidate := []
  errors : List String := []
  summary : Entries := []

/-- The answer to a request for routines. -/
structure ListResponse where
  success : Bool
  routines : List Routine := []
  errors : List String := []

def textsValue (texts : List String) : Value := .list (texts.map Value.text)

def FindResponse.toValue (r : FindResponse) : Value :=
  let candidate (c : Candidate) : Value :=
    .object [("target", c.target.toValue), ("outcome", .text c.outcome.text),
      ("paths", .list (c.paths.map textsValue))]
  .object [("success", .bool r.success), ("outcome", Value.ofText? (r.outcome.map Outcome.text)),
    ("message", .text r.message), ("candidates", .list (r.candidates.map candidate)),
    ("errors", textsValue r.errors), ("summary", .object r.summary)]

def ListResponse.toValue (r : ListResponse) : Value :=
  .object [("success", .bool r.success), ("routines", .list (r.routines.map Routine.toValue)),
    ("errors", textsValue r.errors)]

/-- What the server says about itself. -/
def serverInfo : Value :=
  .object [("name", .text "callpath MCP Server"), ("version", .text "0.1.0"),
    ("description", .text "MCP server for callpath static call path search"),
    ("capabilities", textsValue ["find_call_paths", "list_routines"])]

/-- The settings of a request: those it holds, or those of a file. -/
def settingsFor (yaml : YamlReader) (disk : Disk) (config : Option Value) (path : Option String) :
    Except Failure Settings :=
  match config with
  | some given => (Settings.merge given).mapError .settings
  | none => SettingsFile.load yaml disk path

/-- The index of a subject: its sources if it has any, or else its target. -/
def indexFor (disk : Disk) (settings : Settings) (subject : Subject) : Except Failure Index :=
  match subject.sources.getD [], subject.targetPath.filter (· != "") with
  | source :: rest, _ => Index.fromSources settings (source :: rest)
  | [], none => .error .nothingToIndex
  | [], some path =>
    if disk.contains path then Index.fromDisk disk settings path
    else .error (.targetPathNotFound path)

/-- Settings and index of a subject. -/
def prepare (yaml : YamlReader) (disk : Disk) (config : Option Value) (subject : Subject) :
    Except Failure (Settings × Index) := do
  let settings ← settingsFor yaml disk config subject.configPath
  let index ← indexFor disk settings subject
  return (settings, index)

/-- The response to a finished search. -/
def FindResponse.ofReport (index : Index) (report : Report) : FindResponse :=
  let count := report.allPaths.length
  let message :=
    if count ≠ 0 then toString count ++ " call paths found"
    else match Console.formatOutcome false report.outcome (Value.ofText? report.targetName) with
      | .ok text => text
      | .error _ => report.outcome.text
  { success := report.outcome.isCompleted, outcome := some report.outcome, message
    candidates := report.candidates
    summary := [("index", index.summary), ("elapsed", .float (Decimal.rounded 4 report.elapsed)),
      ("path_count", .int count)] }

/-- The search that a request asks for, with its own time limit if it has one. -/
def searchFor (request : FindRequest) (settings : Settings) (index : Index) (start : Routine)
    (clock : Clock) : Detection :=
  let run : Run := match request.timeout.filter fun x => !(x == 0.0) with
    | some seconds =>
      let (token, clock) := CancelToken.create (some (.float seconds)) clock
      { token, clock }
    | none => { clock }
  Detector.detect index settings (some start) request.method run

/-- Answers a request for call paths. -/
def findCallPaths (yaml : YamlReader) (disk : Disk) (request : FindRequest) (clock : Clock) :
    Except Failure FindResponse × Clock :=
  match prepare yaml disk request.config request.subject with
  | .error failure =>
    (if failure.isReported then .ok { success := false, errors := [failure.message] }
      else .error failure, clock)
  | .ok (settings, index) =>
    match index.findRoutines request.start with
    | [start] =>
      let detection := searchFor request settings index start clock
      (detection.report.map (.ofReport index), detection.run.clock)
    | starts =>
      let problem := if starts.isEmpty then "not found" else "is ambiguous"
      (.ok { success := false, errors := ["Start routine " ++ request.start ++ " " ++ problem]
             summary := [("start_candidates", .list (starts.map Routine.toValue))] }, clock)

/-- Answers a request for routines. -/
def listRoutines (yaml : YamlReader) (disk : Disk) (request : ListRequest) :
    Except Failure ListResponse :=
  match prepare yaml disk none request.subject with
  | .error failure =>
    if failure.isReported then .ok { success := false, errors := [failure.message] } else .error failure
  | .ok (_, index) =>
    .ok { success := true
          routines := match request.name.filter (· != "") with
            | some name => index.findRoutines name
            | none => index.routines }

end CallChain.Service
