import CallChain.Service.Handler
import CallChain.Text.Template

/-!
# The tools of the server

The server offers its answers as tools with named arguments.  A tool may tell its caller what it is
doing and what went wrong.
-/

namespace CallChain.Service

def serverName : String := "callpath"

def instructions : String :=
  String.join ["Static call path search for Python codebases: finds every acyclic ",
    "call chain from a start routine to routines with a given name."]

/-- A tool: its name, the arguments that have to be given and those that may be. -/
structure Tool where
  name : String
  required : List String
  optional : List String

def tools : List Tool :=
  [⟨"find_call_paths", ["start", "method"], ["target_path", "sources", "config_path", "timeout"]⟩,
    ⟨"list_routines", [], ["target_path", "sources", "name", "config_path"]⟩,
    ⟨"get_server_info", [], []⟩]

/-- Something a tool tells its caller. -/
inductive Message where
  | info (text : String)
  | error (text : String)

/-- Why a tool gives no answer. -/
inductive ToolFault where
  | unknownTool
  /-- The arguments are not those of the tool. -/
  | arguments
  | invalid (problems : List Invalid)
  | failure (f : Failure)

/-- Whether arguments fit a tool. -/
def Tool.accepts (t : Tool) (arguments : Entries) : Bool :=
  (t.required.all fun name => Assoc.has name arguments) &&
    arguments.all fun (name, _) => t.required.contains name || t.optional.contains name

/-- Calls the tool for call paths. -/
def callFind (yaml : YamlReader) (disk : Disk) (arguments : Entries) (clock : Clock) :
    Except ToolFault (Value × List Message) × Clock :=
  let shown (name : String) : String := Text.Template.plainText ((Assoc.get? name arguments).getD .null)
  let searching := Message.info ("Searching call paths from " ++ shown "start" ++ " to " ++ shown "method")
  match FindRequest.ofValue (.object arguments) with
  | .error problems => (.error (.invalid problems), clock)
  | .ok request =>
    match findCallPaths yaml disk request clock with
    | (.error f, clock) => (.error (.failure f), clock)
    | (.ok response, clock) =>
      let complaint := if response.errors.isEmpty then []
        else [Message.error (Text.joinWith "; " response.errors)]
      (.ok (response.toValue, searching :: complaint), clock)

/-- Calls the tool for routines. -/
def callList (yaml : YamlReader) (disk : Disk) (arguments : Entries) :
    Except ToolFault (Value × List Message) :=
  match ListRequest.ofValue (.object arguments) with
  | .error problems => .error (.invalid problems)
  | .ok request =>
    match listRoutines yaml disk request with
    | .error f => .error (.failure f)
    | .ok response => .ok (response.toValue, [])

/-- Calls a tool. -/
def call (yaml : YamlReader) (disk : Disk) (name : String) (arguments : Entries) (clock : Clock) :
    Except ToolFault (Value × List Message) × Clock :=
  match tools.find? fun t => t.name == name with
  | none => (.error .unknownTool, clock)
  | some tool =>
    if !tool.accepts arguments then (.error .arguments, clock)
    else if name = "find_call_paths" then callFind yaml disk arguments clock
    else if name = "list_routines" then (callList yaml disk arguments, clock)
    else (.ok (serverInfo, []), clock)

end CallChain.Service
