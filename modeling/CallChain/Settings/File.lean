import CallChain.Failure
import CallChain.Json.Reader
import CallChain.Yaml.Reader

/-!
# Settings files

Settings are read from a file in YAML, if its name says so, and in JSON otherwise.  `load` is what
comes of it; `narration` is what is said about it on the way.  Whatever reads YAML is given: `yaml`.
The reader that comes with this library, `plainYaml`, knows a part of the language only.
-/

namespace CallChain.SettingsFile

/-- Whether a path names a YAML file. -/
def isYaml (path : String) : Bool :=
  let name := Text.lowerAscii path
  Text.endsWith name ".yaml" || Text.endsWith name ".yml"

/-- The reader for YAML of nested mappings, lists and scalars; it takes all other YAML for
malformed. -/
def plainYaml : YamlReader := fun document =>
  (Yaml.read document).mapError fun problem => .malformed problem.message

/-- The failure of a settings file with a fault. -/
def jsonFailure (document : List Char) (fault : Json.Fault) : Failure :=
  match fault.reason with
  | .digits count => .value (Decimal.unreadMessage count)
  | _ => .json (fault.message document)

/-- What a settings file holds. -/
def parse (yaml : YamlReader) (path : String) (document : List Char) : Except Failure Value :=
  if isYaml path then (yaml document).mapError .ofYaml
  else (Json.read document).mapError (jsonFailure document)

/-- The data in a settings file. -/
def data (yaml : YamlReader) (disk : Disk) (path : String) : Except Failure Value :=
  if !disk.contains path then .error (.settingsNotFound path)
  else do
    let content ← (disk.read path).mapError .file
    let characters ← (Utf8.strict content).mapError .encoding
    parse yaml path (Text.unifyLineEnds characters)

/-- The settings in a file over the defaults; no path, or an empty one, means the defaults. -/
def load (yaml : YamlReader) (disk : Disk) (path : Option String) : Except Failure Settings :=
  match path.filter (· != "") with
  | none => .ok {}
  | some path => do
    let given ← data yaml disk path
    (Settings.merge given).mapError .settings

/-- What is said about settings that were read. -/
def summary (s : Settings) : List String :=
  ["[Config] Successfully loaded configuration, containing:",
    "  - " ++ toString s.threadConstructors.length ++ " thread constructors",
    "  - " ++ toString s.executorTypes.length ++ " executor types",
    "  - " ++ toString s.executorMethods.length ++ " executor methods",
    "  - async boundary policy: " ++ s.handOffPolicy.text,
    "  - target without body: " ++ s.bodilessTarget.text]

/-- What is said about a failure to read settings. -/
def complaint (path : String) : Failure → List String
  | .settingsNotFound _ => ["[Error] Configuration file not found: " ++ path]
  | .json message =>
    ["[Error] Configuration file " ++ path ++ " contains invalid JSON: " ++ message]
  | .yaml message =>
    ["[Error] Configuration file " ++ path ++ " contains invalid YAML: " ++ message]
  | _ => []

/-- The lines about reading settings; `debug` asks for those about the course of it. -/
def narration (debug : Bool) (path : Option String) (result : Except Failure Settings) : List String :=
  match path.filter (· != "") with
  | none => if debug then ["[Config] No configuration file provided, using defaults"] else []
  | some path =>
    let first := if debug then ["[Config] Loading configuration file: " ++ path] else []
    first ++ match result with
      | .error failure => complaint path failure
      | .ok settings => if debug then summary settings else []

end CallChain.SettingsFile
