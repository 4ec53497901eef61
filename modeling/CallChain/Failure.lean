import CallChain.Files.Disk
import CallChain.Python.Printer
import CallChain.Settings

/-!
# Failures

Whatever stops a command or a request.  A failure has a kind and a message, and both are shown to
users; `isReported` says which failures a service answers with instead of breaking off.

What reads YAML is not part of this library.  A `YamlReader` is any function that gives the data in a
text or says why there is none, and a `YamlFault` says only what the rest of the library asks for.
-/

namespace CallChain

/-- Why a reader of YAML gives no data. -/
inductive YamlFault where
  /-- The text is not YAML; the words say what is wrong with it. -/
  | malformed (message : String)
  /-- A value in the text cannot be made, such as a whole number of too many digits. -/
  | value (message : String)
  /-- The reader breaks off for another reason. -/
  | foreign (kind message : String)

/-- A reader of YAML: the data in a text, or why there is none. -/
abbrev YamlReader := List Char → Except YamlFault Value

/-- Why something was not done. -/
inductive Failure where
  | settings (fault : SettingsFault)
  /-- A settings file is not JSON; the text says where. -/
  | json (message : String)
  /-- A settings file is not YAML; the text says what is wrong. -/
  | yaml (message : String)
  /-- A value in a settings file cannot be made. -/
  | value (message : String)
  | encoding (fault : Utf8.Fault)
  | settingsNotFound (path : String)
  | targetNotFound (path : String)
  | targetPathNotFound (path : String)
  | nothingToIndex
  /-- A reference that is to be indexed has no source text. -/
  | unprintable (fault : Python.Unprintable)
  | file (fault : FileFault)
  /-- The layout of log records has no field. -/
  | layout (text : String)
  | interrupted
  /-- A time limit is too large for the clock. -/
  | limitTooLarge
  /-- A failure of work that is not part of this library. -/
  | foreign (kind message : String)

def FileCause.kind : FileCause → String
  | .notFound => "FileNotFoundError"
  | .exists => "FileExistsError"
  | .notDirectory => "NotADirectoryError"
  | .isDirectory => "IsADirectoryError"
  | .denied => "PermissionError"

namespace Failure

/-- The failure of a settings file that a reader of YAML refuses. -/
def ofYaml : YamlFault → Failure
  | .malformed message => .yaml message
  | .value message => .value message
  | .foreign kind message => .foreign kind message

/-- The word for the kind of a failure. -/
def kind : Failure → String
  | .settings _ => "ValueError"
  | .json _ => "JSONDecodeError"
  | .yaml _ => "YAMLError"
  | .value _ => "ValueError"
  | .encoding _ => "UnicodeDecodeError"
  | .settingsNotFound _ => "FileNotFoundError"
  | .targetNotFound _ => "FileNotFoundError"
  | .targetPathNotFound _ => "FileNotFoundError"
  | .nothingToIndex => "ValueError"
  | .unprintable _ => "ValueError"
  | .file fault => fault.cause.kind
  | .layout _ => "ValueError"
  | .interrupted => "KeyboardInterrupt"
  | .limitTooLarge => "OverflowError"
  | .foreign kind _ => kind

/-- The kind with the place it belongs to, as it stands under the lines of a trace. -/
def fullKind : Failure → String
  | .json _ => "json.decoder.JSONDecodeError"
  | .yaml _ => "yaml.scanner.ScannerError"
  | failure => failure.kind

def message : Failure → String
  | .settings fault => fault.message
  | .json text => text
  | .yaml text => text
  | .value text => text
  | .encoding fault => fault.message
  | .settingsNotFound path => "Configuration file not found: " ++ path
  | .targetNotFound path => "Target not found: " ++ path
  | .targetPathNotFound path => "Target path not found: " ++ path
  | .nothingToIndex => "Either target_path or sources must be provided"
  | .unprintable fault => fault.message
  | .file fault => fault.message
  | .layout text => "Invalid format '" ++ text ++ "' for '%' style"
  | .interrupted => ""
  | .limitTooLarge => "int too large to convert to float"
  | .foreign _ text => text

/-- Kind and message. -/
def text (f : Failure) : String := f.kind ++ ": " ++ f.message

/-- The lines that stand for a trace of a failure. -/
def trace (f : Failure) : String :=
  "Traceback (most recent call last):\n" ++ f.fullKind ++
    (if f.message = "" then "" else ": " ++ f.message) ++ "\n"

/-- Whether a service answers with the failure: unusable files and values are answered, malformed
YAML, an interruption and a time limit beyond the clock are not. -/
def isReported : Failure → Bool
  | .yaml _ => false
  | .interrupted => false
  | .limitTooLarge => false
  | .foreign .. => false
  | _ => true

end Failure

end CallChain
