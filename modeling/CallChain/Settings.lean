import CallChain.HandOff
import CallChain.Search
import CallChain.Value

/-!
# Settings

Settings steer which directories are read, what counts as a hand-off, how method calls on unknown
receivers are bound, and when a search gives up.  Users give a part of them as data; `merge` puts
that over the defaults, checks it entry by entry, and keeps entries it does not know.  Lists
replace the defaults.  A fault tells the value that it is about, whole numbers with all their digits.
-/

namespace CallChain

/-- How a method call on a receiver of unknown type is bound. -/
inductive Ambiguity where
  /-- To the only method of that name, if there is only one. -/
  | unique
  /-- To every method of that name. -/
  | all
  /-- Not at all. -/
  | none
  deriving DecidableEq

/-- What to do when a routine with the target's name has no body. -/
inductive BodilessTarget where
  | skip
  | abort
  deriving DecidableEq

def Seconds.toValue : Seconds → Value
  | .int n => .int n
  | .float x => .float x

def Ambiguity.text : Ambiguity → String
  | .unique => "unique"
  | .all => "all"
  | .none => "none"

def BodilessTarget.text : BodilessTarget → String
  | .skip => "skip"
  | .abort => "abort"

def Ambiguity.choices : List Ambiguity := [.unique, .all, .none]
def BodilessTarget.choices : List BodilessTarget := [.skip, .abort]

/-- The choice that a text names. -/
def choice? {α : Type} (text : α → String) (choices : List α) (value : Value) : Option α :=
  match value with
  | .text s => choices.find? fun c => text c == s
  | _ => none

/-- A complete set of settings. -/
structure Settings where
  excludeDirs : List String :=
    ["__pycache__", "venv", ".venv", ".git", ".github", ".tox", "build", "dist", "node_modules"]
  threadConstructors : List String := ["Thread", "Timer", "Process", "start_new_thread"]
  executorTypes : List String :=
    ["ThreadPoolExecutor", "ProcessPoolExecutor", "Executor", "Pool", "ThreadPool"]
  executorMethods : List String :=
    ["execute", "submit", "invokeAll", "invokeAny", "invoke_all", "invoke_any", "map", "starmap",
      "apply_async", "map_async", "run_in_executor", "to_thread", "create_task", "ensure_future",
      "run_coroutine_threadsafe"]
  ambiguity : Ambiguity := .unique
  handOffPolicy : HandOffPolicy := .sever
  bodilessTarget : BodilessTarget := .skip
  timeout : Option Seconds := none
  /-- Entries of other names, kept for whoever gave them. -/
  others : Entries := []

/-- Why settings are refused. -/
inductive SettingsFault where
  | notMapping (kind : String)
  | invalidChoice (key : String) (value : Value) (choices : List String)
  | notTextList (key : String)
  | invalidTimeout (value : Value)

def SettingsFault.message : SettingsFault → String
  | .notMapping kind => "Configuration must be a mapping, got " ++ kind
  | .invalidChoice key value choices =>
    "Invalid value for '" ++ key ++ "': " ++ value.display ++ " (expected one of: " ++
      Text.joinWith ", " choices ++ ")"
  | .notTextList key => "'" ++ key ++ "' must be a list of strings"
  | .invalidTimeout value => "'timeout' must be a positive number, got " ++ value.display

namespace Settings

/-- The names that mark hand-offs. -/
def handOffNames (s : Settings) : HandOffNames :=
  ⟨s.threadConstructors, s.executorTypes, s.executorMethods⟩

/-- The texts of a list that holds nothing else. -/
def textList? : Value → Option (List String)
  | .list items => items.mapM Value.text?
  | _ => none

/-- A positive number of seconds; an undefined number is not found to be at most zero. -/
def positive? : Value → Option Seconds
  | .int n => if 0 < n then some (.int n) else none
  | .float x => if x ≤ 0.0 then none else some (.float x)
  | _ => none

/-- Checks a choice. -/
def choose {α : Type} (key : String) (text : α → String) (choices : List α) (value : Value) :
    Except SettingsFault α :=
  match choice? text choices value with
  | some c => .ok c
  | none => .error (.invalidChoice key value (choices.map text))

/-- Checks a list of texts. -/
def texts (key : String) (value : Value) : Except SettingsFault (List String) :=
  match textList? value with
  | some list => .ok list
  | none => .error (.notTextList key)

/-- Checks a time limit. -/
def seconds (value : Value) : Except SettingsFault (Option Seconds) :=
  match value with
  | .null => .ok none
  | _ => match positive? value with
    | some s => .ok (some s)
    | none => .error (.invalidTimeout value)

/-- Puts one entry over the settings. -/
def put (s : Settings) (key : String) (value : Value) : Except SettingsFault Settings :=
  match key with
  | "exclude_dirs" => (texts key value).map fun v => { s with excludeDirs := v }
  | "thread_constructors" => (texts key value).map fun v => { s with threadConstructors := v }
  | "executor_types" => (texts key value).map fun v => { s with executorTypes := v }
  | "executor_methods" => (texts key value).map fun v => { s with executorMethods := v }
  | "ambiguous_attribute_calls" =>
    (choose key Ambiguity.text Ambiguity.choices value).map fun v => { s with ambiguity := v }
  | "async_boundary_policy" =>
    (choose key HandOffPolicy.text HandOffPolicy.choices value).map fun v => { s with handOffPolicy := v }
  | "target_without_body" =>
    (choose key BodilessTarget.text BodilessTarget.choices value).map fun v => { s with bodilessTarget := v }
  | "timeout" => (seconds value).map fun v => { s with timeout := v }
  | _ => .ok { s with others := Assoc.put key value s.others }

/-- Puts entries over the settings, in order; the first that is refused decides. -/
def putAll (s : Settings) : Entries → Except SettingsFault Settings
  | [] => .ok s
  | (key, value) :: rest =>
    match s.put key value with
    | .error fault => .error fault
    | .ok next => next.putAll rest

/-- Settings from what a user gives; nothing, and whatever counts as nothing, means the defaults. -/
def merge (given : Value) : Except SettingsFault Settings :=
  if given.isTruthy then
    match given with
    | .object entries => putAll {} entries
    | other => .error (.notMapping other.kindName)
  else .ok {}

/-- A list of texts as data. -/
def ofTexts (list : List String) : Value := .list (list.map Value.text)

/-- Settings as data. -/
def toEntries (s : Settings) : Entries :=
  [("exclude_dirs", ofTexts s.excludeDirs), ("thread_constructors", ofTexts s.threadConstructors),
    ("executor_types", ofTexts s.executorTypes), ("executor_methods", ofTexts s.executorMethods),
    ("ambiguous_attribute_calls", .text s.ambiguity.text),
    ("async_boundary_policy", .text s.handOffPolicy.text),
    ("target_without_body", .text s.bodilessTarget.text),
    ("timeout", (s.timeout.map Seconds.toValue).getD .null)] ++ s.others

def toValue (s : Settings) : Value := .object s.toEntries

end Settings

end CallChain
