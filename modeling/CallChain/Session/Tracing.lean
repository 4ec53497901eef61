import CallChain.Session
import CallChain.Text.Template

/-!
# Actions that are logged

Each of these runs an action and logs something about it.  None changes what comes of the action.
By the clock of a session an action takes no time of its own.
-/

namespace CallChain.Action

/-- Whether a failure is one of work, and not an interruption. -/
def isOrdinary : Failure → Bool
  | .interrupted => false
  | _ => true

/-- Logs the beginning and the end of an action, and its failure. -/
def traced {α : Type} (level : Log.Level) (name : String) (act : Action α) : Action α := do
  log ⟨level.number, "开始执行 " ++ name, Log.rootName⟩
  let result ← tryCatch act fun failure => do
    if isOrdinary failure then log (Log.error (name ++ " 执行出错: " ++ failure.text))
    throw failure
  log ⟨level.number, "完成执行 " ++ name ++ " (0.000s)", Log.rootName⟩
  return result

/-- Logs how long an action took, whether it failed or not. -/
def timed {α : Type} (name : String) (act : Action α) : Action α := do
  let ended (how : String) : Action Unit := log (Log.info (name ++ " " ++ how ++ " in 0.0000 seconds"))
  let result ← tryCatch act fun failure => do
    ended "failed"
    throw failure
  ended "finished"
  return result

/-- Whether a failure says that a file cannot be read or parsed. -/
def isUnreadable (f : Failure) : Bool :=
  match f with
  | .foreign kind _ => kind == "SyntaxError" || kind == "ValueError" || kind == "OSError"
  | failure => failure.isReported

/-- Logs the parsing of a file, and that it failed. -/
def parsing {α : Type} (path : String) (act : Action α) : Action α := do
  log (Log.debug ("解析文件: " ++ path))
  tryCatch act fun failure => do
    if isUnreadable failure then log (Log.debug ("解析文件出错 " ++ path ++ ": PARSE-ERROR"))
    throw failure

/-- Logs a message about a value, if it counts as given. -/
def announced {α : Type} (level : Log.Level) (template : String) (value : Value) (act : Action α) :
    ExceptT Text.TemplateFault (StateM Session) (Except Failure α) := do
  if value.isTruthy then
    let message ← ExceptT.mk (pure (Text.Template.render template [("param", value)]))
    modify fun s => s.emit ⟨level.number, message, Log.rootName⟩
  monadLift act.run

end CallChain.Action
