import CallChain.Report
import CallChain.Text.Template

/-!
# Reports for a terminal

Each path is one line `Call path: a -> b -> c` below the name of the routine it leads to.
Outcomes without paths have one message each, in a colour of its own.
-/

namespace CallChain.Console

/-- What a piece of text is, which decides its colour. -/
inductive Tone where
  | path
  | error
  | warning
  | info
  | header
  deriving DecidableEq

/-- The escape sequence of a colour. -/
def Tone.code : Tone → String
  | .path => "\x1b[32m"
  | .error => "\x1b[31m"
  | .warning => "\x1b[33m"
  | .info => "\x1b[34m"
  | .header => "\x1b[36m"

/-- A text in its colour. -/
def paint (color : Bool) (tone : Tone) (bold : Bool) (text : String) : String :=
  if color then tone.code ++ (if bold then "\x1b[1m" else "") ++ text ++ "\x1b[0m" else text

/-- The message of an outcome, with a field for the target, and its tone. -/
def outcomeMessage : Outcome → String × Tone
  | .emptyStart => ("Method is empty", .error)
  | .noTargetName => ("Method name not provided", .warning)
  | .targetNotFound => ("Method \x7btarget\x7d not found", .error)
  | .targetHasNoBody => ("Method \x7btarget\x7d has no body", .warning)
  | .targetIsStart => ("Method \x7btarget\x7d is the start method", .warning)
  | .noPathFound => ("No call path to \x7btarget\x7d found", .info)
  | .canceled => ("Search canceled", .warning)
  | .pathsFound => (Outcome.pathsFound.text, .info)
  | .other text => (text, .info)

/-- The message of an outcome about a target. -/
def formatOutcome (color : Bool) (outcome : Outcome) (target : Value) :
    Except Text.TemplateFault String := do
  let (template, tone) := outcomeMessage outcome
  let text ← Text.Template.render template [("target", target)]
  return paint color tone true text

/-- What is shown besides the paths. -/
structure Options where
  color : Bool := false
  showSummary : Bool := true
  showLocations : Bool := true

/-- The lines about one routine. -/
def candidateLines (options : Options) (c : Candidate) : Except Text.TemplateFault (List String) := do
  let place := if options.showLocations then
      " (" ++ c.target.file ++ ":" ++ toString c.target.line ++ ")" else ""
  let head := ["", paint options.color .header true (c.target.fullName ++ place)]
  if c.outcome = .pathsFound then
    return head ++ c.paths.map fun p => "  Call path: " ++ paint options.color .path false (Text.joinWith " -> " p)
  else return head ++ ["  " ++ (← formatOutcome options.color c.outcome (.text c.target.qualname))]

/-- A noun with its number. -/
def counted (n : Nat) (noun : String) : String :=
  toString n ++ " " ++ noun ++ (if n = 1 then "" else "s")

/-- The last line of a report. -/
def summaryLine (r : Report) : String :=
  counted r.allPaths.length "call path" ++ " found across " ++ counted r.candidates.length "candidate" ++
    " in " ++ Decimal.fixed 2 r.elapsed ++ " seconds."

/-- A report as text. -/
def render (options : Options) (r : Report) : Except Text.TemplateFault String :=
  if r.outcome.isPrecondition || r.candidates.isEmpty then
    formatOutcome options.color r.outcome (Value.ofText? r.targetName)
  else do
    let start := (r.start.map Routine.qualname).getD "?"
    let title := "Call paths from " ++ start ++ " to " ++ r.targetName.getD "None"
    let bodies ← r.candidates.mapM (candidateLines options)
    let summary := if options.showSummary then ["", summaryLine r] else []
    return Text.joinWith "\n"
      ([paint options.color .header true title, Text.repeated "-" 80] ++ bodies.flatten ++ summary)

/-! ## Lists of routines -/

/-- Routines, one per line, between rules. -/
def routineList (showLocation : Bool) (routines : List Routine) : String :=
  let rule (c : String) := Text.repeated c 60
  let line (r : Routine) : String :=
    "  " ++ r.fullName ++
      (if showLocation then "  (" ++ r.file ++ ":" ++ toString r.line ++ ")" else "") ++
      (if r.hasBody then "" else "  [no body]")
  String.join ((["", rule "=", "ROUTINES (" ++ toString routines.length ++ ")", rule "-"] ++
    routines.map line ++ [rule "="]).map (· ++ "\n"))

/-- The figures of a report between rules. -/
def reportSummary (r : Report) : String :=
  let rule (c : String) := Text.repeated c 60
  let candidate (c : Candidate) : String :=
    "  " ++ c.target.fullName ++ ": " ++ c.outcome.text ++ " (" ++ toString c.paths.length ++ " paths)"
  String.join ((["", rule "=", "CALL PATH SEARCH SUMMARY", rule "-",
    "Start: " ++ ((r.start.map Routine.fullName).getD "None"),
    "Target name: " ++ r.targetName.getD "None", "Outcome: " ++ r.outcome.text,
    "Candidates: " ++ toString r.candidates.length] ++ r.candidates.map candidate ++
    ["Paths found: " ++ toString r.allPaths.length,
      "Elapsed: " ++ Decimal.fixed 2 r.elapsed ++ " seconds", rule "="]).map (· ++ "\n"))

end CallChain.Console
