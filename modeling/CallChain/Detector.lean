import CallChain.Failure
import CallChain.Index
import CallChain.Log.Record
import CallChain.Report
import CallChain.Text.Blank

/-!
# Searching for every routine of a name

The detector searches for call paths from a start routine to each routine with the target's
name and folds the results into a report.  Refusals are outcomes of the report.  All searches
share one token; when it stops one of them, what was found before is discarded.  There is no
report only if the settings name a time limit that is too large for the clock.
-/

namespace CallChain

/-- A report or why there is none, the state of the run behind it and what was logged on the way. -/
structure Detection where
  report : Except Failure Report
  run : Run
  records : List Log.Record

namespace Detector

/-- What a search logs while it runs. -/
def noteRecord? : Note → Option Log.Record
  | .progress _ _ => none
  | .handOff site current =>
    some (Log.debug ("Async boundary at " ++ site.file ++ ":" ++ toString site.line ++ " (" ++
      site.shown ++ ") while expanding " ++ current.qualname))

/-- What is logged about how many paths lead to a target. -/
def foundRecord (count : Nat) (target : String) : Log.Record :=
  Log.info (if count = 0 then "未发现到 " ++ target ++ " 的调用路径"
    else "发现 " ++ toString count ++ " 条到 " ++ target ++ " 的调用路径")

/-- What a finished search logs. -/
def searchRecords (start target : Routine) (expanded : Nat) (paths : List (List String)) :
    List Log.Record :=
  [Log.debug ("Search " ++ start.qualname ++ " -> " ++ target.qualname ++ ": " ++ toString expanded ++
      " routines expanded, " ++ toString paths.length ++ " paths"),
    foundRecord paths.length target.qualname]

/-- What the notes of a run that are newer than `old` log, in order. -/
def newRecords (old : Nat) (run : Run) : List Log.Record :=
  (run.notes.take (run.notes.length - old)).reverse.filterMap noteRecord?

/-- Searches for one candidate, unless it is refused; nothing if the search was stopped. -/
def searchOne (graph : CallGraph) (policy : HandOffPolicy) (start target : Routine) (run : Run) :
    Option Candidate × Run × List Log.Record :=
  if target == start then
    (some ⟨target, .targetIsStart, []⟩, run,
      [Log.debug ("Candidate " ++ target.qualname ++ " is the start routine")])
  else if !target.hasBody then
    (some ⟨target, .targetHasNoBody, []⟩, run,
      [Log.info ("Skipping target candidate " ++ target.qualname ++ ": no body")])
  else
    match Search.paths graph start policy target run with
    | (none, after) => (none, after, newRecords run.notes.length after)
    | (some paths, after) =>
      (some ⟨target, if paths.isEmpty then .noPathFound else .pathsFound, paths⟩, after,
        newRecords run.notes.length after ++ searchRecords start target after.expanded paths)

/-- Searches for the candidates in order; nothing if a search was stopped. -/
def searchAll (graph : CallGraph) (policy : HandOffPolicy) (start : Routine) :
    List Routine → Run → Option (List Candidate) × Run × List Log.Record
  | [], run => (some [], run, [])
  | target :: rest, run =>
    match searchOne graph policy start target run with
    | (none, run, records) => (none, run, records)
    | (some candidate, run, records) =>
      let (others, run, more) := searchAll graph policy start rest run
      (others.map (candidate :: ·), run, records ++ more)

/-- The outcome of a search from those of its candidates. -/
def overall (candidates : List Candidate) : Outcome :=
  if candidates.any fun c => c.outcome == .pathsFound then .pathsFound
  else if !candidates.isEmpty && candidates.all fun c => c.outcome == .targetHasNoBody then
    .targetHasNoBody
  else if !candidates.isEmpty && candidates.all fun c => c.outcome == .targetIsStart then
    .targetIsStart
  else .noPathFound

/-- The first candidate other than the start that has no body. -/
def bodiless? (start : Routine) (candidates : List Routine) : Option Routine :=
  candidates.find? fun c => !(c == start) && !c.hasBody

/-- Gives a run without a token one with the time limit of the settings, and says whether that
limit can be kept. -/
def withToken (settings : Settings) (run : Run) : Bool × Run :=
  match run.token, settings.timeout with
  | none, some seconds =>
    let (token, clock) := CancelToken.create (some seconds) run.clock
    (token.isSome, { run with token, clock })
  | _, _ => (true, run)

/-- Reads the clock when a search begins; a signal that arrives meanwhile cancels the token. -/
def opened (run : Run) : Float × Run :=
  let reading := run.clock.read
  let token := if reading.signalled then run.token.map CancelToken.cancel else run.token
  (reading.time, { run with clock := reading.clock, token })

/-- Finishes a report: the clock is read once more. -/
def finish (began : Float) (start : Option Routine) (targetName : Option String) (outcome : Outcome)
    (candidates : List Candidate) (run : Run) (records : List Log.Record) : Detection :=
  let reading := run.clock.read
  ⟨.ok { start, targetName, outcome, candidates, elapsed := reading.time - began },
    { run with clock := reading.clock }, records⟩

/-- Searches for candidates that have passed every check. -/
def searchAdmitted (graph : CallGraph) (settings : Settings) (began : Float) (start : Routine)
    (name : String) (candidates : List Routine) (run : Run) (records : List Log.Record) : Detection :=
  match withToken settings run with
  | (false, run) => ⟨.error .limitTooLarge, run, records⟩
  | (true, run) =>
    match searchAll graph settings.handOffPolicy start candidates run with
    | (none, run, more) =>
      finish began (some start) (some name) .canceled [] run
        (records ++ more ++ [Log.warning "Call path search canceled, discarding partial results"])
    | (some results, run, more) =>
      finish began (some start) (some name) (overall results) results run (records ++ more)

/-- Searches, once the start and the name of the target are known to be given. -/
def detectNamed (index : Index) (settings : Settings) (began : Float) (start : Routine)
    (name : String) (run : Run) (records : List Log.Record) : Detection :=
  let candidates := index.findRoutines name
  let refuse (outcome : Outcome) (why : String) : Detection :=
    finish began (some start) (some name) outcome [] run (records ++ [Log.warning why])
  if candidates.isEmpty then
    refuse .targetNotFound ("Target routine '" ++ name ++ "' not found")
  else
    match (if settings.bodilessTarget == .abort then bodiless? start candidates else none) with
    | some c =>
      refuse .targetHasNoBody ("Target candidate " ++ c.qualname ++ " has no body, aborting search")
    | none => searchAdmitted index.graph settings began start name candidates run records

/-- Searches for call paths from `start` to every routine that `targetName` means. -/
def detect (index : Index) (settings : Settings) (start : Option Routine) (targetName : Option String)
    (run : Run) : Detection :=
  let records := match targetName with
    | some name =>
      if name = "" then [] else [Log.info ("Searching call paths to '" ++ name ++ "'")]
    | none => []
  let (began, run) := opened run
  match start.filter Routine.hasBody with
  | none =>
    finish began start targetName .emptyStart [] run
      (records ++ [Log.warning ("Start routine " ++ ((start.map Routine.qualname).getD "None") ++
        " has no body")])
  | some begin =>
    match targetName.filter fun name => !Text.isAllBlank name with
    | none =>
      finish began start targetName .noTargetName [] run
        (records ++ [Log.warning "No target routine name provided"])
    | some name => detectNamed index settings began begin (Text.trim name) run records

end Detector

end CallChain
