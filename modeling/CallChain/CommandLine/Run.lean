import CallChain.CommandLine.Command
import CallChain.Detector
import CallChain.Index.Build
import CallChain.Output.Console
import CallChain.Output.Data
import CallChain.Session.Tracing
import CallChain.Settings.File

/-!
# Running commands

Results go to the standard output; everything else, log records included, to the error output.
The exit code is 0 for a search that ran to its end, 130 for one that was canceled and 1
otherwise.

While a target is indexed, and while a search runs, a line of status is shown on the error output if
that is a terminal.  To show it is not modelled: it is assumed to succeed whatever path or names stand
in it, and to leave nothing behind.
-/

namespace CallChain.CommandLine

open CallChain.Action

/-! ## Indexing -/

/-- Reads settings and says so. -/
def loadSettings (path : Option String) (debug : Bool) : Action Settings := do
  let session ← get
  let result := SettingsFile.load session.surround.yaml session.disk path
  sayAll .err (SettingsFile.narration debug path result)
  ofExcept result

/-- The lines about a finished index. -/
def indexLines (verbose debug : Bool) (time : String) (index : Index) : List String :=
  if !verbose && !debug then []
  else
    let skipped := if index.skipped.isEmpty then [] else
      ("[Index] Skipped " ++ toString index.skipped.length ++ " unparseable files:") ::
        index.skipped.map ("  - " ++ ·)
    ["[Index] Finished at: " ++ time,
      "[Index] " ++ toString index.files.length ++ " files, " ++ toString index.routines.length ++
        " routines, " ++ toString index.sites.length ++ " call sites"] ++ skipped ++
      if debug then
        ["[Index] Routines without body: " ++
            toString (index.routines.filter fun r => !r.hasBody).length,
          "[Index] Call sites inside async boundaries: " ++
            toString (index.sites.filter CallSite.handedOff).length]
      else []

/-- Indexes a target and says so.  What was logged before a failure stays logged. -/
def buildIndex (target : Target) (settings : Settings) : Action Index :=
  timed "build_index_with_status" do
    let index ← traced .debug "callpath.analysis.index.CodeIndex.build" do
      let (index, records) ← ofExcept (Index.build (← get).disk settings target.path)
      logAll records
      ofExcept index.finished
    sayAll .err (indexLines target.verbose target.debug (← get).surround.times.plain index)
    return index

/-! ## Searching -/

/-- Asks for the name of the target; nothing if the input has ended. -/
def askForTarget : Action (Option String) := do
  let surround := (← get).surround
  if surround.interrupted then throw .interrupted
  put .out "Method to find call path to: "
  if surround.input = "" then return none
  return some (String.ofList (surround.input.toList.takeWhile (· != '\n')))

/-- Makes the token of a search.  A signal that arrives meanwhile is not for the token yet. -/
def makeToken (timeout : Option Seconds) : Action CancelToken := do
  let before := (← get).clock
  let (token, clock) := CancelToken.create timeout before
  modify fun s => { s with clock }
  if clock.readings ≠ before.readings ∧ clock.signalAt = some clock.readings then throw .interrupted
  match token with
  | some token => return token
  | none => throw .limitTooLarge

/-- The time limit of a search: that of the command line, or that of the settings. -/
def timeLimit (o : Find) (settings : Settings) : Option Seconds :=
  (o.timeout.map .float).orElse fun _ => settings.timeout

/-- Searches for call paths. -/
def search (o : Find) (index : Index) (settings : Settings) (start : Routine) (name : Option String) :
    Action Report := do
  let token ← makeToken (timeLimit o settings)
  let detection := Detector.detect index settings (some start) name
    { token := some token, clock := (← get).clock }
  modify fun s => { s with clock := detection.run.clock }
  logAll detection.records
  ofExcept detection.report

/-- Writes a text to a file in a directory that is made if it is missing. -/
def writeFile (path text : String) : Action Unit := do
  changeDisk fun d => d.ensureDirectory (Path.parent (d.absolute path))
  changeDisk fun d => d.write path text

/-- Saves a report as JSON. -/
def saveReport (path : String) (pretty debug : Bool) (value : Value) : Action Unit := do
  if debug then say .err ("[Output] Saving results to: " ++ path)
  writeFile path (Json.render pretty value)
  if debug then say .err ("[Output] Successfully saved results to " ++ path)

/-- A report as JSON, and the record about it. -/
def jsonReport (options : Data.Options) (report : Report) : Action String := do
  log (Log.debug ("Formatted report with " ++ toString report.candidates.length ++ " candidates as JSON"))
  return Data.render options report ++ "\n"

/-- Prints a report. -/
def showReport (o : Find) (index : Index) (report : Report) : Action Unit := do
  if o.json then
    put .out (← jsonReport { pretty := o.pretty, timestamp := some (← get).surround.times.iso
                             indexSummary := index.summary } report)
  else
    let color := !o.noColor && (← get).showsColor
    match Console.render { color } report with
    | .ok text => say .out text
    | .error _ => say .out report.outcome.text
    if o.target.verbose then put .out (Console.reportSummary report)

def exitCode (outcome : Outcome) : Nat :=
  if outcome = .canceled then 130 else if outcome.isCompleted then 0 else 1

/-- Searches and reports. -/
def runFind (o : Find) (index : Index) (settings : Settings) : Action Nat := do
  match index.findRoutines o.start with
  | [] =>
    say .err ("Start routine " ++ o.start ++ " not found")
    return 1
  | [start] =>
    let name ← match o.method with
      | some name => pure (some name)
      | none => askForTarget
    let report ← search o index settings start name
    match o.output.filter (· != "") with
    | some path => saveReport path o.pretty o.target.debug report.toValue
    | none => pure ()
    showReport o index report
    return exitCode report.outcome
  | several =>
    say .err ("Start routine " ++ o.start ++ " is ambiguous, candidates:")
    sayAll .err (several.map fun r => "  " ++ r.file ++ ":" ++ r.qualname)
    return 1

/-! ## Commands with a log -/

/-- Copies what is printed to the log file from now on. -/
def openCopy (file : String) : Action Unit :=
  tryCatch (do
    changeDisk fun d => d.append file ""
    modify fun s => { s with copy := some file }
    say .err ("[Log] Time: " ++ (← get).surround.times.plain))
    fun failure => say .err ("[Error] Failed to open log file " ++ file ++ ": " ++ failure.message)

def closeCopy : Action Unit := modify fun s => { s with copy := none }

/-- Reads settings, indexes the target and goes on with that. -/
def indexThen (target : Target) (next : Index → Settings → Action Nat) : Action Nat := do
  if target.debug then
    sayAll .err ["[Args] Target: " ++ target.path, "[Args] Config: " ++ target.config.getD "None"]
  let settings ← loadSettings target.config target.debug
  let index ← buildIndex target settings
  next index settings

/-- Runs a command on an indexed target; failures are reported, an interruption is not. -/
def runLogged (target : Target) (next : Index → Settings → Action Nat) : Action Nat := do
  Log.setUp { file := target.logFile, verbose := target.verbose, debug := target.debug }
  match target.logFile.filter (· != "") with
  | some file => openCopy file
  | none => pure ()
  let code ← tryCatch (indexThen target next) fun failure => do
    if !isOrdinary failure then
      closeCopy
      throw failure
    if target.debug then put .err failure.trace
    else say .err ("Error during analysis: " ++ failure.message)
    return 1
  closeCopy
  return code

/-! ## All commands -/

/-- Lists the files that would be indexed. -/
def listFiles (target : String) (config : Option String) : Action Nat := do
  let settings ← loadSettings config false
  let files ← ofExcept ((← get).disk.targetFiles settings.excludeDirs target)
  say .out ("[File List] " ++ toString files.length ++ " Python files under " ++ target ++ ":")
  sayAll .out (files.mapIdx fun i file => "  " ++ toString (i + 1) ++ ". " ++ file)
  return 0

/-- Starts a server, if that can be done. -/
def runServer (command : Option Serve) : Action Nat := do
  if !(← get).surround.canServe then
    sayAll .out ["错误: MCP 服务器依赖未安装。", "请使用以下命令安装: pip install callpath[mcp]"]
    if command.any Serve.debug then
      say .out (String.join ["详细错误: FastMCP dependency not found. Please install with ",
        "`pip install callpath[mcp]` or `pip install fastmcp`"])
    return 1
  match command with
  | none =>
    say .out "用法: callpath mcp run [--host HOST] [--port PORT] [--transport stdio|sse|http]"
    return 1
  | some o =>
    if o.transport = "stdio" then
      modify fun s => { s with servers := s.servers ++ [⟨o.transport, none⟩] }
    else
      say .out ("启动服务器: " ++ o.host ++ ":" ++ toString o.port)
      modify fun s => { s with servers := s.servers ++ [⟨o.transport, some (o.host, o.port)⟩] }
    return 0

/-- Carries out a command. -/
def execute : Command → Action Nat
  | .help => do
    put .out (usageText "callpath")
    return 0
  | .find o => runLogged o.target (runFind o)
  | .routines target name => runLogged target fun index _ => do
    let routines := match name.filter (· != "") with
      | some name => index.findRoutines name
      | none => index.routines
    put .out (Console.routineList true routines)
    return 0
  | .listFiles target config => listFiles target config
  | .server => runServer none
  | .serve o => runServer (some o)

/-- How a command line ends. -/
inductive Exit where
  /-- The command was carried out and has an exit code. -/
  | done (code : Nat)
  /-- The command line was not carried out. -/
  | usage (usage : Usage)

/-- Runs a command line.  A failure that nothing else reports becomes a log record. -/
def run (words : List String) (s : Session) : Exit × Session :=
  let (_, s) := (Log.setUp {}).runIn s
  match parse words with
  | .error usage => (.usage usage, s)
  | .ok command =>
    match (execute command).runIn s with
    | (.ok code, s) => (.done code, s)
    | (.error .interrupted, s) => (.done 130, s.print .err "Interrupted\n")
    | (.error failure, s) =>
      let records := Log.error ("callpath failed: " ++ failure.text) ::
        if words.contains "--debug" then [Log.error failure.trace] else []
      (.done 1, s.emitAll records)

end CallChain.CommandLine
