import CallChain.Cancellation
import CallChain.Failure
import CallChain.Log.Config
import CallChain.Settings.File

/-!
# Sessions

A session is what a command sees and changes: the disk, the clock, what has been printed and where
log records go.  An `Action` is a step of a session that may fail; what it did before it failed
stays done.
-/

namespace CallChain

/-- The texts for the time of day, all of the same moment. -/
structure TimeTexts where
  /-- In front of a log record. -/
  record : String
  /-- Date and time. -/
  plain : String
  /-- Date, time and zone in one word. -/
  iso : String

/-- What a session is given from outside. -/
structure Surround where
  times : TimeTexts
  /-- What can be read from the standard input. -/
  input : String := ""
  /-- Whether the wait for input is interrupted. -/
  interrupted : Bool := false
  /-- Whether the standard output is a terminal. -/
  terminal : Bool := false
  /-- Whether the package that serves requests is installed. -/
  canServe : Bool := true
  /-- What reads settings in YAML. -/
  yaml : YamlReader := SettingsFile.plainYaml

/-- How a server is started. -/
structure ServerRun where
  transport : String
  address : Option (String × Int) := none

/-- The state of a session. -/
structure Session where
  surround : Surround
  disk : Disk
  clock : Clock := {}
  log : Log.Config := {}
  /-- What was printed on the standard output. -/
  out : String := ""
  /-- What was printed on the standard error output. -/
  err : String := ""
  /-- The file that gets a copy of all that is printed. -/
  copy : Option String := none
  /-- The servers that were started. -/
  servers : List ServerRun := []

/-- A step of a session. -/
abbrev Action (α : Type) := ExceptT Failure (StateM Session) α

/-- An output of a session. -/
inductive Channel where
  | out
  | err
  deriving DecidableEq

namespace Session

/-- Adds a text to a file; a file that has gone away gets nothing. -/
def addTo (s : Session) (path text : String) : Session :=
  { s with disk := ((s.disk.append path text).toOption).getD s.disk }

/-- Prints a text. -/
def print (s : Session) (channel : Channel) (text : String) : Session :=
  let printed := match channel with
    | .out => { s with out := s.out ++ text }
    | .err => { s with err := s.err ++ text }
  match s.copy with
  | some path => printed.addTo path text
  | none => printed

/-- Writes a log record to the console and to the log files, if its level is high enough. -/
def emit (s : Session) (r : Log.Record) : Session :=
  match (if s.log.accepts r then s.log.line? s.surround.times.record r else none) with
  | none => s
  | some line => s.log.files.foldl (fun s path => s.addTo path line) { s with err := s.err ++ line }

def emitAll (s : Session) (records : List Log.Record) : Session := records.foldl emit s

/-- Whether colours may be printed: on a terminal, unless a file gets a copy. -/
def showsColor (s : Session) : Bool := s.surround.terminal && s.copy.isNone

end Session

namespace Action

/-- Runs an action. -/
def runIn {α : Type} (act : Action α) (s : Session) : Except Failure α × Session := (act.run).run s

/-- Prints a line. -/
def say (channel : Channel) (line : String) : Action Unit :=
  modify fun s => s.print channel (line ++ "\n")

def sayAll (channel : Channel) (lines : List String) : Action Unit :=
  modify fun s => lines.foldl (fun s line => s.print channel (line ++ "\n")) s

/-- Prints a text as it is. -/
def put (channel : Channel) (text : String) : Action Unit := modify fun s => s.print channel text

def log (record : Log.Record) : Action Unit := modify fun s => s.emit record

def logAll (records : List Log.Record) : Action Unit := modify fun s => s.emitAll records

/-- Replaces the disk by one that was changed, or fails. -/
def changeDisk (change : Disk → Except FileFault Disk) : Action Unit := do
  match change (← get).disk with
  | .ok disk => modify fun s => { s with disk }
  | .error fault => throw (.file fault)

end Action

/-! ## Setting up the log -/

namespace Log

/-- Sets level and layout and attaches a log file, unless it is attached already. -/
def configure (r : Request) : Action Unit := do
  modify fun s => { s with log := { s.log with level := r.effective } }
  if !Text.Percent.hasNamedField r.layout.toList then throw (.layout r.layout)
  modify fun s => { s with log := { s.log with layout := r.layout } }
  match r.file.filter (· != "") with
  | none => pure ()
  | some file =>
    let path := (← get).disk.absolute file
    if !(← get).log.files.contains path then
      Action.changeDisk fun d => d.append path ""
      modify fun s => { s with log := { s.log with files := s.log.files ++ [path] } }

/-- Sets up the log with the default layout; the directory of the log file is made if it is
missing. -/
def setUp (r : Request) : Action Unit := do
  match r.file.filter (· != "") with
  | none => pure ()
  | some file =>
    let directory := Path.parent file
    if directory ≠ "" ∧ !(← get).disk.contains directory then
      Action.changeDisk fun d => d.makeNewDirectory (directory.length + 1) directory
  configure { r with layout := defaultLayout }
  Action.log (debug ("callpath 日志已配置 - 级别: " ++ levelName (← get).log.level))
  match r.file.filter (· != "") with
  | none => pure ()
  | some file => Action.log (info ("日志文件: " ++ file))

end Log

end CallChain
