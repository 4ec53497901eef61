import CallChain.CommandLine.Arguments

/-!
# Commands

The commands that a user can give, with their options, and how the words of a command line are
read as one.
-/

namespace CallChain.CommandLine

/-- The options of commands that index a target and may keep a log. -/
structure Target where
  path : String
  config : Option String := none
  debug : Bool := false
  verbose : Bool := false
  logFile : Option String := none

/-- The options of a search. -/
structure Find where
  target : Target
  start : String
  method : Option String := none
  output : Option String := none
  json : Bool := false
  pretty : Bool := false
  noColor : Bool := false
  timeout : Option Float := none

/-- The options of a server. -/
structure Serve where
  host : String := "127.0.0.1"
  port : Int := 8000
  transport : String := "stdio"
  debug : Bool := false

/-- What a user asks for. -/
inductive Command where
  /-- Nothing in particular. -/
  | help
  | find (options : Find)
  | routines (target : Target) (name : Option String)
  | listFiles (target : String) (config : Option String)
  /-- The server commands; nothing was said about what to do with it. -/
  | server
  | serve (options : Serve)

/-! ## Forms -/

def targetArguments : List Argument :=
  [⟨"--target", .text, true⟩, ⟨"--config", .text, false⟩, ⟨"--debug", .switch, false⟩,
    ⟨"--verbose", .switch, false⟩, ⟨"--log-file", .text, false⟩]

def findForm : Form :=
  ⟨"callpath find", targetArguments ++
    [⟨"--start", .text, true⟩, ⟨"--method", .text, false⟩, ⟨"--output", .text, false⟩,
      ⟨"--format", .choice ["console", "json"], false⟩, ⟨"--pretty", .switch, false⟩,
      ⟨"--no-color", .switch, false⟩, ⟨"--timeout", .double, false⟩]⟩

def routinesForm : Form := ⟨"callpath routines", targetArguments ++ [⟨"--name", .text, false⟩]⟩

def listFilesForm : Form :=
  ⟨"callpath list-files", [⟨"--target", .text, true⟩, ⟨"--config", .text, false⟩]⟩

def serveForm : Form :=
  ⟨"callpath mcp run", [⟨"--host", .text, false⟩, ⟨"--port", .whole, false⟩,
    ⟨"--transport", .choice ["stdio", "sse", "http"], false⟩, ⟨"--debug", .switch, false⟩]⟩

/-! ## From words to commands -/

namespace Given

def text? (g : Given) (name : String) : Option String := Assoc.get? name g.values
def text (g : Given) (name : String) : String := (g.text? name).getD ""
def has (g : Given) (name : String) : Bool := Assoc.has name g.values

def target (g : Given) : Target :=
  { path := g.text "--target", config := g.text? "--config", debug := g.has "--debug"
    verbose := g.has "--verbose", logFile := g.text? "--log-file" }

def find (g : Given) : Find :=
  { target := g.target, start := g.text "--start", method := g.text? "--method"
    output := g.text? "--output", json := g.text? "--format" == some "json"
    pretty := g.has "--pretty", noColor := g.has "--no-color"
    timeout := (g.text? "--timeout").bind Decimal.toFloat? }

def serve (g : Given) : Serve :=
  { host := (g.text? "--host").getD "127.0.0.1"
    port := ((g.text? "--port").bind Decimal.toInt?).getD 8000
    transport := (g.text? "--transport").getD "stdio", debug := g.has "--debug" }

end Given

/-- A command of a form, with the words that belong to nothing. -/
def withForm (form : Form) (words : List String) (make : Given → Command) :
    Except Usage (Command × List String) := do
  let given ← form.read words
  return (make given, given.extras)

/-- The command for a server. -/
def serverCommand (words : List String) : Except Usage (Command × List String) := do
  match ← readCommand "callpath mcp" "mcp_command" ["run"] [] words with
  | (extras, some (_, rest)) =>
    let (command, more) ← withForm serveForm rest fun g => .serve g.serve
    return (command, extras ++ more)
  | (extras, none) => return (.server, extras)

/-- The command of a name. -/
def namedCommand (name : String) (words : List String) : Except Usage (Command × List String) :=
  match name with
  | "find" => withForm findForm words fun g => .find g.find
  | "routines" => withForm routinesForm words fun g => .routines g.target (g.text? "--name")
  | "list-files" =>
    withForm listFilesForm words fun g => .listFiles (g.text "--target") (g.text? "--config")
  | _ => serverCommand words

/-- The command that the words of a command line mean. -/
def parse (words : List String) : Except Usage Command := do
  let commands := ["find", "routines", "list-files", "mcp"]
  let (command, extras) ← match ← readCommand "callpath" "command" commands [] words with
    | (extras, some (name, rest)) => do
      let (command, more) ← namedCommand name rest
      pure (command, extras ++ more)
    | (extras, none) => pure (Command.help, extras)
  if extras.isEmpty then return command
  else throw (.fault "callpath" ("unrecognized arguments: " ++ Text.joinWith " " extras))

/-- The text that explains how the program, or one of its commands, is used. -/
def usageText (program : String) : String :=
  match [findForm, routinesForm, listFilesForm, serveForm].find? fun f => f.program == program with
  | some form => form.usage
  | none =>
    "usage: " ++ program ++ " [-h] " ++
      (if program = "callpath mcp" then "\x7brun\x7d" else "\x7bfind,routines,list-files,mcp\x7d") ++ " ...\n"

end CallChain.CommandLine
