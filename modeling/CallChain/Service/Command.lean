import CallChain.CommandLine.Command
import CallChain.Session
import CallChain.Text.Likeness

/-!
# The command that starts the server

It has one subcommand, `run`.  Options are spelled out in full, and the word after an option is its
value whatever it looks like.  Faults in the form of the command line are found first, then
requests for help, then values that do not fit in the order in which they stand, and words that
belong to nothing last.
-/

namespace CallChain.Service

open CommandLine (Argument Form Serve Given)

/-- Why the command is not carried out. -/
inductive CommandUsage where
  | help
  /-- Nothing was asked for. -/
  | nothing
  | fault (message : String)

/-- The words of a command line, read: values of options in order, other words, and whether help is
asked for. -/
structure Split where
  values : List (Argument × String) := []
  words : List String := []
  help : Bool := false

/-- An option that there is not, with those that look like it. -/
def unknownOption (form : Form) (name : String) (suggest : Bool) : CommandUsage :=
  let hint := match (if suggest then Text.suggestions name (form.options.map Prod.fst) else []) with
    | [] => ""
    | [one] => " Did you mean " ++ one ++ "?"
    | several => " (Possible options: " ++ Text.joinWith ", " several ++ ")"
  .fault ("No such option: " ++ name ++ hint)

/-- Splits the words of a command line; unless `mixed`, options end at the first other word. -/
def split (form : Form) (mixed : Bool) : Option Argument → Split → List String → Except CommandUsage Split
  | some a, _, [] => .error (.fault ("Option " ++ Text.quoted a.name ++ " requires an argument."))
  | none, s, [] => .ok s
  | some a, s, word :: rest => split form mixed none { s with values := s.values ++ [(a, word)] } rest
  | none, s, word :: rest =>
    if word = "--" then .ok { s with words := s.words ++ rest }
    else match word.toList with
      | '-' :: second :: _ =>
        let (name, attached) := match Text.cutFirst? '=' word with
          | some (name, value) => (name, some value)
          | none => (word, none)
        match Assoc.get? name form.options, attached with
        | some (some ⟨_, .switch, _⟩), some _ | some none, some _ =>
          .error (.fault ("Option " ++ Text.quoted name ++ " does not take a value."))
        | some none, none => split form mixed none { s with help := true } rest
        | some (some ⟨n, .switch, r⟩), none =>
          split form mixed none { s with values := s.values ++ [(⟨n, .switch, r⟩, "")] } rest
        | some (some a), some value =>
          split form mixed none { s with values := s.values ++ [(a, value)] } rest
        | some (some a), none => split form mixed (some a) s rest
        | none, _ =>
          .error (if second = '-' then unknownOption form name true
            else unknownOption form (String.ofList ['-', second]) false)
      | _ =>
        if mixed then split form mixed none { s with words := s.words ++ [word] } rest
        else .ok { s with words := s.words ++ word :: rest }

/-- What is wrong with the value of an option. -/
def complaint? (a : Argument) (value : String) : Option String :=
  match a.kind with
  | .choice choices =>
    if choices.contains value then none
    else some (Text.quoted value ++ " is not one of " ++ Text.joinWith ", " (choices.map Text.quoted) ++ ".")
  | .whole =>
    if (Decimal.toInt? value).isSome then none else some (Text.quoted value ++ " is not a valid integer.")
  | _ => none

/-- The options of the last mention of each, in the order of first mention. -/
def lastValues (values : List (Argument × String)) : List (Argument × String) :=
  (values.foldl (fun all (a, v) => Assoc.put a.name (a, v) all) []).map Prod.snd

/-- Checks the values of options in the order in which they stand. -/
def checkValues : List (Argument × String) → Except CommandUsage (List (String × String))
  | [] => .ok []
  | (a, value) :: rest =>
    match complaint? a value with
    | some message =>
      .error (.fault ("Invalid value for " ++ Text.quoted a.name ++ ": " ++ message))
    | none => (checkValues rest).map ((a.name, value) :: ·)

/-- The options of the server that the words behind `run` give. -/
def parseRun (words : List String) : Except CommandUsage Serve := do
  let s ← split CommandLine.serveForm true none {} words
  if s.help then throw .help
  let values ← checkValues (lastValues s.values)
  match s.words with
  | [] => return ({ values } : Given).serve
  | [one] => throw (.fault ("Got unexpected extra argument (" ++ one ++ ")"))
  | several => throw (.fault ("Got unexpected extra arguments (" ++ Text.joinWith " " several ++ ")"))

/-- The options of the server that a command line gives. -/
def parseCommand (words : List String) : Except CommandUsage Serve := do
  if words.isEmpty then throw .nothing
  let s ← split ⟨serverCommandName, []⟩ false none {} words
  if s.help then throw .help
  match s.words with
  | [] => throw (.fault "Missing command.")
  | name :: rest =>
    if name = "run" then parseRun rest
    else throw (.fault ("No such command " ++ Text.quoted name ++ "."))
where
  serverCommandName : String := "cli"

/-- Starts the server. -/
def start (o : Serve) : Action Unit := do
  Action.say .err ("Starting callpath MCP server v0.1.0 (" ++ o.transport ++ ")")
  if o.transport = "stdio" then
    modify fun s => { s with servers := s.servers ++ [⟨o.transport, none⟩] }
  else
    Action.say .err ("Server Address: http://" ++ o.host ++ ":" ++ toString o.port)
    modify fun s => { s with servers := s.servers ++ [⟨o.transport, some (o.host, o.port)⟩] }

/-- The text that explains how the command is used. -/
def commandHelp : String :=
  String.join ["Usage: cli [OPTIONS] COMMAND [ARGS]...\n\n  callpath MCP server commands.\n\n",
    "Options:\n  --help  Show this message and exit.\n\n",
    "Commands:\n  run  Start the MCP server.\n"]

/-- Runs the command: its exit code and what it leaves. -/
def runCommand (words : List String) (s : Session) : Nat × Session :=
  match parseCommand words with
  | .ok options => (0, ((start options).runIn s).2)
  | .error .help => (0, s.print .out commandHelp)
  | .error .nothing => (2, s.print .err commandHelp)
  | .error (.fault message) => (2, s.print .err ("Error: " ++ message ++ "\n"))

end CallChain.Service
