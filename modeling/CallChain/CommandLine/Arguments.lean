import CallChain.Assoc
import CallChain.Decimal.Reader
import CallChain.Text.Quoted
import CallChain.Text.Words

/-!
# Reading the words of a command line

A form lists the options of a command.  Options are given as `--name value`, `--name=value` or,
for switches, as `--name`; a name may be cut short as long as only one option begins with it.  A
word that looks like an option cannot be the value of another one, but a negative number can.  All
words are sorted first, so an ambiguous option is found before anything else; after that faults
are found from left to right, and missing options last.
-/

namespace CallChain.CommandLine

/-- What an option takes. -/
inductive Kind where
  /-- No value. -/
  | switch
  | text
  | choice (choices : List String)
  | double
  | whole

/-- An option. -/
structure Argument where
  name : String
  kind : Kind
  required : Bool := false

/-- The options of a command. -/
structure Form where
  program : String
  arguments : List Argument := []

/-- Why a command line is not carried out: it asks for help, or it is wrong. -/
inductive Usage where
  | help (program : String)
  | fault (program message : String)

/-- What a word is by its looks. -/
inductive Word where
  | plain
  /-- Two dashes, after which every word is plain. -/
  | dashes
  | help (short : Bool) (attached : Option String)
  | known (argument : Argument) (attached : Option String)
  | unknown

/-- Whether a word is a negative number, in digits of any script. -/
def isNegativeNumber (word : String) : Bool :=
  let isDigit (c : Char) : Bool := (Text.decimalValue? c.toNat).isSome
  match word.toList with
  | '-' :: rest =>
    let whole := rest.takeWhile isDigit
    match rest.dropWhile isDigit with
    | [] => !whole.isEmpty
    | '.' :: fraction => !fraction.isEmpty && fraction.all isDigit
    | _ => false
  | _ => false

/-- The options of a form by name, help included, in the order in which they were declared. -/
def Form.options (f : Form) : List (String × Option Argument) :=
  ("--help", none) :: f.arguments.map fun a => (a.name, some a)

/-- An option as a word. -/
def optionWord (argument : Option Argument) (attached : Option String) : Word :=
  match argument with
  | some a => .known a attached
  | none => .help false attached

/-- Sorts a word that begins with two dashes. -/
def Form.longWord (f : Form) (word : String) : Except Usage Word :=
  let (name, attached) := match Text.cutFirst? '=' word with
    | some (name, value) => (name, some value)
    | none => (word, none)
  match Assoc.get? word f.options, Assoc.get? name f.options with
  | some a, _ => .ok (optionWord a none)
  | none, some a => .ok (optionWord a attached)
  | none, none =>
    match f.options.filter fun o => Text.startsWith o.1 name with
    | [(_, a)] => .ok (optionWord a attached)
    | [] => .ok (if word.toList.contains ' ' then .plain else .unknown)
    | several => .error (.fault f.program ("ambiguous option: " ++ word ++ " could match " ++
        Text.joinWith ", " (several.map Prod.fst)))

/-- Sorts a word. -/
def Form.word (f : Form) (word : String) : Except Usage Word :=
  match word.toList with
  | '-' :: '-' :: _ => f.longWord word
  | '-' :: 'h' :: rest =>
    .ok (.help true (if rest.isEmpty then none else some (String.ofList rest)))
  | '-' :: _ :: _ =>
    .ok (if isNegativeNumber word ∨ word.toList.contains ' ' then .plain else .unknown)
  | _ => .ok .plain

/-- Sorts the words of a command line. -/
def Form.words (f : Form) : List String → Except Usage (List (String × Word))
  | [] => .ok []
  | word :: rest =>
    if word = "--" then .ok ((word, .dashes) :: rest.map fun w => (w, .plain))
    else do
      let first ← f.word word
      return (word, first) :: (← f.words rest)

/-- What is wrong with a value. -/
def Kind.complaint? (kind : Kind) (value : String) : Option String :=
  match kind with
  | .switch | .text => none
  | .choice choices =>
    if choices.contains value then none
    else some ("invalid choice: " ++ Text.quoted value ++ " (choose from " ++
      Text.joinWith ", " (choices.map Text.quoted) ++ ")")
  | .double =>
    if (Decimal.toFloat? value).isSome then none else some ("invalid float value: " ++ Text.quoted value)
  | .whole =>
    if (Decimal.toInt? value).isSome then none else some ("invalid int value: " ++ Text.quoted value)

def argumentFault (program name message : String) : Usage :=
  .fault program ("argument " ++ name ++ ": " ++ message)

def ignoredFault (program name value : String) : Usage :=
  argumentFault program name ("ignored explicit argument " ++ Text.quoted value)

/-- What becomes of a short request for help with letters behind it: more of them change nothing,
but a value or another dash is refused. -/
def shortHelp (program : String) : List Char → Usage
  | 'h' :: rest => shortHelp program rest
  | '=' :: value => ignoredFault program "-h/--help" (String.ofList value)
  | '-' :: rest => ignoredFault program "-h/--help" (String.ofList ('-' :: rest))
  | _ => .help program

/-- What becomes of a request for help with something attached to it. -/
def helpUsage (program : String) (short : Bool) (attached : Option String) : Usage :=
  match attached with
  | none => .help program
  | some value =>
    if short then shortHelp program value.toList else ignoredFault program "-h/--help" value

/-- What was read: the values of options, and the words that belong to none. -/
structure Given where
  values : List (String × String) := []
  extras : List String := []

/-- Notes the value of an option, if it is of the kind that the option takes. -/
def Form.take (f : Form) (given : Given) (a : Argument) (value : String) : Except Usage Given :=
  match a.kind.complaint? value with
  | some message => .error (argumentFault f.program a.name message)
  | none => .ok { given with values := Assoc.put a.name value given.values }

/-- Reads sorted words from left to right; `waiting` is an option that still needs its value. -/
def Form.readWords (f : Form) : Option Argument → Given → List (String × Word) → Except Usage Given
  | none, given, [] => .ok given
  | some a, given, (value, .plain) :: rest => do f.readWords none (← f.take given a value) rest
  | some a, _, _ => .error (argumentFault f.program a.name "expected one argument")
  | none, _, (_, .help short attached) :: _ => .error (helpUsage f.program short attached)
  | none, given, (_, .known a attached) :: rest =>
    match a.kind, attached with
    | .switch, some value => .error (ignoredFault f.program a.name value)
    | .switch, none => do f.readWords none (← f.take given a "") rest
    | _, some value => do f.readWords none (← f.take given a value) rest
    | _, none => f.readWords (some a) given rest
  | none, given, (word, _) :: rest =>
    f.readWords none { given with extras := given.extras ++ [word] } rest

/-- Reads the words of a command. -/
def Form.read (f : Form) (words : List String) : Except Usage Given := do
  let given ← f.readWords none {} (← f.words words)
  match (f.arguments.filter fun a => a.required && !Assoc.has a.name given.values).map Argument.name with
  | [] => return given
  | missing =>
    throw (.fault f.program ("the following arguments are required: " ++ Text.joinWith ", " missing))

/-- Reads words up to the name of a command, which is one of `commands`; the words after it belong
to the command. -/
def readCommand (program role : String) (commands : List String) :
    List String → List String → Except Usage (List String × Option (String × List String))
  | extras, [] => .ok (extras, none)
  | extras, word :: rest =>
    let refuse : Except Usage (List String × Option (String × List String)) :=
      .error (argumentFault program role ("invalid choice: " ++ Text.quoted word ++ " (choose from " ++
        Text.joinWith ", " (commands.map Text.quoted) ++ ")"))
    if word = "--" then (if rest.isEmpty then .ok (extras ++ [word], none) else refuse)
    else match (⟨program, []⟩ : Form).word word with
      | .error usage => .error usage
      | .ok (.help short attached) => .error (helpUsage program short attached)
      | .ok .plain => if commands.contains word then .ok (extras, some (word, rest)) else refuse
      | .ok _ => readCommand program role commands (extras ++ [word]) rest

/-- How a command is used. -/
def Form.usage (f : Form) : String :=
  let shown (a : Argument) : String :=
    let value := match a.kind with
      | .switch => a.name
      | .choice choices => a.name ++ " \x7b" ++ Text.joinWith "," choices ++ "\x7d"
      | _ => a.name ++ " " ++ (Text.dropFirst 2 a.name).toUpper
    if a.required then value else "[" ++ value ++ "]"
  "usage: " ++ Text.joinWith " " (f.program :: "[-h]" :: f.arguments.map shown) ++ "\n"

end CallChain.CommandLine
