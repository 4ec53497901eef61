import CallChain.Cancellation
import CallChain.Decimal.Reader
import CallChain.Value

/-!
# Requests

A request is data; its fields are checked in the order in which they are declared, and all that is
wrong is reported.  Fields that are not known are ignored.
-/

namespace CallChain.Service

/-- What is wrong with a field. -/
inductive Problem where
  | missing
  | notText
  | notMapping
  | notNumber
  | unreadableNumber

def Problem.text : Problem → String
  | .missing => "missing"
  | .notText => "string_type"
  | .notMapping => "dict_type"
  | .notNumber => "float_type"
  | .unreadableNumber => "float_parsing"

/-- A problem and the way to the field. -/
structure Invalid where
  place : List String
  problem : Problem

/-- What comes of checking a field: its value, or what is wrong. -/
abbrev Checked (α : Type) := Except (List Invalid) α

/-- Puts two checks together; what is wrong in either is kept. -/
def Checked.both {α β : Type} (first : Checked α) (second : Checked β) : Checked (α × β) :=
  match first, second with
  | .ok a, .ok b => .ok (a, b)
  | .error e, .ok _ => .error e
  | .ok _, .error e => .error e
  | .error e, .error f => .error (e ++ f)

/-- A text that has to be given. -/
def requiredText (name : String) (request : Value) : Checked String :=
  match request.field? name with
  | none => .error [⟨[name], .missing⟩]
  | some (.text s) => .ok s
  | some _ => .error [⟨[name], .notText⟩]

/-- A text that may be left out. -/
def optionalText (name : String) (request : Value) : Checked (Option String) :=
  match request.field? name with
  | none | some .null => .ok none
  | some (.text s) => .ok (some s)
  | some _ => .error [⟨[name], .notText⟩]

/-- Texts by name. -/
def textEntries (name : String) : Entries → Checked (List (String × String))
  | [] => .ok []
  | (key, .text s) :: rest => (textEntries name rest).map ((key, s) :: ·)
  | (key, _) :: rest =>
    let here : Invalid := ⟨[name, key], .notText⟩
    match textEntries name rest with
    | .ok _ => .error [here]
    | .error e => .error (here :: e)

/-- Texts by name that may be left out. -/
def optionalTexts (name : String) (request : Value) : Checked (Option (List (String × String))) :=
  match request.field? name with
  | none | some .null => .ok none
  | some (.object entries) => (textEntries name entries).map some
  | some _ => .error [⟨[name], .notMapping⟩]

/-- A mapping that may be left out. -/
def optionalMapping (name : String) (request : Value) : Checked (Option Value) :=
  match request.field? name with
  | none | some .null => .ok none
  | some (.object entries) => .ok (some (.object entries))
  | some _ => .error [⟨[name], .notMapping⟩]

/-- A number that may be left out; texts of numbers are read. -/
def optionalNumber (name : String) (request : Value) : Checked (Option Float) :=
  match request.field? name with
  | none | some .null => .ok none
  | some (.int n) =>
    match (Seconds.int n).toFloat? with
    | some x => .ok (some x)
    | none => .error [⟨[name], .notNumber⟩]
  | some (.float x) => .ok (some x)
  | some (.bool b) => .ok (some (if b then 1.0 else 0.0))
  | some (.text s) =>
    match (if s.toList.all fun c => c.toNat < 128 || Text.isBlank c.toNat then Decimal.toFloat? s else none) with
    | some x => .ok (some x)
    | none => .error [⟨[name], .unreadableNumber⟩]
  | some _ => .error [⟨[name], .notNumber⟩]

/-- What is to be indexed. -/
structure Subject where
  targetPath : Option String := none
  sources : Option (List (String × String)) := none
  configPath : Option String := none

/-- A request for call paths. -/
structure FindRequest where
  start : String
  method : Option String
  subject : Subject
  config : Option Value
  timeout : Option Float

/-- A request for the routines of a codebase. -/
structure ListRequest where
  subject : Subject
  name : Option String

def FindRequest.ofValue (v : Value) : Checked FindRequest :=
  ((requiredText "start" v).both ((optionalText "method" v).both ((optionalText "target_path" v).both
    ((optionalTexts "sources" v).both ((optionalText "config_path" v).both
      ((optionalMapping "config" v).both (optionalNumber "timeout" v))))))).map
    fun (start, method, targetPath, sources, configPath, config, timeout) =>
      { start, method, subject := { targetPath, sources, configPath }, config, timeout }

def ListRequest.ofValue (v : Value) : Checked ListRequest :=
  ((optionalText "target_path" v).both ((optionalTexts "sources" v).both
    ((optionalText "name" v).both (optionalText "config_path" v)))).map
    fun (targetPath, sources, name, configPath) =>
      { subject := { targetPath, sources, configPath }, name }

end CallChain.Service
