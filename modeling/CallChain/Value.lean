import CallChain.Assoc
import CallChain.Decimal.Shortest
import CallChain.Text.Quoted
import CallChain.Text.Words

/-!
# Data of configuration files, requests and reports

A `Value` is what a data file can hold: nothing, truth values, whole numbers, doubles, texts,
lists, and objects whose entries keep the order in which their keys first appeared.  `put` is
the one way to extend an object, so a key occurs once; `display` shows a value the way messages
quote it.
-/

namespace CallChain

/-- A piece of structured data. -/
inductive Value where
  | null
  | bool (b : Bool)
  | int (n : Int)
  | float (x : Float)
  | text (s : String)
  | list (items : List Value)
  | object (entries : List (String × Value))
  deriving Inhabited

/-- The entries of an object: keys with what they map to, in order of first appearance. -/
abbrev Entries := List (String × Value)

namespace Value

/-- The value of a key of an object. -/
def field? (key : String) : Value → Option Value
  | .object entries => Assoc.get? key entries
  | _ => none

/-- Whether a value counts as given: zero, emptiness and nothing do not. -/
def isTruthy : Value → Bool
  | .null => false
  | .bool b => b
  | .int n => n != 0
  | .float x => !(x == 0.0)
  | .text s => s != ""
  | .list items => !items.isEmpty
  | .object entries => !entries.isEmpty

/-- The word for the kind of a value. -/
def kindName : Value → String
  | .null => "NoneType"
  | .bool _ => "bool"
  | .int _ => "int"
  | .float _ => "float"
  | .text _ => "str"
  | .list _ => "list"
  | .object _ => "dict"

/-- The text of a value that is one. -/
def text? : Value → Option String
  | .text s => some s
  | _ => none

/-- A text, or nothing. -/
def ofText? : Option String → Value
  | some s => .text s
  | none => .null

mutual

/-- A value as messages show it. -/
def display : Value → String
  | .null => "None"
  | .bool b => if b then "True" else "False"
  | .int n => toString n
  | .float x => Decimal.render Decimal.Layout.plain x
  | .text s => Text.quoted s
  | .list items => "[" ++ Text.joinWith ", " (displayItems items) ++ "]"
  | .object entries => "\x7b" ++ Text.joinWith ", " (displayEntries entries) ++ "\x7d"

/-- The items of a list as messages show them. -/
def displayItems : List Value → List String
  | [] => []
  | item :: rest => item.display :: displayItems rest

/-- The entries of an object as messages show them. -/
def displayEntries : List (String × Value) → List String
  | [] => []
  | (key, value) :: rest => (Text.quoted key ++ ": " ++ value.display) :: displayEntries rest

end

end Value

end CallChain
