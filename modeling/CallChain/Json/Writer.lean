import CallChain.Value

/-!
# Writing JSON

Texts keep every character but the quote, the backslash and the control characters.  The
compact layout puts a blank after each comma and colon; the indented one starts a line for each
item, two blanks further in for each level.  An empty list or object takes no line of its own.
-/

namespace CallChain.Json

/-- One character inside a string. -/
def escapeChar (c : Char) : List Char :=
  if c = '"' then ['\\', '"']
  else if c = '\\' then ['\\', '\\']
  else if c = '\n' then ['\\', 'n']
  else if c = '\r' then ['\\', 'r']
  else if c = '\t' then ['\\', 't']
  else if c.toNat = 8 then ['\\', 'b']
  else if c.toNat = 12 then ['\\', 'f']
  else if c.toNat < 32 then '\\' :: 'u' :: Text.hex 4 c.toNat
  else [c]

/-- A text as a string. -/
def string (s : String) : String :=
  String.ofList ('"' :: s.toList.flatMap escapeChar ++ ['"'])

/-- The line break and indentation that stand before an item at a depth, if items have lines of
their own. -/
def lineBreak (indented : Bool) (depth : Nat) : String :=
  if indented then "\n" ++ Text.repeated "  " depth else ""

mutual

/-- A value at a depth of nesting. -/
def write (indented : Bool) (depth : Nat) : Value → String
  | .null => "null"
  | .bool b => if b then "true" else "false"
  | .int n => toString n
  | .float x => Decimal.render Decimal.Layout.data x
  | .text s => string s
  | .list [] => "[]"
  | .list (item :: items) =>
    "[" ++ lineBreak indented (depth + 1) ++ write indented (depth + 1) item ++
      writeItems indented (depth + 1) items ++ lineBreak indented depth ++ "]"
  | .object [] => "\x7b\x7d"
  | .object ((key, item) :: entries) =>
    "\x7b" ++ lineBreak indented (depth + 1) ++ string key ++ ": " ++ write indented (depth + 1) item ++
      writeEntries indented (depth + 1) entries ++ lineBreak indented depth ++ "\x7d"

/-- The items after the first one. -/
def writeItems (indented : Bool) (depth : Nat) : List Value → String
  | [] => ""
  | item :: rest =>
    (if indented then "," else ", ") ++ lineBreak indented depth ++ write indented depth item ++
      writeItems indented depth rest

/-- The entries after the first one. -/
def writeEntries (indented : Bool) (depth : Nat) : List (String × Value) → String
  | [] => ""
  | (key, item) :: rest =>
    (if indented then "," else ", ") ++ lineBreak indented depth ++ string key ++ ": " ++
      write indented depth item ++ writeEntries indented depth rest

end

/-- A value as a document, indented or on one line. -/
def render (indented : Bool) (v : Value) : String := write indented 0 v

end CallChain.Json
