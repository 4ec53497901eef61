import CallChain.Decimal.Fixed
import CallChain.Text.Template

/-!
# Percent templates

A template in which `%s` and its like stand for values, taken in order, or by name as in
`%(name)s`.  Flags, a width and a number of places may stand before the letter.  Filling one in
fails when a value is missing, left over, or not of the kind that its letter asks for.
-/

namespace CallChain.Text.Percent

/-- A place for a value. -/
structure Field where
  name : Option String
  flags : List Char
  width : Nat
  precision : Option Nat
  kind : Char

def isFlag (c : Char) : Bool := c == '#' || c == '0' || c == '-' || c == '+' || c == ' '

/-- The field behind a percent sign, and the rest. -/
def field? (cs : List Char) : Option (Field × List Char) :=
  let (name, cs) := match cs with
    | '(' :: rest =>
      (some (String.ofList (rest.takeWhile (· != ')'))), (rest.dropWhile (· != ')')).drop 1)
    | rest => (none, rest)
  let flags := cs.takeWhile isFlag
  let cs := cs.dropWhile isFlag
  let width := cs.takeWhile Char.isDigit
  let cs := cs.dropWhile Char.isDigit
  let (precision, cs) := match cs with
    | '.' :: rest => (some (Decimal.natural (rest.takeWhile Char.isDigit)), rest.dropWhile Char.isDigit)
    | rest => (none, rest)
  match cs with
  | kind :: rest => some (⟨name, flags, Decimal.natural width, precision, kind⟩, rest)
  | [] => none

/-- Pads to the width of a field; numbers may be padded with zeros behind their sign. -/
def Field.pad (f : Field) (number : Bool) (sign text : String) : String :=
  let gap := f.width - (sign.length + text.length)
  let copies (c : Char) : String := String.ofList (List.replicate gap c)
  if f.flags.contains '-' then sign ++ text ++ copies ' '
  else if number && f.flags.contains '0' then sign ++ copies '0' ++ text
  else copies ' ' ++ sign ++ text

/-- The sign that is written before a number. -/
def Field.sign (f : Field) (negative : Bool) : String :=
  if negative then "-" else if f.flags.contains '+' then "+"
  else if f.flags.contains ' ' then " " else ""

/-- A value as a whole number; doubles lose their fraction. -/
def whole? : Value → Option Int
  | .int n => some n
  | .bool b => some (if b then 1 else 0)
  | .float x => (Decimal.Binary.ofFloat? x).map fun b =>
    let (num, den) := b.ratio
    if b.negative then -((num / den : Nat) : Int) else ((num / den : Nat) : Int)
  | _ => none

/-- A value that is a whole number. -/
def integer? : Value → Option Int
  | .int n => some n
  | .bool b => some (if b then 1 else 0)
  | _ => none

/-- A value as a double. -/
def double? : Value → Option Float
  | .int n => some (Float.ofInt n)
  | .bool b => some (if b then 1.0 else 0.0)
  | .float x => some x
  | _ => none

/-- A text cut to the places of a field and padded. -/
def Field.showText (f : Field) (text : String) : String :=
  f.pad false "" (match f.precision with
    | some n => String.ofList (text.toList.take n)
    | none => text)

/-- A whole number in some base, with zeros in front up to the places of a field. -/
def Field.showWhole (f : Field) (base : Nat) (n : Int) : String :=
  let digits := Nat.toDigits base n.natAbs
  f.pad true (f.sign (n < 0))
    (String.ofList (List.replicate (f.precision.getD 0 - digits.length) '0' ++ digits))

/-- A value in a field. -/
def Field.show? (f : Field) (v : Value) : Option String :=
  match f.kind with
  | 's' => some (f.showText (Template.plainText v))
  | 'r' => some (f.showText v.display)
  | 'd' | 'i' | 'u' => (whole? v).map (f.showWhole 10)
  | 'f' | 'F' => (double? v).map fun x =>
    let size := Decimal.fixed (f.precision.getD 6) x
    if Text.startsWith size "-" then f.pad true "-" (Text.dropFirst 1 size)
    else f.pad true (f.sign false) size
  | 'x' => (integer? v).map (f.showWhole 16)
  | 'X' => (integer? v).map fun n => (f.showWhole 16 n).map Char.toUpper
  | 'o' => (integer? v).map (f.showWhole 8)
  | _ => none

/-- Fills in a template; `named` answers for fields with names and `items` for those without. -/
def fill (named : Entries) : Nat → List Value → List Char → Option String
  | _, items, [] => if items.isEmpty then some "" else none
  | 0, _, _ => none
  | fuel + 1, items, '%' :: rest =>
    match field? rest with
    | none => none
    | some (f, after) =>
      if f.kind = '%' then (fill named fuel items after).map ("%" ++ ·)
      else match f.name, items with
        | some name, _ => do
          let shown ← f.show? (← Assoc.get? name named)
          return shown ++ (← fill named fuel items after)
        | none, item :: others => do
          let shown ← f.show? item
          return shown ++ (← fill named fuel others after)
        | none, [] => none
  | fuel + 1, items, c :: rest => (fill named fuel items rest).map (String.singleton c ++ ·)

/-- Fills in a template with values in order. -/
def render? (template : String) (items : List Value) : Option String :=
  fill [] (template.length + 1) items template.toList

/-- Fills in a template with values by name. -/
def renderNamed? (template : String) (named : Entries) : Option String :=
  fill named (template.length + 1) [] template.toList

/-- Whether a named field stands somewhere in a template. -/
def hasNamedField : List Char → Bool
  | [] => false
  | '%' :: rest =>
    (field? rest).any (fun (f, _) =>
      f.name.any (fun n => n != "" && n.toList.all fun c => c.isAlphanum || c == '_') &&
        ("diouxefgcrsa%".toList.contains f.kind.toLower)) || hasNamedField rest
  | _ :: rest => hasNamedField rest

end CallChain.Text.Percent
