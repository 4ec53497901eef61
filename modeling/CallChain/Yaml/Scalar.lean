import CallChain.Decimal.Reader
import CallChain.Value

/-!
# Plain scalars of YAML

A scalar without quotes stands for nothing, a truth value or a number if it is written like one,
and for its own text otherwise.  Whole numbers may be binary, octal after a zero, hexadecimal or
in base sixty with colons; a double has a point, and its exponent a sign.
-/

namespace CallChain.Yaml

def nullWords : List String := ["", "~", "null", "Null", "NULL"]
def trueWords : List String := ["yes", "Yes", "YES", "true", "True", "TRUE", "on", "On", "ON"]
def falseWords : List String := ["no", "No", "NO", "false", "False", "FALSE", "off", "Off", "OFF"]

/-- The value of a digit in bases up to sixteen. -/
def digitValue (c : Char) : Nat :=
  if c.isDigit then c.toNat - 48 else c.toLower.toNat - 87

/-- The value of digits in a base. -/
def inBase (base : Nat) (digits : List Char) : Nat :=
  digits.foldl (fun n c => n * base + digitValue c) 0

def isHexDigit (c : Char) : Bool :=
  c.isDigit || ('a' ≤ c.toLower && c.toLower ≤ 'f')

/-- The digits without underscores, if there is nothing else. -/
def digits? (allowed : Char → Bool) (cs : List Char) : Option (List Char) :=
  if !cs.isEmpty && cs.all fun c => allowed c || c == '_' then some (cs.filter (· != '_')) else none

/-- Whether a text is one or two digits below sixty. -/
def isSixtieth : List Char → Bool
  | [c] => c.isDigit
  | [c, d] => '0' ≤ c && c ≤ '5' && d.isDigit
  | _ => false

/-- A whole number without its sign. -/
def whole? : List Char → Option Nat
  | ['0'] => some 0
  | '0' :: 'b' :: rest => (digits? (fun c => c == '0' || c == '1') rest).map (inBase 2)
  | '0' :: 'x' :: rest => (digits? isHexDigit rest).map (inBase 16)
  | '0' :: rest => (digits? (fun c => '0' ≤ c && c ≤ '7') rest).map (inBase 8)
  | cs =>
    match Text.pieces ':' cs with
    | [] => none
    | first :: others =>
      if first.head?.any Char.isDigit && others.all isSixtieth then
        (digits? Char.isDigit first).map fun ds =>
          others.foldl (fun n part => n * 60 + inBase 10 part) (inBase 10 ds)
      else none

/-- A double without its sign: digits, a point, digits and an exponent with a sign. -/
def point? (cs : List Char) : Option Float :=
  let isPart (c : Char) : Bool := c.isDigit || c == '_'
  let front := cs.takeWhile isPart
  match cs.dropWhile isPart with
  | '.' :: rest =>
    let back := rest.takeWhile isPart
    let exponent := rest.dropWhile isPart
    let exponentFits := match exponent with
      | [] => true
      | e :: sign :: ds =>
        (e == 'e' || e == 'E') && (sign == '-' || sign == '+') && !ds.isEmpty && ds.all Char.isDigit
      | _ => false
    let startFits := if front.isEmpty then back.head?.any Char.isDigit else front.head?.any Char.isDigit
    if startFits && exponentFits then
      Decimal.decimal? ((front ++ '.' :: back).filter (· != '_') ++ exponent)
    else none
  | _ => none

/-- A double in base sixty without its sign. -/
def sixtyPoint? (cs : List Char) : Option Float :=
  match Text.pieces ':' cs with
  | first :: others =>
    match others.getLast?, digits? Char.isDigit first with
    | some last, some ds =>
      let whole := last.takeWhile Char.isDigit
      match last.dropWhile Char.isDigit with
      | '.' :: fraction =>
        if first.head?.any Char.isDigit && others.dropLast.all isSixtieth && isSixtieth whole &&
            fraction.all fun c => c.isDigit || c == '_' then
          let front := others.dropLast.foldl (fun n part => n * 60 + inBase 10 part) (inBase 10 ds)
          (Decimal.decimal? ((whole ++ '.' :: fraction).filter (· != '_'))).map fun x =>
            x + Float.ofNat (front * 60)
        else none
      | _ => none
    | _, _ => none
  | [] => none

/-- A double without its sign, infinity included. -/
def double? (signed : Bool) (cs : List Char) : Option Float :=
  let word := String.ofList cs
  if word = ".inf" ∨ word = ".Inf" ∨ word = ".INF" then some (Float.ofBits 0x7FF0000000000000)
  else if signed && cs.head? == some '.' then none
  else (point? cs).orElse fun _ => sixtyPoint? cs

/-- What a plain scalar stands for. -/
def plain (text : String) : Value :=
  let cs := text.toList
  let (negative, body) := Decimal.splitSign cs
  let signed := body.length < cs.length
  if nullWords.contains text then .null
  else if trueWords.contains text then .bool true
  else if falseWords.contains text then .bool false
  else if text = ".nan" ∨ text = ".NaN" ∨ text = ".NAN" then .float (Float.ofBits 0x7FF8000000000000)
  else match double? signed body with
    | some x => .float (if negative then -x else x)
    | none =>
      match whole? body with
      | some n => .int (if negative then -(n : Int) else n)
      | none => .text text

end CallChain.Yaml
