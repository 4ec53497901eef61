import CallChain.Decimal.Reader
import CallChain.Value

/-!
# Reading JSON

The reader takes one value with blanks around it and nothing else.  It is lenient in what the
format is not: `NaN` and the infinities are numbers, and of a repeated key the last value
counts.  A fault says what was missing and at which character; `Fault.message` adds the line and
the column of that character.  A whole number of too many digits is a fault of another kind: the
text is JSON, but the number is not made.
-/

namespace CallChain.Json

/-- What is wrong with a text. -/
inductive Reason where
  | value
  | propertyName
  | colon
  | comma
  | extraData
  | unterminatedString
  | controlCharacter
  | escape
  | unicodeEscape
  | byteOrderMark
  /-- A whole number has so many digits that it is not read. -/
  | digits (count : Nat)

/-- The words for what is wrong. -/
def Reason.message : Reason → String
  | .value => "Expecting value"
  | .propertyName => "Expecting property name enclosed in double quotes"
  | .colon => "Expecting ':' delimiter"
  | .comma => "Expecting ',' delimiter"
  | .extraData => "Extra data"
  | .unterminatedString => "Unterminated string starting at"
  | .controlCharacter => "Invalid control character at"
  | .escape => "Invalid \\escape"
  | .unicodeEscape => "Invalid \\uXXXX escape"
  | .byteOrderMark => "Unexpected UTF-8 BOM (decode using utf-8-sig)"
  | .digits count => Decimal.unreadMessage count

/-- A fault at a character of the text. -/
structure Fault where
  reason : Reason
  position : Nat

/-- The fault with its place in the document: line and column from one, character from zero. -/
def Fault.message (document : List Char) (fault : Fault) : String :=
  let before := document.take fault.position
  let line := before.count '\n' + 1
  let column := (before.reverse.takeWhile (· != '\n')).length + 1
  fault.reason.message ++ ": line " ++ toString line ++ " column " ++ toString column ++
    " (char " ++ toString fault.position ++ ")"

/-- What is left to read, and the number of characters read before it. -/
structure Cursor where
  rest : List Char
  position : Nat

/-- Moves over blanks. -/
def skipBlanks : List Char → Nat → Cursor
  | [], n => ⟨[], n⟩
  | c :: rest, n =>
    if c = ' ' ∨ c = '\t' ∨ c = '\n' ∨ c = '\r' then skipBlanks rest (n + 1) else ⟨c :: rest, n⟩

def Cursor.skip (here : Cursor) : Cursor := skipBlanks here.rest here.position

/-- Moves over `count` characters. -/
def Cursor.advance (here : Cursor) (count : Nat) : Cursor :=
  ⟨here.rest.drop count, here.position + count⟩

/-- The value of a hexadecimal digit. -/
def hexDigit? (c : Char) : Option Nat :=
  if c.isDigit then some (c.toNat - 48)
  else if 'a' ≤ c ∧ c ≤ 'f' then some (c.toNat - 87)
  else if 'A' ≤ c ∧ c ≤ 'F' then some (c.toNat - 55)
  else none

/-- The value of exactly `count` hexadecimal digits at the front. -/
def hexDigits? : Nat → Nat → List Char → Option Nat
  | 0, value, _ => some value
  | _ + 1, _, [] => none
  | count + 1, value, c :: rest => do
    let d ← hexDigit? c
    hexDigits? count (value * 16 + d) rest

/-- The character that a one letter escape stands for. -/
def shortEscape? : Char → Option Char
  | '"' => some '"'
  | '\\' => some '\\'
  | '/' => some '/'
  | 'b' => some (Char.ofNat 8)
  | 'f' => some (Char.ofNat 12)
  | 'n' => some '\n'
  | 'r' => some '\r'
  | 't' => some '\t'
  | _ => none

/-- The second half of a pair of surrogates, when one follows. -/
def lowSurrogate? : List Char → Option Nat
  | '\\' :: 'u' :: rest => do
    let value ← hexDigits? 4 0 rest
    if 0xDC00 ≤ value ∧ value ≤ 0xDFFF then some value else none
  | _ => none

/-- The rest of a string that was opened at `start`; `seen` holds its characters in reverse. -/
def stringTail (start : Nat) : Nat → List Char → Nat → List Char → Except Fault (String × Cursor)
  | 0, _, _, _ => .error ⟨.unterminatedString, start⟩
  | _ + 1, [], _, _ => .error ⟨.unterminatedString, start⟩
  | fuel + 1, c :: rest, n, seen =>
    if c = '"' then .ok (String.ofList seen.reverse, ⟨rest, n + 1⟩)
    else if c = '\\' then
      match rest with
      | [] => .error ⟨.unterminatedString, start⟩
      | 'u' :: digits =>
        if digits.length < 5 then .error ⟨.unicodeEscape, n + 1⟩
        else
          match hexDigits? 4 0 digits with
          | none => .error ⟨.unicodeEscape, n + 1⟩
          | some high =>
            let after := digits.drop 4
            match (if 0xD800 ≤ high ∧ high ≤ 0xDBFF then lowSurrogate? after else none) with
            | some low =>
              let point := 0x10000 + (high - 0xD800) * 0x400 + (low - 0xDC00)
              stringTail start fuel (after.drop 6) (n + 12) (Text.charOf point :: seen)
            | none => stringTail start fuel after (n + 6) (Text.charOf high :: seen)
      | e :: after =>
        match shortEscape? e with
        | some d => stringTail start fuel after (n + 2) (d :: seen)
        | none => .error ⟨.escape, n⟩
    else if c.toNat < 32 then .error ⟨.controlCharacter, n⟩
    else stringTail start fuel rest (n + 1) (c :: seen)

/-- A number at the cursor: an integer part, and a fraction or an exponent where they are
complete. -/
def number (here : Cursor) : Except Fault (Value × Cursor) :=
  let (negative, body) := match here.rest with
    | '-' :: r => (true, r)
    | r => (false, r)
  let whole := match body with
    | '0' :: _ => ['0']
    | r => r.takeWhile Char.isDigit
  if whole.isEmpty then .error ⟨.value, here.position⟩
  else
    let rest := body.drop whole.length
    let (point, fraction) := match rest with
      | '.' :: d :: r => if d.isDigit then (true, (d :: r).takeWhile Char.isDigit) else (false, [])
      | _ => (false, [])
    let rest := if point then rest.drop (fraction.length + 1) else rest
    let (power, length) : Option Int × Nat := match rest with
      | e :: r =>
        if e = 'e' ∨ e = 'E' then
          let (minus, digits, extra) := match r with
            | '-' :: d => (true, d.takeWhile Char.isDigit, 2)
            | '+' :: d => (false, d.takeWhile Char.isDigit, 2)
            | d => (false, d.takeWhile Char.isDigit, 1)
          if digits.isEmpty then (none, 0)
          else
            let value : Int := Decimal.natural digits
            (some (if minus then -value else value), digits.length + extra)
        else (none, 0)
      | [] => (none, 0)
    let used := (if negative then 1 else 0) + whole.length +
      (if point then fraction.length + 1 else 0) + length
    if point || power.isSome then
      let size := Decimal.ofDigits (Decimal.natural (whole ++ fraction))
        (power.getD 0 - fraction.length)
      .ok (.float (if negative then -size else size), here.advance used)
    else if Decimal.digitLimit < whole.length then .error ⟨.digits whole.length, here.position⟩
    else
      let size : Int := Decimal.natural whole
      .ok (.int (if negative then -size else size), here.advance used)

/-- The words that stand for a value. -/
def words : List (String × Value) :=
  [("null", .null), ("true", .bool true), ("false", .bool false),
    ("NaN", .float (Float.ofBits 0x7FF8000000000000)),
    ("Infinity", .float (Float.ofBits 0x7FF0000000000000)),
    ("-Infinity", .float (Float.ofBits 0xFFF0000000000000))]

mutual

/-- One value at the cursor, which is not on a blank. -/
def value : Nat → Cursor → Except Fault (Value × Cursor)
  | 0, here => .error ⟨.value, here.position⟩
  | fuel + 1, here =>
    match here.rest with
    | [] => .error ⟨.value, here.position⟩
    | '"' :: rest => do
      let (s, after) ← stringTail here.position (rest.length + 1) rest (here.position + 1) []
      return (.text s, after)
    | '{' :: rest =>
      let inside := skipBlanks rest (here.position + 1)
      match inside.rest with
      | '}' :: _ => .ok (.object [], inside.advance 1)
      | _ => members fuel inside []
    | '[' :: rest =>
      let inside := skipBlanks rest (here.position + 1)
      match inside.rest with
      | ']' :: _ => .ok (.list [], inside.advance 1)
      | _ => elements fuel inside []
    | _ =>
      match words.find? (fun w => w.1.toList.isPrefixOf here.rest) with
      | some (word, v) => .ok (v, here.advance word.length)
      | none => number here

/-- The entries of an object up to its closing brace. -/
def members : Nat → Cursor → Entries → Except Fault (Value × Cursor)
  | 0, here, _ => .error ⟨.propertyName, here.position⟩
  | fuel + 1, here, entries =>
    match here.rest with
    | '"' :: rest => do
      let (key, after) ← stringTail here.position (rest.length + 1) rest (here.position + 1) []
      let after := after.skip
      match after.rest with
      | ':' :: _ =>
        let (v, after) ← value fuel (after.advance 1).skip
        let entries := Assoc.put key v entries
        let after := after.skip
        match after.rest with
        | '}' :: _ => return (.object entries, after.advance 1)
        | ',' :: _ => members fuel (after.advance 1).skip entries
        | _ => throw ⟨.comma, after.position⟩
      | _ => throw ⟨.colon, after.position⟩
    | _ => .error ⟨.propertyName, here.position⟩

/-- The items of a list up to its closing bracket; those read so far in reverse. -/
def elements : Nat → Cursor → List Value → Except Fault (Value × Cursor)
  | 0, here, _ => .error ⟨.value, here.position⟩
  | fuel + 1, here, items => do
    let (v, after) ← value fuel here
    let after := after.skip
    match after.rest with
    | ']' :: _ => return (.list (v :: items).reverse, after.advance 1)
    | ',' :: _ => elements fuel (after.advance 1).skip (v :: items)
    | _ => throw ⟨.comma, after.position⟩

end

/-- Reads a document. -/
def read (document : List Char) : Except Fault Value :=
  if document.head? = some (Char.ofNat 0xFEFF) then .error ⟨.byteOrderMark, 0⟩
  else do
    let (v, after) ← value (2 * document.length + 2) (skipBlanks document 0)
    let after := after.skip
    if after.rest.isEmpty then return v else throw ⟨.extraData, after.position⟩

end CallChain.Json
