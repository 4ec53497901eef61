import CallChain.Text.Quoted

/-!
# Tokens of YAML

A document is cut into scalars and the marks of its structure.  Indentation becomes marks of its
own: a collection in block form begins where a key or a dash stands further to the right than
everything around it, and ends where the text goes back to the left.  A scalar turns out to be a
key when a colon follows it on the same line; the marks of the key and of its mapping are then
put in front of it.
-/

namespace CallChain.Yaml

/-- What can be wrong with a document. -/
inductive Problem where
  | unprintable
  | unknownToken
  | unexpectedKey
  | unexpectedValue
  | unexpectedEntry
  | missingColon
  | unterminated
  | escape
  | separator
  | misplaced
  | secondDocument
  | unhashableKey

def Problem.message : Problem → String
  | .unprintable => "special characters are not allowed"
  | .unknownToken => "found character that cannot start any token"
  | .unexpectedKey => "mapping keys are not allowed here"
  | .unexpectedValue => "mapping values are not allowed here"
  | .unexpectedEntry => "sequence entries are not allowed here"
  | .missingColon => "could not find expected ':'"
  | .unterminated => "found unexpected end of stream"
  | .escape => "found unknown escape character"
  | .separator => "found unexpected document separator"
  | .misplaced => "did not find expected node content"
  | .secondDocument => "expected a single document in the stream"
  | .unhashableKey => "found unhashable key"

/-- A piece of a document. -/
inductive Token where
  | documentStart
  | documentEnd
  | finish
  | blockSequence
  | blockMapping
  | blockEnd
  | flowSequence
  | flowSequenceEnd
  | flowMapping
  | flowMappingEnd
  | entry
  | comma
  | key
  | value
  | scalar (text : String) (plain : Bool)
  deriving DecidableEq

/-! ## Characters -/

def isBreak (c : Char) : Bool :=
  c == '\n' || c == '\r' || c == Char.ofNat 0x85 || c == Char.ofNat 0x2028 || c == Char.ofNat 0x2029

/-- Whether a character, or the end, separates tokens. -/
def separates : Option Char → Bool
  | none => true
  | some c => c == ' ' || c == '\t' || isBreak c

def isPrintable (c : Char) : Bool :=
  let n := c.toNat
  n == 9 || n == 10 || n == 13 || (0x20 ≤ n && n ≤ 0x7E) || n == 0x85 || (0xA0 ≤ n && n ≤ 0xFFFD) ||
    0x10000 ≤ n

/-- What is left of a document, and where that begins. -/
structure Cursor where
  rest : List Char
  line : Nat := 0
  column : Nat := 0
  index : Nat := 0

namespace Cursor

def peek (c : Cursor) (n : Nat) : Option Char := c.rest[n]?

/-- Moves over `n` characters of a line. -/
def advance (c : Cursor) (n : Nat) : Cursor :=
  { c with rest := c.rest.drop n, column := c.column + n, index := c.index + n }

/-- Moves over the end of a line, if one is here, and says what it counts as. -/
def takeBreak? (c : Cursor) : Option (Char × Cursor) :=
  let after (rest : List Char) (size : Nat) : Cursor := ⟨rest, c.line + 1, 0, c.index + size⟩
  match c.rest with
  | '\r' :: '\n' :: rest => some ('\n', after rest 2)
  | x :: rest =>
    if !isBreak x then none
    else some (if x.toNat < 0x100 then '\n' else x, after rest 1)
  | [] => none

/-- Whether three dashes or dots stand here on their own. -/
def atMarker (c : Cursor) : Bool :=
  (c.rest.take 3 == ['-', '-', '-'] || c.rest.take 3 == ['.', '.', '.']) && separates (c.peek 3)

end Cursor

/-- What is joined at ends of lines inside a scalar: one end is a blank, more are kept but for the
first. -/
def folded (first : Char) (others : List Char) : List Char :=
  if first != '\n' then first :: others else if others.isEmpty then [' '] else others

/-! ## Plain scalars -/

/-- The characters up to one that ends a word of a plain scalar. -/
def plainWord (flow : Bool) : List Char → List Char
  | [] => []
  | c :: rest =>
    let ends := separates (some c) ||
      (c == ':' && (separates rest.head? || (flow && rest.head?.any [',', '[', ']', '{', '}'].contains))) ||
      (flow && [',', '?', '[', ']', '{', '}'].contains c)
    if ends then [] else c :: plainWord flow rest

/-- Further ends of lines, and blanks between them; nothing at a document marker. -/
def plainBreaks : Nat → Cursor → List Char → Option (List Char) × Cursor
  | 0, c, found => (some found, c)
  | fuel + 1, c, found =>
    if c.peek 0 = some ' ' then plainBreaks fuel (c.advance 1) found
    else match c.takeBreak? with
      | none => (some found, c)
      | some (b, next) =>
        if next.atMarker then (none, next) else plainBreaks fuel next (found ++ [b])

/-- What stands between two words of a plain scalar, where the next one begins, and whether a line
ended in between. -/
def plainGap (c : Cursor) : Option (List Char) × Cursor × Bool :=
  let blanks := c.rest.takeWhile (· == ' ')
  let c := c.advance blanks.length
  match c.takeBreak? with
  | none => (some blanks, c, false)
  | some (first, next) =>
    if next.atMarker then (none, next, true)
    else
      let (others, next) := plainBreaks next.rest.length next []
      (others.map (folded first), next, true)

/-- A plain scalar: its text, where it ends, and whether a line ended after its last word. -/
def plainScalar (flow : Bool) (indent : Int) :
    Nat → Cursor → List Char → List Char → Bool → List Char × Cursor × Bool
  | 0, c, text, _, crossed => (text, c, crossed)
  | fuel + 1, c, text, gap, crossed =>
    let word := if c.peek 0 = some '#' then [] else plainWord flow c.rest
    if word.isEmpty then (text, c, crossed)
    else
      let text := text ++ gap ++ word
      let (gap, c, crossed) := plainGap (c.advance word.length)
      match gap with
      | none | some [] => (text, c, crossed)
      | some gap =>
        if c.peek 0 = some '#' ∨ (!flow ∧ (c.column : Int) < indent) then (text, c, crossed)
        else plainScalar flow indent fuel c text gap crossed

/-! ## Quoted scalars -/

/-- What a letter after a backslash stands for. -/
def escape? : Char → Option Nat
  | '0' => some 0 | 'a' => some 7 | 'b' => some 8 | 't' => some 9 | '\t' => some 9
  | 'n' => some 10 | 'v' => some 11 | 'f' => some 12 | 'r' => some 13 | 'e' => some 27
  | ' ' => some 32 | '"' => some 34 | '\\' => some 92 | '/' => some 47 | 'N' => some 0x85
  | '_' => some 0xA0 | 'L' => some 0x2028 | 'P' => some 0x2029
  | _ => none

/-- How many hexadecimal digits follow a letter after a backslash. -/
def escapeDigits? : Char → Option Nat
  | 'x' => some 2 | 'u' => some 4 | 'U' => some 8
  | _ => none

def hexValue? (digits : List Char) : Option Nat :=
  digits.foldl (fun acc c => acc.bind fun n =>
    if c.isDigit then some (n * 16 + (c.toNat - 48))
    else if 'a' ≤ c.toLower ∧ c.toLower ≤ 'f' then some (n * 16 + (c.toLower.toNat - 87))
    else none) (some 0)

/-- Ends of lines inside quotes, with the blanks around them. -/
def quotedBreaks : Nat → Cursor → List Char → Except Problem (List Char × Cursor)
  | 0, _, _ => .error .unterminated
  | fuel + 1, c, found =>
    if c.atMarker then .error .separator
    else
      let c := c.advance (c.rest.takeWhile fun x => x == ' ' || x == '\t').length
      match c.takeBreak? with
      | some (b, next) => quotedBreaks fuel next (found ++ [b])
      | none => .ok (found, c)

/-- The rest of a quoted scalar; `text` has been read. -/
def quotedScalar (double : Bool) : Nat → Cursor → List Char → Except Problem (List Char × Cursor)
  | 0, _, _ => .error .unterminated
  | fuel + 1, c, text =>
    match c.rest with
    | [] => .error .unterminated
    | x :: rest =>
      if x == ' ' || x == '\t' || isBreak x then do
        let blanks := c.rest.takeWhile fun y => y == ' ' || y == '\t'
        let after := c.advance blanks.length
        match after.takeBreak? with
        | some (first, next) =>
          let (others, next) ← quotedBreaks (next.rest.length + 1) next []
          quotedScalar double fuel next (text ++ folded first others)
        | none => quotedScalar double fuel after (text ++ blanks)
      else if double then
        if x = '"' then .ok (text, c.advance 1)
        else if x = '\\' then
          match rest with
          | [] => .error .escape
          | e :: _ =>
            match escape? e, escapeDigits? e with
            | some n, _ => quotedScalar double fuel (c.advance 2) (text ++ [Text.charOf n])
            | none, some count =>
              let digits := (c.rest.drop 2).take count
              match (if digits.length = count then hexValue? digits else none) with
              | some n => quotedScalar double fuel (c.advance (2 + count)) (text ++ [Text.charOf n])
              | none => .error .escape
            | none, none =>
              match (c.advance 1).takeBreak? with
              | none => .error .escape
              | some (_, next) => do
                let (others, next) ← quotedBreaks (next.rest.length + 1) next []
                quotedScalar double fuel next (text ++ others)
        else quotedScalar double fuel (c.advance 1) (text ++ [x])
      else if x = '\'' then
        if rest.head? = some '\'' then quotedScalar double fuel (c.advance 2) (text ++ [x])
        else .ok (text, c.advance 1)
      else quotedScalar double fuel (c.advance 1) (text ++ [x])

/-! ## Marks of the structure -/

/-- A scalar or collection that may turn out to be a key. -/
structure KeyPlace where
  /-- How many tokens stand before it. -/
  token : Nat
  required : Bool
  line : Nat
  column : Nat
  index : Nat

/-- The state of the scanner. -/
structure Scan where
  cursor : Cursor
  /-- The columns of the open block collections, innermost first. -/
  indents : List Int := []
  /-- How many brackets are open. -/
  depth : Nat := 0
  /-- Whether a key may begin here. -/
  keyAllowed : Bool := true
  /-- Possible keys by the number of brackets around them. -/
  places : List (Nat × KeyPlace) := []
  /-- The tokens found. -/
  tokens : Array Token := #[]

namespace Scan

def indent (s : Scan) : Int := s.indents.head?.getD (-1)

def emit (s : Scan) (t : Token) : Scan := { s with tokens := s.tokens.push t }

/-- Puts a token before the one at a place. -/
def insert (s : Scan) (place : Nat) (t : Token) : Scan :=
  { s with tokens := s.tokens.take place ++ #[t] ++ s.tokens.drop place }

/-- Moves over blanks, comments and ends of lines. -/
def skip : Nat → Scan → Scan
  | 0, s => s
  | fuel + 1, s =>
    let c := s.cursor
    let c := c.advance (c.rest.takeWhile (· == ' ')).length
    let c := if c.peek 0 = some '#' then c.advance (c.rest.takeWhile fun x => !isBreak x).length else c
    match c.takeBreak? with
    | none => { s with cursor := c }
    | some (_, next) =>
      skip fuel { s with cursor := next, keyAllowed := s.keyAllowed || s.depth == 0 }

/-- Drops possible keys that the cursor has left behind. -/
def dropStale (s : Scan) : Except Problem Scan :=
  let isStale (p : KeyPlace) : Bool := p.line != s.cursor.line || 1024 < s.cursor.index - p.index
  if s.places.any fun p => isStale p.2 && p.2.required then .error .missingColon
  else .ok { s with places := s.places.filter fun p => !isStale p.2 }

/-- Drops the possible key at this depth. -/
def dropPlace (s : Scan) : Except Problem Scan :=
  if s.places.any fun p => p.1 == s.depth && p.2.required then .error .missingColon
  else .ok { s with places := s.places.filter fun p => p.1 != s.depth }

/-- Notes that what begins here may turn out to be a key. -/
def savePlace (s : Scan) : Except Problem Scan :=
  if s.keyAllowed then do
    let required := s.depth == 0 && s.indent == s.cursor.column
    let s ← s.dropPlace
    return { s with places := (s.depth, ⟨s.tokens.size, required, s.cursor.line, s.cursor.column,
      s.cursor.index⟩) :: s.places }
  else .ok s

/-- Closes the block collections that stand further to the right than a column. -/
def closeTo (column : Int) : List Int → Scan → Scan
  | [], s => { s with indents := [] }
  | i :: outer, s =>
    if column < i then closeTo column outer (s.emit .blockEnd) else { s with indents := i :: outer }

def unwind (s : Scan) (column : Int) : Scan :=
  if s.depth == 0 then closeTo column s.indents s else s

/-- Opens a block collection at a column, unless one of that column or beyond is open. -/
def openBlock (s : Scan) (column : Nat) (place : Nat) (t : Token) : Scan :=
  if s.indent < column then { s.insert place t with indents := (column : Int) :: s.indents } else s

def move (s : Scan) (n : Nat) : Scan := { s with cursor := s.cursor.advance n }

/-- A mark between documents. -/
def marker (s : Scan) (t : Token) : Except Problem Scan := do
  let s ← (s.unwind (-1)).dropPlace
  return ({ s with keyAllowed := false }.emit t).move 3

def openFlow (s : Scan) (t : Token) : Except Problem Scan := do
  let s ← s.savePlace
  return ({ s with depth := s.depth + 1, keyAllowed := true }.emit t).move 1

def closeFlow (s : Scan) (t : Token) : Except Problem Scan := do
  let s ← s.dropPlace
  return ({ s with depth := s.depth - 1, keyAllowed := false }.emit t).move 1

def commaMark (s : Scan) : Except Problem Scan := do
  let s ← { s with keyAllowed := true }.dropPlace
  return (s.emit .comma).move 1

/-- A dash before an item. -/
def entryMark (s : Scan) : Except Problem Scan := do
  if s.depth == 0 && !s.keyAllowed then throw .unexpectedEntry
  let s := if s.depth == 0 then s.openBlock s.cursor.column s.tokens.size .blockSequence else s
  let s ← { s with keyAllowed := true }.dropPlace
  return (s.emit .entry).move 1

/-- A question mark before a key. -/
def keyMark (s : Scan) : Except Problem Scan := do
  if s.depth == 0 && !s.keyAllowed then throw .unexpectedKey
  let s := if s.depth == 0 then s.openBlock s.cursor.column s.tokens.size .blockMapping else s
  let s ← { s with keyAllowed := s.depth == 0 }.dropPlace
  return (s.emit .key).move 1

/-- A colon before a value. -/
def valueMark (s : Scan) : Except Problem Scan := do
  match (s.places.find? fun p => p.1 == s.depth) with
  | some (_, place) =>
    let s := { s with places := s.places.filter fun p => p.1 != s.depth }
    let s := s.insert place.token .key
    let s := if s.depth == 0 then s.openBlock place.column place.token .blockMapping else s
    return ({ s with keyAllowed := false }.emit .value).move 1
  | none =>
    if s.depth == 0 && !s.keyAllowed then throw .unexpectedValue
    let s := if s.depth == 0 then s.openBlock s.cursor.column s.tokens.size .blockMapping else s
    let s ← { s with keyAllowed := s.depth == 0 }.dropPlace
    return (s.emit .value).move 1

/-- A scalar in quotes. -/
def quotedMark (s : Scan) (double : Bool) : Except Problem Scan := do
  let s ← s.savePlace
  let (text, cursor) ← quotedScalar double (s.cursor.rest.length + 1) (s.cursor.advance 1) []
  return { s with cursor, keyAllowed := false }.emit (.scalar (String.ofList text) false)

/-- A scalar without quotes. -/
def plainMark (s : Scan) : Except Problem Scan := do
  let s ← s.savePlace
  let (text, cursor, crossed) :=
    plainScalar (s.depth != 0) (s.indent + 1) s.cursor.rest.length s.cursor [] [] false
  return { s with cursor, keyAllowed := crossed }.emit (.scalar (String.ofList text) true)

/-- Whether a plain scalar may begin here. -/
def startsPlain (s : Scan) (c : Char) : Bool :=
  let special := ['-', '?', ':', ',', '[', ']', '{', '}', '#', '&', '*', '!', '|', '>', '\'', '"', '%',
    '@', Char.ofNat 96]
  (!special.contains c && !separates (some c)) ||
    (!separates (s.cursor.peek 1) && (c == '-' || (s.depth == 0 && (c == '?' || c == ':'))))

/-- Takes up the token that begins with a character. -/
def token (s : Scan) (c : Char) : Except Problem Scan :=
  let alone := separates (s.cursor.peek 1)
  let inFlow := s.depth != 0
  if s.cursor.column == 0 && s.cursor.atMarker then
    s.marker (if c = '-' then .documentStart else .documentEnd)
  else if c = '[' then s.openFlow .flowSequence
  else if c = '{' then s.openFlow .flowMapping
  else if c = ']' then s.closeFlow .flowSequenceEnd
  else if c = '}' then s.closeFlow .flowMappingEnd
  else if c = ',' then s.commaMark
  else if c = '-' ∧ alone then s.entryMark
  else if c = '?' ∧ (inFlow ∨ alone) then s.keyMark
  else if c = ':' ∧ (inFlow ∨ alone) then s.valueMark
  else if c = '\'' then s.quotedMark false
  else if c = '"' then s.quotedMark true
  else if s.startsPlain c then s.plainMark
  else .error .unknownToken

/-- Takes up all tokens. -/
def run : Nat → Scan → Except Problem (List Token)
  | 0, _ => .error .unterminated
  | fuel + 1, s => do
    let s ← (s.skip (s.cursor.rest.length + 1)).dropStale
    let s := s.unwind s.cursor.column
    match s.cursor.peek 0 with
    | none =>
      let s ← (s.unwind (-1)).dropPlace
      return (s.emit .finish).tokens.toList
    | some c => (← s.token c).run fuel

end Scan

/-- The tokens of a document. -/
def tokens (document : List Char) : Except Problem (List Token) :=
  if !document.all isPrintable then .error .unprintable
  else
    let rest := if document.head? = some (Char.ofNat 0xFEFF) then document.tail else document
    ({ cursor := { rest } } : Scan).run (rest.length + 2)

end CallChain.Yaml
