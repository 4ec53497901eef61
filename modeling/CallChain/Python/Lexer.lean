import CallChain.Python.Number
import CallChain.Python.Token
import CallChain.Text.Compatibility
import CallChain.Text.Words

/-!
# From characters to tokens

The lexer reads one lexeme at a time and keeps three stacks: the tokens found, the open
brackets and the indentation of the open blocks.  Inside brackets lines do not count.  Outside,
each line that holds more than blanks and a comment is compared with the open blocks.  A margin
is measured twice, with tabs reaching to multiples of eight columns and with tabs as wide as one
blank, and both readings must tell the same story.

Brackets nest at most two hundred deep and blocks at most a hundred.
-/

namespace CallChain.Python

/-- A place in the source. -/
structure Place where
  line : Nat
  column : Nat

/-- The place after some characters. -/
def Place.after (place : Place) (cs : List Char) : Place :=
  cs.foldl (fun p c => if c = '\n' then ⟨p.line + 1, 0⟩ else ⟨p.line, p.column + c.utf8Size⟩) place

/-- The width of a margin, with wide and with narrow tabs. -/
structure Margin where
  wide : Nat
  narrow : Nat
  deriving DecidableEq

/-- Measures the margin at the start of a line.  `held` is the margin before a backslash that
joins lines, which counts instead of what follows it.  Gives the margin, the rest of the line
and the place of that rest. -/
def measureMargin : List Char → Margin → Option Nat → Place → Option (Margin × List Char × Place)
  | ' ' :: rest, m, held, p => measureMargin rest ⟨m.wide + 1, m.narrow + 1⟩ held (p.after [' '])
  | '\t' :: rest, m, held, p =>
    measureMargin rest ⟨(m.wide / 8 + 1) * 8, m.narrow + 1⟩ held (p.after ['\t'])
  | '\x0c' :: rest, _, held, p => measureMargin rest ⟨0, 0⟩ held (p.after ['\x0c'])
  | '\\' :: '\n' :: rest, m, held, p =>
    if rest.isEmpty then none
    else measureMargin rest m (if held.getD 0 = 0 then some m.wide else held) (p.after ['\\', '\n'])
  | '\\' :: _, _, _, _ => none
  | rest, m, held, p =>
    let width := held.getD 0
    some (if width = 0 then m else ⟨width, width⟩, rest, p)

/-- The body of a text literal up to its closing quotes, and what follows them. -/
def textBody? (quote : Char) (triple : Bool) : List Char → Option (List Char × List Char)
  | [] => none
  | '\\' :: c :: rest => (textBody? quote triple rest).map fun (b, r) => ('\\' :: c :: b, r)
  | c :: rest =>
    if c = quote then
      if !triple then some ([], rest)
      else match rest with
        | d :: e :: after =>
          if d = quote ∧ e = quote then some ([], after)
          else (textBody? quote triple rest).map fun (b, r) => (c :: b, r)
        | _ => none
    else if c = '\n' ∧ !triple then none
    else (textBody? quote triple rest).map fun (b, r) => (c :: b, r)

/-- What the lexer knows between two lexemes. -/
structure Lexer where
  rest : List Char
  place : Place
  /-- The margins of the open blocks, innermost first. -/
  margins : List Margin
  /-- The open brackets, innermost first. -/
  brackets : List Char
  /-- Whether the line has nothing but blanks and a comment. -/
  blank : Bool
  tokens : Array Token

namespace Lexer

/-- Adds a token that ends where the rest begins. -/
def emit (lx : Lexer) (kind : TokenKind) (stop : Place) (rest : List Char) : Lexer :=
  let span := ⟨lx.place.line, lx.place.column, stop.line, stop.column⟩
  { lx with rest, place := stop, tokens := lx.tokens.push ⟨kind, span⟩ }

/-- Adds a mark of the layout. -/
def mark (lx : Lexer) (kind : TokenKind) : Lexer := lx.emit kind lx.place lx.rest

/-- Closes blocks until the margin is met. -/
def closeBlocks (margin : Margin) : List Margin → Lexer → Option Lexer
  | [], _ => none
  | top :: outer, lx =>
    if margin.wide < top.wide then closeBlocks margin outer { lx.mark .dedent with margins := outer }
    else if margin.wide = top.wide ∧ margin.narrow = top.narrow then some lx
    else none

/-- Compares the margin of a line with the open blocks. -/
def layout (lx : Lexer) (margin : Margin) : Option Lexer :=
  match lx.margins with
  | [] => none
  | top :: _ =>
    if margin.wide = top.wide then if margin.narrow = top.narrow then some lx else none
    else if top.wide < margin.wide then
      if lx.margins.length < 100 ∧ top.narrow < margin.narrow then
        some { lx.mark .indent with margins := margin :: lx.margins }
      else none
    else closeBlocks margin lx.margins lx

/-- Starts a line. -/
def startLine (lx : Lexer) : Option Lexer := do
  let (margin, rest, place) ← measureMargin lx.rest ⟨0, 0⟩ none lx.place
  let blank := match rest with
    | '#' :: _ => true
    | '\n' :: _ => true
    | [] => true
    | _ => false
  let lx := { lx with rest, place, blank }
  if blank || !lx.brackets.isEmpty then return lx else lx.layout margin

/-- The letters that may stand in front of a text literal. -/
def textLetters : List String := ["b", "u", "r", "f", "br", "rb", "fr", "rf"]

/-- A text literal after its letters. -/
def textLiteral (lx : Lexer) (letters : List Char) (quoted : List Char) : Option Lexer :=
  match quoted with
  | quote :: rest => do
    let (triple, opened) := match rest with
      | a :: b :: after => if a = quote ∧ b = quote then (true, after) else (false, rest)
      | _ => (false, rest)
    let (body, after) ← textBody? quote triple opened
    let quotes := List.replicate (if triple then 3 else 1) quote
    let start := lx.place.after (letters ++ quotes)
    let has (c : Char) : Bool := letters.any fun d => d.toLower == c
    let token : TextToken :=
      { isRaw := has 'r', isBytes := has 'b', isFormat := has 'f',
        isMarked := letters.head? == some 'u', body, line := start.line, column := start.column }
    return lx.emit (.text token) ((start.after body).after quotes) after
  | [] => none

/-- A word: a keyword, a name, or the letters in front of a text literal. -/
def word (lx : Lexer) : Option Lexer :=
  let cs := lx.rest.takeWhile isWordChar
  let after := lx.rest.dropWhile isWordChar
  let spelled := String.ofList cs
  let opensText : Bool := match after with
    | c :: _ => (c = '\'' ∨ c = '"') ∧ textLetters.contains (Text.lowerAscii spelled)
    | [] => false
  if opensText then lx.textLiteral cs after
  else if keywords.contains spelled then some (lx.emit (.keyword spelled) (lx.place.after cs) after)
  else if cs.all fun c => c.toNat < 128 then some (lx.emit (.name spelled) (lx.place.after cs) after)
  else if Text.isIdentifier cs then
    some (lx.emit (.name (String.ofList (Text.compatible cs))) (lx.place.after cs) after)
  else none

/-- The bracket that closes an opening one. -/
def closing : Char → Char
  | '(' => ')'
  | '[' => ']'
  | _ => '}'

/-- An operator or a delimiter. -/
def operator (lx : Lexer) : Option Lexer := do
  let spelled ← operators.find? fun o => o.toList.isPrefixOf lx.rest
  let cs := spelled.toList
  let lx' := lx.emit (.op spelled) (lx.place.after cs) (lx.rest.drop cs.length)
  match cs with
  | [c] =>
    if c = '(' ∨ c = '[' ∨ c = '{' then
      if lx.brackets.length < 200 then return { lx' with brackets := c :: lx.brackets } else none
    else if c = ')' ∨ c = ']' ∨ c = '}' then
      match lx.brackets with
      | opening :: outer => if closing opening = c then return { lx' with brackets := outer } else none
      | [] => none
    else return lx'
  | _ => return lx'

/-- Reads one lexeme. -/
def step (lx : Lexer) : Option Lexer :=
  match lx.rest with
  | [] => some lx
  | c :: rest =>
    if c = ' ' ∨ c = '\t' ∨ c = '\x0c' then some { lx with rest, place := lx.place.after [c] }
    else if c = '#' then
      let comment := lx.rest.takeWhile (· != '\n')
      some { lx with rest := lx.rest.dropWhile (· != '\n'), place := lx.place.after comment }
    else if c = '\n' then
      let next := lx.place.after ['\n']
      let lx' := if lx.blank || !lx.brackets.isEmpty then { lx with rest, place := next }
        else lx.emit .newline next rest
      lx'.startLine
    else if c = '\\' then
      match rest with
      | '\n' :: more =>
        if more.isEmpty then none
        else some { lx with rest := more, place := lx.place.after ['\\', '\n'] }
      | _ => none
    else if c.isDigit || (c == '.' && (rest.head?.map Char.isDigit).getD false) then do
      let (value, after) ← scanNumber? lx.rest
      let used := lx.rest.take (lx.rest.length - after.length)
      return lx.emit (.number value) (lx.place.after used) after
    else if c = '\'' ∨ c = '"' then lx.textLiteral [] lx.rest
    else if isWordChar c then lx.word
    else lx.operator

/-- Reads lexemes until nothing is left. -/
def run : Nat → Lexer → Option Lexer
  | 0, lx => some lx
  | fuel + 1, lx => if lx.rest.isEmpty then some lx else lx.step.bind (run fuel)

/-- Closes the blocks that are open at the end. -/
def finish (lx : Lexer) : Array Token :=
  let closed := (lx.margins.drop 1).foldl (fun l _ => l.mark .dedent) lx
  (closed.mark .endOfSource).tokens

end Lexer

/-- The tokens of a source that starts at a place; the last line is ended if it is not. -/
def tokenize (place : Place) (source : List Char) : Option (Array Token) := do
  let cs := Text.unifyLineEnds source
  let cs := if cs.isEmpty ∨ cs.getLast? = some '\n' then cs else cs ++ ['\n']
  let lx : Lexer := { rest := cs, place, margins := [⟨0, 0⟩], brackets := [], blank := true, tokens := #[] }
  let lx ← lx.startLine
  let lx ← lx.run (cs.length + 1)
  return lx.finish

end CallChain.Python
