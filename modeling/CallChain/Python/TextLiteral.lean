import CallChain.Json.Reader
import CallChain.Python.Lexer

/-!
# What text literals mean

`decodeText?` and `decodeBytes?` replace the escapes of a literal.  `formatParts?` takes the body
of a format string apart into texts and replacement fields; the expression of a field is handed,
in parentheses, to a reader of expressions.  An expression inside a field holds neither a
backslash nor a comment sign, and fields nest two deep.

There is no table of character names here.  An escape with a name is accepted whatever the name is, and
stands for one character that it does not tell.
-/

namespace CallChain.Python

/-- What an escape letter stands for. -/
def letterEscape? : Char → Option Nat
  | '\\' => some 92
  | '\'' => some 39
  | '"' => some 34
  | 'a' => some 7
  | 'b' => some 8
  | 'f' => some 12
  | 'n' => some 10
  | 'r' => some 13
  | 't' => some 9
  | 'v' => some 11
  | _ => none

def isOctal (c : Char) : Bool := '0' ≤ c && c ≤ '7'

/-- Up to three octal digits at the front: their value and the rest. -/
def octalEscape (cs : List Char) : Nat × List Char :=
  let digits := (cs.take 3).takeWhile isOctal
  (digitsValue 8 digits, cs.drop digits.length)

/-- A character given by its name in braces.  Names are not looked up: every well-formed name
stands for the replacement character. -/
def namedEscape? : List Char → Option (Nat × List Char)
  | '{' :: rest =>
    let name := rest.takeWhile (· != '}')
    match rest.dropWhile (· != '}') with
    | '}' :: after =>
      if !name.isEmpty && name.all fun c => c.isAlphanum || c == ' ' || c == '-' then
        some (0xFFFD, after)
      else none
    | _ => none
  | _ => none

/-- A code point in exactly `width` hexadecimal digits. -/
def codeEscape? (width : Nat) (cs : List Char) : Option (Nat × List Char) := do
  let value ← Json.hexDigits? width 0 cs
  if value < 0x110000 then return (value, cs.drop width) else none

/-- The code points of a text literal whose escapes count. -/
def decodeText? : Nat → List Char → Option (List Nat)
  | _, [] => some []
  | 0, _ => none
  | fuel + 1, '\\' :: c :: rest =>
    let go (decoded : Option (Nat × List Char)) : Option (List Nat) := do
      let (point, after) ← decoded
      return point :: (← decodeText? fuel after)
    if c = '\n' then decodeText? fuel rest
    else if c = 'x' then go (codeEscape? 2 rest)
    else if c = 'u' then go (codeEscape? 4 rest)
    else if c = 'U' then go (codeEscape? 8 rest)
    else if c = 'N' then go (namedEscape? rest)
    else if isOctal c then go (some (octalEscape (c :: rest)))
    else match letterEscape? c with
      | some point => (decodeText? fuel rest).map (point :: ·)
      | none => (decodeText? fuel (c :: rest)).map (92 :: ·)
  | fuel + 1, c :: rest => (decodeText? fuel rest).map (c.toNat :: ·)

/-- The bytes of a bytes literal, which holds ASCII only. -/
def decodeBytes? (isRaw : Bool) : Nat → List Char → Option (List Nat)
  | _, [] => some []
  | 0, _ => none
  | fuel + 1, c :: rest =>
    if 128 ≤ c.toNat then none
    else if c = '\\' ∧ !isRaw then
      match rest with
      | [] => some [92]
      | d :: after =>
        if d = '\n' then decodeBytes? isRaw fuel after
        else if d = 'x' then do
          let value ← Json.hexDigits? 2 0 after
          return value :: (← decodeBytes? isRaw fuel (after.drop 2))
        else if isOctal d then
          let (value, after) := octalEscape rest
          (decodeBytes? isRaw fuel after).map (value % 256 :: ·)
        else match letterEscape? d with
          | some byte => (decodeBytes? isRaw fuel after).map (byte :: ·)
          | none => (decodeBytes? isRaw fuel rest).map (92 :: ·)
    else (decodeBytes? isRaw fuel rest).map (c.toNat :: ·)

/-- The code points of a text, escapes counted unless it is raw. -/
def textPoints? (isRaw : Bool) (cs : List Char) : Option (List Nat) :=
  if isRaw then some (cs.map Char.toNat) else decodeText? (cs.length + 1) cs

/-! ## Format strings -/

/-- A brace in literal text: outside of fields it may be doubled, and a closing one must be.
Gives the text it stands for, whether it was doubled, and the rest. -/
def literalBrace? (isTop : Bool) (brace : Char) (after : List Char) :
    Option (List Char × Bool × List Char) :=
  if isTop then
    match after with
    | d :: more =>
      if d = brace then some ([brace], true, more)
      else if brace = '}' then none
      else some ([], false, brace :: after)
    | [] => if brace = '}' then none else some ([], false, brace :: after)
  else some ([], false, brace :: after)

/-- The literal text in front of the next field: the text, whether it ends with a doubled brace,
and the rest.  Braces are doubled only outside of fields; `named` says that the text stands
inside the name of a character. -/
def literalRun? (isRaw isTop : Bool) : Nat → Bool → List Char →
    Option (List Char × Bool × List Char)
  | 0, _, _ => none
  | _ + 1, _, [] => some ([], false, [])
  | fuel + 1, true, c :: rest => (literalRun? isRaw isTop fuel (c != '}') rest).map (keep [c])
  | fuel + 1, false, c :: rest =>
    if c = '\\' ∧ !isRaw then
      match rest with
      | [] => some (['\\'], false, [])
      | 'N' :: '{' :: after => (literalRun? isRaw isTop fuel true after).map (keep ['\\', 'N', '{'])
      | d :: after =>
        if d = '{' ∨ d = '}' then (literalBrace? isTop d after).map (keep ['\\'])
        else (literalRun? isRaw isTop fuel false after).map (keep ['\\', d])
    else if c = '{' ∨ c = '}' then literalBrace? isTop c rest
    else (literalRun? isRaw isTop fuel false rest).map (keep [c])
where
  /-- Puts characters in front of a run. -/
  keep (cs : List Char) (run : List Char × Bool × List Char) : List Char × Bool × List Char :=
    (cs ++ run.1, run.2)

/-- The quote of a text inside an expression, and whether it is tripled. -/
abbrev OpenQuote := Option (Char × Bool)

/-- The expression of a field and the rest, which starts with what ends the expression: `!`,
`:`, `=` or `}`.  `brackets` holds the open brackets, `seen` the characters so far in reverse. -/
def fieldExpression? : Nat → OpenQuote → List Char → List Char → List Char →
    Option (List Char × List Char)
  | 0, _, _, _, _ => none
  | _ + 1, _, _, _, [] => none
  | fuel + 1, quote, brackets, seen, c :: rest =>
    if c = '\\' then none
    else match quote with
    | some (q, triple) =>
      if c = q then
        if triple then
          match rest with
          | a :: b :: after =>
            if a = q ∧ b = q then fieldExpression? fuel none brackets (b :: a :: c :: seen) after
            else fieldExpression? fuel quote brackets (c :: seen) rest
          | _ => fieldExpression? fuel quote brackets (c :: seen) rest
        else fieldExpression? fuel none brackets (c :: seen) rest
      else fieldExpression? fuel quote brackets (c :: seen) rest
    | none =>
      if c = '\'' ∨ c = '"' then
        match rest with
        | a :: b :: after =>
          if a = c ∧ b = c then fieldExpression? fuel (some (c, true)) brackets (b :: a :: c :: seen) after
          else fieldExpression? fuel (some (c, false)) brackets (c :: seen) rest
        | _ => fieldExpression? fuel (some (c, false)) brackets (c :: seen) rest
      else if c = '(' ∨ c = '[' ∨ c = '{' then
        fieldExpression? fuel none (c :: brackets) (c :: seen) rest
      else if c = '#' then none
      else if brackets.isEmpty && (c == '!' || c == ':' || c == '}' || c == '=' || c == '<' || c == '>') then
        let paired := (c != ':' && c != '}') && rest.head? == some '='
        if paired then fieldExpression? fuel none brackets ('=' :: c :: seen) (rest.drop 1)
        else if c = '<' ∨ c = '>' then fieldExpression? fuel none brackets (c :: seen) rest
        else some (seen.reverse, c :: rest)
      else if c = ')' ∨ c = ']' ∨ c = '}' then
        match brackets with
        | opening :: outer =>
          if Lexer.closing opening = c then fieldExpression? fuel none outer (c :: seen) rest else none
        | [] => none
      else fieldExpression? fuel none brackets (c :: seen) rest

/-- What has been put together of a text: the literal text at the end, and the values before it
in reverse. -/
structure JoinedText where
  pending : List Nat
  values : List Node

namespace JoinedText

/-- Turns the literal text at the end into a value. -/
def flush (t : JoinedText) : JoinedText :=
  if t.pending.isEmpty then t else ⟨[], .literal (.text t.pending false) :: t.values⟩

/-- The values in order. -/
def toNode (t : JoinedText) : Node := .joinedText t.flush.values.reverse

/-- Adds a field, behind the text that it shows of itself; what is shown and nothing else is said
about is shown in its own form. -/
def addField (t : JoinedText) (shown : Option (List Char)) (value : Node) (conversion : Option Char)
    (format : Option Node) : JoinedText :=
  let conversion := if shown.isSome && format.isNone && conversion.isNone then some 'r' else conversion
  let pending := t.pending ++ ((shown.getD []).map Char.toNat)
  let t := ({ t with pending } : JoinedText).flush
  { t with values := .formattedValue value conversion format :: t.values }

end JoinedText

/-- Whether a character is a blank of ASCII. -/
def isFieldBlank (c : Char) : Bool := c == ' ' || (9 ≤ c.toNat && c.toNat ≤ 13)

/-- The text that a field shows of its expression, which an equals sign behind it asks for, and
the rest. -/
def shownText (expression : List Char) : List Char → Option (List Char) × List Char
  | '=' :: more =>
    (some (expression ++ '=' :: more.takeWhile isFieldBlank), more.dropWhile isFieldBlank)
  | after => (none, after)

/-- The conversion of a field, if one is written, and the rest. -/
def fieldConversion? : List Char → Option (Option Char × List Char)
  | '!' :: c :: more => if c = 's' ∨ c = 'r' ∨ c = 'a' then some (some c, more) else none
  | '!' :: [] => none
  | more => some (none, more)

/-- Takes a format string apart.  `readExpression` reads an expression in parentheses that starts
at a place.  Gives what was joined and the rest, which is empty or starts with the brace that
closes the field around it. -/
def formatParts? (readExpression : Place → List Char → Option Node) (isRaw : Bool) :
    Nat → Nat → Place → List Char → JoinedText → Option (JoinedText × Place × List Char)
  | 0, _, _, _, _ => none
  | fuel + 1, level, place, cs, joined => do
    let (literal, doubled, rest) ← literalRun? isRaw (level == 0) (cs.length + 1) false cs
    let points ← textPoints? isRaw literal
    let joined := { joined with pending := joined.pending ++ points }
    let place := place.after (cs.take (cs.length - rest.length))
    if doubled then formatParts? readExpression isRaw fuel level place rest joined
    else match rest with
    | '{' :: body =>
      if 2 ≤ level then none
      let (expression, after) ← fieldExpression? (body.length + 1) none [] [] body
      if expression.all isFieldBlank then none
      let value ← readExpression place ('(' :: expression ++ [')'])
      let (shown, after) := shownText expression after
      let (conversion, after) ← fieldConversion? after
      let place := place.after (rest.take (rest.length - after.length))
      let (format, place, after) ← match after with
        | ':' :: more => do
          let (spec, place, after) ←
            formatParts? readExpression isRaw fuel (level + 1) (place.after [':']) more ⟨[], []⟩
          some (some spec.toNode, place, after)
        | more => some (none, place, more)
      match after with
      | '}' :: more =>
        formatParts? readExpression isRaw fuel level (place.after ['}']) more
          (joined.addField shown value conversion format)
      | _ => none
    | [] => if level = 0 then some (joined, place, []) else none
    | _ => if level = 0 then none else some (joined, place, rest)

/-- Joins adjacent text literals into one expression. -/
def joinTexts? (readExpression : Place → List Char → Option Node) (tokens : List TextToken) :
    Option Node :=
  if tokens.any TextToken.isBytes then
    if tokens.all TextToken.isBytes then do
      let parts ← tokens.mapM fun t => decodeBytes? t.isRaw (t.body.length + 1) t.body
      return .literal (.bytes parts.flatten)
    else none
  else do
    let joined ← tokens.foldlM (fun (joined : JoinedText) (t : TextToken) =>
      if t.isFormat then do
        let (joined, _, _) ← formatParts? readExpression t.isRaw (2 * t.body.length + 4) 0
          ⟨t.line, t.column⟩ t.body joined
        some joined
      else do
        let points ← textPoints? t.isRaw t.body
        some { joined with pending := joined.pending ++ points }) ⟨[], []⟩
    if tokens.any TextToken.isFormat then return joined.toNode
    else return .literal (.text joined.pending ((tokens.head?.map TextToken.isMarked).getD false))

end CallChain.Python
