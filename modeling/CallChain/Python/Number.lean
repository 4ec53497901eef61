import CallChain.Decimal.Reader
import CallChain.Json.Reader
import CallChain.Python.Node
import CallChain.Text.Identifier

/-!
# Numbers of Python source

`scanNumber?` reads the number at the front of a text and gives its value and the rest.  Single
underscores may stand between digits, a whole number other than zero has no leading zero and not more
decimal digits than are read, and a number must not run into a word, except into one of the words
that can follow a number.
-/

namespace CallChain.Python

/-- Whether a character belongs to a word; outside ASCII the whole word is judged later. -/
def isWordChar (c : Char) : Bool :=
  c.isAlphanum || c == '_' || 128 ≤ c.toNat

/-- Whether a number may end right before this text. -/
def numberMayEnd (rest : List Char) : Bool :=
  let words := ["and", "else", "for", "if", "in", "is", "or", "not"]
  if words.any fun w => w.toList.isPrefixOf rest then true
  else match rest with
    | c :: _ => !isWordChar c
    | [] => true

/-- Groups of digits joined by single underscores: the digits and the rest.  The text must start
with a digit, and no underscore may be left hanging. -/
def digitGroups? (isDigit : Char → Bool) : Nat → List Char → Option (List Char × List Char)
  | 0, _ => none
  | fuel + 1, cs =>
    let digits := cs.takeWhile isDigit
    if digits.isEmpty then none
    else
      match cs.dropWhile isDigit with
      | '_' :: rest => do
        let (more, rest) ← digitGroups? isDigit fuel rest
        return (digits ++ more, rest)
      | rest => some (digits, rest)

/-- The value of digits in a base up to sixteen. -/
def digitsValue (base : Nat) (digits : List Char) : Nat :=
  digits.foldl (fun n c => n * base + ((Json.hexDigit? c).getD 0)) 0

/-- A whole number after `0x`, `0o` or `0b`. -/
def basedNumber? (base : Nat) (rest : List Char) : Option (Literal × List Char) := do
  let rest := match rest with
    | '_' :: r => r
    | r => r
  let isDigit (c : Char) : Bool := match Json.hexDigit? c with
    | some d => d < base
    | none => false
  let (digits, rest) ← digitGroups? isDigit (rest.length + 1) rest
  if base < 16 && (rest.head?.map Char.isDigit).getD false then none
  if numberMayEnd rest then return (.int (digitsValue base digits), rest) else none

/-- An exponent: its value, if one is written, and the rest. -/
def exponentPart? : List Char → Option (Option Int × List Char)
  | [] => some (none, [])
  | e :: rest =>
    if e = 'e' ∨ e = 'E' then
      match rest with
      | '-' :: r => do
        let (digits, r) ← digitGroups? Char.isDigit (r.length + 1) r
        return (some (-(Decimal.natural digits : Int)), r)
      | '+' :: r => do
        let (digits, r) ← digitGroups? Char.isDigit (r.length + 1) r
        return (some (Decimal.natural digits), r)
      | d :: r =>
        if d.isDigit then do
          let (digits, r) ← digitGroups? Char.isDigit (r.length + 2) (d :: r)
          return (some (Decimal.natural digits), r)
        else some (none, e :: d :: r)
      | [] => some (none, [e])
    else some (none, e :: rest)

/-- What follows the digits before the point: a fraction, an exponent, the mark of an imaginary
number. -/
def numberTail? (whole : List Char) (rest : List Char) : Option (Literal × List Char) := do
  let (point, fraction, rest) ← match rest with
    | '.' :: r =>
      if (r.head?.map Char.isDigit).getD false then do
        let (digits, r) ← digitGroups? Char.isDigit (r.length + 1) r
        some (true, digits, r)
      else some (true, [], r)
    | r => some (false, [], r)
  let (power, rest) ← exponentPart? rest
  let size := Decimal.ofDigits (Decimal.natural (whole ++ fraction)) (power.getD 0 - fraction.length)
  match rest with
  | j :: after =>
    if j = 'j' ∨ j = 'J' then
      if numberMayEnd after then return (.imaginary size, after) else none
  | [] => pure ()
  if !numberMayEnd rest then none
  if point || power.isSome then return (.float size, rest)
  -- a leading zero is only for zero itself
  if whole.head? = some '0' then
    if whole.any (· != '0') then none else return (.int 0, rest)
  if Decimal.digitLimit < whole.length then none
  return (.int (Decimal.natural whole), rest)

/-- The number at the front of a text that starts with a digit, or with a point and a digit. -/
def scanNumber? : List Char → Option (Literal × List Char)
  | '0' :: c :: rest =>
    if c = 'x' ∨ c = 'X' then basedNumber? 16 rest
    else if c = 'o' ∨ c = 'O' then basedNumber? 8 rest
    else if c = 'b' ∨ c = 'B' then basedNumber? 2 rest
    else do
      let (whole, rest) ← digitGroups? Char.isDigit (rest.length + 3) ('0' :: c :: rest)
      numberTail? whole rest
  | '.' :: rest => numberTail? [] ('.' :: rest)
  | cs => do
    let (whole, rest) ← digitGroups? Char.isDigit (cs.length + 1) cs
    numberTail? whole rest

end CallChain.Python
