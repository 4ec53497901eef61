import CallChain.Decimal.Binary
import CallChain.Text.Blank
import CallChain.Text.Letters

/-!
# Reading numbers

`natural` reads digits, `decimal?` an unsigned decimal number.  `toFloat?` and `toInt?` read a
number that somebody typed: blanks around it are dropped, a sign may lead, single underscores
may stand between digits, and digits of any script count.  A whole number may have so many decimal
digits and no more, `digitLimit`, both where it is read and where it is written.
-/

namespace CallChain.Decimal

/-- How many decimal digits a whole number is read from, or written with, at most. -/
def digitLimit : Nat := 4300

/-- What is said about a whole number with more digits. -/
def limitMessage : String :=
  "Exceeds the limit (" ++ toString digitLimit ++ " digits) for integer string conversion"

/-- What is said about the limit itself. -/
def limitAdvice : String := "; use sys.set_int_max_str_digits() to increase the limit"

/-- What is said about so many digits that they are not read. -/
def unreadMessage (digits : Nat) : String :=
  limitMessage ++ ": value has " ++ toString digits ++ " digits" ++ limitAdvice

/-- What is said about a whole number that is not written. -/
def unwrittenMessage : String := limitMessage ++ limitAdvice

/-- The value of a list of ASCII digits. -/
def natural (digits : List Char) : Nat :=
  digits.foldl (fun n c => n * 10 + (c.toNat - 48)) 0

/-- Splits off the leading digits. -/
def spanDigits (cs : List Char) : List Char × List Char :=
  (cs.takeWhile Char.isDigit, cs.dropWhile Char.isDigit)

/-- Digits with single underscores between them, the underscores dropped; `started` says that
a digit stands right before. -/
def withoutUnderscores? : Bool → List Char → Option (List Char)
  | _, [] => some []
  | started, '_' :: c :: rest =>
    if started && c.isDigit then (withoutUnderscores? true rest).map (c :: ·) else none
  | _, ['_'] => none
  | _, c :: rest => (withoutUnderscores? c.isDigit rest).map (c :: ·)

/-- An optional exponent: its value and what follows.  An `e` without digits is an error. -/
def exponent? : List Char → Option (Int × List Char)
  | c :: rest =>
    if c = 'e' ∨ c = 'E' then
      let (negative, rest) := match rest with
        | '-' :: r => (true, r)
        | '+' :: r => (false, r)
        | r => (false, r)
      let (digits, rest) := spanDigits rest
      if digits.isEmpty then none
      else some (if negative then -(natural digits : Int) else natural digits, rest)
    else some (0, c :: rest)
  | [] => some (0, [])

/-- The whole text as an unsigned decimal number: digits, a point, an exponent. -/
def decimal? (cs : List Char) : Option Float := do
  let (whole, rest) := spanDigits cs
  let (fraction, rest) := match rest with
    | '.' :: r => spanDigits r
    | r => ([], r)
  if whole.isEmpty && fraction.isEmpty then none
  let (power, rest) ← exponent? rest
  if rest.isEmpty then
    return ofDigits (natural (whole ++ fraction)) (power - fraction.length)
  else none

/-- Replaces digits of any script by ASCII digits. -/
def asciiDigits (cs : List Char) : List Char :=
  cs.map fun c => match Text.decimalValue? c.toNat with
    | some d => Char.ofNat (48 + d)
    | none => c

/-- A leading sign. -/
def splitSign : List Char → Bool × List Char
  | '-' :: r => (true, r)
  | '+' :: r => (false, r)
  | r => (false, r)

/-- Reads a number that somebody typed, infinities and undefined values included. -/
def toFloat? (text : String) : Option Float := do
  let cs := asciiDigits (Text.trimBy (fun c => Text.isBlank c.toNat) text.toList)
  let (negative, cs) := splitSign cs
  let word := String.ofList (cs.map Char.toLower)
  let size ←
    if word = "inf" ∨ word = "infinity" then some (Float.ofBits 0x7FF0000000000000)
    else if word = "nan" then some (Float.ofBits 0x7FF8000000000000)
    else (withoutUnderscores? false cs).bind decimal?
  return if negative then -size else size

/-- Reads a whole number that somebody typed. -/
def toInt? (text : String) : Option Int := do
  let cs := asciiDigits (Text.trimBy (fun c => Text.isBlank c.toNat) text.toList)
  let (negative, cs) := splitSign cs
  let digits ← withoutUnderscores? false cs
  if digits.isEmpty || !digits.all Char.isDigit || digitLimit < digits.length then none
  return if negative then -(natural digits : Int) else natural digits

end CallChain.Decimal
