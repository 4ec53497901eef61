import CallChain.Text.Printable

/-!
# Texts in quotes

A text is shown between apostrophes, or between double quotes when it holds an apostrophe and
no double quote.  Inside, the quote itself and the backslash are escaped, tab and line ends
have short escapes, and whatever is not printable is written by its code in two, four or eight
hexadecimal digits.  Texts are lists of code points, since a literal may hold a lone surrogate.
Bytes are shown the same way after a `b`, with every byte outside ASCII as a two digit escape.
-/

namespace CallChain.Text

/-- `value` in hexadecimal, padded with zeros to `width` digits. -/
def hex (width value : Nat) : List Char :=
  let digits := Nat.toDigits 16 value
  List.replicate (width - digits.length) '0' ++ digits

/-- The characters of a list of code points; what is no character becomes U+FFFD. -/
def charOf (point : Nat) : Char :=
  if point.isValidChar then Char.ofNat point else Char.ofNat 0xFFFD

/-- A code point by number. -/
def numericEscape (point : Nat) : List Char :=
  if point < 0x100 then '\\' :: 'x' :: hex 2 point
  else if point < 0x10000 then '\\' :: 'u' :: hex 4 point
  else '\\' :: 'U' :: hex 8 point

/-- The escape of a code point that is not shown as itself. -/
def escapePoint (point : Nat) : List Char :=
  if point = 92 then ['\\', '\\']
  else if point = 9 then ['\\', 't']
  else if point = 10 then ['\\', 'n']
  else if point = 13 then ['\\', 'r']
  else numericEscape point

/-- One code point inside quotes. -/
def quotePoint (quote point : Nat) : List Char :=
  if point = quote then ['\\', charOf point]
  else if point = 92 ∨ !isPrintable point then escapePoint point
  else [charOf point]

/-- The quote that surrounds a text: `'` unless that occurs in it and `"` does not. -/
def quoteFor (points : List Nat) : Nat :=
  if points.contains 39 && !points.contains 34 then 34 else 39

/-- A text in quotes. -/
def quotedPoints (points : List Nat) : String :=
  let quote := quoteFor points
  String.ofList (charOf quote :: points.flatMap (quotePoint quote) ++ [charOf quote])

/-- The code points of a text. -/
def points (text : String) : List Nat := text.toList.map Char.toNat

/-- A text in quotes. -/
def quoted (text : String) : String := quotedPoints (points text)

/-- One byte inside quotes. -/
def quoteByte (quote byte : Nat) : List Char :=
  if byte = quote then ['\\', charOf byte]
  else if byte = 92 ∨ byte = 9 ∨ byte = 10 ∨ byte = 13 then escapePoint byte
  else if byte < 32 ∨ 127 ≤ byte then '\\' :: 'x' :: hex 2 byte
  else [charOf byte]

/-- Bytes in quotes. -/
def quotedBytes (bytes : List Nat) : String :=
  let quote := quoteFor bytes
  String.ofList ('b' :: charOf quote :: bytes.flatMap (quoteByte quote) ++ [charOf quote])

end CallChain.Text
