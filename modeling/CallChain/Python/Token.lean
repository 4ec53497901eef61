import CallChain.Python.Node
import CallChain.Text.Identifier

/-!
# Tokens of Python source

A token is a word, a number, a text literal, an operator or one of the marks that stand for the
layout of lines: the end of a logical line, one level of indentation more or less, the end of
the source.  Text literals keep their body as written, since how it is read depends on the
letters in front of it and, for format strings, on the expressions inside.
-/

namespace CallChain.Python

/-- A text literal as written: the letters in front of it, the characters between its quotes,
and where those start. -/
structure TextToken where
  isRaw : Bool
  isBytes : Bool
  isFormat : Bool
  isMarked : Bool
  body : List Char
  line : Nat
  column : Nat

inductive TokenKind where
  | name (text : String)
  | keyword (text : String)
  | op (text : String)
  | number (value : Literal)
  | text (literal : TextToken)
  | newline
  | indent
  | dedent
  | endOfSource

structure Token where
  kind : TokenKind
  span : Span

/-- The words that cannot be names. -/
def keywords : List String :=
  ["False", "None", "True", "and", "as", "assert", "async", "await", "break", "class",
    "continue", "def", "del", "elif", "else", "except", "finally", "for", "from", "global", "if",
    "import", "in", "is", "lambda", "nonlocal", "not", "or", "pass", "raise", "return", "try",
    "while", "with", "yield"]

/-- Operators and delimiters, longer ones first. -/
def operators : List String :=
  ["**=", "//=", "<<=", ">>=", "...", "!=", "%=", "&=", "**", "*=", "+=", "-=", "->", "//", "/=",
    ":=", "<<", "<=", "==", ">=", ">>", "@=", "^=", "|=", "%", "&", "(", ")", "*", "+", ",",
    "-", ".", "/", ":", ";", "<", "=", ">", "@", "[", "]", "^", "\x7b", "|", "\x7d", "~"]

end CallChain.Python
