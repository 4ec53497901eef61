/-!
# Cutting texts at marks

Every function here works on the characters of a text.  `splitOn` cuts at each occurrence of
one character, `cutFirst` and `cutLast` at the first and at the last one; `joinWith` is the
opposite of `splitOn`.  `below` and `startsWith` compare texts by code points.
-/

namespace CallChain.Text

/-- The pieces between the occurrences of `mark`; always at least one piece. -/
def pieces (mark : Char) : List Char → List (List Char)
  | [] => [[]]
  | c :: rest =>
    if c = mark then [] :: pieces mark rest
    else
      match pieces mark rest with
      | [] => [[c]]
      | first :: others => (c :: first) :: others

/-- Cuts a text at each occurrence of `mark`. -/
def splitOn (mark : Char) (text : String) : List String :=
  (pieces mark text.toList).map String.ofList

/-- Puts `mark` between the texts. -/
def joinWith (mark : String) : List String → String
  | [] => ""
  | [one] => one
  | first :: rest => first ++ mark ++ joinWith mark rest

/-- What stands before and after the first `mark`; nothing if there is none. -/
def cutFirst? (mark : Char) (text : String) : Option (String × String) :=
  match text.toList.dropWhile (· != mark) with
  | [] => none
  | _ :: after => some (String.ofList (text.toList.takeWhile (· != mark)), String.ofList after)

/-- What stands before and after the last `mark`; nothing if there is none. -/
def cutLast? (mark : Char) (text : String) : Option (String × String) :=
  match text.toList.reverse.dropWhile (· != mark) with
  | [] => none
  | _ :: before =>
    some (String.ofList before.reverse,
      String.ofList (text.toList.reverse.takeWhile (· != mark)).reverse)

/-- The part of a dotted name before its first dot. -/
def firstPart (dotted : String) : String :=
  ((cutFirst? '.' dotted).map Prod.fst).getD dotted

/-- The part of a dotted name after its last dot. -/
def lastPart (dotted : String) : String :=
  ((cutLast? '.' dotted).map Prod.snd).getD dotted

/-- Whether `text` begins with `head`. -/
def startsWith (text head : String) : Bool := head.toList.isPrefixOf text.toList

/-- Whether `text` ends with `tail`. -/
def endsWith (text tail : String) : Bool := tail.toList.isSuffixOf text.toList

/-- Drops the first `n` characters. -/
def dropFirst (n : Nat) (text : String) : String := String.ofList (text.toList.drop n)

/-- Drops the last `n` characters. -/
def dropLast (n : Nat) (text : String) : String :=
  String.ofList (text.toList.take (text.toList.length - n))

/-- Replaces each character for which `replace` has something to say. -/
def mapChars (replace : Char → List Char) (text : String) : String :=
  String.ofList (text.toList.flatMap replace)

/-- A text in lower case, letters of ASCII only: enough to compare with a name in ASCII, since
no other character has the lower case of an ASCII letter but `K` and `İ`, which name no ending. -/
def lowerAscii (text : String) : String := text.map Char.toLower

/-- `count` copies of a text. -/
def repeated (text : String) : Nat → String
  | 0 => ""
  | count + 1 => text ++ repeated text count

/-- Pads on the left up to a width. -/
def padLeft (width : Nat) (fill : Char) (text : String) : String :=
  String.ofList (List.replicate (width - text.length) fill) ++ text

/-- Every end of line as a line feed. -/
def unifyLineEnds : List Char → List Char
  | [] => []
  | '\r' :: '\n' :: rest => '\n' :: unifyLineEnds rest
  | '\r' :: rest => '\n' :: unifyLineEnds rest
  | c :: rest => c :: unifyLineEnds rest

/-- Whether `part` occurs somewhere in the list. -/
def occursIn {α : Type} [BEq α] (part : List α) : List α → Bool
  | [] => part.isEmpty
  | a :: rest => part.isPrefixOf (a :: rest) || occursIn part rest

end CallChain.Text
