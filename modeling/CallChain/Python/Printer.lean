import CallChain.Decimal.Reader
import CallChain.Decimal.Shortest
import CallChain.Python.Node
import CallChain.Text.Quoted
import CallChain.Text.Words

/-!
# Expressions as source text

`Node.print` writes an expression in one normal form: fixed spacing, numbers by value, texts in
quotes chosen to need few escapes, and parentheses where the binding strength of an expression
is below what its place asks for.  Operands of `and` and `or` are asked for one level more from
each to the next, a tuple has its parentheses except as an index or as the target of a
comprehension, and a blank follows a whole number or truth value whose attribute is accessed.

Inside a replacement field no backslash may be written, so texts there take the quotes that
avoid them.  Where that does not help, as with a character that is not printable, the expression has
no source text, and neither has one with a whole number of too many digits: `Unprintable`.
-/

namespace CallChain.Python

/-- Why an expression has no source text. -/
inductive Unprintable where
  /-- A replacement field needs a backslash. -/
  | backslash
  /-- A whole number has too many digits. -/
  | digits
  deriving DecidableEq, Inhabited

def Unprintable.message : Unprintable → String
  | .backslash => "Unable to avoid backslash in f-string expression part"
  | .digits => Decimal.unwrittenMessage

/-! ## Binding strength -/

namespace Level

def named : Nat := 0
def tuple : Nat := 1
def yields : Nat := 2
def test : Nat := 3
def or : Nat := 4
def and : Nat := 5
def not : Nat := 6
def compare : Nat := 7
def bitOr : Nat := 8
def bitXor : Nat := 9
def bitAnd : Nat := 10
def shift : Nat := 11
def sum : Nat := 12
def term : Nat := 13
def factor : Nat := 14
def power : Nat := 15
def await : Nat := 16
def atom : Nat := 17

/-- The next stronger level. -/
def next (level : Nat) : Nat := min (level + 1) atom

end Level

/-- The spelling and the level of a binary operator. -/
def BinaryOp.spelling : BinaryOp → String × Nat
  | .add => ("+", Level.sum)
  | .sub => ("-", Level.sum)
  | .mult => ("*", Level.term)
  | .matMult => ("@", Level.term)
  | .div => ("/", Level.term)
  | .mod => ("%", Level.term)
  | .leftShift => ("<<", Level.shift)
  | .rightShift => (">>", Level.shift)
  | .bitOr => ("|", Level.bitOr)
  | .bitXor => ("^", Level.bitXor)
  | .bitAnd => ("&", Level.bitAnd)
  | .floorDiv => ("//", Level.term)
  | .power => ("**", Level.power)

def CompareOp.spelling : CompareOp → String
  | .eq => "=="
  | .notEq => "!="
  | .lt => "<"
  | .ltE => "<="
  | .gt => ">"
  | .gtE => ">="
  | .is => "is"
  | .isNot => "is not"
  | .in => "in"
  | .notIn => "not in"

/-- The spelling and the level of a unary operator; a word is followed by a blank. -/
def UnaryOp.spelling : UnaryOp → String × Nat
  | .invert => ("~", Level.factor)
  | .not => ("not ", Level.not)
  | .plus => ("+", Level.factor)
  | .minus => ("-", Level.factor)

/-! ## Texts -/

/-- The quotes that a text may stand in, the preferred ones first. -/
def quoteStyles : List (List Nat) :=
  [[39], [34], [34, 34, 34], [39, 39, 39]]

/-- A code point in a text; tabs and line ends are escaped only where that is preferred. -/
def escapeInText (escapeLayout : Bool) (point : Nat) : List Nat :=
  if !escapeLayout && (point == 10 || point == 9) then [point]
  else if point = 92 ∨ !Text.isPrintable point then (Text.escapePoint point).map Char.toNat
  else [point]

/-- A text with its escapes, and the styles of `styles` that it can stand in, best first. -/
def textInStyles (styles : List (List Nat)) (escapeLayout : Bool) (points : List Nat) :
    List Nat × List (List Nat) :=
  let escaped := points.flatMap (escapeInText escapeLayout)
  let possible := if escaped.contains 10 then styles.filter (·.length == 3) else styles
  let possible := possible.filter fun q => !Text.occursIn q escaped
  if possible.isEmpty then
    let shown := Text.points (Text.quotedPoints points)
    let quote := shown.head?.getD 39
    ((shown.drop 1).dropLast, [(styles.find? (·.contains quote)).getD [quote]])
  else
    match escaped.getLast? with
    | none => (escaped, possible)
    | some last =>
      let (clashing, free) := possible.partition (·.head? == some last)
      if free.isEmpty then (escaped.dropLast ++ [92, last], clashing) else (escaped, free ++ clashing)

/-- The characters of code points. -/
def ofPoints (points : List Nat) : String := String.ofList (points.map Text.charOf)

/-- A text in the best style. -/
def textAvoidingEscapes (points : List Nat) : String :=
  let (body, styles) := textInStyles quoteStyles false points
  let quote := styles.head?.getD [39]
  ofPoints (quote ++ body ++ quote)

/-- The parts of a format string between quotes that suit all of them: each part with whether
it is literal text. -/
def formatText (parts : List (List Nat × Bool)) : String :=
  let (body, styles) := parts.foldl (fun (acc : List Nat × List (List Nat)) part =>
    let (text, styles) := textInStyles acc.2 part.2 part.1
    (acc.1 ++ text, styles)) ([], quoteStyles)
  let quote := styles.head?.getD [39]
  ofPoints (quote ++ body ++ quote)

/-- Braces doubled. -/
def doubleBraces (points : List Nat) : List Nat :=
  points.flatMap fun p => if p = 123 ∨ p = 125 then [p, p] else [p]

/-- A double as source text, infinities as a literal that is too large. -/
def floatText (x : Float) : String :=
  let text := Decimal.render Decimal.Layout.plain x
  if text = "inf" then "1e309" else text

/-- An imaginary number: whole numbers have no point. -/
def imaginaryText (x : Float) : String :=
  let text := floatText x
  (if Text.endsWith text ".0" then Text.dropLast 2 text else text) ++ "j"

/-- A literal; a whole number of too many digits is not written. -/
def Literal.print (avoidEscapes : Bool) : Literal → Except Unprintable String
  | .none => .ok "None"
  | .bool b => .ok (if b then "True" else "False")
  | .ellipsis => .ok "..."
  | .int n =>
    let digits := toString n
    if Decimal.digitLimit < digits.length then .error .digits else .ok digits
  | .float x => .ok (floatText x)
  | .imaginary x => .ok (imaginaryText x)
  | .text points marked =>
    .ok ((if marked then "u" else "") ++
      (if avoidEscapes then textAvoidingEscapes points else Text.quotedPoints points))
  | .bytes content => .ok (Text.quotedBytes content)

/-! ## Expressions -/

/-- Puts parentheses around a text. -/
def enclose (needed : Bool) (text : String) : String :=
  if needed then "(" ++ text ++ ")" else text

def commaList (items : List String) : String := Text.joinWith ", " items

/-- Items of a tuple: a single one is followed by a comma. -/
def tupleItems : List String → String
  | [one] => one ++ ","
  | items => commaList items

/-- Whether a blank keeps the point of an attribute access from being read as part of the
receiver. -/
def needsBlank : Node → Bool
  | .literal (.int _) => true
  | .literal (.bool _) => true
  | _ => false

def isPower : BinaryOp → Bool
  | .power => true
  | _ => false

namespace Node

/-- The name of a parameter. -/
def paramName : Node → String
  | .param id _ => id
  | _ => ""

/-- Texts in order; the first that there is not decides. -/
def inOrder : List (Except Unprintable String) → Except Unprintable (List String)
  | [] => .ok []
  | .error fault :: _ => .error fault
  | .ok text :: rest => (inOrder rest).map (text :: ·)

mutual

/-- An expression in a place that asks for a level of binding strength. -/
def print (avoid : Bool) (level : Nat) : Node → Except Unprintable String
  | .boolOp op values => do
    let (word, own) := match op with
      | .and => (" and ", Level.and)
      | .or => (" or ", Level.or)
    let shown ← inOrder (printRising avoid own values)
    return enclose (own < level) (Text.joinWith word shown)
  | .namedExpr target value => do
    let target ← print avoid Level.atom target
    let value ← print avoid Level.atom value
    return enclose (Level.named < level) (target ++ " := " ++ value)
  | .binOp left op right => do
    let (spelled, own) := op.spelling
    let (leftLevel, rightLevel) := if isPower op then (Level.next own, own) else (own, Level.next own)
    let left ← print avoid leftLevel left
    let right ← print avoid rightLevel right
    return enclose (own < level) (left ++ " " ++ spelled ++ " " ++ right)
  | .unaryOp op operand => do
    let (spelled, own) := op.spelling
    let operand ← print avoid own operand
    return enclose (own < level) (spelled ++ operand)
  | .lambda params body => do
    let params ← print avoid Level.test params
    let body ← print avoid Level.test body
    return enclose (Level.test < level)
      ("lambda" ++ (if params.isEmpty then "" else " " ++ params) ++ ": " ++ body)
  | .ifExp test body orElse => do
    let body ← print avoid (Level.next Level.test) body
    let test ← print avoid (Level.next Level.test) test
    let orElse ← print avoid Level.test orElse
    return enclose (Level.test < level) (body ++ " if " ++ test ++ " else " ++ orElse)
  | .dict keys values => do
    let written := keys.map fun k => !k.isOmitted
    let shownKeys := printAll avoid Level.test keys
    let plain := printAll avoid Level.test values
    let unpacked := printAll avoid Level.bitOr values
    -- a key is written right before its value
    let entries ← inOrder ((written.zip (shownKeys.zip (plain.zip unpacked))).map fun (w, k, v, u) =>
      if w then do return (← k) ++ ": " ++ (← v) else u.map ("**" ++ ·))
    return "\x7b" ++ commaList entries ++ "\x7d"
  | .setDisplay elements => do
    let elements ← inOrder (printAll avoid Level.test elements)
    return "\x7b" ++ commaList elements ++ "\x7d"
  | .listComp element generators => do
    let element ← print avoid Level.test element
    let generators ← inOrder (printAll avoid Level.test generators)
    return "[" ++ element ++ String.join generators ++ "]"
  | .setComp element generators => do
    let element ← print avoid Level.test element
    let generators ← inOrder (printAll avoid Level.test generators)
    return "\x7b" ++ element ++ String.join generators ++ "\x7d"
  | .dictComp key value generators => do
    let key ← print avoid Level.test key
    let value ← print avoid Level.test value
    let generators ← inOrder (printAll avoid Level.test generators)
    return "\x7b" ++ key ++ ": " ++ value ++ String.join generators ++ "\x7d"
  | .generator element generators => do
    let element ← print avoid Level.test element
    let generators ← inOrder (printAll avoid Level.test generators)
    return "(" ++ element ++ String.join generators ++ ")"
  | .comprehension isAsync target iter conditions => do
    let target ← print avoid Level.tuple target
    let iter ← print avoid (Level.next Level.test) iter
    let conditions ← inOrder (printAll avoid (Level.next Level.test) conditions)
    return (if isAsync then " async for " else " for ") ++ target ++ " in " ++ iter ++
      String.join (conditions.map (" if " ++ ·))
  | .awaits value => do
    let value ← print avoid Level.atom value
    return enclose (Level.await < level) ("await " ++ value)
  | .yields value => do
    let shown ← printOption avoid Level.atom value
    return enclose (Level.yields < level) (if shown.isEmpty then "yield" else "yield " ++ shown)
  | .yieldsFrom value => do
    let value ← print avoid Level.atom value
    return enclose (Level.yields < level) ("yield from " ++ value)
  | .comparison left ops others => do
    let left ← print avoid (Level.next Level.compare) left
    let others ← inOrder (printAll avoid (Level.next Level.compare) others)
    return enclose (Level.compare < level)
      (left ++ String.join ((ops.zip others).map fun (op, s) => " " ++ op.spelling ++ " " ++ s))
  | .call _ callee args keywords => do
    let callee ← print avoid Level.atom callee
    let args ← inOrder (printAll avoid Level.test args ++ printAll avoid Level.test keywords)
    return callee ++ "(" ++ commaList args ++ ")"
  | .keyword (some id) value => do return id ++ "=" ++ (← print avoid Level.test value)
  | .keyword none value => do return "**" ++ (← print avoid Level.test value)
  | .joinedText values => do
    let parts ← fieldParts values
    return "f" ++ (if avoid then textAvoidingEscapes (parts.flatMap Prod.fst) else formatText parts)
  | .literal value => value.print avoid
  | .member _ receiver id _ => do
    let shown ← print avoid Level.atom receiver
    return shown ++ (if needsBlank receiver then " ." else ".") ++ id
  | .subscript value (.tuple (first :: others)) => do
    let value ← print avoid Level.atom value
    let first ← print avoid Level.test first
    let others ← inOrder (printAll avoid Level.test others)
    return value ++ "[" ++ tupleItems (first :: others) ++ "]"
  | .subscript value index => do
    let value ← print avoid Level.atom value
    let index ← print avoid Level.test index
    return value ++ "[" ++ index ++ "]"
  | .starred value => do return "*" ++ (← print avoid Level.bitOr value)
  | .name _ id _ => .ok id
  | .listDisplay elements => do
    let elements ← inOrder (printAll avoid Level.test elements)
    return "[" ++ commaList elements ++ "]"
  | .tuple elements => do
    let shown ← inOrder (printAll avoid Level.test elements)
    return enclose (elements.isEmpty || Level.tuple < level) (tupleItems shown)
  | .slice lower upper step => do
    let lower ← printOption avoid Level.test lower
    let upper ← printOption avoid Level.test upper
    let step ← printOption avoid Level.test step
    return lower ++ ":" ++ upper ++ (if step.isEmpty then "" else ":" ++ step)
  | .parameters positionalOnly positional rest keywordOnly keywordDefaults keywordRest defaults => do
    let names := (positionalOnly ++ positional).map paramName
    let shownDefaults ← inOrder (printAll avoid Level.test defaults)
    let padded := List.replicate (names.length - shownDefaults.length) "" ++ shownDefaults.map ("=" ++ ·)
    let plain := ((names.zip padded).mapIdx fun i (shown, default) =>
      shown ++ default ++ (if i + 1 = positionalOnly.length then ", /" else ""))
    let star := match rest with
      | some p => ["*" ++ p.paramName]
      | none => if keywordOnly.isEmpty then [] else ["*"]
    let shown ← inOrder (printAll avoid Level.test keywordDefaults)
    let shownKeywordDefaults := (keywordDefaults.zip shown).map
      fun (d, shown) => if d.isOmitted then "" else "=" ++ shown
    let only := (keywordOnly.zip shownKeywordDefaults).map fun (p, default) => p.paramName ++ default
    let last := match keywordRest with
      | some p => ["**" ++ p.paramName]
      | none => []
    return commaList (plain ++ star ++ only ++ last)
  | _ => .ok ""

/-- Several expressions in places of one level. -/
def printAll (avoid : Bool) (level : Nat) : List Node → List (Except Unprintable String)
  | [] => []
  | node :: rest => print avoid level node :: printAll avoid level rest

/-- Operands, each asked for one level more than the one before. -/
def printRising (avoid : Bool) (level : Nat) : List Node → List (Except Unprintable String)
  | [] => []
  | node :: rest => print avoid (Level.next level) node :: printRising avoid (Level.next level) rest

/-- An expression that may be left out. -/
def printOption (avoid : Bool) (level : Nat) : Option Node → Except Unprintable String
  | none => .ok ""
  | some node => print avoid level node

/-- The parts of a format string as they stand between its quotes. -/
def fieldParts : List Node → Except Unprintable (List (List Nat × Bool))
  | [] => .ok []
  | .literal (.text points _) :: rest => do return (doubleBraces points, true) :: (← fieldParts rest)
  | .formattedValue value conversion format :: rest => do
    let shown ← print true (Level.next Level.test) value
    if shown.toList.contains '\\' then throw .backslash
    let shown := if Text.startsWith shown "\x7b" then " " ++ shown else shown
    let tail := match conversion with
      | some c => String.ofList ['!', c]
      | none => ""
    let format ← formatPart format
    let others ← fieldParts rest
    return (Text.points ("\x7b" ++ shown ++ tail) ++ format ++ [125], false) :: others
  | _ :: rest => fieldParts rest

/-- The format of a field behind its colon. -/
def formatPart : Option Node → Except Unprintable (List Nat)
  | some (.joinedText values) => do return 58 :: (← fieldParts values).flatMap Prod.fst
  | _ => .ok []

end

/-- An expression as source text. -/
def source (node : Node) : Except Unprintable String := print false Level.test node

end Node

end CallChain.Python
