import CallChain.Python.Grammar.Expressions

/-!
# Patterns

What may stand behind `case`: literals, names to capture, dotted names to compare with,
sequences, mappings and classes, joined by `|` and named by `as`.
-/

namespace CallChain.Python

open Reader

/-- A number that is not imaginary, or one that is. -/
def numberLiteral (imaginary : Bool) : Reader Node := do
  match ← peek with
  | some (.number value) =>
    let isImaginary := match value with
      | .imaginary _ => true
      | _ => false
    if isImaginary == imaginary then skip; return .literal value else failure
  | _ => failure

/-- A number with an optional minus, or a real number plus or minus an imaginary one. -/
def signedNumber : Reader Node := do
  let negative ← takeOp "-"
  let isReal := match ← peek with
    | some (.number (.imaginary _)) => false
    | _ => true
  let size ← numberLiteral (!isReal)
  let value := if negative then Node.unaryOp .minus size else size
  let next ← peek
  if isOp "+" next || isOp "-" next then
    if !isReal then failure
    skip
    let imaginary ← numberLiteral true
    return .binOp value (if isOp "+" next then .add else .sub) imaginary
  return value

/-- A literal as a value to compare with; the three constants apart. -/
def literalValue (g : Grammar) : Reader Node := do
  match ← peek with
  | some (.text _) => texts g
  | _ => signedNumber

/-- One of `None`, `True` and `False`. -/
def constantLiteral? : Option TokenKind → Option Literal
  | some (.keyword "None") => some .none
  | some (.keyword "True") => some (.bool true)
  | some (.keyword "False") => some (.bool false)
  | _ => none

/-- A name, or names joined by dots; also whether there is a dot. -/
def dottedName : Reader (Node × Bool) := do
  let start ← position
  let id ← takeName
  let first := Node.name (← spanFrom start) id .load
  iterate (first, false) fun (value, _) => do
    if ← takeOp "." then
      let name ← takeName
      return some (.member (← spanFrom start) value name .load, true)
    return none

/-- A name that a pattern binds. -/
def captureName : Reader String := do
  let name ← takeName
  let next ← peek
  if name == "_" || isOp "." next || isOp "(" next || isOp "=" next then failure
  return name

/-- `*name` or `*_`. -/
def starPattern : Reader Node := do
  expectOp "*"
  match ← peek with
  | some (.name "_") => skip; return .matchStar none
  | _ => return .matchStar (some (← captureName))

def maybeStarPattern (g : Grammar) : Reader Node := do
  if isOp "*" (← peek) then starPattern else g.pattern

/-- The patterns of a class: positional ones, then keyword ones.  An underscore behind a positional
pattern is one itself, so it cannot be the first keyword there. -/
def classPattern (g : Grammar) (type : Node) : Reader Node := do
  expectOp "("
  let entry (acc : List Node × List (String × Node)) : Reader (List Node × List (String × Node)) := do
    match ← peek, isOp "=" (← peekSecond) with
    | some (.name name), true =>
      if name == "_" && !acc.1.isEmpty && acc.2.isEmpty then failure
      skip; skip
      return (acc.1, acc.2 ++ [(name, ← g.pattern)])
    | _, _ =>
      if !acc.2.isEmpty then failure
      return (acc.1 ++ [← g.pattern], acc.2)
  if ← takeOp ")" then return .matchClass type [] [] []
  let first ← entry ([], [])
  let (all, _) ← iterate (first, true) fun (acc, more) => do
    if !more then return none
    if ← takeOp "," then
      if isOp ")" (← peek) then return some (acc, false)
      return some (← entry acc, true)
    return none
  expectOp ")"
  return .matchClass type all.1 (all.2.map Prod.fst) (all.2.map Prod.snd)

/-- One entry of a mapping pattern. -/
def mappingEntry (g : Grammar) : Reader (Node × Node) := do
  let key ← match ← peek with
    | some (.name _) => do
      let (value, dotted) ← dottedName
      if dotted then pure value else failure
    | next =>
      match constantLiteral? next with
      | some value => do skip; pure (.literal value)
      | none => literalValue g
  expectOp ":"
  return (key, ← g.pattern)

/-- A pattern in braces. -/
def mappingPattern (g : Grammar) : Reader Node := do
  expectOp "\x7b"
  let finish (entries : List (Node × Node)) (rest : Option String) : Node :=
    .matchMapping (entries.map Prod.fst) (entries.map Prod.snd) rest
  let (entries, rest, _) ← iterate (([] : List (Node × Node)), (none : Option String), true)
    fun (entries, rest, more) => do
      if !more || rest.isSome || isOp "\x7d" (← peek) then return none
      if ← takeOp "**" then
        let name ← captureName
        let comma ← takeOp ","
        return some (entries, some name, comma)
      let entry ← mappingEntry g
      let comma ← takeOp ","
      return some (entries ++ [entry], rest, comma)
  expectOp "\x7d"
  return finish entries rest

/-- Patterns separated by commas up to a closing bracket; also whether a comma was written. -/
def patternsUntil (g : Grammar) (stop : String) : Reader (List Node × Bool) := do
  if ← takeOp stop then return ([], false)
  let (patterns, trailing) ← commaSeparated (maybeStarPattern g)
  expectOp stop
  return (patterns, trailing || 1 < patterns.length)

def isStarPattern : Node → Bool
  | .matchStar _ => true
  | _ => false

/-- A pattern without `|` and `as` at its top. -/
def closedPattern (g : Grammar) : Reader Node := do
  let next ← peek
  match constantLiteral? next with
  | some value => skip; return .matchSingleton value
  | none =>
  match next with
  | some (.number _) => .matchValue <$> signedNumber
  | some (.op "-") => .matchValue <$> signedNumber
  | some (.text _) => .matchValue <$> texts g
  | some (.op "[") =>
    skip
    let (patterns, _) ← patternsUntil g "]"
    return .matchSequence patterns
  | some (.op "(") =>
    skip
    let (patterns, comma) ← patternsUntil g ")"
    match patterns with
    | [one] =>
      if comma then return .matchSequence [one]
      if isStarPattern one then failure
      return one
    | many => return .matchSequence many
  | some (.op "\x7b") => mappingPattern g
  | some (.name "_") => skip; return .matchAs none none
  | some (.name id) =>
    let (value, dotted) ← dottedName
    let next ← peek
    if isOp "(" next then classPattern g value
    else if isOp "=" next then failure
    else if dotted then return .matchValue value
    else return .matchAs none (some id)
  | _ => failure

/-- Alternatives joined by `|`, with an optional name behind `as`. -/
def pattern (g : Grammar) : Reader Node := do
  let first ← closedPattern g
  let others ← iterate [] fun others => do
    if ← takeOp "|" then return some ((← closedPattern g) :: others) else return none
  let value := if others.isEmpty then first else .matchOr (first :: others.reverse)
  if ← takeKeyword "as" then return .matchAs (some value) (some (← captureName))
  return value

/-- What stands behind `case`: one pattern, or several that make a sequence. -/
def casePatterns (g : Grammar) : Reader Node := do
  let (patterns, trailing) ← commaSeparated (do
    if isOp "*" (← peek) then starPattern else pattern g)
  match patterns, trailing with
  | [one], false => if isStarPattern one then failure else return one
  | many, _ => return .matchSequence many

end CallChain.Python
