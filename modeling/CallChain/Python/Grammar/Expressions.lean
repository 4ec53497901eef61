import CallChain.Python.Grammar.Target

/-!
# Expressions

The rules from the tightest binding to the loosest: atoms, what follows them (attributes, calls,
subscripts), powers, signs, the binary operators by level, comparisons, `not`, `and`, `or`,
conditional expressions and lambdas, named expressions, and lists with stars.
-/

namespace CallChain.Python

open Reader

/-! ## Parameters -/

/-- One parameter: a name and, where allowed, an annotation. -/
def parameter (g : Grammar) (annotated : Bool) : Reader Node := do
  let name ← takeName
  if annotated then
    if ← takeOp ":" then return .param name (some (← g.expression))
  return .param name none

/-- The parameter that takes the remaining arguments, whose annotation may have a star. -/
def restParameter (g : Grammar) (annotated : Bool) : Reader Node := do
  let name ← takeName
  if annotated then
    if ← takeOp ":" then
      if ← takeOp "*" then return .param name (some (.starred (← g.bitwiseOr)))
      return .param name (some (← g.expression))
  return .param name none

/-- The parameters read so far. -/
structure ParameterList where
  positionalOnly : List Node := []
  positional : List Node := []
  defaults : List Node := []
  rest : Option Node := none
  keywordOnly : List Node := []
  keywordDefaults : List Node := []
  keywordRest : Option Node := none
  /-- Whether a `/` has been read. -/
  slashed : Bool := false
  /-- Whether a `*` has been read. -/
  starred : Bool := false
  /-- Whether that `*` is bare and still needs a parameter. -/
  bare : Bool := false

namespace ParameterList

def toNode (l : ParameterList) : Node :=
  .parameters l.positionalOnly l.positional l.rest l.keywordOnly l.keywordDefaults l.keywordRest
    l.defaults

end ParameterList

/-- The next entry of a parameter list; after a `**` parameter nothing may follow. -/
def parameterEntry (g : Grammar) (annotated : Bool) (l : ParameterList) : Reader ParameterList := do
  if l.keywordRest.isSome then failure
  if ← takeOp "/" then
    if l.slashed || l.starred || l.positional.isEmpty then failure
    return { l with positionalOnly := l.positional, positional := [], slashed := true }
  if ← takeOp "**" then
    if l.bare then failure
    return { l with keywordRest := some (← parameter g annotated) }
  if ← takeOp "*" then
    if l.starred then failure
    match ← peek with
    | some (.name _) => return { l with rest := some (← restParameter g annotated), starred := true }
    | next => if isOp "," next then return { l with starred := true, bare := true } else failure
  let p ← parameter g annotated
  let default ← if ← takeOp "=" then some <$> g.expression else pure none
  if l.starred then
    return { l with
      keywordOnly := l.keywordOnly ++ [p]
      keywordDefaults := l.keywordDefaults ++ [default.getD .omitted]
      bare := false }
  match default with
  | some d => return { l with positional := l.positional ++ [p], defaults := l.defaults ++ [d] }
  | none =>
    if l.defaults.isEmpty then return { l with positional := l.positional ++ [p] } else failure

/-- A parameter list up to the token that ends it, which is not taken. -/
def parameterList (g : Grammar) (annotated : Bool) (stop : String) : Reader Node := do
  if isOp stop (← peek) then return ({} : ParameterList).toNode
  let first ← parameterEntry g annotated {}
  let (l, _) ← iterate (first, true) fun (l, more) => do
    if !more then return none
    if ← takeOp "," then
      if isOp stop (← peek) then return some (l, false)
      return some (← parameterEntry g annotated l, true)
    return none
  if l.bare || !isOp stop (← peek) then failure
  return l.toNode

/-! ## Comprehensions -/

/-- One `for … in … if …`. -/
def forClause (g : Grammar) : Reader Node := do
  let isAsync ← takeKeyword "async"
  expectKeyword "for"
  let target ← starTargets g
  expectKeyword "in"
  let iter ← g.disjunction
  let conditions ← iterate [] fun conditions => do
    if ← takeKeyword "if" then return some ((← g.disjunction) :: conditions) else return none
  return .comprehension isAsync target iter conditions.reverse

/-- Whether a comprehension goes on here. -/
def startsFor : Reader Bool := do
  let next ← peek
  return isKeyword "for" next || (isKeyword "async" next && isKeyword "for" (← peekSecond))

def forClauses (g : Grammar) : Reader (List Node) := do
  let first ← forClause g
  let clauses ← iterate [first] fun clauses => do
    if ← startsFor then return some ((← forClause g) :: clauses) else return none
  return clauses.reverse

/-! ## Atoms -/

/-- A starred expression at the level of `|`, or a named expression. -/
def starNamed (g : Grammar) : Reader Node := do
  if ← takeOp "*" then return .starred (← g.bitwiseOr)
  g.namedExpression

def isStarred : Node → Bool
  | .starred _ => true
  | _ => false

/-- A `yield` and what it yields; nothing is yielded where no expression follows. -/
def yieldExpression (g : Grammar) : Reader Node := do
  expectKeyword "yield"
  if ← takeKeyword "from" then return .yieldsFrom (← g.expression)
  return .yields (← attempt g.starExpressions)

/-- What stands in parentheses: nothing, a group, a tuple or a generator. -/
def parenthesized (g : Grammar) : Reader Node := do
  expectOp "("
  if ← takeOp ")" then return .tuple []
  if isKeyword "yield" (← peek) then
    let y ← yieldExpression g
    expectOp ")"
    return y
  let first ← starNamed g
  if isOp "," (← peek) then
    skip
    if ← takeOp ")" then return .tuple [first]
    let (others, _) ← commaSeparated (starNamed g)
    expectOp ")"
    return .tuple (first :: others)
  if isStarred first then failure
  if ← startsFor then
    let clauses ← forClauses g
    expectOp ")"
    return .generator first clauses
  expectOp ")"
  return first

/-- What stands in square brackets: a list or a list comprehension. -/
def bracketed (g : Grammar) : Reader Node := do
  expectOp "["
  if ← takeOp "]" then return .listDisplay []
  let first ← starNamed g
  if !isStarred first && (← startsFor) then
    let clauses ← forClauses g
    expectOp "]"
    return .listComp first clauses
  if ← takeOp "," then
    if ← takeOp "]" then return .listDisplay [first]
    let (others, _) ← commaSeparated (starNamed g)
    expectOp "]"
    return .listDisplay (first :: others)
  expectOp "]"
  return .listDisplay [first]

/-- One entry of a dictionary: `**mapping` or `key: value`. -/
def dictEntry (g : Grammar) : Reader (Node × Node) := do
  if ← takeOp "**" then return (.omitted, ← g.bitwiseOr)
  let key ← g.expression
  expectOp ":"
  return (key, ← g.expression)

/-- What stands in braces: a dictionary, a set, or a comprehension of one. -/
def braced (g : Grammar) : Reader Node := do
  expectOp "\x7b"
  if ← takeOp "\x7d" then return .dict [] []
  let finishDict (first : Node × Node) : Reader Node := do
    let others ← if ← takeOp "," then
        if isOp "\x7d" (← peek) then pure [] else Prod.fst <$> commaSeparated (dictEntry g)
      else pure []
    expectOp "\x7d"
    let entries := first :: others
    return .dict (entries.map Prod.fst) (entries.map Prod.snd)
  if isOp "**" (← peek) then
    return ← finishDict (← dictEntry g)
  let isNamed := isOp ":=" (← peekSecond)
  let first ← starNamed g
  if !isStarred first && !isNamed && isOp ":" (← peek) then
    skip
    let value ← g.expression
    if ← startsFor then
      let clauses ← forClauses g
      expectOp "\x7d"
      return .dictComp first value clauses
    return ← finishDict (first, value)
  if !isStarred first && (← startsFor) then
    let clauses ← forClauses g
    expectOp "\x7d"
    return .setComp first clauses
  let others ← if ← takeOp "," then
      if isOp "\x7d" (← peek) then pure [] else Prod.fst <$> commaSeparated (starNamed g)
    else pure []
  expectOp "\x7d"
  return .setDisplay (first :: others)

/-- Reads an expression that stands in a format string. -/
def readInner (g : Grammar) (place : Place) (source : List Char) : Option Node := do
  let tokens ← tokenize place source
  let (node, _) ← (g.starExpressions.run tokens).run 0
  return node

/-- Adjacent text literals. -/
def texts (g : Grammar) : Reader Node := do
  let tokens ← many1 do
    match ← peek with
    | some (.text t) => skip; return t
    | _ => failure
  match joinTexts? (readInner g) tokens with
  | some node => return node
  | none => failure

def atom (g : Grammar) : Reader Node := do
  let start ← position
  match ← peek with
  | some (.name id) => skip; return .name (← spanFrom start) id .load
  | some (.keyword "True") => skip; return .literal (.bool true)
  | some (.keyword "False") => skip; return .literal (.bool false)
  | some (.keyword "None") => skip; return .literal .none
  | some (.number value) => skip; return .literal value
  | some (.text _) => texts g
  | some (.op "(") => parenthesized g
  | some (.op "[") => bracketed g
  | some (.op "\x7b") => braced g
  | some (.op "...") => skip; return .literal .ellipsis
  | _ => failure

/-! ## Calls and subscripts -/

/-- The arguments read so far; `named` after the first keyword, `unpacked` after the first `**`. -/
structure ArgumentList where
  args : List Node := []
  keywords : List Node := []
  named : Bool := false
  unpacked : Bool := false

/-- The next argument. -/
def argument (g : Grammar) (l : ArgumentList) : Reader ArgumentList := do
  if ← takeOp "*" then
    if l.unpacked then failure
    return { l with args := l.args ++ [.starred (← g.expression)] }
  if ← takeOp "**" then
    let value ← g.expression
    return { l with keywords := l.keywords ++ [.keyword none value], named := true, unpacked := true }
  match ← peek, isOp "=" (← peekSecond) with
  | some (.name name), true =>
    skip; skip
    let value ← g.expression
    return { l with keywords := l.keywords ++ [.keyword (some name) value], named := true }
  | _, _ =>
    if l.named then failure
    let value ← g.namedExpression
    return { l with args := l.args ++ [value] }

/-- The arguments in parentheses behind a callee or a class name. -/
def arguments (g : Grammar) : Reader ArgumentList := do
  expectOp "("
  if ← takeOp ")" then return {}
  let first ← argument g {}
  let plain := match first.args with
    | [one] => !isStarred one
    | _ => false
  if plain && (← startsFor) then
    let clauses ← forClauses g
    expectOp ")"
    return { args := first.args.map fun element => .generator element clauses }
  let (l, _) ← iterate (first, true) fun (l, more) => do
    if !more then return none
    if ← takeOp "," then
      if isOp ")" (← peek) then return some (l, false)
      return some (← argument g l, true)
    return none
  expectOp ")"
  return l

/-- An optional bound of a slice. -/
def sliceBound (g : Grammar) : Reader (Option Node) := do
  let next ← peek
  if isOp ":" next || isOp "," next || isOp "]" next then return none
  return some (← g.expression)

/-- One item of a subscript.  An expression that binds a name is no bound of a slice. -/
def sliceItem (g : Grammar) : Reader Node := do
  if ← takeOp "*" then return .starred (← g.expression)
  let isNamed := isOp ":=" (← peekSecond)
  let lower ← if isOp ":" (← peek) then pure none else some <$> g.namedExpression
  if isOp ":" (← peek) && !isNamed then
    skip
    let upper ← sliceBound g
    let step ← if ← takeOp ":" then sliceBound g else pure none
    return .slice lower upper step
  match lower with
  | some index => return index
  | none => failure

/-- What stands in the brackets of a subscript. -/
def subscriptIndex (g : Grammar) : Reader Node := do
  let (items, trailing) ← commaSeparated (sliceItem g)
  match items, trailing with
  | [one], false => if isStarred one then return .tuple [one] else return one
  | many, _ => return .tuple many

/-- An atom with the attributes, calls and subscripts behind it. -/
def primary (g : Grammar) : Reader Node := do
  let start ← position
  let first ← atom g
  iterate first fun value => do
    match ← peek with
    | some (.op ".") =>
      skip
      let name ← takeName
      return some (.member (← spanFrom start) value name .load)
    | some (.op "(") =>
      let l ← arguments g
      return some (.call (← spanFrom start) value l.args l.keywords)
    | some (.op "[") =>
      skip
      let index ← subscriptIndex g
      expectOp "]"
      return some (.subscript value index)
    | _ => return none

/-! ## Operators -/

def power (g : Grammar) : Reader Node := do
  let base ← if ← takeKeyword "await" then .awaits <$> primary g else primary g
  if ← takeOp "**" then return .binOp base .power (← g.factor)
  return base

def signOf? : Option TokenKind → Option UnaryOp
  | some (.op "+") => some .plus
  | some (.op "-") => some .minus
  | some (.op "~") => some .invert
  | _ => none

def factor (g : Grammar) : Reader Node := do
  let signs ← iterate [] fun signs => do
    match signOf? (← peek) with
    | some sign => skip; return some (sign :: signs)
    | none => return none
  let value ← power g
  return signs.foldl (fun v sign => .unaryOp sign v) value

/-- Operands joined from the left by operators of one level. -/
def leftChain (ops : List (String × BinaryOp)) (operand : Reader Node) : Reader Node := do
  let first ← operand
  iterate first fun left => do
    match ← peek with
    | some (.op text) =>
      match ops.find? (·.1 == text) with
      | some (_, op) => skip; return some (.binOp left op (← operand))
      | none => return none
    | _ => return none

def term (g : Grammar) : Reader Node :=
  leftChain [("*", .mult), ("/", .div), ("//", .floorDiv), ("%", .mod), ("@", .matMult)] (factor g)

def sum (g : Grammar) : Reader Node := leftChain [("+", .add), ("-", .sub)] (term g)

def shift (g : Grammar) : Reader Node := leftChain [("<<", .leftShift), (">>", .rightShift)] (sum g)

def bitwiseAnd (g : Grammar) : Reader Node := leftChain [("&", .bitAnd)] (shift g)

def bitwiseXor (g : Grammar) : Reader Node := leftChain [("^", .bitXor)] (bitwiseAnd g)

def bitwiseOr (g : Grammar) : Reader Node := leftChain [("|", .bitOr)] (bitwiseXor g)

/-- A comparison operator, if one comes next. -/
def compareOp : Reader (Option CompareOp) := do
  match ← peek with
  | some (.op text) =>
    let op? : Option CompareOp := match text with
      | "==" => some .eq
      | "!=" => some .notEq
      | "<=" => some .ltE
      | "<" => some .lt
      | ">=" => some .gtE
      | ">" => some .gt
      | _ => none
    if op?.isSome then skip
    return op?
  | some (.keyword "in") => skip; return some .in
  | some (.keyword "is") =>
    skip
    if ← takeKeyword "not" then return some .isNot else return some .is
  | some (.keyword "not") =>
    if isKeyword "in" (← peekSecond) then skip; skip; return some .notIn else return none
  | _ => return none

def comparison (g : Grammar) : Reader Node := do
  let left ← bitwiseOr g
  let pairs ← iterate [] fun pairs => do
    match ← compareOp with
    | some op => return some ((op, ← bitwiseOr g) :: pairs)
    | none => return none
  match pairs.reverse with
  | [] => return left
  | pairs => return .comparison left (pairs.map Prod.fst) (pairs.map Prod.snd)

def inversion (g : Grammar) : Reader Node := do
  let count ← iterate 0 fun n => do
    if ← takeKeyword "not" then return some (n + 1) else return none
  let value ← comparison g
  return (List.replicate count ()).foldl (fun v _ => .unaryOp .not v) value

/-- Operands joined by one of the words `and` and `or`. -/
def wordChain (word : String) (op : BoolOp) (operand : Reader Node) : Reader Node := do
  let first ← operand
  let others ← iterate [] fun others => do
    if ← takeKeyword word then return some ((← operand) :: others) else return none
  if others.isEmpty then return first
  return .boolOp op (first :: others.reverse)

def conjunction (g : Grammar) : Reader Node := wordChain "and" .and (inversion g)

def disjunction (g : Grammar) : Reader Node := wordChain "or" .or (conjunction g)

def lambda (g : Grammar) : Reader Node := do
  expectKeyword "lambda"
  let params ← parameterList g false ":"
  expectOp ":"
  return .lambda params (← g.expression)

def expression (g : Grammar) : Reader Node := do
  if isKeyword "lambda" (← peek) then return ← lambda g
  let value ← disjunction g
  if ← takeKeyword "if" then
    let test ← g.disjunction
    expectKeyword "else"
    return .ifExp test value (← g.expression)
  return value

def namedExpression (g : Grammar) : Reader Node := do
  let start ← position
  match ← peek, isOp ":=" (← peekSecond) with
  | some (.name id), true =>
    skip
    let target := Node.name (← spanFrom start) id .store
    skip
    return .namedExpr target (← g.expression)
  | _, _ =>
    let value ← expression g
    if isOp ":=" (← peek) then failure
    return value

def starExpression (g : Grammar) : Reader Node := do
  if ← takeOp "*" then return .starred (← g.bitwiseOr)
  expression g

/-- One or more expressions; more than one, or a comma at the end, makes a tuple. -/
def starExpressions (g : Grammar) : Reader Node := do
  let (items, trailing) ← commaSeparated (starExpression g)
  match items, trailing with
  | [one], false => return one
  | many, _ => return .tuple many

/-- What may stand on the right of an assignment. -/
def yieldOrExpressions (g : Grammar) : Reader Node := do
  if isKeyword "yield" (← peek) then yieldExpression g else starExpressions g

end CallChain.Python
