import CallChain.Python.Grammar.Patterns

/-!
# Statements

A line holds simple statements separated by semicolons; a compound statement has a header and a
block, which stands behind the colon or, indented, on the lines below.
-/

namespace CallChain.Python

open Reader

/-! ## Simple statements -/

/-- The operator of an augmented assignment. -/
def augmentedOp? : Option TokenKind → Option BinaryOp
  | some (.op text) =>
    match text with
    | "+=" => some .add
    | "-=" => some .sub
    | "*=" => some .mult
    | "@=" => some .matMult
    | "/=" => some .div
    | "%=" => some .mod
    | "&=" => some .bitAnd
    | "|=" => some .bitOr
    | "^=" => some .bitXor
    | "<<=" => some .leftShift
    | ">>=" => some .rightShift
    | "**=" => some .power
    | "//=" => some .floorDiv
    | _ => none
  | _ => none

/-- The value of an annotated assignment, if one is written. -/
def assignedValue (g : Grammar) : Reader (Option Node) := do
  if ← takeOp "=" then some <$> yieldOrExpressions g else return none

/-- Targets and the value of an assignment, from the first `=` on. -/
def assignment (g : Grammar) (first : Node) : Reader Node := do
  let (targets, value, _) ← iterate ([], first, true) fun (targets, value, _) => do
    if ← takeOp "=" then
      match asTarget? .store value with
      | some target => return some (target :: targets, ← yieldOrExpressions g, true)
      | none => failure
    return none
  return .assign targets.reverse value

/-- An assignment of some kind, or an expression for itself. -/
def expressionStatement (g : Grammar) : Reader Node := do
  if isKeyword "yield" (← peek) then return .exprStmt (← yieldExpression g)
  let value ← starExpressions g
  let next ← peek
  if isOp "=" next then return ← assignment g value
  if isOp ":" next then
    match asSingleTarget? value with
    | some target =>
      skip
      let hint ← expression g
      return .annAssign target hint (← assignedValue g)
    | none => failure
  match augmentedOp? next with
  | some op =>
    match asSingleTarget? value with
    | some target => skip; return .augAssign target op (← yieldOrExpressions g)
    | none => failure
  | none => return .exprStmt value

/-- Names joined by dots. -/
def modulePath : Reader String := do
  let first ← takeName
  iterate first fun path => do
    if ← takeOp "." then return some (path ++ "." ++ (← takeName)) else return none

/-- A name after `as`, if one is written. -/
def asName : Reader (Option String) := do
  if ← takeKeyword "as" then some <$> takeName else return none

def importStatement : Reader Node := do
  expectKeyword "import"
  let item : Reader Alias := do
    let name ← modulePath
    return ⟨name, ← asName⟩
  let (names, trailing) ← commaSeparated item
  if trailing then failure
  return .imports names

/-- The dots in front of a relative import. -/
def importLevel : Reader Nat :=
  iterate 0 fun level => do
    if ← takeOp "." then return some (level + 1)
    if ← takeOp "..." then return some (level + 3)
    return none

def importFromStatement : Reader Node := do
  expectKeyword "from"
  let level ← importLevel
  let source ← if isKeyword "import" (← peek) then
      if level = 0 then failure else pure none
    else some <$> modulePath
  expectKeyword "import"
  if ← takeOp "*" then return .importFrom source [⟨"*", none⟩] level
  let item : Reader Alias := do
    let name ← takeName
    return ⟨name, ← asName⟩
  if ← takeOp "(" then
    let (names, _) ← commaSeparated item
    expectOp ")"
    return .importFrom source names level
  let (names, trailing) ← commaSeparated item
  if trailing then failure
  return .importFrom source names level

/-- Whether a simple statement ends here. -/
def atStatementEnd : Reader Bool := do
  match ← peek with
  | some .newline => return true
  | next => return isOp ";" next

def nameList : Reader (List String) := do
  let (names, trailing) ← commaSeparated takeName
  if trailing then failure
  return names

def deleteStatement (g : Grammar) : Reader Node := do
  expectKeyword "del"
  let item : Reader Node := do
    match asTarget? .delete (← primary g) with
    | some target => return target
    | none => failure
  let (targets, _) ← commaSeparated item
  return .deletes targets

def simpleStatement (g : Grammar) : Reader Node := do
  match ← peek with
  | some (.keyword word) =>
    match word with
    | "return" =>
      skip
      if ← atStatementEnd then return .returnStmt none
      return .returnStmt (some (← starExpressions g))
    | "import" => importStatement
    | "from" => importFromStatement
    | "raise" =>
      skip
      if ← atStatementEnd then return .raises none none
      let exception ← expression g
      let cause ← if ← takeKeyword "from" then some <$> expression g else pure none
      return .raises (some exception) cause
    | "pass" => skip; return .pass
    | "break" => skip; return .breaks
    | "continue" => skip; return .continues
    | "del" => deleteStatement g
    | "assert" =>
      skip
      let test ← expression g
      let message ← if ← takeOp "," then some <$> expression g else pure none
      return .asserts test message
    | "global" => skip; return .globals (← nameList)
    | "nonlocal" => skip; return .nonlocals (← nameList)
    | _ => expressionStatement g
  | _ => expressionStatement g

/-- The statements of one line. -/
def simpleStatements (g : Grammar) : Reader (List Node) := do
  let first ← simpleStatement g
  let (statements, _) ← iterate ([first], true) fun (statements, more) => do
    if !more then return none
    if ← takeOp ";" then
      match ← peek with
      | some .newline => return some (statements, false)
      | _ => return some ((← simpleStatement g) :: statements, true)
    return none
  takeNewline
  return statements.reverse

/-! ## Blocks -/

/-- What belongs to a header: the rest of its line, or indented lines. -/
def block (g : Grammar) : Reader (List Node) := do
  match ← peek with
  | some .newline =>
    skip
    match ← peek with
    | some .indent =>
      skip
      let first ← g.statement
      let statements ← iterate first fun statements => do
        match ← peek with
        | some .dedent => return none
        | _ => return some (statements ++ (← g.statement))
      skip
      return statements
    | _ => failure
  | _ => simpleStatements g

/-- A colon and a block. -/
def suite (g : Grammar) : Reader (List Node) := do
  expectOp ":"
  block g

/-- A block behind a keyword, empty if the keyword does not come. -/
def optionalSuite (g : Grammar) (word : String) : Reader (List Node) := do
  if ← takeKeyword word then suite g else return []

/-! ## Compound statements -/

/-- The tests and blocks of `if` and `elif`, the last first, and the block of `else`. -/
def ifStatement (g : Grammar) : Reader Node := do
  expectKeyword "if"
  let test ← namedExpression g
  let body ← suite g
  let branches ← iterate [(test, body)] fun branches => do
    if ← takeKeyword "elif" then
      let test ← namedExpression g
      return some ((test, ← suite g) :: branches)
    return none
  let orElse ← optionalSuite g "else"
  match branches with
  | [] => failure
  | (test, body) :: earlier =>
    return earlier.foldl (fun inner (test, body) => .ifElse test body [inner])
      (.ifElse test body orElse)

def whileStatement (g : Grammar) : Reader Node := do
  expectKeyword "while"
  let test ← namedExpression g
  let body ← suite g
  return .whileLoop test body (← optionalSuite g "else")

def forStatement (g : Grammar) (isAsync : Bool) : Reader Node := do
  expectKeyword "for"
  let target ← starTargets g
  expectKeyword "in"
  let iter ← starExpressions g
  let body ← suite g
  return .forLoop isAsync target iter body (← optionalSuite g "else")

/-- One item of a `with`, with the target behind `as` if there is one. -/
def withItem (g : Grammar) : Reader Node := do
  let context ← expression g
  if ← takeKeyword "as" then
    let target ← starTarget g
    let next ← peek
    if isOp "," next || isOp ")" next || isOp ":" next then return .withItem context (some target)
    failure
  return .withItem context none

/-- The items of a `with` and its colon; items may stand in parentheses. -/
def withHeader (g : Grammar) : Reader (List Node) :=
  (do
    expectOp "("
    let (items, _) ← commaSeparated (withItem g)
    expectOp ")"
    expectOp ":"
    return items) <|>
  (do
    let (items, trailing) ← commaSeparated (withItem g)
    if trailing then failure
    expectOp ":"
    return items)

def withStatement (g : Grammar) (isAsync : Bool) : Reader Node := do
  expectKeyword "with"
  let items ← withHeader g
  return .withBlock isAsync items (← block g)

/-- One `except`, with or without a star, which all handlers of a `try` share. -/
def exceptHandler (g : Grammar) (starred : Bool) : Reader Node := do
  expectKeyword "except"
  if starred then expectOp "*"
  if !starred && isOp ":" (← peek) then return .exceptHandler none none (← suite g)
  let type ← expression g
  let name ← asName
  return .exceptHandler (some type) name (← suite g)

def tryStatement (g : Grammar) : Reader Node := do
  expectKeyword "try"
  let body ← suite g
  let starred := isOp "*" (← peekSecond)
  let handlers ← iterate [] fun handlers => do
    if isKeyword "except" (← peek) then return some ((← exceptHandler g starred) :: handlers)
    return none
  let orElse ← if handlers.isEmpty then pure [] else optionalSuite g "else"
  let closing ← optionalSuite g "finally"
  if handlers.isEmpty && closing.isEmpty then failure
  return .tryExcept (starred && !handlers.isEmpty) body handlers.reverse orElse closing

/-- The value that a `match` looks at. -/
def matchSubject (g : Grammar) : Reader Node := do
  let item : Reader Node := do
    if ← takeOp "*" then return .starred (← g.bitwiseOr)
    namedExpression g
  let (items, trailing) ← commaSeparated item
  match items, trailing with
  | [one], false => if isStarred one then failure else return one
  | many, _ => return .tuple many

/-- `match`, its subject and the beginning of the indented block below it. -/
def matchHeader (g : Grammar) : Reader Node := do
  if (← takeName) != "match" then failure
  let subject ← matchSubject g
  expectOp ":"
  takeNewline
  match ← peek with
  | some .indent => skip; return subject
  | _ => failure

def caseBlock (g : Grammar) : Reader Node := do
  if (← takeName) != "case" then failure
  let pattern ← casePatterns g
  let guard ← if ← takeKeyword "if" then some <$> namedExpression g else pure none
  return .matchCase pattern guard (← suite g)

/-- The cases of a `match` up to the end of its block. -/
def matchCases (g : Grammar) : Reader (List Node) := do
  let first ← caseBlock g
  let cases ← iterate [first] fun cases => do
    match ← peek with
    | some .dedent => return none
    | _ => return some ((← caseBlock g) :: cases)
  skip
  return cases.reverse

def functionStatement (g : Grammar) (decorators : List Node) : Reader Node := do
  let start ← position
  let isAsync ← takeKeyword "async"
  expectKeyword "def"
  let name ← takeName
  expectOp "("
  let params ← parameterList g true ")"
  expectOp ")"
  let result ← if ← takeOp "->" then some <$> expression g else pure none
  let body ← suite g
  return .functionDef isAsync (← spanFrom start) name params body decorators result

def classStatement (g : Grammar) (decorators : List Node) : Reader Node := do
  expectKeyword "class"
  let name ← takeName
  let l ← if isOp "(" (← peek) then arguments g else pure {}
  let body ← suite g
  return .classDef name l.args l.keywords body decorators

/-- Decorators and the definition below them. -/
def decorated (g : Grammar) : Reader Node := do
  let decorators ← many1 (do
    expectOp "@"
    let value ← namedExpression g
    takeNewline
    return value)
  if isKeyword "class" (← peek) then classStatement g decorators
  else functionStatement g decorators

/-- A statement that may be a `match`, and else is a line of simple statements. -/
def matchOrSimple (g : Grammar) : Reader (List Node) := do
  match ← peek with
  | some (.name "match") =>
    match ← attempt (matchHeader g) with
    | some subject => return [.matchOn subject (← matchCases g)]
    | none => simpleStatements g
  | _ => simpleStatements g

/-- A compound statement, or a line of simple statements. -/
def statement (g : Grammar) : Reader (List Node) := do
  match ← peek with
  | some (.op "@") => return [← decorated g]
  | some (.keyword word) =>
    match word with
    | "def" => return [← functionStatement g []]
    | "class" => return [← classStatement g []]
    | "if" => return [← ifStatement g]
    | "while" => return [← whileStatement g]
    | "for" => return [← forStatement g false]
    | "with" => return [← withStatement g false]
    | "try" => return [← tryStatement g]
    | "async" =>
      let second ← peekSecond
      if isKeyword "def" second then return [← functionStatement g []]
      skip
      if isKeyword "for" second then return [← forStatement g true]
      return [← withStatement g true]
    | _ => simpleStatements g
  | _ => matchOrSimple g

end CallChain.Python
