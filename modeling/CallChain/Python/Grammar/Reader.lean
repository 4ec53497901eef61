import CallChain.Python.TextLiteral

/-!
# Reading tokens

A `Reader` looks at the tokens of a source from a position on and either gives a result and the
position behind it or fails; a failure leaves the position alone, so alternatives are tried in
order.  A `Grammar` names the readers that the rules of the language use recursively.  Each rule
is written against a given grammar and calls it only after it has taken a token, and the parser
ties the knot with a bound on the nesting.
-/

namespace CallChain.Python

/-- Reads tokens from a position on. -/
abbrev Reader (α : Type) := ReaderT (Array Token) (StateT Nat Option) α

namespace Reader

/-- The number of the next token. -/
def position : Reader Nat := get

/-- The next token, if there is one. -/
def peek : Reader (Option TokenKind) := do
  return ((← read)[← get]?).map Token.kind

/-- The token behind the next one. -/
def peekSecond : Reader (Option TokenKind) := do
  return ((← read)[(← get) + 1]?).map Token.kind

/-- Passes over one token. -/
def skip : Reader Unit := modify (· + 1)

/-- Whether a token is this operator. -/
def isOp (text : String) : Option TokenKind → Bool
  | some (.op t) => t == text
  | _ => false

/-- Whether a token is this keyword. -/
def isKeyword (text : String) : Option TokenKind → Bool
  | some (.keyword t) => t == text
  | _ => false

/-- Takes an operator if it comes next. -/
def takeOp (text : String) : Reader Bool := do
  if isOp text (← peek) then skip; return true else return false

/-- Takes a keyword if it comes next. -/
def takeKeyword (text : String) : Reader Bool := do
  if isKeyword text (← peek) then skip; return true else return false

/-- Takes an operator that must come next. -/
def expectOp (text : String) : Reader Unit := do
  if !(← takeOp text) then failure

/-- Takes a keyword that must come next. -/
def expectKeyword (text : String) : Reader Unit := do
  if !(← takeKeyword text) then failure

/-- Takes a name. -/
def takeName : Reader String := do
  match ← peek with
  | some (.name text) => skip; return text
  | _ => failure

/-- Takes the end of a line. -/
def takeNewline : Reader Unit := do
  match ← peek with
  | some .newline => skip
  | _ => failure

/-- Whether a token only marks the layout of lines. -/
def isLayout : TokenKind → Bool
  | .newline | .indent | .dedent | .endOfSource => true
  | _ => false

/-- The last token before a position that is not a mark of the layout. -/
def lastWritten (tokens : Array Token) : Nat → Option Token
  | 0 => none
  | n + 1 =>
    match tokens[n]? with
    | some t => if isLayout t.kind then lastWritten tokens n else some t
    | none => lastWritten tokens n

/-- The stretch from the token at `start` up to the last token taken. -/
def spanFrom (start : Nat) : Reader Span := do
  let tokens ← read
  let first := (tokens[start]?.map Token.span).getD default
  let last := ((lastWritten tokens (← get)).map Token.span).getD first
  return ⟨first.line, first.column, last.endLine, last.endColumn⟩

/-- Tries a reader. -/
def attempt {α : Type} (r : Reader α) : Reader (Option α) :=
  (some <$> r) <|> pure none

/-- Repeats a step on a state until it has nothing more to do. -/
def loop {α : Type} (step : α → Reader (Option α)) : Nat → α → Reader α
  | 0, a => pure a
  | fuel + 1, a => do
    match ← step a with
    | some next => loop step fuel next
    | none => return a

/-- How often a loop can take a token. -/
def remaining : Reader Nat := do
  return (← read).size - (← get) + 1

/-- Repeats a step on a state, as often as tokens can be taken. -/
def iterate {α : Type} (start : α) (step : α → Reader (Option α)) : Reader α := do
  loop step (← remaining) start

/-- Items separated by commas, at least one; also whether a comma follows the last.  `item` must
fail where no item starts. -/
def commaSeparated {α : Type} (item : Reader α) : Reader (List α × Bool) := do
  let first ← item
  let (items, trailing, _) ← iterate ([first], false, true) fun (items, _, more) => do
    if !more then return none
    if ← takeOp "," then
      match ← attempt item with
      | some next => return some (next :: items, false, true)
      | none => return some (items, true, false)
    else return none
  return (items.reverse, trailing)

/-- Readers with the same beginning: one or more of an item. -/
def many1 {α : Type} (item : Reader α) : Reader (List α) := do
  let first ← item
  let items ← iterate [first] fun items => do
    return (← attempt item).map (· :: items)
  return items.reverse

end Reader

/-- The readers that rules use recursively. -/
structure Grammar where
  primary : Reader Node
  factor : Reader Node
  bitwiseOr : Reader Node
  disjunction : Reader Node
  expression : Reader Node
  namedExpression : Reader Node
  starExpressions : Reader Node
  statement : Reader (List Node)
  pattern : Reader Node

/-- The grammar without any sentence. -/
def Grammar.empty : Grammar where
  primary := failure
  factor := failure
  bitwiseOr := failure
  disjunction := failure
  expression := failure
  namedExpression := failure
  starExpressions := failure
  statement := failure
  pattern := failure

end CallChain.Python
