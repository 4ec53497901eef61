/-!
# Syntax trees of Python

One type holds every kind of node, so that a walk through a tree is a walk through one type.
A node keeps what the analysis asks for: names, literals, operators and, for functions, calls,
names and attribute accesses, the place in the source.  `Node.children` lists the nodes right
below a node, each with the part it plays there, in the order in which the language's grammar
lists the fields of the node.  That order decides which of two references comes first.

Where a field may be left out inside a list (the key of `**d` in a dictionary, the default of a
keyword-only parameter), the list holds `Node.omitted`, which is never a child.
-/

namespace CallChain.Python

/-- A stretch of source: lines from one, columns in bytes from zero, the end exclusive. -/
structure Span where
  line : Nat
  column : Nat
  endLine : Nat
  endColumn : Nat
  deriving Inhabited, DecidableEq, Repr

/-- What a name or an attribute access is for. -/
inductive Context where
  | load
  | store
  | delete
  deriving DecidableEq

/-- A literal.  Texts are lists of code points, since escapes can spell lone surrogates;
`marked` records a `u` in front of the text. -/
inductive Literal where
  | none
  | bool (b : Bool)
  | ellipsis
  | int (n : Nat)
  | float (x : Float)
  | imaginary (x : Float)
  | text (points : List Nat) (marked : Bool)
  | bytes (bytes : List Nat)

inductive BinaryOp where
  | add | sub | mult | matMult | div | mod | leftShift | rightShift
  | bitOr | bitXor | bitAnd | floorDiv | power
  deriving DecidableEq

inductive UnaryOp where
  | invert | not | plus | minus
  deriving DecidableEq

inductive BoolOp where
  | and | or
  deriving DecidableEq

inductive CompareOp where
  | eq | notEq | lt | ltE | gt | gtE | is | isNot | in | notIn
  deriving DecidableEq

/-- One imported name: what is imported, and the local name after `as`. -/
structure Alias where
  name : String
  asName : Option String

/-- A node of a syntax tree. -/
inductive Node where
  | moduleBody (body : List Node)
  -- statements
  | functionDef (isAsync : Bool) (span : Span) (name : String) (params : Node) (body : List Node)
      (decorators : List Node) (returns : Option Node)
  | classDef (name : String) (bases keywords body decorators : List Node)
  | returnStmt (value : Option Node)
  | deletes (targets : List Node)
  | assign (targets : List Node) (value : Node)
  | augAssign (target : Node) (op : BinaryOp) (value : Node)
  | annAssign (target hint : Node) (value : Option Node)
  | forLoop (isAsync : Bool) (target iter : Node) (body orElse : List Node)
  | whileLoop (test : Node) (body orElse : List Node)
  | ifElse (test : Node) (body orElse : List Node)
  | withBlock (isAsync : Bool) (items body : List Node)
  | matchOn (subject : Node) (cases : List Node)
  | raises (exception cause : Option Node)
  | tryExcept (isGroup : Bool) (body handlers orElse finally' : List Node)
  | asserts (test : Node) (message : Option Node)
  | imports (names : List Alias)
  | importFrom (source : Option String) (names : List Alias) (level : Nat)
  | globals (names : List String)
  | nonlocals (names : List String)
  | exprStmt (value : Node)
  | pass
  | breaks
  | continues
  -- expressions
  | boolOp (op : BoolOp) (values : List Node)
  | namedExpr (target value : Node)
  | binOp (left : Node) (op : BinaryOp) (right : Node)
  | unaryOp (op : UnaryOp) (operand : Node)
  | lambda (params body : Node)
  | ifExp (test body orElse : Node)
  | dict (keys values : List Node)
  | setDisplay (elements : List Node)
  | listComp (element : Node) (generators : List Node)
  | setComp (element : Node) (generators : List Node)
  | dictComp (key value : Node) (generators : List Node)
  | generator (element : Node) (generators : List Node)
  | awaits (value : Node)
  | yields (value : Option Node)
  | yieldsFrom (value : Node)
  | comparison (left : Node) (ops : List CompareOp) (others : List Node)
  | call (span : Span) (callee : Node) (args keywords : List Node)
  | formattedValue (value : Node) (conversion : Option Char) (format : Option Node)
  | joinedText (values : List Node)
  | literal (value : Literal)
  | member (span : Span) (receiver : Node) (name : String) (context : Context)
  | subscript (value index : Node)
  | starred (value : Node)
  | name (span : Span) (id : String) (context : Context)
  | listDisplay (elements : List Node)
  | tuple (elements : List Node)
  | slice (lower upper step : Option Node)
  -- parts of statements and expressions
  | comprehension (isAsync : Bool) (target iter : Node) (conditions : List Node)
  | exceptHandler (type : Option Node) (name : Option String) (body : List Node)
  | parameters (positionalOnly positional : List Node) (rest : Option Node)
      (keywordOnly keywordDefaults : List Node) (keywordRest : Option Node) (defaults : List Node)
  | param (name : String) (hint : Option Node)
  | keyword (name : Option String) (value : Node)
  | withItem (context : Node) (target : Option Node)
  | matchCase (pattern : Node) (guard : Option Node) (body : List Node)
  -- patterns
  | matchValue (value : Node)
  | matchSingleton (value : Literal)
  | matchSequence (patterns : List Node)
  | matchMapping (keys patterns : List Node) (rest : Option String)
  | matchClass (type : Node) (patterns : List Node) (keywordNames : List String)
      (keywordPatterns : List Node)
  | matchStar (name : Option String)
  | matchAs (pattern : Option Node) (name : Option String)
  | matchOr (patterns : List Node)
  | omitted
  deriving Inhabited

/-- The part that a node plays in the node above it. -/
inductive Role where
  /-- A statement of the body of a function. -/
  | body
  /-- The expression that is called. -/
  | callee
  /-- The expression whose attribute is accessed. -/
  | receiver
  /-- Any other part. -/
  | part
  deriving DecidableEq, Repr

namespace Node

/-- Whether a node stands for something that is not written. -/
def isOmitted : Node → Bool
  | .omitted => true
  | _ => false

/-- Nodes in a role of their own. -/
def parts (nodes : List Node) : List (Role × Node) := nodes.map (Role.part, ·)

/-- The nodes of a list in which some may be left out. -/
def written (nodes : List Node) : List (Role × Node) := parts (nodes.filter fun n => !n.isOmitted)

/-- The nodes right below a node, in the order of its fields. -/
def children : Node → List (Role × Node)
  | .moduleBody body => parts body
  | .functionDef _ _ _ params body decorators returns =>
    (.part, params) :: body.map (Role.body, ·) ++ parts decorators ++ parts returns.toList
  | .classDef _ bases keywords body decorators =>
    parts bases ++ parts keywords ++ parts body ++ parts decorators
  | .returnStmt value => parts value.toList
  | .deletes targets => parts targets
  | .assign targets value => parts targets ++ [(.part, value)]
  | .augAssign target _ value => [(.part, target), (.part, value)]
  | .annAssign target hint value =>
    (.part, target) :: (.part, hint) :: parts value.toList
  | .forLoop _ target iter body orElse =>
    (.part, target) :: (.part, iter) :: (parts body ++ parts orElse)
  | .whileLoop test body orElse => (.part, test) :: (parts body ++ parts orElse)
  | .ifElse test body orElse => (.part, test) :: (parts body ++ parts orElse)
  | .withBlock _ items body => parts items ++ parts body
  | .matchOn subject cases => (.part, subject) :: parts cases
  | .raises exception cause => parts exception.toList ++ parts cause.toList
  | .tryExcept _ body handlers orElse finally' =>
    parts body ++ parts handlers ++ parts orElse ++ parts finally'
  | .asserts test message => (.part, test) :: parts message.toList
  | .exprStmt value => [(.part, value)]
  | .boolOp _ values => parts values
  | .namedExpr target value => [(.part, target), (.part, value)]
  | .binOp left _ right => [(.part, left), (.part, right)]
  | .unaryOp _ operand => [(.part, operand)]
  | .lambda params body => [(.part, params), (.part, body)]
  | .ifExp test body orElse => [(.part, test), (.part, body), (.part, orElse)]
  | .dict keys values => written keys ++ parts values
  | .setDisplay elements => parts elements
  | .listComp element generators => (.part, element) :: parts generators
  | .setComp element generators => (.part, element) :: parts generators
  | .dictComp key value generators => (.part, key) :: (.part, value) :: parts generators
  | .generator element generators => (.part, element) :: parts generators
  | .awaits value => [(.part, value)]
  | .yields value => parts value.toList
  | .yieldsFrom value => [(.part, value)]
  | .comparison left _ others => (.part, left) :: parts others
  | .call _ callee args keywords => (.callee, callee) :: (parts args ++ parts keywords)
  | .formattedValue value _ format => (.part, value) :: parts format.toList
  | .joinedText values => parts values
  | .member _ receiver _ _ => [(.receiver, receiver)]
  | .subscript value index => [(.part, value), (.part, index)]
  | .starred value => [(.part, value)]
  | .listDisplay elements => parts elements
  | .tuple elements => parts elements
  | .slice lower upper step => parts lower.toList ++ parts upper.toList ++ parts step.toList
  | .comprehension _ target iter conditions =>
    (.part, target) :: (.part, iter) :: parts conditions
  | .exceptHandler type _ body => parts type.toList ++ parts body
  | .parameters positionalOnly positional rest keywordOnly keywordDefaults keywordRest defaults =>
    parts positionalOnly ++ parts positional ++ parts rest.toList ++ parts keywordOnly ++
      written keywordDefaults ++ parts keywordRest.toList ++ parts defaults
  | .param _ hint => parts hint.toList
  | .keyword _ value => [(.part, value)]
  | .withItem context target => (.part, context) :: parts target.toList
  | .matchCase pattern guard body => (.part, pattern) :: (parts guard.toList ++ parts body)
  | .matchValue value => [(.part, value)]
  | .matchSequence patterns => parts patterns
  | .matchMapping keys patterns _ => parts keys ++ parts patterns
  | .matchClass type patterns _ keywordPatterns =>
    (.part, type) :: (parts patterns ++ parts keywordPatterns)
  | .matchAs pattern _ => parts pattern.toList
  | .matchOr patterns => parts patterns
  | .imports _ | .importFrom .. | .globals _ | .nonlocals _ | .pass | .breaks | .continues
  | .literal _ | .name .. | .matchSingleton _ | .matchStar _ | .omitted => []

/-! ## A child is smaller than the node above it -/

theorem sizeOf_lt_of_mem_parts {nodes : List Node} {child : Role × Node}
    (hmem : child ∈ parts nodes) : sizeOf child.2 < sizeOf nodes := by
  obtain ⟨node, hnode, rfl⟩ := List.mem_map.mp hmem
  exact List.sizeOf_lt_of_mem hnode

theorem sizeOf_lt_of_mem_written {nodes : List Node} {child : Role × Node}
    (hmem : child ∈ written nodes) : sizeOf child.2 < sizeOf nodes := by
  obtain ⟨node, hnode, rfl⟩ := List.mem_map.mp hmem
  exact List.sizeOf_lt_of_mem (List.mem_filter.mp hnode).1

theorem sizeOf_lt_of_mem_body {nodes : List Node} {child : Role × Node}
    (hmem : child ∈ nodes.map (Role.body, ·)) : sizeOf child.2 < sizeOf nodes := by
  obtain ⟨node, hnode, rfl⟩ := List.mem_map.mp hmem
  exact List.sizeOf_lt_of_mem hnode

theorem sizeOf_lt_of_mem_option {node? : Option Node} {child : Role × Node}
    (hmem : child ∈ parts node?.toList) : sizeOf child.2 < sizeOf node? := by
  cases node? with
  | none => simp [parts] at hmem
  | some node =>
    have : child = (Role.part, node) := by simpa [parts] using hmem
    subst this
    simp

theorem sizeOf_lt_of_mem_children {node : Node} {child : Role × Node}
    (hmem : child ∈ node.children) : sizeOf child.2 < sizeOf node := by
  cases node <;> simp only [children] at hmem <;>
    grind [→ sizeOf_lt_of_mem_parts, → sizeOf_lt_of_mem_written, → sizeOf_lt_of_mem_body,
      → sizeOf_lt_of_mem_option]

end Node

end CallChain.Python
