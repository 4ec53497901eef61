import CallChain.Python.Spot
import CallChain.Text.Blank
import CallChain.Text.Letters
import CallChain.Text.Quoted
import CallChain.Text.Words

/-!
# What names say

Questions that the analysis asks about single nodes: which dotted name an expression spells,
which class an annotation means, whether a function does anything, what its first parameter is,
and whether it is declared static.
-/

namespace CallChain.Python.Node

/-- The dotted name that an expression spells, if it is a name or an attribute of one. -/
def dotted? : Node → Option String
  | .name _ id _ => some id
  | .member _ receiver attr _ => (dotted? receiver).map fun base => base ++ "." ++ attr
  | _ => none

/-- Whether a text in an annotation reads as a dotted name. -/
def isNameLike (points : List Nat) : Bool :=
  let core := points.filter fun p => p != 46 && p != 95
  !core.isEmpty && core.all Text.isAlphanumeric

/-- The class that an annotation means: a dotted name, as such or in quotes, or the one inside
`Optional[…]`. -/
def annotated? : Node → Option String
  | .literal (.text points _) =>
    let core := Text.trimBy Text.isBlank points
    if isNameLike core then some (String.ofList (core.map Text.charOf)) else none
  | .subscript value index =>
    match dotted? value with
    | some container => if Text.lastPart container = "Optional" then annotated? index else none
    | none => none
  | node => dotted? node

/-- Whether a statement is a text for itself. -/
def isDocText : Node → Bool
  | .exprStmt (.literal (.text _ _)) => true
  | _ => false

/-- Whether a statement only stands in for code: `pass`, `...` and raising
`NotImplementedError`. -/
def isPlaceholder : Node → Bool
  | .pass => true
  | .exprStmt (.literal .ellipsis) => true
  | .raises (some (.call _ callee _ _)) _ => dotted? callee == some "NotImplementedError"
  | .raises (some exception) _ => dotted? exception == some "NotImplementedError"
  | _ => false

/-- The statements of a function. -/
def functionBody : Node → List Node
  | .functionDef _ _ _ _ body _ _ => body
  | _ => []

/-- Whether a function does anything: a text in front and placeholders do not count. -/
def hasBody (function : Node) : Bool :=
  let statements := match functionBody function with
    | first :: rest => if isDocText first then rest else first :: rest
    | [] => []
  statements.any fun s => !isPlaceholder s

/-- The name of a parameter. -/
def paramId? : Node → Option String
  | .param id _ => some id
  | _ => none

/-- The first positional parameter of a function. -/
def firstParameter? : Node → Option String
  | .functionDef _ _ _ (.parameters positionalOnly positional _ _ _ _ _) _ _ _ =>
    (positionalOnly ++ positional).head?.bind paramId?
  | _ => none

/-- Whether a function is decorated as static. -/
def isStatic : Node → Bool
  | .functionDef _ _ _ _ _ decorators _ =>
    decorators.any fun d => (dotted? d).any fun name => Text.lastPart name == "staticmethod"
  | _ => false

/-- Whether a node is a class. -/
def isClass : Node → Bool
  | .classDef .. => true
  | _ => false

/-- Whether a node opens a scope of its own. -/
def opensScope : Node → Bool
  | .functionDef .. => true
  | .classDef .. => true
  | .lambda .. => true
  | _ => false

/-- A node and, depth first, what is below it, except below children that open a scope of their
own. -/
def localNodes (node : Node) : List Node :=
  node :: node.children.attach.flatMap fun ⟨c, _⟩ => if c.2.opensScope then [] else localNodes c.2
termination_by sizeOf node
decreasing_by exact sizeOf_lt_of_mem_children ‹_›

end CallChain.Python.Node
