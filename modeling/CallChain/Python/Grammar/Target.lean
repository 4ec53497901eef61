import CallChain.Python.Grammar.Reader

/-!
# Targets of assignments

Whatever can stand on the left of an assignment is also an expression, so targets are read as
expressions and then checked: names, attribute accesses and subscripts, tuples and lists of
targets, and a star in front of one.
-/

namespace CallChain.Python

/-- An expression as a target, if it is one; a star is only for storing. -/
def asTarget? (context : Context) : Node → Option Node
  | .name span id _ => some (.name span id context)
  | .member span receiver name _ => some (.member span receiver name context)
  | .subscript value index => some (.subscript value index)
  | .starred value =>
    match context, value with
    | .store, .starred _ => none
    | .store, _ => (asTarget? context value).map .starred
    | _, _ => none
  | .tuple elements => (allTargets? context elements).map .tuple
  | .listDisplay elements => (allTargets? context elements).map .listDisplay
  | _ => none
where
  /-- A list of expressions as targets. -/
  allTargets? (context : Context) : List Node → Option (List Node)
  | [] => some []
  | n :: rest => do
    let t ← asTarget? context n
    let ts ← allTargets? context rest
    return t :: ts

/-- An expression as the one target of an annotated or augmented assignment. -/
def asSingleTarget? : Node → Option Node
  | .name span id _ => some (.name span id .store)
  | .member span receiver name _ => some (.member span receiver name .store)
  | .subscript value index => some (.subscript value index)
  | _ => none

open Reader in
/-- A target, with or without a star, that is read without looking for operators. -/
def starTarget (g : Grammar) : Reader Node := do
  if ← takeOp "*" then
    if isOp "*" (← peek) then failure
    match asTarget? .store (← g.primary) with
    | some t => return .starred t
    | none => failure
  else
    match asTarget? .store (← g.primary) with
    | some t => return t
    | none => failure

open Reader in
/-- One or more targets; more than one, or a comma at the end, makes a tuple. -/
def starTargets (g : Grammar) : Reader Node := do
  let (targets, trailing) ← commaSeparated (starTarget g)
  match targets, trailing with
  | [one], false => return one
  | many, _ => return .tuple many

end CallChain.Python
