import CallChain.Imports

/-!
# Hand-offs to another thread of execution

A reference is handed off when it stands inside a call that starts a thread, builds an executor
or schedules work: the callee is an attribute with the name of a scheduling method, or its last
name, aliases expanded, is that of a thread constructor or an executor type.  The check goes by
names only.
-/

namespace CallChain

open Python

/-- The names that mark hand-offs. -/
structure HandOffNames where
  threadConstructors : List String
  executorTypes : List String
  executorMethods : List String

namespace HandOffNames

/-- Whether a callee hands its arguments off. -/
def matchesCallee (names : HandOffNames) (imports : Option ImportTable) (callee : Node) : Bool :=
  let byMethod := match callee with
    | .member _ _ attr _ => names.executorMethods.contains attr
    | _ => false
  if byMethod then true
  else match callee.dotted? with
    | none => false
    | some dotted =>
      let full := match imports with
        | some table => table.expand dotted
        | none => dotted
      let last := Text.lastPart full
      names.threadConstructors.contains last || names.executorTypes.contains last

/-- Whether a node is a call that hands off. -/
def isHandOff (names : HandOffNames) (imports : Option ImportTable) (node : Node) : Bool :=
  match node with
  | .call _ callee _ _ => names.matchesCallee imports callee
  | _ => false

/-- Whether a spot, or one above it below the spot with the path `stop`, is a hand-off. -/
def covers (names : HandOffNames) (imports : Option ImportTable) (stop : Option (List Nat)) :
    Spot → Bool
  | .root node => stop != some [] && names.isHandOff imports node
  | .child parent role index node =>
    if stop == some (Spot.child parent role index node).path then false
    else names.isHandOff imports node || covers names imports stop parent

end HandOffNames

end CallChain
