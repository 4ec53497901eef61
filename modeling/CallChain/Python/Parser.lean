import CallChain.Python.Grammar.Statements

/-!
# Parsing Python

The rules are tied into one grammar by a bound on how deep they may call each other.  Every
recursive call comes after a token of the source, so a bound of the length of the source is
never reached.  `parse?` accepts what the language's own parser accepts, which is more than its
compiler accepts: where `return` or `break` may stand is not a matter of syntax.  How deep a source may
nest is limited by the rules for brackets and indentation only, not by the room that a parser has.  Of a
source that is refused, only the kind of fault is told.
-/

namespace CallChain.Python

/-- The grammar of the language, up to a depth of nesting. -/
def grammar : Nat → Grammar
  | 0 => Grammar.empty
  | depth + 1 =>
    { primary := fun tokens => primary (grammar depth) tokens
      factor := fun tokens => factor (grammar depth) tokens
      bitwiseOr := fun tokens => bitwiseOr (grammar depth) tokens
      disjunction := fun tokens => disjunction (grammar depth) tokens
      expression := fun tokens => expression (grammar depth) tokens
      namedExpression := fun tokens => namedExpression (grammar depth) tokens
      starExpressions := fun tokens => starExpressions (grammar depth) tokens
      statement := fun tokens => statement (grammar depth) tokens
      pattern := fun tokens => pattern (grammar depth) tokens }

open Reader in
/-- Statements up to the end of the source. -/
def wholeSource (g : Grammar) : Reader (List Node) := do
  let statements ← iterate [] fun statements => do
    match ← peek with
    | some .endOfSource => return none
    | _ => return some ((← g.statement) :: statements)
  return statements.reverse.flatten

/-- Why a source has no tree. -/
inductive SourceFault where
  | nullCharacter
  | malformed

/-- The tree of a source. -/
def parse (source : String) : Except SourceFault Node :=
  let cs := source.toList
  if cs.contains (Char.ofNat 0) then .error .nullCharacter
  else
    let tree : Option Node := do
      let tokens ← tokenize ⟨1, 0⟩ cs
      let (statements, _) ← ((wholeSource (grammar (cs.length + 2))).run tokens).run 0
      return .moduleBody statements
    match tree with
    | some node => .ok node
    | none => .error .malformed

/-- The tree of a source, if it has one. -/
def parse? (source : String) : Option Node := (parse source).toOption

end CallChain.Python
