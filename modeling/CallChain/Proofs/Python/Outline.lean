import CallChain.Python.Names
import Mathlib.Data.List.Basic

/-!
# Trees without the bodies of their scopes

`Node.outline` leaves out of a tree what the functions, classes and lambdas in it hold in their
bodies, and keeps everything else: so two trees have one outline exactly if they differ in such
bodies only.  Outside of a scope the outline of a tree is the tree with each child outlined, and a
walk that enters no scope comes to the outlines of the nodes it comes to in the tree itself.
-/

namespace CallChain.Python.Node

mutual

/-- A tree without the bodies of the functions, classes and lambdas in it. -/
def outline : Node → Node
  | .functionDef isAsync span id params _ decorators returns =>
    .functionDef isAsync span id (outline params) [] (outlineAll decorators) (outlineAny returns)
  | .classDef id bases keywords _ decorators =>
    .classDef id (outlineAll bases) (outlineAll keywords) [] (outlineAll decorators)
  | .lambda params _ => .lambda (outline params) .omitted
  | .moduleBody body => .moduleBody (outlineAll body)
  | .returnStmt value => .returnStmt (outlineAny value)
  | .deletes targets => .deletes (outlineAll targets)
  | .assign targets value => .assign (outlineAll targets) (outline value)
  | .augAssign target op value => .augAssign (outline target) op (outline value)
  | .annAssign target hint value => .annAssign (outline target) (outline hint) (outlineAny value)
  | .forLoop isAsync target iter body orElse =>
    .forLoop isAsync (outline target) (outline iter) (outlineAll body) (outlineAll orElse)
  | .whileLoop test body orElse => .whileLoop (outline test) (outlineAll body) (outlineAll orElse)
  | .ifElse test body orElse => .ifElse (outline test) (outlineAll body) (outlineAll orElse)
  | .withBlock isAsync items body => .withBlock isAsync (outlineAll items) (outlineAll body)
  | .matchOn subject cases => .matchOn (outline subject) (outlineAll cases)
  | .raises exception cause => .raises (outlineAny exception) (outlineAny cause)
  | .tryExcept isGroup body handlers orElse finally' =>
    .tryExcept isGroup (outlineAll body) (outlineAll handlers) (outlineAll orElse)
      (outlineAll finally')
  | .asserts test message => .asserts (outline test) (outlineAny message)
  | .exprStmt value => .exprStmt (outline value)
  | .boolOp op values => .boolOp op (outlineAll values)
  | .namedExpr target value => .namedExpr (outline target) (outline value)
  | .binOp left op right => .binOp (outline left) op (outline right)
  | .unaryOp op operand => .unaryOp op (outline operand)
  | .ifExp test body orElse => .ifExp (outline test) (outline body) (outline orElse)
  | .dict keys values => .dict (outlineAll keys) (outlineAll values)
  | .setDisplay elements => .setDisplay (outlineAll elements)
  | .listComp element generators => .listComp (outline element) (outlineAll generators)
  | .setComp element generators => .setComp (outline element) (outlineAll generators)
  | .dictComp key value generators =>
    .dictComp (outline key) (outline value) (outlineAll generators)
  | .generator element generators => .generator (outline element) (outlineAll generators)
  | .awaits value => .awaits (outline value)
  | .yields value => .yields (outlineAny value)
  | .yieldsFrom value => .yieldsFrom (outline value)
  | .comparison left ops others => .comparison (outline left) ops (outlineAll others)
  | .call span callee args keywords =>
    .call span (outline callee) (outlineAll args) (outlineAll keywords)
  | .formattedValue value conversion format =>
    .formattedValue (outline value) conversion (outlineAny format)
  | .joinedText values => .joinedText (outlineAll values)
  | .member span receiver attr context => .member span (outline receiver) attr context
  | .subscript value index => .subscript (outline value) (outline index)
  | .starred value => .starred (outline value)
  | .listDisplay elements => .listDisplay (outlineAll elements)
  | .tuple elements => .tuple (outlineAll elements)
  | .slice lower upper step => .slice (outlineAny lower) (outlineAny upper) (outlineAny step)
  | .comprehension isAsync target iter conditions =>
    .comprehension isAsync (outline target) (outline iter) (outlineAll conditions)
  | .exceptHandler type id body => .exceptHandler (outlineAny type) id (outlineAll body)
  | .parameters positionalOnly positional rest keywordOnly keywordDefaults keywordRest defaults =>
    .parameters (outlineAll positionalOnly) (outlineAll positional) (outlineAny rest)
      (outlineAll keywordOnly) (outlineAll keywordDefaults) (outlineAny keywordRest)
      (outlineAll defaults)
  | .param id hint => .param id (outlineAny hint)
  | .keyword id value => .keyword id (outline value)
  | .withItem context target => .withItem (outline context) (outlineAny target)
  | .matchCase pattern guard body =>
    .matchCase (outline pattern) (outlineAny guard) (outlineAll body)
  | .matchValue value => .matchValue (outline value)
  | .matchSequence patterns => .matchSequence (outlineAll patterns)
  | .matchMapping keys patterns rest => .matchMapping (outlineAll keys) (outlineAll patterns) rest
  | .matchClass type patterns keywordNames keywordPatterns =>
    .matchClass (outline type) (outlineAll patterns) keywordNames (outlineAll keywordPatterns)
  | .matchAs pattern id => .matchAs (outlineAny pattern) id
  | .matchOr patterns => .matchOr (outlineAll patterns)
  | .imports names => .imports names
  | .importFrom source names level => .importFrom source names level
  | .globals names => .globals names
  | .nonlocals names => .nonlocals names
  | .pass => .pass
  | .breaks => .breaks
  | .continues => .continues
  | .literal value => .literal value
  | .name span id context => .name span id context
  | .matchSingleton value => .matchSingleton value
  | .matchStar id => .matchStar id
  | .omitted => .omitted

/-- The outlines of several trees. -/
def outlineAll : List Node → List Node
  | [] => []
  | node :: nodes => outline node :: outlineAll nodes

/-- The outline of a tree that may be left out. -/
def outlineAny : Option Node → Option Node
  | none => none
  | some node => some (outline node)

end

@[simp] theorem outlineAll_eq_map (nodes : List Node) : outlineAll nodes = nodes.map outline := by
  induction nodes with
  | nil => rw [outlineAll, List.map_nil]
  | cons node nodes ih => rw [outlineAll, ih, List.map_cons]

@[simp] theorem outlineAny_eq_map (node? : Option Node) : outlineAny node? = node?.map outline := by
  cases node? with
  | none => rw [outlineAny, Option.map_none]
  | some node => rw [outlineAny, Option.map_some]

@[simp] theorem isOmitted_outline (node : Node) : node.outline.isOmitted = node.isOmitted := by
  cases node <;> simp only [outline, isOmitted]

@[simp] theorem opensScope_outline (node : Node) : node.outline.opensScope = node.opensScope := by
  cases node <;> simp only [outline, opensScope]

/-! ## Children -/

/-- A node in its role, outlined. -/
def outlineChild (child : Role × Node) : Role × Node := (child.1, child.2.outline)

theorem parts_outline (nodes : List Node) :
    parts (nodes.map outline) = (parts nodes).map outlineChild := by
  simp [parts, outlineChild, Function.comp_def]

theorem written_outline (nodes : List Node) :
    written (nodes.map outline) = (written nodes).map outlineChild := by
  rw [written, written, List.filter_map, parts_outline]
  simp [Function.comp_def]

/-- A node with the trees below it outlined; if it opens a scope, its own body is kept. -/
def outlineBelow : Node → Node
  | .functionDef isAsync span id params body decorators returns =>
    .functionDef isAsync span id params.outline (body.map outline) (decorators.map outline)
      (returns.map outline)
  | .classDef id bases keywords body decorators =>
    .classDef id (bases.map outline) (keywords.map outline) (body.map outline)
      (decorators.map outline)
  | .lambda params body => .lambda params.outline body.outline
  | node => node.outline

theorem outlineBelow_of_not_opensScope {node : Node} (hopens : node.opensScope = false) :
    node.outlineBelow = node.outline := by
  cases node with
  | functionDef | classDef | lambda => simp [opensScope] at hopens
  | _ => simp only [outlineBelow]

@[simp] theorem opensScope_outlineBelow (node : Node) :
    node.outlineBelow.opensScope = node.opensScope := by
  cases node <;> simp only [outlineBelow, outline, opensScope]

theorem children_outlineBelow (node : Node) :
    node.outlineBelow.children = node.children.map outlineChild := by
  have hbody (body : List Node) : (body.map outline).map (Role.body, ·) =
      (body.map (Role.body, ·)).map outlineChild := by
    simp [outlineChild, Function.comp_def]
  cases node <;>
    simp only [outlineBelow, outline, children, outlineAll_eq_map, outlineAny_eq_map,
      Option.toList_map, parts_outline, written_outline, hbody, List.map_append, List.map_cons,
      List.map_nil, outlineChild]

/-! ## Names and walks -/

@[simp] theorem dotted?_outline (node : Node) : node.outline.dotted? = node.dotted? := by
  induction node using dotted?.induct with
  | case1 => rw [outline]
  | case2 span receiver attr context ih => rw [outline, dotted?, dotted?, ih]
  | case3 node hname hmember =>
      cases node with
      | name span id context => exact absurd rfl (hname span id context)
      | member span receiver attr context => exact absurd rfl (hmember span receiver attr context)
      | _ => simp only [outline, dotted?]

@[simp] theorem annotated?_outline (node : Node) : node.outline.annotated? = node.annotated? := by
  induction node using annotated?.induct with
  | case1 | case2 => rw [outline]
  | case3 value index container hvalue hoptional ih =>
      simp only [outline, annotated?, dotted?_outline, ih]
  | case4 value index container hvalue hother =>
      simp only [outline, annotated?, dotted?_outline, hvalue, if_neg hother]
  | case5 value index hvalue => simp only [outline, annotated?, dotted?_outline, hvalue]
  | case6 node hliteral hsubscript =>
      cases node with
      | literal value => rw [outline]
      | subscript value index => exact absurd rfl (hsubscript value index)
      | member span receiver attr context =>
          simpa only [outline, annotated?] using dotted?_outline (.member span receiver attr context)
      | _ => simp only [outline, annotated?, dotted?]

theorem localNodes_eq (node : Node) :
    node.localNodes =
      node :: node.children.flatMap fun c => if c.2.opensScope then [] else c.2.localNodes := by
  rw [localNodes, List.flatMap_subtype
    (g := fun c => if c.2.opensScope then [] else c.2.localNodes) fun _ _ => rfl,
    List.unattach_attach]

/-- A walk below a node comes to the outlines of what it comes to in the tree itself. -/
theorem localNodes_outlineBelow (node : Node) :
    node.outlineBelow.localNodes = node.outlineBelow :: node.localNodes.tail.map outline := by
  induction node using localNodes.induct with
  | case1 node ih =>
      have hchild : ∀ child ∈ node.children,
          (if (outlineChild child).2.opensScope then [] else (outlineChild child).2.localNodes) =
            (if child.2.opensScope then [] else child.2.localNodes).map outline := by
        intro child hmem
        simp only [outlineChild, opensScope_outline]
        split
        · rw [List.map_nil]
        · rename_i hinner
          have hbelow := ih child hmem
          rw [outlineBelow_of_not_opensScope (Bool.eq_false_iff.mpr hinner)] at hbelow
          rw [hbelow, localNodes_eq child.2, List.tail_cons, List.map_cons]
      rw [localNodes_eq node, localNodes_eq node.outlineBelow, children_outlineBelow,
        List.tail_cons, List.flatMap_map, List.map_flatMap, List.flatMap_congr hchild]

end CallChain.Python.Node
