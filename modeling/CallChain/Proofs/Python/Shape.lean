import CallChain.Python.Node

/-!
# Where functions begin in a tree

`definitionLines` lists the lines on which the functions of a tree begin, in document order.
Functions are statements, so a node from which downward there are no statements, a `Plain` one, has
no such line; expressions and patterns are plain.  Nor has a `Simple` statement, below which all is
plain.  That a node is plain also says that there is no empty name in it.
-/

namespace CallChain.Python.Node

/-- Whether a node is a statement, or one of the parts of a statement that hold statements. -/
def isStatement : Node → Bool
  | .moduleBody _ | .functionDef .. | .classDef .. | .returnStmt _ | .deletes _ | .assign ..
  | .augAssign .. | .annAssign .. | .forLoop .. | .whileLoop .. | .ifElse .. | .withBlock ..
  | .matchOn .. | .raises .. | .tryExcept .. | .asserts .. | .imports _ | .importFrom ..
  | .globals _ | .nonlocals _ | .exprStmt _ | .pass | .breaks | .continues
  | .exceptHandler .. | .matchCase .. => true
  | _ => false

/-- Whether a node can stand below statements: it is none, and if it is a name, then a name that is not
empty. -/
def isPart : Node → Bool
  | .name _ id _ => id != ""
  | node => !node.isStatement

theorem isStatement_of_isPart {node : Node} (hpart : node.isPart = true) :
    node.isStatement = false := by
  cases node <;> first | rfl | cases hpart

/-- From the node downward there are no statements, and no name is empty. -/
inductive Plain : Node → Prop
  | intro {node : Node} (hkind : node.isPart = true)
      (hbelow : ∀ child ∈ node.children, Plain child.2) : Plain node

theorem Plain.isStatement_eq_false {node : Node} (hplain : node.Plain) : node.isStatement = false := by
  obtain ⟨hkind, -⟩ := hplain
  exact isStatement_of_isPart hkind

/-! ## Plain nodes -/

/-- All the trees are plain. -/
def AllPlain (nodes : List Node) : Prop := ∀ node ∈ nodes, node.Plain

@[simp] theorem allPlain_nil : AllPlain [] := by simp [AllPlain]

@[simp] theorem allPlain_cons {node : Node} {nodes : List Node} :
    AllPlain (node :: nodes) ↔ node.Plain ∧ AllPlain nodes := by
  simp [AllPlain]

@[simp] theorem allPlain_append {first second : List Node} :
    AllPlain (first ++ second) ↔ AllPlain first ∧ AllPlain second :=
  List.forall_mem_append

@[simp] theorem allPlain_reverse {nodes : List Node} :
    AllPlain nodes.reverse ↔ AllPlain nodes := by
  simp [AllPlain]

theorem allPlain_toList {node? : Option Node} :
    AllPlain node?.toList ↔ ∀ node ∈ node?, node.Plain := by
  simp [AllPlain]

theorem AllPlain.filter {nodes : List Node} (hplain : AllPlain nodes) (keep : Node → Bool) :
    AllPlain (nodes.filter keep) :=
  fun node hnode => hplain node (List.mem_filter.mp hnode).1

@[simp] theorem map_snd_parts (nodes : List Node) : (parts nodes).map Prod.snd = nodes := by
  simp [parts, Function.comp_def]

@[simp] theorem map_snd_written (nodes : List Node) :
    (written nodes).map Prod.snd = nodes.filter fun node => !node.isOmitted :=
  map_snd_parts _

/-- A node that can stand below statements is plain if the nodes right below it are. -/
theorem Plain.of {node : Node} (hkind : node.isPart = true)
    (hbelow : AllPlain (node.children.map Prod.snd)) : node.Plain :=
  .intro hkind fun child hchild => hbelow child.2 (List.mem_map_of_mem hchild)

theorem Plain.children {node : Node} (hplain : node.Plain) :
    AllPlain (node.children.map Prod.snd) := by
  obtain ⟨_, hbelow⟩ := hplain
  intro child hchild
  obtain ⟨entry, hentry, rfl⟩ := List.mem_map.mp hchild
  exact hbelow entry hentry

/-! ## Simple statements -/

/-- The name that a node declares, if it is a function or a class. -/
def declaredName? : Node → Option String
  | .functionDef _ _ id _ _ _ _ => some id
  | .classDef id _ _ _ _ => some id
  | _ => none

/-- A statement that declares nothing and holds no other statement. -/
structure Simple (node : Node) : Prop where
  kind : node.isStatement = true
  silent : node.declaredName? = none
  below : AllPlain (node.children.map Prod.snd)

theorem Simple.leaf {node : Node} (hkind : node.isStatement = true)
    (hsilent : node.declaredName? = none) (hleaf : node.children = []) : node.Simple :=
  ⟨hkind, hsilent, by simp [hleaf]⟩

/-! ## Where functions begin -/

/-- The line on which a node begins as a function, if it is one. -/
def ownLine : Node → List Nat
  | .functionDef _ span _ _ _ _ _ => [span.line]
  | _ => []

/-- The lines on which the functions of a tree begin, in document order. -/
def definitionLines (node : Node) : List Nat :=
  node.ownLine ++ node.children.attach.flatMap fun ⟨child, _⟩ => definitionLines child.2
termination_by sizeOf node
decreasing_by exact sizeOf_lt_of_mem_children ‹_›

theorem definitionLines_eq (node : Node) :
    node.definitionLines =
      node.ownLine ++ node.children.flatMap fun child => child.2.definitionLines := by
  rw [definitionLines, List.flatMap_subtype (g := fun child => child.2.definitionLines)
    fun _ _ => rfl, List.unattach_attach]

theorem ownLine_of_not_isStatement {node : Node} (hkind : node.isStatement = false) :
    node.ownLine = [] := by
  unfold ownLine
  split
  · simp [isStatement] at hkind
  · rfl

theorem Plain.definitionLines_eq_nil {node : Node} (hplain : node.Plain) :
    node.definitionLines = [] := by
  induction hplain with
  | intro hkind _ ih =>
      rw [definitionLines_eq, ownLine_of_not_isStatement (isStatement_of_isPart hkind), List.nil_append,
        List.flatMap_eq_nil_iff]
      exact ih

theorem ownLine_of_declaredName? {node : Node} (hsilent : node.declaredName? = none) :
    node.ownLine = [] := by
  unfold ownLine
  split
  · simp [declaredName?] at hsilent
  · rfl

theorem Simple.definitionLines_eq_nil {node : Node} (hsimple : node.Simple) :
    node.definitionLines = [] := by
  rw [definitionLines_eq, ownLine_of_declaredName? hsimple.silent, List.nil_append,
    List.flatMap_eq_nil_iff]
  intro child hchild
  exact (hsimple.below child.2 (List.mem_map_of_mem hchild)).definitionLines_eq_nil

/-- The lines on which the functions of several trees begin. -/
def linesOf (nodes : List Node) : List Nat := nodes.flatMap definitionLines

@[simp] theorem linesOf_nil : linesOf [] = [] := rfl

@[simp] theorem linesOf_append (first second : List Node) :
    linesOf (first ++ second) = linesOf first ++ linesOf second :=
  List.flatMap_append ..

theorem AllPlain.linesOf_eq_nil {nodes : List Node} (hplain : AllPlain nodes) :
    linesOf nodes = [] := by
  rw [linesOf, List.flatMap_eq_nil_iff]
  exact fun node hnode => (hplain node hnode).definitionLines_eq_nil

theorem flatMap_role (role : Role) (nodes : List Node) :
    ((nodes.map (role, ·)).flatMap fun child => child.2.definitionLines) = linesOf nodes := by
  simp [linesOf, List.flatMap_map]

theorem flatMap_parts (nodes : List Node) :
    ((parts nodes).flatMap fun child => child.2.definitionLines) = linesOf nodes :=
  flatMap_role .part nodes

end CallChain.Python.Node
