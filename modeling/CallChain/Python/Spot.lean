import CallChain.Python.Node

/-!
# Places in a tree

A `Spot` is a node together with the way up to the root: the node above it, the role it plays
there and its number among the children.  Climbing is then plain recursion, and two spots of a
tree are the same place exactly when their paths agree.  `walk` lists the spots of a tree level
by level, `preorder` each spot before what is below it.
-/

namespace CallChain.Python

/-- A node with the way up to the root of its tree. -/
inductive Spot where
  | root (node : Node)
  | child (parent : Spot) (role : Role) (index : Nat) (node : Node)
  deriving Inhabited

namespace Spot

/-- The node at a spot. -/
def node : Spot → Node
  | .root n => n
  | .child _ _ _ n => n

/-- The spot above. -/
def parent? : Spot → Option Spot
  | .root _ => none
  | .child p _ _ _ => some p

/-- The numbers of the children on the way from the root, the last one first. -/
def path : Spot → List Nat
  | .root _ => []
  | .child p _ i _ => i :: p.path

/-- The spots above, nearest first. -/
def above : Spot → List Spot
  | .root _ => []
  | .child p _ _ _ => p :: p.above

/-- The spots right below, in order. -/
def children (s : Spot) : List Spot :=
  s.node.children.mapIdx fun i c => .child s c.1 i c.2

/-- Whether the node is a function definition. -/
def isFunction (s : Spot) : Bool :=
  match s.node with
  | .functionDef .. => true
  | _ => false

theorem sizeOf_node_lt_of_mem_children {s c : Spot} (hmem : c ∈ s.children) :
    sizeOf c.node < sizeOf s.node := by
  obtain ⟨i, hi, rfl⟩ := List.mem_mapIdx.mp hmem
  exact Node.sizeOf_lt_of_mem_children (List.getElem_mem hi)

/-! ## Level by level -/

/-- A number above the sizes of the nodes on a level; 0 if there are none. -/
noncomputable def levelSize : List Spot → Nat
  | [] => 0
  | s :: rest => max (sizeOf s.node + 1) (levelSize rest)

theorem sizeOf_node_lt_levelSize {s : Spot} {level : List Spot} (hmem : s ∈ level) :
    sizeOf s.node < levelSize level := by
  induction level with
  | nil => cases hmem
  | cons t rest ih =>
    rcases List.mem_cons.mp hmem with rfl | htail
    · exact Nat.le_max_left _ _
    · exact Nat.lt_of_lt_of_le (ih htail) (Nat.le_max_right _ _)

theorem levelSize_lt {level : List Spot} {bound : Nat} (hpos : 0 < bound)
    (hall : ∀ s ∈ level, sizeOf s.node + 1 < bound) : levelSize level < bound := by
  induction level with
  | nil => exact hpos
  | cons s rest ih =>
    exact Nat.max_lt.mpr ⟨hall s (by simp), ih fun t ht => hall t (by simp [ht])⟩

/-- The spots of a level, then those of the level below it, and so on. -/
def levels (level : List Spot) : List Spot :=
  if _hempty : level = [] then []
  else level ++ levels (level.flatMap children)
termination_by levelSize level
decreasing_by
  obtain ⟨first, hfirst⟩ := List.exists_mem_of_ne_nil _ _hempty
  refine levelSize_lt (Nat.zero_lt_of_lt (sizeOf_node_lt_levelSize hfirst)) ?_
  intro c hc
  obtain ⟨s, _, hcs⟩ := List.mem_flatMap.mp hc
  exact Nat.lt_of_le_of_lt (sizeOf_node_lt_of_mem_children hcs) (sizeOf_node_lt_levelSize s.property)

/-- The spots of the tree below `s`, itself included, breadth first. -/
def walk (s : Spot) : List Spot := levels [s]

/-! ## Depth first -/

/-- The spots of the tree below `s`, each before those below it. -/
def preorder (s : Spot) : List Spot :=
  s :: s.children.attach.flatMap fun ⟨c, _⟩ => preorder c
termination_by sizeOf s.node
decreasing_by exact sizeOf_node_lt_of_mem_children ‹_›

end Spot

end CallChain.Python
