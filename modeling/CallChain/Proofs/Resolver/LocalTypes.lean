import CallChain.Proofs.Index.Mentions
import CallChain.Proofs.Occurrences
import CallChain.Proofs.Python.Outline
import Mathlib.Data.Fintype.EquivFin

/-!
# What local types are read from

The types of the local names of a function are read from its parameters and from a walk through its
body, which should enter no function, class or lambda on its way.  The walk leaves out the children
that open a scope, but it starts from the statements of the body, whatever they are: so it enters
the functions and classes that are themselves statements of the body, and no others.  What stands in
a scope further inside never matters, and what stands in any nested scope at all matters exactly if
such a scope is a statement of the body.
-/

namespace CallChain

open Python

/-! ## Types and outlines -/

theorem recordDeclared_outline (types : List (String × String)) (node : Node) :
    recordDeclared types node.outline = recordDeclared types node := by
  cases node with
  | annAssign target hint value =>
      cases target <;> simp only [Node.outline, recordDeclared, Node.annotated?_outline]
  | _ => simp only [Node.outline, recordDeclared]

theorem recordConstructed_outline (types : List (String × String)) (node : Node) :
    recordConstructed types node.outline = recordConstructed types node := by
  cases node with
  | assign targets value =>
      cases value with
      | call span callee args keywords =>
          simp only [Node.outline, recordConstructed, Node.dotted?_outline, Node.outlineAll_eq_map,
            List.foldl_map]
          cases callee.dotted? with
          | none => rfl
          | some type =>
              refine congrArg (fun step => targets.foldl step types) ?_
              funext t target
              cases target <;> simp only [Node.outline]
      | _ => simp only [Node.outline, recordConstructed]
  | _ => simp only [Node.outline, recordConstructed]

theorem recordDeclared_of_opensScope {node : Node} (hopens : node.opensScope = true)
    (types : List (String × String)) : recordDeclared types node = types := by
  cases node with
  | functionDef | classDef | lambda => rfl
  | _ => cases hopens

theorem recordConstructed_of_opensScope {node : Node} (hopens : node.opensScope = true)
    (types : List (String × String)) : recordConstructed types node = types := by
  cases node with
  | functionDef | classDef | lambda => rfl
  | _ => cases hopens

section Collecting

-- what is collected is read off the outlines of nodes, and nothing off those that open a scope
variable {record : List (String × String) → Node → List (String × String)}
  (houtline : ∀ types node, record types node.outline = record types node)
  (hscope : ∀ {node : Node}, node.opensScope = true → ∀ types, record types node = types)

include houtline hscope

theorem foldl_localNodes_outlineBelow (node : Node) (types : List (String × String)) :
    node.outlineBelow.localNodes.foldl record types = node.localNodes.foldl record types := by
  have hhead : record types node.outlineBelow = record types node := by
    cases hopens : node.opensScope with
    | false => rw [Node.outlineBelow_of_not_opensScope hopens, houtline]
    | true =>
        have hopens' : node.outlineBelow.opensScope = true := by
          rw [Node.opensScope_outlineBelow, hopens]
        rw [hscope hopens, hscope hopens']
  rw [Node.localNodes_outlineBelow, Node.localNodes_eq node, List.foldl_cons, List.foldl_cons,
    List.tail_cons, List.foldl_map, hhead]
  simp only [houtline]

theorem foldl_functionNodes_outlineBelow (body : List Node) (types : List (String × String)) :
    ((body.map Node.outlineBelow).flatMap Node.localNodes).foldl record types =
      (body.flatMap Node.localNodes).foldl record types := by
  rw [List.flatMap_map, List.foldl_flatMap, List.foldl_flatMap]
  simp only [foldl_localNodes_outlineBelow houtline hscope]

end Collecting

/-! ## The part that is read -/

namespace Python.Node

/-- The parameters and the statements of a function, without the bodies of the functions, classes and
lambdas in them. -/
def ownScope? : Node → Option (Node × List Node)
  | .functionDef _ _ _ params body _ _ => some (params.outline, body.map outline)
  | _ => none

/-- The parameters and the statements of a function, without the bodies of the functions, classes and
lambdas below the statements. -/
def enteredScope? : Node → Option (Node × List Node)
  | .functionDef _ _ _ params body _ _ => some (params.outline, body.map outlineBelow)
  | _ => none

/-- A function with these parameters and statements. -/
def bareFunction (scope : Node × List Node) : Node :=
  .functionDef false default "" scope.1 scope.2 [] none

end Python.Node

/-- The annotations of the parameters are not in any body. -/
theorem parameterTypes_outline {isAsync : Bool} {span : Span} {id : String} {params : Node}
    {body decorators : List Node} {returns : Option Node} (entered : List Node) :
    parameterTypes (Node.bareFunction (params.outline, entered)) =
      parameterTypes (.functionDef isAsync span id params body decorators returns) := by
  rw [Node.bareFunction]
  cases params with
  | parameters positionalOnly positional rest keywordOnly keywordDefaults keywordRest defaults =>
      simp only [Node.outline, parameterTypes, Node.outlineAll_eq_map, ← List.map_append,
        List.foldl_map]
      refine congrArg (fun step => (positionalOnly ++ positional ++ keywordOnly).foldl step []) ?_
      funext types p
      cases p with
      | param id hint => cases hint <;> simp [Node.outline]
      | _ => simp only [Node.outline]
  | _ => simp only [Node.outline, parameterTypes]

theorem localType?_bareFunction {function : Node} {scope : Node × List Node}
    (hscope : function.enteredScope? = some scope) (name : String) :
    localType? (Node.bareFunction scope) name = localType? function name := by
  cases function with
  | functionDef isAsync span id params body decorators returns =>
      obtain rfl := Option.some.inj hscope
      have hnodes : functionNodes (Node.bareFunction (params.outline, body.map Node.outlineBelow)) =
        (body.map Node.outlineBelow).flatMap Node.localNodes := rfl
      rw [localType?, localType?, parameterTypes_outline, hnodes,
        foldl_functionNodes_outlineBelow recordDeclared_outline recordDeclared_of_opensScope,
        foldl_functionNodes_outlineBelow recordConstructed_outline recordConstructed_of_opensScope]
      rfl
  | _ => cases hscope

/-- The local types of a function depend only on the part of it that the walk enters. -/
theorem localType?_eq_of_enteredScope?_eq {function other : Node}
    (hscope : other.enteredScope? = function.enteredScope?) (name : String) :
    localType? other name = localType? function name := by
  cases hfunction : function.enteredScope? with
  | some scope =>
      rw [← localType?_bareFunction hfunction, ← localType?_bareFunction (hscope.trans hfunction)]
  | none =>
      have hnone : ∀ {node : Node}, node.enteredScope? = none → localType? node name = none := by
        intro node hnode
        cases node with
        | functionDef => cases hnode
        | _ => rfl
      rw [hnone hfunction, hnone (hscope.trans hfunction)]

/-- Where no statement opens a scope, nothing inside a nested scope is entered. -/
theorem enteredScope?_eq_ownScope? {function : Node}
    (hbody : ∀ statement ∈ function.functionBody, statement.opensScope = false) :
    function.enteredScope? = function.ownScope? := by
  cases function with
  | functionDef isAsync span id params body decorators returns =>
      have hsame : body.map Node.outlineBelow = body.map Node.outline :=
        List.map_congr_left fun statement hmem =>
          Node.outlineBelow_of_not_opensScope (hbody statement hmem)
      rw [Node.enteredScope?, Node.ownScope?, hsame]
  | _ => rfl

theorem map_outline_functionBody (function : Node) :
    function.functionBody.map Node.outline = (function.ownScope?.map Prod.snd).getD [] := by
  cases function <;> rfl

/-- Whether a statement opens a scope can be told from its outline. -/
theorem opensScope_of_ownScope?_eq {function other : Node}
    (hscope : other.ownScope? = function.ownScope?)
    (hbody : ∀ statement ∈ function.functionBody, statement.opensScope = false) :
    ∀ statement ∈ other.functionBody, statement.opensScope = false := by
  intro statement hmem
  have houtline : statement.outline ∈ function.functionBody.map Node.outline := by
    rw [map_outline_functionBody, ← hscope, ← map_outline_functionBody]
    exact List.mem_map_of_mem hmem
  obtain ⟨same, hsame, heq⟩ := List.mem_map.mp houtline
  rw [← Node.opensScope_outline, ← heq, Node.opensScope_outline, hbody same hsame]

/-! ## A scope among the statements -/

namespace Python.Node

/-- A node with `inner` as the only thing in its body, if it opens a scope. -/
def holding (node inner : Node) : Node :=
  match node with
  | .functionDef isAsync span id params _ decorators returns =>
    .functionDef isAsync span id params [inner] decorators returns
  | .classDef id bases keywords _ decorators => .classDef id bases keywords [inner] decorators
  | .lambda params _ => .lambda params inner
  | other => other

/-- A function with `inner` as the only thing in each scope among its statements. -/
def fillScopes (function inner : Node) : Node :=
  match function with
  | .functionDef isAsync span id params body decorators returns =>
    .functionDef isAsync span id params (body.map (·.holding inner)) decorators returns
  | other => other

theorem outline_holding (node inner : Node) : (node.holding inner).outline = node.outline := by
  cases node <;> simp only [holding, outline]

theorem ownScope?_fillScopes (function inner : Node) :
    (function.fillScopes inner).ownScope? = function.ownScope? := by
  cases function with
  | functionDef => simp [fillScopes, ownScope?, outline_holding]
  | _ => rfl

theorem mem_localNodes_holding {inner node : Node} (hinner : inner.opensScope = false)
    (hopens : node.opensScope = true) : inner ∈ (node.holding inner).localNodes := by
  have hwalked : inner ∈ inner.localNodes := by
    rw [localNodes_eq]
    exact List.mem_cons_self
  have hchild : ∃ role, (role, inner) ∈ (node.holding inner).children := by
    cases node with
    | functionDef => exact ⟨.body, by simp [holding, children]⟩
    | classDef => exact ⟨.part, by simp [holding, children, parts]⟩
    | lambda => exact ⟨.part, by simp [holding, children]⟩
    | _ => cases hopens
  obtain ⟨role, hmem⟩ := hchild
  rw [localNodes_eq]
  refine List.mem_cons_of_mem _ (List.mem_flatMap.mpr ⟨_, hmem, ?_⟩)
  simpa [hinner] using hwalked

end Python.Node

/-- What stands in a scope among the statements is walked through. -/
theorem mem_functionNodes_fillScopes {inner function statement : Node}
    (hinner : inner.opensScope = false) (hmem : statement ∈ function.functionBody)
    (hopens : statement.opensScope = true) :
    inner ∈ functionNodes (function.fillScopes inner) := by
  cases function with
  | functionDef =>
      exact List.mem_flatMap.mpr ⟨_, List.mem_map_of_mem hmem,
        Node.mem_localNodes_holding hinner hopens⟩
  | _ => cases hmem

/-- The declaration of a name without a value. -/
def declarationOf (name : String) : Node :=
  .annAssign (.name default name .store) (.name default "object" .load) none

/-- A declared name stays declared. -/
theorem isSome_get?_recordDeclared {types : List (String × String)} {name : String}
    (hsome : (Assoc.get? name types).isSome = true) (node : Node) :
    (Assoc.get? name (recordDeclared types node)).isSome = true := by
  unfold recordDeclared
  split
  · split
    · rw [Assoc.get?_putNew, Option.isSome_or, hsome, Bool.true_or]
    · exact hsome
  · exact hsome

theorem isSome_get?_foldl_recordDeclared {name : String} {nodes : List Node}
    {types : List (String × String)}
    (hknown : (Assoc.get? name types).isSome = true ∨ declarationOf name ∈ nodes) :
    (Assoc.get? name (nodes.foldl recordDeclared types)).isSome = true := by
  induction nodes generalizing types with
  | nil => exact hknown.resolve_right (List.not_mem_nil)
  | cons node rest ih =>
      refine ih ?_
      rcases hknown with hsome | hmem
      · exact .inl (isSome_get?_recordDeclared hsome node)
      · rcases List.mem_cons.mp hmem with rfl | hrest
        · refine .inl ?_
          simp [declarationOf, recordDeclared, Node.annotated?, Node.dotted?, Assoc.get?_putNew]
        · exact .inr hrest

/-- Every function leaves some name without a type. -/
theorem exists_localType?_eq_none (function : Node) : ∃ name, localType? function name = none := by
  have hfresh (entries : List (String × String)) (name : String)
      (hname : name ∉ entries.map Prod.fst) : Assoc.get? name entries = none := by
    rw [Option.eq_none_iff_forall_ne_some]
    intro type hget
    exact hname (List.mem_map_of_mem (Assoc.mem_of_get? hget))
  let nodes := functionNodes function
  let known := (nodes.foldl recordDeclared (parameterTypes function)).map Prod.fst ++
    (nodes.foldl recordConstructed []).map Prod.fst
  obtain ⟨name, hname⟩ := Infinite.exists_notMem_finset known.toFinset
  rw [List.mem_toFinset, List.mem_append, not_or] at hname
  refine ⟨name, ?_⟩
  rw [localType?, hfresh _ _ hname.1, hfresh _ _ hname.2]
  rfl

/-- What stands in a scope among the statements can give a type to a name that has none. -/
theorem exists_ownScope?_eq_localType?_ne {function statement : Node}
    (hmem : statement ∈ function.functionBody) (hopens : statement.opensScope = true) :
    ∃ other name, other.ownScope? = function.ownScope? ∧
      localType? other name ≠ localType? function name := by
  obtain ⟨name, hname⟩ := exists_localType?_eq_none function
  let filled := function.fillScopes (declarationOf name)
  have hwalked : declarationOf name ∈ functionNodes filled :=
    mem_functionNodes_fillScopes rfl hmem hopens
  have hdeclared : (Assoc.get? name
      ((functionNodes filled).foldl recordDeclared (parameterTypes filled))).isSome = true :=
    isSome_get?_foldl_recordDeclared (.inr hwalked)
  obtain ⟨type, htype⟩ := Option.isSome_iff_exists.mp hdeclared
  refine ⟨filled, name, Node.ownScope?_fillScopes _ _, ?_⟩
  rw [hname, localType?, htype]
  exact Option.some_ne_none type

/-! ## The places the walk comes to -/

/-- In the tree of a function, whether the walk through its body comes to a place: a statement of the
body, or a place below one it comes to that opens no scope. -/
def isWalked : Spot → Bool
  | .root _ => false
  | .child (.root _) role _ _ => role == .body
  | .child parent _ _ node => isWalked parent && !node.opensScope

theorem isWalked_of_mem_children {s c : Spot} (hs : s.parent?.isSome = true) (hc : c ∈ s.children) :
    isWalked c = (isWalked s && !c.node.opensScope) := by
  obtain ⟨role, index, node, rfl, -⟩ := Spot.mem_children.mp hc
  cases s with
  | root => cases hs
  | child => rfl

/-- Nothing is walked through below a place that is not. -/
theorem filter_preorder_of_not_isWalked {s : Spot} (hs : s.parent?.isSome = true)
    (hwalked : isWalked s = false) : s.preorder.filter isWalked = [] := by
  induction s using Spot.induction_children with
  | hstep s ih =>
      rw [Spot.preorder_eq, List.filter_cons_of_neg (by rw [hwalked]; simp), List.filter_flatMap,
        List.flatMap_eq_nil_iff]
      intro c hc
      refine ih c hc ?_ ?_
      · rw [Spot.parent_of_mem_children hc]
        rfl
      · rw [isWalked_of_mem_children hs hc, hwalked, Bool.false_and]

/-- Below a place that is walked through, the walk comes to what it comes to from the node there. -/
theorem map_node_filter_preorder {s : Spot} (hs : s.parent?.isSome = true)
    (hwalked : isWalked s = true) :
    (s.preorder.filter isWalked).map Spot.node = s.node.localNodes := by
  induction s using Spot.induction_children with
  | hstep s ih =>
      have hchild : ∀ c ∈ s.children, (c.preorder.filter isWalked).map Spot.node =
          if c.node.opensScope then [] else c.node.localNodes := by
        intro c hc
        have hparent : c.parent?.isSome = true := by
          rw [Spot.parent_of_mem_children hc]
          rfl
        have hstep := isWalked_of_mem_children hs hc
        rw [hwalked, Bool.true_and] at hstep
        cases hopens : c.node.opensScope with
        | true =>
            rw [filter_preorder_of_not_isWalked hparent (by rw [hstep, hopens]; rfl)]
            rfl
        | false => exact ih c hc hparent (by rw [hstep, hopens]; rfl)
      rw [Spot.preorder_eq, List.filter_cons_of_pos hwalked, List.map_cons, List.filter_flatMap,
        List.map_flatMap, List.flatMap_congr hchild, Node.localNodes_eq]
      exact congrArg (s.node :: ·) (Spot.flatMap_children fun _ _ _ => rfl)

/-- The statements of a function are the children of it that are of its body. -/
theorem flatMap_functionBody {α : Type} (f : Node → List α) (node : Node) :
    node.functionBody.flatMap f =
      node.children.flatMap fun child => if child.1 = .body then f child.2 else [] := by
  have hparts (nodes : List Node) : (Node.parts nodes).flatMap
      (fun child => if child.1 = .body then f child.2 else []) = [] := by
    simp [Node.parts, List.flatMap_map]
  cases node with
  | functionDef isAsync span id params body decorators returns =>
      simp [Node.children, Node.functionBody, hparts, List.flatMap_map]
  | _ => simp [Node.children, Node.functionBody, Node.written, hparts]

/-- The walk through a function comes, in the order of the tree, to the places that it enters. -/
theorem functionNodes_eq (function : Node) :
    functionNodes function = ((Spot.root function).preorder.filter isWalked).map Spot.node := by
  have hchild (role : Role) (index : Nat) (node : Node) :
      (((Spot.child (.root function) role index node).preorder).filter isWalked).map Spot.node =
        if role = .body then node.localNodes else [] := by
    split
    · rename_i hrole
      exact map_node_filter_preorder rfl (by simp [isWalked, hrole])
    · rename_i hrole
      rw [filter_preorder_of_not_isWalked rfl (by simp [isWalked, hrole]), List.map_nil]
  rw [functionNodes, flatMap_functionBody, Spot.preorder_eq,
    List.filter_cons_of_neg (by simp [isWalked]), List.filter_flatMap, List.map_flatMap]
  exact Eq.symm (Spot.flatMap_children hchild)

/-- The scopes around a place that the walk comes to are the function itself and at most one of its
statements. -/
theorem scope_of_isWalked {function : Node} {s : Spot} (hs : s.IsIn function)
    (hwalked : isWalked s = true) :
    ∀ t ∈ s.above, t.node.opensScope = true →
      t = .root function ∨ t.parent? = some (.root function) := by
  induction s with
  | root node => cases hwalked
  | child parent role index node ih =>
      intro t ht hopens
      cases parent with
      | root top =>
          obtain rfl : top = function := hs.1
          exact .inl (List.mem_singleton.mp ht)
      | child upper role' index' node' =>
          have hparent : isWalked (.child upper role' index' node') = true :=
            (Bool.and_eq_true_iff.mp hwalked).1
          rcases List.mem_cons.mp ht with rfl | habove
          · cases upper with
            | root top =>
                obtain rfl : top = function := hs.1.1
                exact .inr rfl
            | child =>
                -- below a statement only places without a scope of their own are entered
                have hplain := (Bool.and_eq_true_iff.mp hparent).2
                rw [show node'.opensScope = true from hopens] at hplain
                cases hplain
          · exact ih hs.1 hparent t habove hopens

/-! ## Local types -/

/-- The local types of a function are read from its parameters and from the nodes of its body, apart
from what stands inside a function, class or lambda below a statement: bodies there can be replaced
and the types stay.  What stands in a nested scope does not matter at all exactly if no statement of
the body is itself a function or a class, since the walk through the body enters such a statement. -/
theorem local_types_stay_inside_iff (function : Node) :
    (∀ other : Node, other.enteredScope? = function.enteredScope? →
        ∀ name, localType? other name = localType? function name) ∧
      ((∀ other : Node, other.ownScope? = function.ownScope? →
          ∀ name, localType? other name = localType? function name) ↔
        ∀ statement ∈ function.functionBody, statement.opensScope = false) ∧
      functionNodes function = ((Spot.root function).preorder.filter isWalked).map Spot.node ∧
      ∀ s : Spot, s.IsIn function → isWalked s = true → ∀ t ∈ s.above, t.node.opensScope = true →
        t = .root function ∨ t.parent? = some (.root function) := by
  refine ⟨fun other hscope name => localType?_eq_of_enteredScope?_eq hscope name, ⟨?_, ?_⟩,
    functionNodes_eq function, fun s hs hwalked => scope_of_isWalked hs hwalked⟩
  · intro hstay statement hmem
    rw [Bool.eq_false_iff]
    intro hopens
    obtain ⟨other, name, hscope, hne⟩ := exists_ownScope?_eq_localType?_ne hmem hopens
    exact hne (hstay other hscope name)
  · intro hbody other hscope name
    refine localType?_eq_of_enteredScope?_eq ?_ name
    rw [enteredScope?_eq_ownScope? hbody, ← hscope,
      enteredScope?_eq_ownScope? (opensScope_of_ownScope?_eq hscope hbody)]

namespace Resolver

/-- A function that calls a method of its parameter, after a nested function that gives the name of
the parameter to an object of its own; two classes have such a method. -/
def nestedConstruction : List (String × String) :=
  [("m.py", "class A:\n def run(self): return 1\nclass B:\n def run(self): return 2\n" ++
    "def f(y):\n def g():\n  y = A()\n y.run()\n")]

/-- The parameter of the outer function has the type of the object in the nested one, and none
without the body of that one; its method call is bound by it. -/
theorem nested_construction_types_outer_parameter :
    ∃ m ∈ (Index.ofSources {} none nestedConstruction).files, ∃ s function other, s.IsIn m.tree ∧
      (enclosingFunctions s).head? = some function ∧
      other.ownScope? = function.node.ownScope? ∧
      localType? function.node "y" = some "A" ∧ localType? other "y" = none ∧
      ((Index.ofSources {} none nestedConstruction).resolver.meant m s).map Routine.qualname =
        ["A.run"] := by
  have hfacts : ∃ m ∈ (Index.ofSources {} none nestedConstruction).files,
      ∃ s ∈ (Spot.root m.tree).walk, ∃ function ∈ (enclosingFunctions s).head?.toList,
        localType? function.node "y" = some "A" ∧
        localType? (function.node.fillScopes .pass) "y" = none ∧
        ((Index.ofSources {} none nestedConstruction).resolver.meant m s).map Routine.qualname =
          ["A.run"] := by
    decide +kernel
  obtain ⟨m, hm, s, hs, function, hnearest, htype, hnone, hmeant⟩ := hfacts
  rw [Option.mem_toList] at hnearest
  exact ⟨m, hm, s, function, function.node.fillScopes .pass, Spot.mem_walk_iff.mp hs, hnearest,
    Node.ownScope?_fillScopes _ _, htype, hnone, hmeant⟩

end Resolver

end CallChain
