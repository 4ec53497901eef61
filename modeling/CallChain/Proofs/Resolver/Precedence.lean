import CallChain.Proofs.Index.AttributeTypes
import CallChain.Proofs.Python.Addresses
import CallChain.Proofs.Resolver.LocalTypes

/-!
# Annotations win over constructions

Types of attributes and of local names are both read off annotated assignments and off assignments of
constructed objects, but in different ways.  For attributes there is one table, and the places below
all methods of a class are gone through level by level: an annotation replaces what the table has, a
construction only fills a gap.  For local names there are two tables, and the body is gone through
depth first: in each the first entry stays, after the annotated parameters, of which the last one
stays.

In both cases the outcome can be read off the sequence of places, whatever the order in which
annotations and constructions are mixed.  For an attribute it is the last annotation, for a local name
the last annotated parameter and then the first annotation; only where there is none does a
construction count, and then the first.  The sequences themselves are known by their members and by
the order of addresses.
-/

namespace CallChain

open Python

/-! ## Tables that are filled step by step -/

namespace Assoc

variable {α β γ : Type} [BEq α] {record : List (α × β) → γ → List (α × β)} {key : α}
  {gives : γ → Option β}

/-- Where each step replaces, the last step that gives something counts. -/
theorem get?_foldl_of_replaces
    (hrecord : ∀ entries item,
      get? key (record entries item) = (gives item).or (get? key entries))
    (items : List γ) (entries : List (α × β)) :
    get? key (items.foldl record entries) =
      (items.reverse.findSome? gives).or (get? key entries) := by
  induction items generalizing entries with
  | nil => rfl
  | cons item rest ih =>
      rw [List.foldl_cons, ih, hrecord, List.reverse_cons, List.findSome?_append,
        List.findSome?_singleton, Option.or_assoc]

/-- Where each step only fills a gap, the first step that gives something counts. -/
theorem get?_foldl_of_fills
    (hrecord : ∀ entries item,
      get? key (record entries item) = (get? key entries).or (gives item))
    (items : List γ) (entries : List (α × β)) :
    get? key (items.foldl record entries) = (get? key entries).or (items.findSome? gives) := by
  induction items generalizing entries with
  | nil => simp
  | cons item rest ih =>
      have hfirst : (item :: rest).findSome? gives = (gives item).or (rest.findSome? gives) := by
        rw [List.findSome?_cons]
        cases gives item <;> rfl
      rw [List.foldl_cons, ih, hrecord, hfirst, Option.or_assoc]

end Assoc

/-! ## What a function says about a local name -/

namespace Python.Node

/-- The positional and the keyword-only parameters of a function. -/
def namedParameters : Node → List Node
  | .functionDef _ _ _ (.parameters positionalOnly positional _ keywordOnly _ _ _) _ _ _ =>
    positionalOnly ++ positional ++ keywordOnly
  | _ => []

/-- The type that the annotation of a parameter gives to a name. -/
def parameterType? (name : String) : Node → Option String
  | .param id (some hint) => if id = name then hint.annotated? else none
  | _ => none

/-- The name that a node is. -/
def plainName? : Node → Option String
  | .name _ id _ => some id
  | _ => none

/-- The type that an annotated assignment declares for a local name. -/
def declaredLocal? (name : String) : Node → Option String
  | .annAssign target hint _ => if target.plainName? = some name then hint.annotated? else none
  | _ => none

/-- The type that is constructed and assigned to a local name. -/
def constructedLocal? (name : String) : Node → Option String
  | .assign targets (.call _ callee _ _) =>
    if name ∈ targets.filterMap plainName? then callee.dotted? else none
  | _ => none

end Python.Node

/-- Of the annotated parameters with a name the last one counts. -/
theorem get?_parameterTypes (function : Node) (name : String) :
    Assoc.get? name (parameterTypes function) =
      function.namedParameters.reverse.findSome? (Node.parameterType? name) := by
  cases function with
  | functionDef isAsync span id params body decorators returns =>
      cases params with
      | parameters positionalOnly positional rest keywordOnly keywordDefaults keywordRest defaults =>
          refine (Assoc.get?_foldl_of_replaces (fun types parameter => ?_) _ []).trans Option.or_none
          cases parameter with
          | param id hint =>
              cases hint with
              | none => rfl
              | some hint =>
                  simp only [Node.parameterType?]
                  cases hint.annotated? with
                  | none => simp
                  | some type =>
                      rw [Assoc.get?_put]
                      by_cases hsame : id = name <;> simp [hsame]
          | _ => rfl
      | _ => rfl
  | _ => rfl

theorem get?_recordDeclared (types : List (String × String)) (node : Node) (name : String) :
    Assoc.get? name (recordDeclared types node) =
      (Assoc.get? name types).or (node.declaredLocal? name) := by
  cases node with
  | annAssign target hint value =>
      cases target with
      | name span id context =>
          simp only [recordDeclared, Node.declaredLocal?, Node.plainName?, Option.some.injEq]
          cases hint.annotated? with
          | none => simp
          | some type =>
              rw [Assoc.get?_putNew]
              by_cases hsame : id = name
              · simp [hsame]
              · simp [hsame]
      | _ => simp [recordDeclared, Node.declaredLocal?, Node.plainName?]
  | _ => simp [recordDeclared, Node.declaredLocal?]

theorem get?_recordConstructed (types : List (String × String)) (node : Node) (name : String) :
    Assoc.get? name (recordConstructed types node) =
      (Assoc.get? name types).or (node.constructedLocal? name) := by
  cases node with
  | assign targets value =>
      cases value with
      | call span callee args keywords =>
          simp only [recordConstructed, Node.constructedLocal?]
          cases callee.dotted? with
          | none => simp
          | some type =>
              refine Eq.trans (congrArg (Assoc.get? name) ?_) (get?_foldl_putNew _ type name types)
              rw [List.foldl_filterMap]
              refine congrArg (fun step => targets.foldl step types) ?_
              funext t target
              cases target <;> rfl
      | _ => exact Option.or_none.symm
  | _ => exact Option.or_none.symm

/-- The type of a local name, read off the parameters and the nodes of the body. -/
theorem localType?_eq (function : Node) (name : String) :
    localType? function name =
      (function.namedParameters.reverse.findSome? (Node.parameterType? name)).or
        (((functionNodes function).findSome? (Node.declaredLocal? name)).or
          ((functionNodes function).findSome? (Node.constructedLocal? name))) := by
  have hdeclared : Assoc.get? name ((functionNodes function).foldl recordDeclared
      (parameterTypes function)) =
      (function.namedParameters.reverse.findSome? (Node.parameterType? name)).or
        ((functionNodes function).findSome? (Node.declaredLocal? name)) := by
    rw [Assoc.get?_foldl_of_fills (fun types node => get?_recordDeclared types node name),
      get?_parameterTypes]
  have hconstructed : Assoc.get? name ((functionNodes function).foldl recordConstructed []) =
      (functionNodes function).findSome? (Node.constructedLocal? name) := by
    rw [Assoc.get?_foldl_of_fills (fun types node => get?_recordConstructed types node name)]
    rfl
  rw [localType?, hdeclared, hconstructed, Option.orElse_eq_orElse, Option.orElse_eq_or,
    Option.or_assoc]

/-! ## The order of visits -/

/-- The visit is made before the other: its method comes first in the tree, or the methods are the
same and its place is on a higher level or before the other's on the same level. -/
def Visit.Before (v w : Visit) : Prop :=
  v.method.address < w.method.address ∨ v.method = w.method ∧ v.place.Sooner w.place

theorem pairwise_visitsBelow (method : Spot) : (visitsBelow method).Pairwise Visit.Before := by
  unfold visitsBelow
  split
  · rw [List.pairwise_map]
    exact method.pairwise_walk.imp fun hsooner => Or.inr ⟨rfl, hsooner⟩
  · exact List.Pairwise.nil

theorem pairwise_classVisits (tree : Node) (path : List Nat) :
    (classVisits tree path).Pairwise Visit.Before := by
  rw [classVisits, List.pairwise_flatMap]
  refine ⟨fun method _ => pairwise_visitsBelow method, ?_⟩
  have hmethods : (methodSpots tree path).Pairwise fun s t => s.address < t.address :=
    ((Spot.root tree).pairwise_preorder.filter _).filter _
  refine hmethods.imp fun {s t} hlt v hv w hw => Or.inl ?_
  rwa [(mem_visitsBelow_iff.mp hv).1, (mem_visitsBelow_iff.mp hw).1]

/-- For every class of every file: an attribute has the type of the last annotated assignment whose
annotation yields one, and if there is none that of the first assignment of a constructed object, in
the order in which the places below its methods are visited, on behalf of the first parameters.  For
every function: a local name has the type of its last positional or keyword-only parameter whose
annotation yields one, else of the first such annotated assignment, else of the first assignment of a
constructed object, in the order in which the places of the body are walked through. -/
theorem annotations_win_over_constructions (name : ModuleName) (tree : Node) :
    (∀ c ∈ (SourceModule.ofTree name tree).classEntries, ∃ visits : List Visit,
      (∀ v, v ∈ visits ↔ (SourceModule.ofTree name tree).Visits c v) ∧
      visits.Pairwise Visit.Before ∧
      ∀ attr, Assoc.get? attr c.attributeTypes =
        (visits.reverse.findSome? (Visit.declares? attr)).or
          (visits.findSome? (Visit.constructs? attr))) ∧
    ∀ function : Node, ∃ places : List Spot,
      (∀ s, s ∈ places ↔ s.IsIn function ∧ isWalked s = true) ∧
      places.Pairwise (fun s t => s.address < t.address) ∧
      ∀ id, localType? function id =
        (function.namedParameters.reverse.findSome? (Node.parameterType? id)).or
          ((places.findSome? fun s => s.node.declaredLocal? id).or
            (places.findSome? fun s => s.node.constructedLocal? id)) := by
  refine ⟨fun c hc => ?_, fun function => ?_⟩
  · refine ⟨classVisits tree c.path, fun v => mem_classVisits_iff hc, pairwise_classVisits tree c.path,
      fun attr => ?_⟩
    rw [attributeTypes_eq hc, Visit.get?_foldl_record]
    rfl
  · refine ⟨(Spot.root function).preorder.filter isWalked, fun s => ?_,
      (Spot.root function).pairwise_preorder.filter _, fun id => ?_⟩
    · rw [List.mem_filter, Spot.mem_preorder_iff]
    · rw [localType?_eq, functionNodes_eq, List.findSome?_map, List.findSome?_map]
      rfl

namespace Index

/-- A class and a function where constructions come first and annotations later, the one of the class
in another method, where the receiver has another name. -/
def laterAnnotations : List (String × String) :=
  [("m.py", "class C:\n    def f(self):\n        self.a = K()\n    def g(me):\n        me.a: T = 1\n" ++
    "\ndef run(y):\n    x = K()\n    x: T\n")]

theorem findSome?_eq_of_or {α : Type} {f : α → Option String} {items : List α}
    {other : Option String} {type : String} (hgives : ∃ item ∈ items, f item ≠ none)
    (hor : (items.findSome? f).or other = some type) : items.findSome? f = some type := by
  cases hfind : items.findSome? f with
  | none =>
      obtain ⟨item, hitem, hsome⟩ := hgives
      exact absurd (List.findSome?_eq_none_iff.mp hfind item hitem) hsome
  | some first => rwa [hfind, Option.some_or] at hor

theorem annotations_win_over_constructions_of_later_annotations :
    ∃ m ∈ (ofSources {} none laterAnnotations).files, ∃ c ∈ m.classEntries, ∃ visits : List Visit,
      (∀ v, v ∈ visits ↔ m.Visits c v) ∧ visits.Pairwise Visit.Before ∧
      (∃ v ∈ visits, v.constructs? "a" = some "K") ∧
      visits.reverse.findSome? (Visit.declares? "a") = some "T" ∧
      Assoc.get? "a" c.attributeTypes = some "T" ∧
      ∃ s ∈ functionSpots m.tree, ∃ places : List Spot,
        (∀ t, t ∈ places ↔ t.IsIn s.node ∧ isWalked t = true) ∧
        (∃ t ∈ places, t.node.constructedLocal? "x" = some "K") ∧
        (places.findSome? fun t => t.node.declaredLocal? "x") = some "T" ∧
        localType? s.node "x" = some "T" := by
  have hfacts : ∃ m ∈ (ofSources {} none laterAnnotations).files, ∃ c ∈ m.classEntries,
      Assoc.get? "a" c.attributeTypes = some "T" ∧
      (∃ v ∈ classVisits m.tree c.path, v.constructs? "a" = some "K") ∧
      (∃ v ∈ classVisits m.tree c.path, v.declares? "a" ≠ none) ∧
      ∃ s ∈ functionSpots m.tree, localType? s.node "x" = some "T" ∧
        s.node.namedParameters.reverse.findSome? (Node.parameterType? "x") = none ∧
        (∃ t ∈ (Spot.root s.node).preorder.filter isWalked, t.node.constructedLocal? "x" = some "K") ∧
        ∃ t ∈ (Spot.root s.node).preorder.filter isWalked, t.node.declaredLocal? "x" ≠ none := by
    decide +kernel
  obtain ⟨m, hm, c, hc, htype, ⟨v, hv, hconstructs⟩, ⟨w, hw, hdeclares⟩, s, hs, hlocal, hparameters,
    ⟨t, ht, hconstructs'⟩, u, hu, hdeclares'⟩ := hfacts
  obtain ⟨name, text, tree, -, rfl⟩ :=
    (@regular_ofSources {} none laterAnnotations (by decide)).resolver.parsed m hm
  obtain ⟨hattributes, hlocals⟩ := annotations_win_over_constructions name tree
  obtain ⟨visits, hvisits, hordered, hget⟩ := hattributes c hc
  obtain ⟨places, hplaces, -, hgetLocal⟩ := hlocals s.node
  have hvisited : ∀ v ∈ classVisits tree c.path, v ∈ visits :=
    fun v hv => (hvisits v).mpr ((mem_classVisits_iff hc).mp hv)
  have hwalked : ∀ t ∈ (Spot.root s.node).preorder.filter isWalked, t ∈ places := by
    intro t ht
    rw [List.mem_filter, Spot.mem_preorder_iff] at ht
    exact (hplaces t).mpr ht
  refine ⟨_, hm, c, hc, visits, hvisits, hordered, ⟨v, hvisited v hv, hconstructs⟩, ?_, htype, s, hs,
    places, hplaces, ⟨t, hwalked t ht, hconstructs'⟩, ?_, hlocal⟩
  · refine findSome?_eq_of_or ?_ ((hget "a").symm.trans htype)
    exact ⟨w, List.mem_reverse.mpr (hvisited w hw), hdeclares⟩
  · rw [hgetLocal, hparameters, Option.none_or] at hlocal
    exact findSome?_eq_of_or ⟨u, hwalked u hu, hdeclares'⟩ hlocal

end Index

end CallChain
