import CallChain.Proofs.Scopes
import CallChain.Proofs.Occurrences

/-!
# Tables and nesting

The declarations of a file are collected with a stack of scopes that grows on the way into a class or
function and shrinks on the way out.  Nothing of that is left in the result.  The functions of a file
are declared one for one and in document order (`functionDeclarations_eq`), and what is declared at a
place is read off the classes and functions above it, `enclosingScopes`: they give the qualified
name, and the nearest of them gives the class.

A table of functions belongs to the file, to a class or to a function.  Which one is told by a test on
the innermost scope, and each of the three tests singles out one place that opens scopes
(`isNone_scopesAt_iff`, `isClassAt_scopesAt_iff`, `isFunctionAt_scopesAt_iff`).  So the three tables
are cases of one statement, `isTableOf_functionsIn`.
-/

namespace CallChain

open Python

/-! ## Classes and functions around a place -/

/-- The classes and functions above a place, the nearest first. -/
def enclosingScopes (s : Spot) : List Spot := s.above.filter fun t => t.node.declaredName?.isSome

theorem isSome_scopeOf? (s : Spot) : (scopeOf? s).isSome = s.node.declaredName?.isSome := by
  unfold scopeOf? Node.declaredName?
  cases s.node <;> rfl

theorem map_name_scopeOf? (s : Spot) : (scopeOf? s).map Scope.name = s.node.declaredName? := by
  unfold scopeOf? Node.declaredName?
  cases s.node <;> rfl

/-- The stack of scopes at a place is read off the classes and functions around it. -/
theorem scopesAt_eq (s : Spot) : scopesAt s = (enclosingScopes s).filterMap scopeOf? := by
  induction s with
  | root node => rfl
  | child parent role index node ih =>
      rw [scopesAt, scopesBelow_eq, ih, enclosingScopes, enclosingScopes, Spot.above,
        List.filter_cons, ← isSome_scopeOf?]
      cases hscope : scopeOf? parent with
      | none => rfl
      | some scope =>
          rw [Option.isSome_some, if_pos rfl, List.filterMap_cons, hscope]
          rfl

theorem map_name_scopesAt (s : Spot) :
    (scopesAt s).map Scope.name = (enclosingScopes s).filterMap fun t => t.node.declaredName? := by
  rw [scopesAt_eq, List.map_filterMap]
  simp only [map_name_scopeOf?]

theorem scopesAt_head? (s : Spot) :
    (scopesAt s).head? = (enclosingScopes s).head?.bind scopeOf? := by
  rw [scopesAt_eq]
  cases hscopes : enclosingScopes s with
  | nil => rfl
  | cons t rest =>
      have ht : t ∈ enclosingScopes s := hscopes ▸ List.mem_cons_self
      have hsome : (scopeOf? t).isSome = true := by
        rw [isSome_scopeOf?]
        exact (List.mem_filter.mp ht).2
      obtain ⟨scope, hscope⟩ := Option.isSome_iff_exists.mp hsome
      rw [List.filterMap_cons, hscope]
      exact hscope.symm

/-! ## Functions in document order -/

/-- The functions of a tree, in document order. -/
def functionSpots (tree : Node) : List Spot := (Spot.root tree).preorder.filter Spot.isFunction

theorem mem_functionSpots_iff {tree : Node} {s : Spot} :
    s ∈ functionSpots tree ↔ s.IsIn tree ∧ s.isFunction = true := by
  rw [functionSpots, List.mem_filter, Spot.mem_preorder_iff]

theorem nodup_functionSpots (tree : Node) : (functionSpots tree).Nodup :=
  (Spot.nodup_preorder _).filter _

/-- What a tree declares is what its places declare, in document order. -/
theorem declarations_eq_flatMap (m : ModuleName) (s : Spot) :
    declarations m (scopesAt s) s = s.preorder.flatMap fun t => ownDeclarations m (scopesAt t) t := by
  induction s using Spot.induction_children with
  | hstep s ih =>
      have hbelow : s.children.flatMap (declarations m (scopesBelow (scopesAt s) s)) =
          s.children.flatMap fun c => c.preorder.flatMap fun t => ownDeclarations m (scopesAt t) t := by
        refine List.flatMap_congr fun c hc => ?_
        rw [← scopesAt_of_mem_children hc]
        exact ih c hc
      rw [declarations_eq, hbelow, Spot.preorder_eq, List.flatMap_cons, List.flatMap_assoc]

/-- The function that a place declares, if it is one. -/
def declaredFunction? (m : ModuleName) (s : Spot) : Option FunctionDeclaration :=
  match s.node with
  | .functionDef isAsync span name _ _ _ _ =>
    some ⟨declaredRoutine m (scopesAt s) isAsync span name s.node, s.path, (scopesAt s).head?, s.node⟩
  | _ => none

theorem filterMap_ownDeclarations (m : ModuleName) (s : Spot) :
    (ownDeclarations m (scopesAt s) s).filterMap Declaration.function? =
      (declaredFunction? m s).toList := by
  unfold ownDeclarations declaredFunction?
  cases s.node <;> rfl

theorem isSome_declaredFunction? (m : ModuleName) (s : Spot) :
    (declaredFunction? m s).isSome = s.isFunction := by
  unfold declaredFunction? Spot.isFunction
  cases s.node <;> rfl

theorem exists_declaredFunction? (m : ModuleName) {tree : Node} {s : Spot}
    (hs : s ∈ functionSpots tree) : ∃ f, declaredFunction? m s = some f := by
  apply Option.isSome_iff_exists.mp
  rw [isSome_declaredFunction?]
  exact (mem_functionSpots_iff.mp hs).2

theorem mem_functionSpots_of_declaredFunction? {m : ModuleName} {tree : Node} {s : Spot}
    (hs : s.IsIn tree) {f : FunctionDeclaration} (hf : declaredFunction? m s = some f) :
    s ∈ functionSpots tree := by
  rw [mem_functionSpots_iff, ← isSome_declaredFunction? m, hf]
  exact ⟨hs, rfl⟩

/-- The functions of a file are declared in document order. -/
theorem functionDeclarations_eq (m : ModuleName) (tree : Node) :
    (SourceModule.ofTree m tree).functionDeclarations =
      (functionSpots tree).filterMap (declaredFunction? m) := by
  have hroot : declarations m [] (.root tree) =
      (Spot.root tree).preorder.flatMap fun t => ownDeclarations m (scopesAt t) t :=
    declarations_eq_flatMap m (.root tree)
  have hskipped : ∀ s : Spot, (if s.isFunction = true then declaredFunction? m s else none) =
      declaredFunction? m s := by
    intro s
    split
    · rfl
    · rename_i hother
      rw [← isSome_declaredFunction? m, Bool.not_eq_true, Option.isSome_eq_false_iff,
        Option.isNone_iff_eq_none] at hother
      exact hother.symm
  rw [SourceModule.functionDeclarations_ofTree, functionsBelow, hroot, List.filterMap_flatMap,
    functionSpots, List.filterMap_filter]
  simp only [filterMap_ownDeclarations, hskipped]
  rw [List.filterMap_eq_flatMap_toList]

/-! ## What a routine is called -/

/-- The routine is called after the function at a place and the classes and functions around it. -/
structure CalledAfter (s : Spot) (r : Routine) : Prop where
  name : s.node.declaredName? = some r.name
  qualname : r.qualname =
    Text.joinWith "." (((enclosingScopes s).filterMap fun t => t.node.declaredName?).reverse ++ [r.name])
  className : r.className = (enclosingScopes s).head?.bind fun t =>
    if t.node.isClass then t.node.declaredName? else none

theorem className_of_scopeOf? (s : Spot) :
    ((scopeOf? s).bind fun scope => if scope.isClass then some scope.name else none) =
      if s.node.isClass then s.node.declaredName? else none := by
  unfold scopeOf? Node.isClass Node.declaredName?
  cases s.node <;> rfl

theorem calledAfter_of_declaredFunction? {m : ModuleName} {s : Spot} {f : FunctionDeclaration}
    (hf : declaredFunction? m s = some f) : CalledAfter s f.routine := by
  unfold declaredFunction? at hf
  split at hf
  · rename_i isAsync span name params body decorators returns hnode
    cases hf
    refine ⟨by rw [hnode]; rfl, ?_, ?_⟩
    · rw [← map_name_scopesAt]
      rfl
    · have hclass : (declaredRoutine m (scopesAt s) isAsync span name s.node).className =
          (scopesAt s).head?.bind fun scope => if scope.isClass then some scope.name else none := by
        cases hhead : (scopesAt s).head? <;> simp [declaredRoutine, Routine.withEnd, hhead]
      rw [hclass, scopesAt_head?, Option.bind_assoc]
      simp only [className_of_scopeOf?]
  · cases hf

theorem path_of_declaredFunction? {m : ModuleName} {s : Spot} {f : FunctionDeclaration}
    (hf : declaredFunction? m s = some f) :
    f.path = s.path ∧ f.scope = (scopesAt s).head? ∧ f.node = s.node := by
  unfold declaredFunction? at hf
  split at hf
  · cases hf
    exact ⟨rfl, rfl, rfl⟩
  · cases hf

/-- At the path of a function stands the routine that the function declares. -/
theorem routineAt?_of_declaredFunction? {m : ModuleName} {tree : Node} {s : Spot}
    (hs : s.IsIn tree) {f : FunctionDeclaration} (hf : declaredFunction? m s = some f) :
    (SourceModule.ofTree m tree).routineAt? s.path = some f.routine := by
  have hmem : f ∈ (SourceModule.ofTree m tree).functionDeclarations := by
    rw [functionDeclarations_eq]
    exact List.mem_filterMap.mpr ⟨s, mem_functionSpots_of_declaredFunction? hs hf, hf⟩
  have hunique : ∀ g ∈ (SourceModule.ofTree m tree).functionDeclarations,
      (g.path == s.path) = true → g = f := by
    intro g hg hpath
    rw [functionDeclarations_eq] at hg
    obtain ⟨t, ht, hdeclared⟩ := List.mem_filterMap.mp hg
    obtain rfl : t = s := (mem_functionSpots_iff.mp ht).1.eq_of_path_eq hs
      ((path_of_declaredFunction? hdeclared).1.symm.trans (eq_of_beq hpath))
    exact Option.some.inj (hdeclared.symm.trans hf)
  have hpath : (f.path == s.path) = true := beq_iff_eq.mpr (path_of_declaredFunction? hf).1
  rw [SourceModule.routineAt?, find?_eq_some_of_unique hmem hpath hunique]
  rfl

/-- The routines of a file are those of its functions, one for one and in document order. -/
theorem map_some_routines (m : ModuleName) (tree : Node) :
    (SourceModule.ofTree m tree).routines.map some =
      (functionSpots tree).map fun s => (SourceModule.ofTree m tree).routineAt? s.path := by
  rw [SourceModule.routines, functionDeclarations_eq]
  -- the places are gone through one by one, and each of them is a function of the tree
  suffices hspots : ∀ spots ⊆ functionSpots tree,
      ((spots.filterMap (declaredFunction? m)).map FunctionDeclaration.routine).map some =
        spots.map fun s => (SourceModule.ofTree m tree).routineAt? s.path from
    hspots _ (List.Subset.refl _)
  intro spots hspots
  induction spots with
  | nil => rfl
  | cons s rest ih =>
      rw [List.cons_subset] at hspots
      obtain ⟨f, hf⟩ := exists_declaredFunction? m hspots.1
      have hroutine := routineAt?_of_declaredFunction? (mem_functionSpots_iff.mp hspots.1).1 hf
      rw [List.filterMap_cons_some hf, List.map_cons, List.map_cons, List.map_cons, hroutine,
        ih hspots.2]

/-! ## The tables of scopes -/

/-- The nearest class or function around the place is the given one, and the place declares the
name. -/
def DeclaresIn (scope : Option Spot) (name : String) (s : Spot) : Prop :=
  (enclosingScopes s).head? = scope ∧ s.node.declaredName? = some name

/-- The place is the last function of a tree, in document order, that declares the name in a scope. -/
def IsLastIn (tree : Node) (scope : Option Spot) (name : String) (s : Spot) : Prop :=
  ∃ before after, functionSpots tree = before ++ s :: after ∧ DeclaresIn scope name s ∧
    ∀ t ∈ after, ¬ DeclaresIn scope name t

/-- The table maps each name that a function of the scope has to the last routine of that name, and
there is nothing else in it. -/
structure SourceModule.IsTableOf (m : SourceModule) (scope : Option Spot)
    (table : List (String × Routine)) : Prop where
  keys : (table.map Prod.fst).Nodup
  entries : ∀ name routine, (name, routine) ∈ table ↔
    ∃ s, IsLastIn m.tree scope name s ∧ m.routineAt? s.path = some routine

/-- From the back of a list one finds the last item of a kind. -/
theorem find?_reverse_eq_some_iff {α : Type} {keep : α → Bool} {P : α → Prop} {items : List α}
    (hkeep : ∀ a ∈ items, (keep a = true ↔ P a)) {a : α} :
    items.reverse.find? keep = some a ↔
      ∃ before after, items = before ++ a :: after ∧ P a ∧ ∀ b ∈ after, ¬ P b := by
  rw [List.find?_eq_some_iff_append]
  constructor
  · intro hfound
    obtain ⟨ha, after, before, hreverse, hnone⟩ := hfound
    have hitems : items = before.reverse ++ a :: after.reverse := by
      rw [← List.reverse_reverse items, hreverse]
      simp
    refine ⟨before.reverse, after.reverse, hitems, (hkeep a (by simp [hitems])).mp ha, ?_⟩
    intro b hb hP
    have hkept := (hkeep b (by simp [hitems, List.mem_reverse.mp hb])).mpr hP
    have hdropped := hnone b (List.mem_reverse.mp hb)
    simp [hkept] at hdropped
  · intro hlast
    obtain ⟨before, after, rfl, ha, hnone⟩ := hlast
    refine ⟨(hkeep a (by simp)).mpr ha, after.reverse, before.reverse, by simp, ?_⟩
    intro b hb
    have hafter : b ∈ after := List.mem_reverse.mp hb
    have hdropped : ¬ keep b = true := by
      intro hkept
      exact hnone b hafter ((hkeep b (by simp [hafter])).mp hkept)
    simpa using hdropped

theorem get?_functionsIn_eq (inScope : Option Scope → Bool) (functions : List FunctionDeclaration)
    (name : String) :
    Assoc.get? name (functionsIn inScope functions) =
      (functions.reverse.find? fun f => inScope f.scope && f.routine.name == name).map
        FunctionDeclaration.routine := by
  rw [functionsIn, Assoc.get?_foldl_put_eq, ← List.filter_reverse, List.find?_filter]
  simp only [Bool.decide_and, Bool.decide_eq_true]

/-- Under a name the table of a scope holds what the last function of the scope with the name
declares. -/
theorem get?_functionsIn_ofTree (m : ModuleName) (tree : Node) (inScope : Option Scope → Bool)
    (name : String) :
    Assoc.get? name (functionsIn inScope (SourceModule.ofTree m tree).functionDeclarations) =
      ((functionSpots tree).reverse.find? fun s =>
        inScope (scopesAt s).head? && s.node.declaredName? == some name).bind fun s =>
          (SourceModule.ofTree m tree).routineAt? s.path := by
  have hkeep : ∀ s ∈ (functionSpots tree).reverse,
      ((declaredFunction? m s).any fun f => inScope f.scope && f.routine.name == name) =
        (inScope (scopesAt s).head? && s.node.declaredName? == some name) := by
    intro s hs
    obtain ⟨f, hf⟩ := exists_declaredFunction? m (List.mem_reverse.mp hs)
    rw [hf, Option.any_some, (path_of_declaredFunction? hf).2.1,
      (calledAfter_of_declaredFunction? hf).name]
    rfl
  have hroutine : ∀ s ∈ (functionSpots tree).reverse,
      (declaredFunction? m s).map FunctionDeclaration.routine =
        (SourceModule.ofTree m tree).routineAt? s.path := by
    intro s hs
    obtain ⟨f, hf⟩ := exists_declaredFunction? m (List.mem_reverse.mp hs)
    rw [hf, routineAt?_of_declaredFunction? (mem_functionSpots_iff.mp (List.mem_reverse.mp hs)).1 hf,
      Option.map_some]
  rw [get?_functionsIn_eq, functionDeclarations_eq, ← List.filterMap_reverse, List.find?_filterMap,
    ← List.head?_filter, List.filter_congr hkeep, List.head?_filter, Option.map_bind]
  exact Option.bind_congr fun s hs => hroutine s (List.mem_of_find?_eq_some hs)

/-- The functions of a scope make up its table, whatever tells the scope from others. -/
theorem isTableOf_functionsIn {m : ModuleName} {tree : Node} {scope : Option Spot}
    {inScope : Option Scope → Bool}
    (hscope : ∀ s, s.IsIn tree →
      (inScope (scopesAt s).head? = true ↔ (enclosingScopes s).head? = scope)) :
    (SourceModule.ofTree m tree).IsTableOf scope
      (functionsIn inScope (SourceModule.ofTree m tree).functionDeclarations) := by
  have hnodup : ((functionsIn inScope (SourceModule.ofTree m tree).functionDeclarations).map
      Prod.fst).Nodup :=
    Assoc.nodup_keys_foldl_put _ List.nodup_nil
  refine ⟨hnodup, fun name routine => ?_⟩
  have hkeep : ∀ s ∈ functionSpots tree,
      ((inScope (scopesAt s).head? && s.node.declaredName? == some name) = true ↔
        DeclaresIn scope name s) := by
    intro s hs
    rw [Bool.and_eq_true, beq_iff_eq, hscope s (mem_functionSpots_iff.mp hs).1, DeclaresIn]
  have hmem : (name, routine) ∈ functionsIn inScope (SourceModule.ofTree m tree).functionDeclarations ↔
      Assoc.get? name (functionsIn inScope (SourceModule.ofTree m tree).functionDeclarations) =
        some routine :=
    ⟨Assoc.get?_of_mem hnodup, Assoc.mem_of_get?⟩
  rw [hmem, get?_functionsIn_ofTree, Option.bind_eq_some_iff]
  exact exists_congr fun s => and_congr_left fun _ => find?_reverse_eq_some_iff hkeep

/-! ## Scopes and the places that open them -/

/-- The innermost scope at a place is that of the nearest class or function. -/
theorem exists_scope_of_nearest {s t : Spot} (ht : (enclosingScopes s).head? = some t) :
    t ∈ s.above ∧ ∃ scope, (scopesAt s).head? = some scope ∧ scope.path = t.path ∧
      scope.isClass = t.node.isClass := by
  have hmem : t ∈ enclosingScopes s := List.mem_of_mem_head? ht
  obtain ⟨habove, hsome⟩ := List.mem_filter.mp hmem
  rw [← isSome_scopeOf?] at hsome
  obtain ⟨scope, hscope⟩ := Option.isSome_iff_exists.mp hsome
  refine ⟨habove, scope, ?_, path_of_scopeOf? hscope⟩
  rw [scopesAt_head?, ht]
  exact hscope

theorem isNone_scopesAt_iff (s : Spot) :
    (scopesAt s).head?.isNone = true ↔ (enclosingScopes s).head? = none := by
  cases hnearest : (enclosingScopes s).head? with
  | none => simp [scopesAt_head?, hnearest]
  | some t =>
      obtain ⟨-, scope, hscope, -⟩ := exists_scope_of_nearest hnearest
      simp [hscope]

/-- A scope of the right kind and at the right path is that of the place. -/
theorem scopesAt_iff_nearest {tree : Node} {s t : Spot} (hs : s.IsIn tree) (ht : t.IsIn tree) :
    (∃ scope, (scopesAt s).head? = some scope ∧ scope.isClass = t.node.isClass ∧
      scope.path = t.path) ↔ (enclosingScopes s).head? = some t := by
  constructor
  · intro hinnermost
    obtain ⟨scope, hscope, -, hpath⟩ := hinnermost
    cases hnearest : (enclosingScopes s).head? with
    | none =>
        have hnone := (isNone_scopesAt_iff s).mpr hnearest
        rw [hscope] at hnone
        cases hnone
    | some u =>
        obtain ⟨habove, opened, hopened, hopenedPath, -⟩ := exists_scope_of_nearest hnearest
        cases hscope.symm.trans hopened
        rw [(hs.of_mem_above habove).eq_of_path_eq ht (hopenedPath.symm.trans hpath)]
  · intro hnearest
    obtain ⟨-, scope, hscope, hpath, hclass⟩ := exists_scope_of_nearest hnearest
    exact ⟨scope, hscope, hclass, hpath⟩

theorem isClassAt_scopesAt_iff {tree : Node} {s t : Spot} (hs : s.IsIn tree) (ht : t.IsIn tree)
    (hclass : t.node.isClass = true) :
    isClassAt t.path (scopesAt s).head? = true ↔ (enclosingScopes s).head? = some t := by
  rw [← scopesAt_iff_nearest hs ht, hclass]
  cases (scopesAt s).head? <;> simp [isClassAt]

theorem isFunctionAt_scopesAt_iff {tree : Node} {s t : Spot} (hs : s.IsIn tree) (ht : t.IsIn tree)
    (hfunction : t.isFunction = true) :
    isFunctionAt t.path (scopesAt s).head? = true ↔ (enclosingScopes s).head? = some t := by
  have hclass : t.node.isClass = false := by
    unfold Spot.isFunction at hfunction
    split at hfunction
    · rename_i hnode
      rw [hnode]
      rfl
    · cases hfunction
  rw [← scopesAt_iff_nearest hs ht, hclass]
  cases (scopesAt s).head? <;> simp [isFunctionAt]

namespace SourceModule

theorem exists_classAt? (m : ModuleName) {tree : Node} {s : Spot} (hs : s.IsIn tree)
    (hclass : s.node.isClass = true) :
    ∃ declared, (ofTree m tree).classAt? s.path =
        some (classEntry m (ofTree m tree).functionDeclarations declared) ∧ declared.path = s.path := by
  unfold Node.isClass at hclass
  split at hclass
  · rename_i id bases keywords body decorators hnode
    let declared : ClassDeclaration :=
      ⟨id, qualify (scopesAt s) id, s.path, bases.filterMap Node.dotted?⟩
    have hown : .ofClass declared ∈ ownDeclarations m (scopesAt s) s := by
      rw [ownDeclarations, hnode]
      exact List.mem_singleton_self _
    exact ⟨declared, classAt?_of_mem (mem_classEntries_iff.mpr ⟨s, hs, declared, hown, rfl⟩), rfl⟩
  · cases hclass

/-- For every tree: each routine belongs to one function definition and each definition has one
routine, in document order.  A routine is called after the classes and functions around its
definition, and has a class exactly if the nearest of them is one.  The tables of the file, of each
class and of each function map a name to the last routine of the name whose nearest class or function
is the one that the table belongs to, and hold nothing else.  The routines of a file that was parsed
are told apart by their lines. -/
theorem tables_match_nesting (name : ModuleName) (tree : Node) :
    let m := ofTree name tree
    (functionSpots tree).Nodup ∧
      (∀ s, s ∈ functionSpots tree ↔ s.IsIn tree ∧ s.isFunction = true) ∧
      m.routines.map some = (functionSpots tree).map (fun s => m.routineAt? s.path) ∧
      (∀ path routine, m.routineAt? path = some routine →
        ∃ s ∈ functionSpots tree, s.path = path ∧ CalledAfter s routine) ∧
      (∀ text, parse? text = some tree → m.routines.Pairwise fun a b => a.line < b.line) ∧
      m.IsTableOf none m.functions ∧
      (∀ s, s.IsIn tree → s.node.isClass = true →
        ∃ c, m.classAt? s.path = some c ∧ m.IsTableOf (some s) c.methods) ∧
      ∀ s, s.IsIn tree → s.isFunction = true → m.IsTableOf (some s) (m.localFunctions s.path) := by
  intro m
  refine ⟨nodup_functionSpots tree, fun s => mem_functionSpots_iff, map_some_routines name tree,
    ?_, fun text htree => pairwise_line_routines htree, ?_, ?_, ?_⟩
  · intro path routine hroutine
    obtain ⟨f, hf, rfl⟩ := Option.map_eq_some_iff.mp hroutine
    have hmem := List.mem_of_find?_eq_some hf
    rw [functionDeclarations_eq] at hmem
    obtain ⟨s, hs, hdeclared⟩ := List.mem_filterMap.mp hmem
    have hpath : f.path = path := by simpa using List.find?_some hf
    exact ⟨s, hs, (path_of_declaredFunction? hdeclared).1.symm.trans hpath,
      calledAfter_of_declaredFunction? hdeclared⟩
  · exact isTableOf_functionsIn fun s _ => isNone_scopesAt_iff s
  · intro t ht hclass
    obtain ⟨declared, hat, hpath⟩ := exists_classAt? name ht hclass
    refine ⟨_, hat, ?_⟩
    have htable := isTableOf_functionsIn (m := name) fun s hs => isClassAt_scopesAt_iff hs ht hclass
    rw [← hpath] at htable
    exact htable
  · intro t ht hfunction
    exact isTableOf_functionsIn fun s hs => isFunctionAt_scopesAt_iff hs ht hfunction

end SourceModule

end CallChain
