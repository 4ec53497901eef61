import CallChain.Proofs.Declarations

/-!
# Scopes around a place

While declarations are collected, a stack of the classes and functions around them is carried along.
`scopesAt` reads the same stack off the way from a place up to the root, so what is declared at a
place depends on the place alone: `mem_declarations_iff`.  Two classes of a file are therefore told
apart by where they stand.

The innermost scope around a place is that of the nearest class or function above it:
`exists_of_scopesAt_head?`.  Statements such as `if`, `try` and `with` open no scope, so a place can
be far below the class that is the innermost scope around it.
-/

namespace CallChain

open Python

/-- The scope that a spot opens for what is below it. -/
def scopeOf? (s : Spot) : Option Scope :=
  match s.node with
  | .classDef name _ _ _ _ => some ⟨true, name, s.path⟩
  | .functionDef _ _ name _ _ _ _ => some ⟨false, name, s.path⟩
  | _ => none

theorem scopesBelow_eq (scopes : List Scope) (s : Spot) :
    scopesBelow scopes s = (scopeOf? s).toList ++ scopes := by
  unfold scopesBelow scopeOf?
  cases s.node <;> rfl

theorem path_of_scopeOf? {s : Spot} {scope : Scope} (hscope : scopeOf? s = some scope) :
    scope.path = s.path ∧ scope.isClass = s.node.isClass := by
  unfold scopeOf? at hscope
  split at hscope
  · rename_i hnode
    cases hscope
    exact ⟨rfl, by rw [hnode]; rfl⟩
  · rename_i hnode
    cases hscope
    exact ⟨rfl, by rw [hnode]; rfl⟩
  · cases hscope

theorem exists_scopeOf?_of_isClass {s : Spot} (hclass : s.node.isClass = true) :
    ∃ scope, scopeOf? s = some scope := by
  unfold Node.isClass at hclass
  split at hclass
  · rename_i hnode
    exact ⟨_, by rw [scopeOf?, hnode]⟩
  · cases hclass

theorem exists_scopeOf?_of_isFunction {s : Spot} (hfunction : s.isFunction = true) :
    ∃ scope, scopeOf? s = some scope := by
  unfold Spot.isFunction at hfunction
  split at hfunction
  · rename_i hnode
    exact ⟨_, by rw [scopeOf?, hnode]⟩
  · cases hfunction

/-- The scopes around a place, the innermost first. -/
def scopesAt : Spot → List Scope
  | .root _ => []
  | .child parent _ _ _ => scopesBelow (scopesAt parent) parent

theorem scopesAt_of_mem_children {s c : Spot} (hc : c ∈ s.children) :
    scopesAt c = scopesBelow (scopesAt s) s := by
  obtain ⟨role, index, node, rfl, -⟩ := Spot.mem_children.mp hc
  rfl

/-! ## What is declared where -/

theorem exists_of_mem_declarations {m : ModuleName} {tree : Node} {s : Spot} {d : Declaration}
    (hs : s.IsIn tree) (hd : d ∈ declarations m (scopesAt s) s) :
    ∃ t, t.IsIn tree ∧ d ∈ ownDeclarations m (scopesAt t) t := by
  induction s using Spot.induction_children with
  | hstep s ih =>
      rw [declarations_eq, List.mem_append] at hd
      rcases hd with hown | hbelow
      · exact ⟨s, hs, hown⟩
      · obtain ⟨c, hc, hdc⟩ := List.mem_flatMap.mp hbelow
        rw [← scopesAt_of_mem_children hc] at hdc
        exact ih c hc (hs.of_mem_children hc) hdc

theorem declarations_subset {m : ModuleName} {tree : Node} {s : Spot} (hs : s.IsIn tree) :
    declarations m (scopesAt s) s ⊆ declarations m [] (.root tree) := by
  induction s with
  | root node =>
      obtain rfl : node = tree := hs
      exact List.Subset.refl _
  | child parent role index node ih =>
      have hchild : Spot.child parent role index node ∈ parent.children :=
        Spot.mem_children.mpr ⟨role, index, node, rfl, hs.2⟩
      intro d hd
      refine ih hs.1 ?_
      rw [declarations_eq]
      exact List.mem_append_right _ (List.mem_flatMap.mpr ⟨_, hchild, hd⟩)

/-- A tree declares what its places declare, each in the scopes around it. -/
theorem mem_declarations_iff {m : ModuleName} {tree : Node} {d : Declaration} :
    d ∈ declarations m [] (.root tree) ↔
      ∃ s, s.IsIn tree ∧ d ∈ ownDeclarations m (scopesAt s) s := by
  constructor
  · exact fun hd => exists_of_mem_declarations (Spot.isIn_root tree) hd
  · rintro ⟨s, hs, hown⟩
    refine declarations_subset hs ?_
    rw [declarations_eq]
    exact List.mem_append_left _ hown

/-! ## Functions and classes of a file -/

/-- The class that a declaration is about, if it is about one. -/
def Declaration.class? : Declaration → Option ClassDeclaration
  | .ofClass c => some c
  | .ofFunction _ => none

theorem ownDeclarations_of_ofClass_mem {m : ModuleName} {scopes : List Scope} {s : Spot}
    {c : ClassDeclaration} (hc : .ofClass c ∈ ownDeclarations m scopes s) :
    ownDeclarations m scopes s = [.ofClass c] ∧ c.path = s.path := by
  unfold ownDeclarations at hc ⊢
  split at hc
  · cases List.mem_singleton.mp hc
    exact ⟨rfl, rfl⟩
  · cases List.mem_singleton.mp hc
  · cases hc

theorem scope_of_ofFunction_mem {m : ModuleName} {scopes : List Scope} {s : Spot}
    {f : FunctionDeclaration} (hf : .ofFunction f ∈ ownDeclarations m scopes s) :
    f.path = s.path ∧ f.scope = scopes.head? := by
  unfold ownDeclarations at hf
  split at hf
  · cases List.mem_singleton.mp hf
  · cases List.mem_singleton.mp hf
    exact ⟨rfl, rfl⟩
  · cases hf

namespace SourceModule

variable {m : ModuleName} {tree : Node}

theorem mem_functionDeclarations_iff {f : FunctionDeclaration} :
    f ∈ (ofTree m tree).functionDeclarations ↔
      ∃ s, s.IsIn tree ∧ .ofFunction f ∈ ownDeclarations m (scopesAt s) s := by
  rw [← mem_declarations_iff, functionDeclarations_ofTree, functionsBelow, List.mem_filterMap]
  constructor
  · rintro ⟨d, hd, hf⟩
    cases d with
    | ofFunction g =>
        cases hf
        exact hd
    | ofClass c => cases hf
  · exact fun hf => ⟨_, hf, rfl⟩

theorem mem_classEntries_iff {c : ClassEntry} :
    c ∈ (ofTree m tree).classEntries ↔
      ∃ s, s.IsIn tree ∧ ∃ declared, .ofClass declared ∈ ownDeclarations m (scopesAt s) s ∧
        c = classEntry m (ofTree m tree).functionDeclarations declared := by
  have hentries : (ofTree m tree).classEntries =
      ((declarations m [] (.root tree)).filterMap Declaration.class?).map
        (classEntry m (ofTree m tree).functionDeclarations) := rfl
  rw [hentries, List.mem_map]
  constructor
  · rintro ⟨declared, hdeclared, rfl⟩
    obtain ⟨d, hd, hclass⟩ := List.mem_filterMap.mp hdeclared
    obtain ⟨s, hs, hown⟩ := mem_declarations_iff.mp hd
    cases d with
    | ofFunction g => cases hclass
    | ofClass c =>
        cases hclass
        exact ⟨s, hs, declared, hown, rfl⟩
  · rintro ⟨s, hs, declared, hown, rfl⟩
    exact ⟨declared, List.mem_filterMap.mpr ⟨_, mem_declarations_iff.mpr ⟨s, hs, hown⟩, rfl⟩, rfl⟩

/-- Two classes of a file at the same place are the same. -/
theorem eq_of_path_eq {c d : ClassEntry} (hc : c ∈ (ofTree m tree).classEntries)
    (hd : d ∈ (ofTree m tree).classEntries) (hpath : c.path = d.path) : c = d := by
  obtain ⟨s, hs, first, hfirst, rfl⟩ := mem_classEntries_iff.mp hc
  obtain ⟨t, ht, second, hsecond, rfl⟩ := mem_classEntries_iff.mp hd
  obtain ⟨hown, hfirstPath⟩ := ownDeclarations_of_ofClass_mem hfirst
  obtain ⟨hown', hsecondPath⟩ := ownDeclarations_of_ofClass_mem hsecond
  obtain rfl : s = t := hs.eq_of_path_eq ht (hfirstPath.symm.trans (hpath.trans hsecondPath))
  cases hown.symm.trans hown'
  rfl

theorem classAt?_of_mem {c : ClassEntry} (hc : c ∈ (ofTree m tree).classEntries) :
    (ofTree m tree).classAt? c.path = some c := by
  have hsome : ((ofTree m tree).classEntries.find? fun d => d.path == c.path).isSome = true :=
    List.find?_isSome.mpr ⟨c, hc, beq_iff_eq.mpr rfl⟩
  obtain ⟨found, hfound⟩ := Option.isSome_iff_exists.mp hsome
  have hpath : found.path = c.path := by simpa using List.find?_some hfound
  rw [classAt?, hfound, eq_of_path_eq (List.mem_of_find?_eq_some hfound) hc hpath]

theorem IsParsed.file_of_mem_classEntries {m : SourceModule} (hm : m.IsParsed) {c : ClassEntry}
    (hc : c ∈ m.classEntries) : c.file = m.file := by
  obtain ⟨name, text, tree, -, rfl⟩ := hm
  obtain ⟨s, -, declared, -, rfl⟩ := mem_classEntries_iff.mp hc
  rfl

theorem IsParsed.class_eq_of_path_eq {m : SourceModule} (hm : m.IsParsed) {c d : ClassEntry}
    (hc : c ∈ m.classEntries) (hd : d ∈ m.classEntries) (hpath : c.path = d.path) : c = d := by
  obtain ⟨name, text, tree, -, rfl⟩ := hm
  exact eq_of_path_eq hc hd hpath

end SourceModule

/-! ## The innermost scope -/

/-- The innermost scope around a place is that of a class or function above it, and every other class
or function above the place is above this one. -/
theorem exists_of_scopesAt_head? {s : Spot} {scope : Scope}
    (hscope : (scopesAt s).head? = some scope) :
    ∃ t ∈ s.above, scopeOf? t = some scope ∧
      ∀ u ∈ s.above, (scopeOf? u).isSome = true → u = t ∨ u ∈ t.above := by
  induction s with
  | root node => cases hscope
  | child parent role index node ih =>
      rw [scopesAt, scopesBelow_eq] at hscope
      cases hparent : scopeOf? parent with
      | some nearest =>
          rw [hparent] at hscope
          cases hscope
          refine ⟨parent, List.mem_cons_self, hparent, fun u hu _ => ?_⟩
          exact List.mem_cons.mp hu
      | none =>
          rw [hparent] at hscope
          obtain ⟨t, ht, hopens, hnearest⟩ := ih hscope
          refine ⟨t, List.mem_cons_of_mem _ ht, hopens, fun u hu hsome => ?_⟩
          rcases List.mem_cons.mp hu with rfl | habove
          · rw [hparent] at hsome
            cases hsome
          · exact hnearest u habove hsome

end CallChain
