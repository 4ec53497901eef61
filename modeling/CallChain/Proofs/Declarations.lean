import CallChain.Proofs.Python.Lines
import CallChain.Proofs.Python.Spots
import CallChain.SourceModule

/-!
# What a file declares, and where

Every function of a tree is declared once, at its place: `DeclaredAt` ties a declaration to the spot
that makes it.  So the routine at the path of a function is the one that the function declares, and
the routines of a parsed file begin on different lines.

A table holds only what was put into it, under the name it was put there for.
-/

namespace CallChain

open Python

/-! ## Tables -/

namespace Assoc

variable {α β γ : Type} [BEq α] [LawfulBEq α]

theorem mem_of_get? {key : α} {value : β} {entries : List (α × β)}
    (hget : get? key entries = some value) : (key, value) ∈ entries := by
  induction entries with
  | nil => cases hget
  | cons entry rest ih =>
      rw [get?] at hget
      split at hget
      · rename_i hkey
        cases hget
        rw [← beq_iff_eq.mp hkey]
        exact List.mem_cons_self
      · exact List.mem_cons_of_mem _ (ih hget)

/-- In a table with different keys an entry is found under its key. -/
theorem get?_of_mem {entry : α × β} {entries : List (α × β)}
    (hentries : (entries.map Prod.fst).Nodup) (hentry : entry ∈ entries) :
    get? entry.1 entries = some entry.2 := by
  induction entries with
  | nil => cases hentry
  | cons first rest ih =>
      rw [List.map_cons, List.nodup_cons] at hentries
      rw [get?]
      rcases List.mem_cons.mp hentry with rfl | hrest
      · rw [if_pos BEq.rfl]
      · have hne : ¬ (first.1 == entry.1) = true := by
          rw [beq_iff_eq]
          intro hkey
          exact hentries.1 (hkey ▸ List.mem_map_of_mem hrest)
        rw [if_neg hne]
        exact ih hentries.2 hrest

theorem mem_put {key : α} {value : β} {entries : List (α × β)} {entry : α × β}
    (hentry : entry ∈ put key value entries) : entry = (key, value) ∨ entry ∈ entries := by
  induction entries with
  | nil => exact Or.inl (List.mem_singleton.mp hentry)
  | cons first rest ih =>
      rw [put] at hentry
      split at hentry
      · rename_i hkey
        rw [beq_iff_eq.mp hkey] at hentry
        exact (List.mem_cons.mp hentry).imp_right (List.mem_cons_of_mem _)
      · rcases List.mem_cons.mp hentry with rfl | hrest
        · exact Or.inr List.mem_cons_self
        · exact (ih hrest).imp_right (List.mem_cons_of_mem _)

/-- A table that comes from putting items in holds only items, each under its key. -/
theorem exists_of_mem_foldl_put {f : γ → α} {g : γ → β} {items : List γ}
    {entries : List (α × β)} {entry : α × β}
    (hentry : entry ∈ items.foldl (fun table x => put (f x) (g x) table) entries) :
    entry ∈ entries ∨ ∃ x ∈ items, entry = (f x, g x) := by
  induction items generalizing entries with
  | nil => exact Or.inl hentry
  | cons x rest ih =>
      rcases ih hentry with hput | ⟨y, hy, heq⟩
      · rcases mem_put hput with heq | hearlier
        · exact Or.inr ⟨x, List.mem_cons_self, heq⟩
        · exact Or.inl hearlier
      · exact Or.inr ⟨y, List.mem_cons_of_mem _ hy, heq⟩

theorem get?_foldl_put {f : γ → α} {g : γ → β} {items : List γ} {key : α} {value : β}
    (hget : get? key (items.foldl (fun table x => put (f x) (g x) table) []) = some value) :
    ∃ x ∈ items, f x = key ∧ g x = value := by
  rcases exists_of_mem_foldl_put (mem_of_get? hget) with hnil | ⟨x, hx, heq⟩
  · cases hnil
  · exact ⟨x, hx, (congrArg Prod.fst heq).symm, (congrArg Prod.snd heq).symm⟩

/-- To put a value keeps the keys different. -/
theorem nodup_keys_put {key : α} {value : β} {entries : List (α × β)}
    (hentries : (entries.map Prod.fst).Nodup) : ((put key value entries).map Prod.fst).Nodup := by
  induction entries with
  | nil => simp [put]
  | cons first rest ih =>
      rw [List.map_cons, List.nodup_cons] at hentries
      rw [put]
      split
      · exact List.nodup_cons.mpr hentries
      · rename_i hkey
        refine List.nodup_cons.mpr ⟨fun hmem => ?_, ih hentries.2⟩
        obtain ⟨entry, hentry, hfst⟩ := List.mem_map.mp hmem
        rcases mem_put hentry with rfl | hrest
        · exact hkey (beq_iff_eq.mpr hfst.symm)
        · exact hentries.1 (hfst ▸ List.mem_map_of_mem hrest)

theorem nodup_keys_foldl_put {f : γ → α} {g : γ → β} (items : List γ)
    {entries : List (α × β)} (hentries : (entries.map Prod.fst).Nodup) :
    ((items.foldl (fun table x => put (f x) (g x) table) entries).map Prod.fst).Nodup := by
  induction items generalizing entries with
  | nil => exact hentries
  | cons x rest ih => exact ih (nodup_keys_put hentries)

/-- So does putting it only if the key is new. -/
theorem nodup_keys_putNew {key : α} {value : β} {entries : List (α × β)}
    (hentries : (entries.map Prod.fst).Nodup) : ((putNew key value entries).map Prod.fst).Nodup := by
  unfold putNew
  split
  · exact hentries
  · rename_i hnone
    rw [List.map_append, List.nodup_append]
    refine ⟨hentries, List.nodup_singleton _, fun k hk k' hk' hsame => ?_⟩
    obtain rfl : k' = key := List.mem_singleton.mp hk'
    obtain ⟨entry, hentry, rfl⟩ := List.mem_map.mp hk
    have hget := get?_of_mem hentries hentry
    rw [hsame] at hget
    cases hnone.symm.trans hget

end Assoc

/-! ## Declarations and spots -/

/-- The function that a declaration is about, if it is about one. -/
def Declaration.function? : Declaration → Option FunctionDeclaration
  | .ofFunction f => some f
  | .ofClass _ => none

/-- What a spot declares itself. -/
def ownDeclarations (m : ModuleName) (scopes : List Scope) (s : Spot) : List Declaration :=
  match s.node with
  | .classDef name bases _ _ _ =>
    [.ofClass ⟨name, qualify scopes name, s.path, bases.filterMap Node.dotted?⟩]
  | .functionDef isAsync span name _ _ _ _ =>
    [.ofFunction ⟨declaredRoutine m scopes isAsync span name s.node, s.path, scopes.head?, s.node⟩]
  | _ => []

/-- The scopes around what is below a spot. -/
def scopesBelow (scopes : List Scope) (s : Spot) : List Scope :=
  match s.node with
  | .classDef name _ _ _ _ => ⟨true, name, s.path⟩ :: scopes
  | .functionDef _ _ name _ _ _ _ => ⟨false, name, s.path⟩ :: scopes
  | _ => scopes

theorem declarations_eq (m : ModuleName) (scopes : List Scope) (s : Spot) :
    declarations m scopes s =
      ownDeclarations m scopes s ++ s.children.flatMap (declarations m (scopesBelow scopes s)) := by
  rw [declarations]
  split
  · rename_i hnode
    rw [List.flatMap_subtype (g := declarations m _) fun _ _ => rfl, List.unattach_attach]
    simp [ownDeclarations, scopesBelow, hnode]
  · rename_i hnode
    rw [List.flatMap_subtype (g := declarations m _) fun _ _ => rfl, List.unattach_attach]
    simp [ownDeclarations, scopesBelow, hnode]
  · rename_i hclass hfunction
    have hown : ownDeclarations m scopes s = [] := by
      unfold ownDeclarations
      split
      · exact (hclass _ _ _ _ _ ‹_›).elim
      · exact (hfunction _ _ _ _ _ _ _ ‹_›).elim
      · rfl
    have hscopes : scopesBelow scopes s = scopes := by
      unfold scopesBelow
      split
      · exact (hclass _ _ _ _ _ ‹_›).elim
      · exact (hfunction _ _ _ _ _ _ _ ‹_›).elim
      · rfl
    rw [List.flatMap_subtype (g := declarations m scopes) fun _ _ => rfl, List.unattach_attach, hown,
      hscopes, List.nil_append]

/-- The functions at and below a spot, in document order. -/
def functionsBelow (m : ModuleName) (scopes : List Scope) (s : Spot) : List FunctionDeclaration :=
  (declarations m scopes s).filterMap Declaration.function?

theorem functionsBelow_eq (m : ModuleName) (scopes : List Scope) (s : Spot) :
    functionsBelow m scopes s = (ownDeclarations m scopes s).filterMap Declaration.function? ++
      s.children.flatMap (functionsBelow m (scopesBelow scopes s)) := by
  rw [functionsBelow, declarations_eq, List.filterMap_append, List.filterMap_flatMap]
  rfl

theorem SourceModule.functionDeclarations_ofTree (m : ModuleName) (tree : Node) :
    (SourceModule.ofTree m tree).functionDeclarations = functionsBelow m [] (.root tree) := rfl

/-- A declaration is the one that the function at a spot makes. -/
structure DeclaredAt (m : ModuleName) (s : Spot) (f : FunctionDeclaration) : Prop where
  path : f.path = s.path
  routine : ∃ scopes isAsync span name params body decorators returns,
    s.node = .functionDef isAsync span name params body decorators returns ∧
      f.routine = declaredRoutine m scopes isAsync span name s.node

theorem DeclaredAt.file {m : ModuleName} {s : Spot} {f : FunctionDeclaration}
    (hf : DeclaredAt m s f) : f.routine.file = m.file := by
  obtain ⟨_, _, _, _, _, _, _, _, -, hroutine⟩ := hf.routine
  rw [hroutine]
  rfl

theorem DeclaredAt.moduleName {m : ModuleName} {s : Spot} {f : FunctionDeclaration}
    (hf : DeclaredAt m s f) : f.routine.moduleName = m.name := by
  obtain ⟨_, _, _, _, _, _, _, _, -, hroutine⟩ := hf.routine
  rw [hroutine]
  rfl

theorem declaredAt_of_mem_own {m : ModuleName} {scopes : List Scope} {s : Spot}
    {f : FunctionDeclaration}
    (hf : f ∈ (ownDeclarations m scopes s).filterMap Declaration.function?) : DeclaredAt m s f := by
  unfold ownDeclarations at hf
  split at hf
  · cases hf
  · rename_i isAsync span name params body decorators returns hnode
    cases List.mem_singleton.mp hf
    exact ⟨rfl, scopes, isAsync, span, name, params, body, decorators, returns, hnode, rfl⟩
  · cases hf

/-- What is declared is declared at a place of the tree. -/
theorem declaredAt_of_mem {m : ModuleName} {tree : Node} {scopes : List Scope} {s : Spot}
    {f : FunctionDeclaration} (hs : s.IsIn tree) (hf : f ∈ functionsBelow m scopes s) :
    ∃ t, t.IsIn tree ∧ DeclaredAt m t f := by
  induction s using Spot.induction_children generalizing scopes with
  | hstep s ih =>
      rw [functionsBelow_eq, List.mem_append] at hf
      rcases hf with hown | hbelow
      · exact ⟨s, hs, declaredAt_of_mem_own hown⟩
      · obtain ⟨c, hc, hfc⟩ := List.mem_flatMap.mp hbelow
        exact ih c hc (hs.of_mem_children hc) hfc

/-- What is declared at and below a place of the tree is among what the whole tree declares. -/
theorem functionsBelow_subset {m : ModuleName} {tree : Node} {s : Spot} (hs : s.IsIn tree) :
    ∃ scopes, functionsBelow m scopes s ⊆ functionsBelow m [] (.root tree) := by
  induction s with
  | root node =>
      obtain rfl : node = tree := hs
      exact ⟨[], List.Subset.refl _⟩
  | child parent role index node ih =>
      obtain ⟨scopes, hparent⟩ := ih hs.1
      refine ⟨scopesBelow scopes parent, fun f hf => hparent ?_⟩
      have hchild : Spot.child parent role index node ∈ parent.children :=
        Spot.mem_children.mpr ⟨role, index, node, rfl, hs.2⟩
      rw [functionsBelow_eq]
      exact List.mem_append_right _ (List.mem_flatMap.mpr ⟨_, hchild, hf⟩)

/-- Every function of the tree is declared. -/
theorem exists_declaration {m : ModuleName} {tree : Node} {s : Spot} (hs : s.IsIn tree)
    (hfunction : s.isFunction = true) : ∃ f ∈ functionsBelow m [] (.root tree), f.path = s.path := by
  obtain ⟨scopes, hsubset⟩ := functionsBelow_subset (m := m) hs
  unfold Spot.isFunction at hfunction
  split at hfunction
  · rename_i isAsync span name params body decorators returns hnode
    refine ⟨⟨declaredRoutine m scopes isAsync span name s.node, s.path, scopes.head?, s.node⟩,
      hsubset ?_, rfl⟩
    rw [functionsBelow_eq]
    refine List.mem_append_left _ ?_
    simp [ownDeclarations, hnode, Declaration.function?]
  · cases hfunction

/-- At the path of a function stands the routine that the function declares. -/
theorem SourceModule.routineAt?_eq {m : ModuleName} {tree : Node} {s : Spot} (hs : s.IsIn tree)
    (hfunction : s.isFunction = true) :
    ∃ f ∈ (SourceModule.ofTree m tree).functionDeclarations,
      (SourceModule.ofTree m tree).routineAt? s.path = some f.routine ∧ DeclaredAt m s f := by
  obtain ⟨f, hf, hpath⟩ := exists_declaration (m := m) hs hfunction
  have hsome : ((SourceModule.ofTree m tree).functionDeclarations.find?
      fun f => f.path == s.path).isSome = true :=
    List.find?_isSome.mpr ⟨f, hf, beq_iff_eq.mpr hpath⟩
  -- what is found first under the path might be declared elsewhere, but no other place has the path
  obtain ⟨found, hfound⟩ := Option.isSome_iff_exists.mp hsome
  have hmem : found ∈ functionsBelow m [] (.root tree) := List.mem_of_find?_eq_some hfound
  obtain ⟨t, ht, hdeclared⟩ := declaredAt_of_mem (Spot.isIn_root tree) hmem
  have hsame : found.path = s.path := by simpa using List.find?_some hfound
  obtain rfl : t = s := ht.eq_of_path_eq hs (hdeclared.path.symm.trans hsame)
  exact ⟨found, hmem, by rw [SourceModule.routineAt?, hfound]; rfl, hdeclared⟩

/-! ## Lines of routines -/

theorem lines_functionsBelow (m : ModuleName) (scopes : List Scope) (s : Spot) :
    (functionsBelow m scopes s).map (fun f => f.routine.line) =
      s.node.definitionLines.map Int.ofNat := by
  induction s using Spot.induction_children generalizing scopes with
  | hstep s ih =>
      have hown : ((ownDeclarations m scopes s).filterMap Declaration.function?).map
          (fun f => f.routine.line) = s.node.ownLine.map Int.ofNat := by
        unfold ownDeclarations Node.ownLine
        split <;> simp_all [Declaration.function?, declaredRoutine, Routine.withEnd]
      have hbelow : (s.children.flatMap (functionsBelow m (scopesBelow scopes s))).map
          (fun f => f.routine.line) =
            (s.node.children.flatMap fun child => child.2.definitionLines).map Int.ofNat := by
        calc (s.children.flatMap (functionsBelow m (scopesBelow scopes s))).map
              (fun f => f.routine.line)
            = s.children.flatMap fun c => c.node.definitionLines.map Int.ofNat := by
              rw [List.map_flatMap]
              exact List.flatMap_congr fun c hc => ih c hc _
          _ = ((s.children.map Spot.node).flatMap Node.definitionLines).map Int.ofNat := by
              rw [List.flatMap_map, List.map_flatMap]
          _ = (s.node.children.flatMap fun child => child.2.definitionLines).map Int.ofNat := by
              rw [Spot.map_node_children, List.flatMap_map]
      rw [functionsBelow_eq, List.map_append, hown, hbelow, Node.definitionLines_eq, List.map_append]

/-- The routines of a parsed file begin on different lines, in the order of the document. -/
theorem pairwise_line_routines {m : ModuleName} {source : String} {tree : Node}
    (htree : parse? source = some tree) :
    (SourceModule.ofTree m tree).routines.Pairwise fun a b => a.line < b.line := by
  have hlines := lines_functionsBelow m [] (.root tree)
  have hpairwise : ((functionsBelow m [] (.root tree)).map fun f => f.routine.line).Pairwise
      (· < ·) := by
    rw [hlines, List.pairwise_map]
    exact (pairwise_definitionLines htree).imp fun hlt => Int.ofNat_lt.mpr hlt
  rw [SourceModule.routines, SourceModule.functionDeclarations_ofTree, List.pairwise_map]
  exact List.pairwise_map.mp hpairwise

/-! ## The tables of a file -/

theorem get?_functionsIn {inScope : Option Scope → Bool} {functions : List FunctionDeclaration}
    {name : String} {routine : Routine}
    (hget : Assoc.get? name (functionsIn inScope functions) = some routine) :
    routine ∈ functions.map (·.routine) ∧ routine.name = name := by
  obtain ⟨f, hf, hname, rfl⟩ := Assoc.get?_foldl_put hget
  exact ⟨List.mem_map_of_mem (List.mem_filter.mp hf).1, hname⟩

namespace SourceModule

theorem get?_functions {m : SourceModule} {name : String} {routine : Routine}
    (hget : Assoc.get? name m.functions = some routine) :
    routine ∈ m.routines ∧ routine.name = name :=
  get?_functionsIn hget

theorem get?_localFunctions {m : SourceModule} {path : List Nat} {name : String} {routine : Routine}
    (hget : Assoc.get? name (m.localFunctions path) = some routine) :
    routine ∈ m.routines ∧ routine.name = name :=
  get?_functionsIn hget

theorem get?_classes {m : SourceModule} {qualname : String} {c : ClassEntry}
    (hget : Assoc.get? qualname m.classes = some c) : c ∈ m.classEntries ∧ c.qualname = qualname := by
  obtain ⟨c, hc, hname, rfl⟩ := Assoc.get?_foldl_put (g := id) hget
  exact ⟨hc, hname⟩

theorem mem_classEntries_of_mem_classes {m : SourceModule} {entry : String × ClassEntry}
    (hentry : entry ∈ m.classes) : entry.2 ∈ m.classEntries := by
  rcases Assoc.exists_of_mem_foldl_put (g := id) hentry with hnil | ⟨c, hc, rfl⟩
  · cases hnil
  · exact hc

theorem mem_classEntries_of_classAt? {m : SourceModule} {path : List Nat} {c : ClassEntry}
    (hclass : m.classAt? path = some c) : c ∈ m.classEntries :=
  List.mem_of_find?_eq_some hclass

/-- The methods of the classes of a file are routines of the file, under their names. -/
def Coherent (m : SourceModule) : Prop :=
  ∀ c ∈ m.classEntries, ∀ name routine, Assoc.get? name c.methods = some routine →
    routine ∈ m.routines ∧ routine.name = name

theorem coherent_ofTree (m : ModuleName) (tree : Node) : (ofTree m tree).Coherent := by
  intro c hc name routine hget
  obtain ⟨declared, -, rfl⟩ := List.mem_map.mp hc
  exact get?_functionsIn hget

/-- The tables are those of a text that has been parsed. -/
def IsParsed (m : SourceModule) : Prop :=
  ∃ name text tree, parse? text = some tree ∧ m = ofTree name tree

theorem IsParsed.coherent {m : SourceModule} (hm : m.IsParsed) : m.Coherent := by
  obtain ⟨name, text, tree, -, rfl⟩ := hm
  exact coherent_ofTree name tree

theorem IsParsed.nodup_lines {m : SourceModule} (hm : m.IsParsed) :
    (m.routines.map Routine.line).Nodup := by
  obtain ⟨name, text, tree, htree, rfl⟩ := hm
  rw [List.nodup_iff_pairwise_ne, List.pairwise_map]
  exact (pairwise_line_routines htree).imp fun hlt => Int.ne_of_lt hlt

theorem IsParsed.nodup_routines {m : SourceModule} (hm : m.IsParsed) : m.routines.Nodup :=
  hm.nodup_lines.of_map

/-- The routines of a file are told apart by their lines. -/
theorem IsParsed.eq_of_line_eq {m : SourceModule} (hm : m.IsParsed) {a b : Routine}
    (ha : a ∈ m.routines) (hb : b ∈ m.routines) (hline : a.line = b.line) : a = b :=
  List.inj_on_of_nodup_map hm.nodup_lines ha hb hline

theorem IsParsed.file_eq {m : SourceModule} (hm : m.IsParsed) {routine : Routine}
    (hroutine : routine ∈ m.routines) : routine.file = m.file := by
  obtain ⟨name, text, tree, -, rfl⟩ := hm
  obtain ⟨f, hf, rfl⟩ := List.mem_map.mp hroutine
  obtain ⟨s, -, hdeclared⟩ := declaredAt_of_mem (Spot.isIn_root tree) hf
  exact hdeclared.file

theorem IsParsed.moduleName_eq {m : SourceModule} (hm : m.IsParsed) {routine : Routine}
    (hroutine : routine ∈ m.routines) : routine.moduleName = m.name := by
  obtain ⟨name, text, tree, -, rfl⟩ := hm
  obtain ⟨f, hf, rfl⟩ := List.mem_map.mp hroutine
  obtain ⟨s, -, hdeclared⟩ := declaredAt_of_mem (Spot.isIn_root tree) hf
  exact hdeclared.moduleName

/-- At the path of a function stands a routine of the file. -/
theorem IsParsed.exists_routineAt? {m : SourceModule} (hm : m.IsParsed) {s : Spot}
    (hs : s.IsIn m.tree) (hfunction : s.isFunction = true) :
    ∃ routine ∈ m.routines, m.routineAt? s.path = some routine := by
  obtain ⟨name, text, tree, -, rfl⟩ := hm
  obtain ⟨f, hf, hroutine, -⟩ := routineAt?_eq (m := name) hs hfunction
  exact ⟨f.routine, List.mem_map_of_mem hf, hroutine⟩

end SourceModule

end CallChain
