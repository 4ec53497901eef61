import CallChain.Index
import CallChain.Proofs.Resolver.Binding
import Mathlib.Data.List.Forall2

/-!
# Mentions of routines

A mention is a routine together with a place of a file at which it is meant: by a call there, or by a
name or attribute that is read, not called and not part of a longer dotted name.  The sites of an
index of sources are its mentions, recorded one after the other, and no mention occurs twice: a walk
comes to a place once, and at a place a routine is meant once because the functions of a file begin
on different lines.
-/

namespace CallChain

open Python

/-! ## Functions around a place -/

/-- The place is in the body of the function: it is one of the statements of the body or below one. -/
def InBody (function s : Spot) : Prop :=
  function.isFunction = true ∧ ∃ index node, Spot.child function .body index node ∈ s :: s.above

theorem mem_enclosingFunctions {function s : Spot} :
    function ∈ enclosingFunctions s ↔ InBody function s := by
  induction s with
  | root node => simp [enclosingFunctions, InBody, Spot.above]
  | child parent role index node ih =>
      have hstep : InBody function (.child parent role index node) ↔
          (function = parent ∧ role = .body ∧ parent.isFunction = true) ∨ InBody function parent := by
        unfold InBody
        simp only [Spot.above, List.mem_cons, Spot.child.injEq]
        constructor
        · rintro ⟨hfunction, i, n, ⟨rfl, rfl, -, -⟩ | habove⟩
          · exact Or.inl ⟨rfl, rfl, hfunction⟩
          · exact Or.inr ⟨hfunction, i, n, habove⟩
        · rintro (⟨rfl, rfl, hfunction⟩ | ⟨hfunction, i, n, habove⟩)
          · exact ⟨hfunction, index, node, Or.inl ⟨rfl, rfl, rfl, rfl⟩⟩
          · exact ⟨hfunction, i, n, Or.inr habove⟩
      rw [hstep, enclosingFunctions]
      split
      · rename_i hbody
        rw [Bool.and_eq_true, beq_iff_eq] at hbody
        rw [List.mem_cons, ih]
        simp [hbody]
      · rename_i hbody
        rw [Bool.and_eq_true, beq_iff_eq] at hbody
        rw [ih]
        constructor
        · exact Or.inr
        · rintro (⟨-, hrole⟩ | habove)
          · exact absurd hrole hbody
          · exact habove

theorem InBody.isIn {tree : Node} {function s : Spot} (hbody : InBody function s)
    (hs : s.IsIn tree) : function.IsIn tree := by
  obtain ⟨-, index, node, hmem⟩ := hbody
  have hstatement : (Spot.child function .body index node).IsIn tree := by
    rcases List.mem_cons.mp hmem with rfl | habove
    · exact hs
    · exact hs.of_mem_above habove
  exact hstatement.1

/-! ## Roles of places -/

/-- The place is that of the expression that a call calls. -/
def IsCallee (s : Spot) : Prop :=
  ∃ parent role span args keywords,
    s = .child parent role 0 s.node ∧ parent.node = .call span s.node args keywords

/-- The place is that of the expression whose attribute is accessed. -/
def IsReceiver (s : Spot) : Prop :=
  ∃ parent role index span attr context,
    s = .child parent role index s.node ∧ parent.node = .member span s.node attr context

theorem call_of_callee_mem {node callee : Node} (hmem : (Role.callee, callee) ∈ node.children) :
    ∃ span args keywords, node = .call span callee args keywords := by
  cases node <;> simp_all [Node.children, Node.parts, Node.written]

theorem member_of_receiver_mem {node receiver : Node}
    (hmem : (Role.receiver, receiver) ∈ node.children) :
    ∃ span attr context, node = .member span receiver attr context := by
  cases node <;> simp_all [Node.children, Node.parts, Node.written]

theorem spotRole_eq_callee_iff {tree : Node} {s : Spot} (hs : s.IsIn tree) :
    spotRole s = .callee ↔ IsCallee s := by
  cases s with
  | root node =>
      constructor
      · intro hrole
        cases hrole
      · rintro ⟨parent, role, span, args, keywords, hspot, -⟩
        cases hspot
  | child parent role index node =>
      constructor
      · intro hrole
        obtain rfl : role = .callee := hrole
        obtain ⟨span, args, keywords, hparent⟩ := call_of_callee_mem (List.mem_of_getElem? hs.2)
        have hindex : index = 0 := by
          have hchild := hs.2
          rw [hparent, Node.children] at hchild
          cases index with
          | zero => rfl
          | succ i =>
              have hpart := List.mem_of_getElem? (List.getElem?_cons_succ ▸ hchild)
              simp [Node.parts] at hpart
        subst hindex
        exact ⟨parent, .callee, span, args, keywords, rfl, hparent⟩
      · rintro ⟨parent', role', span, args, keywords, hspot, hparent⟩
        injection hspot with hparents hroles hindices
        subst hparents hroles hindices
        have hchild := hs.2
        rw [hparent] at hchild
        exact (congrArg Prod.fst (Option.some.inj hchild)).symm

theorem spotRole_eq_receiver_iff {tree : Node} {s : Spot} (hs : s.IsIn tree) :
    spotRole s = .receiver ↔ IsReceiver s := by
  cases s with
  | root node =>
      constructor
      · intro hrole
        cases hrole
      · rintro ⟨parent, role, index, span, attr, context, hspot, -⟩
        cases hspot
  | child parent role index node =>
      constructor
      · intro hrole
        obtain rfl : role = .receiver := hrole
        obtain ⟨span, attr, context, hparent⟩ := member_of_receiver_mem (List.mem_of_getElem? hs.2)
        exact ⟨parent, .receiver, index, span, attr, context, rfl, hparent⟩
      · rintro ⟨parent', role', index', span, attr, context, hspot, hparent⟩
        injection hspot with hparents hroles hindices
        subst hparents hroles hindices
        have hchild := List.mem_of_getElem? hs.2
        rw [hparent, Node.children, List.mem_singleton] at hchild
        exact congrArg Prod.fst hchild

/-- A bare place is neither called nor part of a longer dotted name. -/
theorem isBare_iff {tree : Node} {s : Spot} (hs : s.IsIn tree) :
    isBare s = true ↔ ¬ IsCallee s ∧ ¬ IsReceiver s := by
  rw [← spotRole_eq_callee_iff hs, ← spotRole_eq_receiver_iff hs, isBare, Bool.and_eq_true,
    bne_iff_ne, bne_iff_ne]

/-! ## References at a place -/

/-- The node is a name or an attribute that is read. -/
def IsLoaded (node : Node) : Prop :=
  (∃ span id, node = .name span id .load) ∨ ∃ span receiver attr, node = .member span receiver attr .load

/-- Where a call, a name or an attribute begins: its line and column. -/
def startOf? : Node → Option (Nat × Nat)
  | .call span _ _ _ => some (span.line, span.column)
  | .name span _ _ => some (span.line, span.column)
  | .member span _ _ _ => some (span.line, span.column)
  | _ => none

/-- The kind of a reference by a node: calls are calls, and anything else refers to a value. -/
def kindOf : Node → SiteKind
  | .call _ _ _ _ => .call
  | _ => .reference

theorem kindOf_of_isLoaded {node : Node} (hload : IsLoaded node) : kindOf node = .reference := by
  rcases hload with ⟨span, id, rfl⟩ | ⟨span, receiver, attr, rfl⟩
  · rfl
  · rfl

/-- What can be at a place: a call, a name or attribute that is read, or nothing that refers. -/
theorem referenceAt?_cases (s : Spot) :
    (∃ span callee args keywords, s.node = .call span callee args keywords ∧
      referenceAt? s = some ⟨.call, callee, span⟩) ∨
    (∃ span, IsLoaded s.node ∧
      startOf? s.node = some (span.line, span.column) ∧
      referenceAt? s = if isBare s then some ⟨.reference, s.node, span⟩ else none) ∨
    ((∀ span callee args keywords, s.node ≠ .call span callee args keywords) ∧ ¬ IsLoaded s.node ∧
      referenceAt? s = none) := by
  unfold referenceAt?
  split
  · rename_i span callee args keywords hnode
    exact .inl ⟨span, callee, args, keywords, hnode, rfl⟩
  · rename_i span id hnode
    exact .inr (.inl ⟨span, .inl ⟨span, id, hnode⟩, by rw [hnode]; rfl, rfl⟩)
  · rename_i span receiver attr hnode
    exact .inr (.inl ⟨span, .inr ⟨span, receiver, attr, hnode⟩, by rw [hnode]; rfl, rfl⟩)
  · rename_i hcall hname hmember
    refine .inr (.inr ⟨hcall, ?_, rfl⟩)
    rintro (⟨span, id, hnode⟩ | ⟨span, receiver, attr, hnode⟩)
    · exact hname span id hnode
    · exact hmember span receiver attr hnode

theorem kindOf_of_referenceAt? {s : Spot} {ref : Reference} (href : referenceAt? s = some ref) :
    ref.kind = kindOf s.node ∧ startOf? s.node = some (ref.span.line, ref.span.column) := by
  rcases referenceAt?_cases s with
    ⟨span, callee, args, keywords, hnode, hcall⟩ | ⟨span, hloaded, hstart, hload⟩ | ⟨-, -, hnone⟩
  · cases hcall.symm.trans href
    rw [hnode]
    exact ⟨rfl, rfl⟩
  · rw [hload] at href
    split at href
    · cases href
      exact ⟨(kindOf_of_isLoaded hloaded).symm, hstart⟩
    · cases href
  · cases hnone.symm.trans href

namespace Resolver

/-- The routines that the reference at a place of a file means. -/
def meant (r : Resolver) (source : SourceModule) (s : Spot) : List Routine :=
  match referenceAt? s with
  | none => []
  | some ref => r.targets ⟨source, enclosingFunctions s⟩ ref

/-- Either nothing refers at a place, or there is one expression that all resolvers are asked about. -/
theorem meant_cases (source : SourceModule) (s : Spot) :
    (∀ r : Resolver, r.meant source s = []) ∨ ∃ constructs byName expression, ∀ r : Resolver,
      r.meant source s = r.resolve ⟨source, enclosingFunctions s⟩ constructs byName expression := by
  unfold meant
  cases referenceAt? s with
  | none => exact .inl fun r => rfl
  | some ref =>
      obtain ⟨kind, expression, span⟩ := ref
      cases kind with
      | call => exact .inr ⟨true, true, expression, fun r => rfl⟩
      | reference => exact .inr ⟨false, false, expression, fun r => rfl⟩

/-- At a place of a file there is a call whose callee means the routine, or a name or attribute that
is read, is neither called nor part of a longer dotted name, and means the routine. -/
def Refers (r : Resolver) (source : SourceModule) (s : Spot) (routine : Routine) : Prop :=
  (∃ span callee args keywords, s.node = .call span callee args keywords ∧
    routine ∈ r.resolveCall ⟨source, enclosingFunctions s⟩ callee) ∨
  (IsLoaded s.node ∧ ¬ IsCallee s ∧ ¬ IsReceiver s ∧
    routine ∈ r.resolveReference ⟨source, enclosingFunctions s⟩ s.node)

theorem mem_meant_iff {r : Resolver} {source : SourceModule} {tree : Node} {s : Spot}
    (hs : s.IsIn tree) {routine : Routine} :
    routine ∈ r.meant source s ↔ r.Refers source s routine := by
  unfold meant Refers
  rcases referenceAt?_cases s with
    ⟨span, callee, args, keywords, hnode, href⟩ | ⟨span, hloaded, -, href⟩ |
      ⟨hcall, hloaded, href⟩
  · rw [href]
    constructor
    · exact fun hroutine => .inl ⟨span, callee, args, keywords, hnode, hroutine⟩
    · rintro (⟨_, _, _, _, hnode', hroutine⟩ | ⟨hload, -⟩)
      · cases hnode.symm.trans hnode'
        exact hroutine
      · have hkind := kindOf_of_isLoaded hload
        rw [hnode] at hkind
        cases hkind
  · rw [href]
    constructor
    · intro hroutine
      split at hroutine
      · cases hroutine
      · rename_i ref hbare
        split at hbare
        · cases hbare
          rename_i hbare
          exact .inr ⟨hloaded, ((isBare_iff hs).mp hbare).1, ((isBare_iff hs).mp hbare).2, hroutine⟩
        · cases hbare
    · rintro (⟨_, _, _, _, hnode, -⟩ | ⟨-, hcallee, hreceiver, hroutine⟩)
      · have hkind := kindOf_of_isLoaded hloaded
        rw [hnode] at hkind
        cases hkind
      · rw [if_pos ((isBare_iff hs).mpr ⟨hcallee, hreceiver⟩)]
        exact hroutine
  · rw [href]
    constructor
    · intro h
      cases h
    · rintro (⟨span, callee, args, keywords, hnode, -⟩ | ⟨hload, -⟩)
      · exact absurd hnode (hcall _ _ _ _)
      · exact absurd hload hloaded

end Resolver

/-! ## Indexes of sources -/

namespace Index

/-- The files of the index are those of different parsed texts, and its sites are those found in
them. -/
structure Regular (index : Index) : Prop where
  resolver : index.resolver.Regular
  sites : index.sites = index.files.flatMap (index.resolver.sitesIn index.settings.handOffNames)

theorem map_file_sublist (parsed : List (String × Option Node)) :
    ((parsed.filterMap fun (path, tree?) => tree?.map (moduleOf path)).map
      SourceModule.file).Sublist (parsed.map Prod.fst) := by
  induction parsed with
  | nil => exact List.Sublist.slnil
  | cons entry rest ih =>
      obtain ⟨path, tree?⟩ := entry
      cases tree? with
      | none => exact ih.cons path
      | some tree => exact ih.cons_cons path

/-- An index of texts by path is regular if the paths differ. -/
theorem regular_ofSources (settings : Settings) (root : Option String)
    {sources : List (String × String)} (hpaths : (sources.map Prod.fst).Nodup) :
    (ofSources settings root sources).Regular := by
  constructor
  · constructor
    · refine (((List.mergeSort_perm _ _).map SourceModule.file).nodup_iff).mpr
        ((map_file_sublist _).nodup ?_)
      rw [List.map_map]
      exact (((List.mergeSort_perm sources _).map Prod.fst).nodup_iff).mpr hpaths
    · intro m hm
      obtain ⟨⟨path, tree?⟩, hentry, hmodule⟩ := List.mem_filterMap.mp (List.mem_mergeSort.mp hm)
      obtain ⟨⟨path', text⟩, -, heq⟩ := List.mem_map.mp hentry
      obtain ⟨tree, htree, rfl⟩ := Option.map_eq_some_iff.mp hmodule
      obtain ⟨rfl, hparse⟩ := Prod.mk.inj heq
      exact ⟨_, text, tree, hparse.trans htree, rfl⟩
  · rfl

variable {index : Index}

/-! ## Callers -/

theorem Regular.find?_file (hindex : index.Regular) {source : SourceModule}
    (hsource : source ∈ index.files) :
    (index.files.find? fun m => m.file == source.file) = some source := by
  have hsome : (index.files.find? fun m => m.file == source.file).isSome = true :=
    List.find?_isSome.mpr ⟨source, hsource, beq_iff_eq.mpr rfl⟩
  obtain ⟨found, hfound⟩ := Option.isSome_iff_exists.mp hsome
  have hfile : found.file = source.file := by simpa using List.find?_some hfound
  rw [hfound, hindex.resolver.eq_of_file_eq (List.mem_of_find?_eq_some hfound) hsource hfile]

theorem Regular.enclosingRoutine?_eq (hindex : index.Regular) {source : SourceModule}
    (hsource : source ∈ index.files) (s : Spot) :
    index.enclosingRoutine? source.file s =
      (enclosingFunctions s).head?.bind fun f => source.routineAt? f.path := by
  rw [enclosingRoutine?, hindex.find?_file hsource]
  rfl

/-- A routine is around a place exactly if some function has the place in its body, and then it is
one of the file. -/
theorem Regular.enclosingRoutine?_cases (hindex : index.Regular) {source : SourceModule}
    (hsource : source ∈ index.files) {s : Spot} (hs : s.IsIn source.tree) :
    (index.enclosingRoutine? source.file s = none ∧ ∀ function, ¬ InBody function s) ∨
      ∃ routine ∈ source.routines, index.enclosingRoutine? source.file s = some routine ∧
        ∃ function, InBody function s := by
  rw [hindex.enclosingRoutine?_eq hsource]
  cases hfunctions : enclosingFunctions s with
  | nil =>
      refine .inl ⟨rfl, fun function hbody => ?_⟩
      have hmem := mem_enclosingFunctions.mpr hbody
      rw [hfunctions] at hmem
      cases hmem
  | cons function outer =>
      have hbody : InBody function s :=
        mem_enclosingFunctions.mp (hfunctions ▸ List.mem_cons_self)
      obtain ⟨routine, hroutine, hat⟩ :=
        (hindex.resolver.parsed source hsource).exists_routineAt? (hbody.isIn hs) hbody.1
      exact .inr ⟨routine, hroutine, hat, function, hbody⟩

/-! ## Mentions of routines -/

end Index

/-- A routine that may be meant at a place of a file. -/
structure Mention where
  source : SourceModule
  spot : Spot
  routine : Routine

namespace Index

variable {index : Index}

/-- The place is one of a file of the index, and what is there means the routine. -/
def IsMention (index : Index) (x : Mention) : Prop :=
  x.source ∈ index.files ∧ x.spot.IsIn x.source.tree ∧
    index.resolver.Refers x.source x.spot x.routine

/-- Whether what is at the place is handed to another thread of execution. -/
def handsOff (index : Index) (x : Mention) : Bool :=
  index.settings.handOffNames.covers (some x.source.imports)
    ((enclosingFunctions x.spot).head?.map Spot.path) x.spot

/-- A site is the one of a mention: it has the routine, and the kind, place, caller and flag of what
is at the place. -/
structure Records (index : Index) (x : Mention) (site : CallSite) : Prop where
  callee : site.callee = x.routine
  file : site.file = x.source.file
  start : startOf? x.spot.node = some (site.line, site.column)
  kind : site.kind = kindOf x.spot.node
  caller : site.caller = index.enclosingRoutine? x.source.file x.spot
  handedOff : site.handedOff = index.handsOff x

/-- The mentions of routines at a place of a file. -/
def mentionsAt (index : Index) (source : SourceModule) (s : Spot) : List Mention :=
  (index.resolver.meant source s).map (Mention.mk source s)

/-- The mentions of routines in all files, level by level in each of them. -/
def mentions (index : Index) : List Mention :=
  index.files.flatMap fun source => (Spot.root source.tree).walk.flatMap (index.mentionsAt source)

theorem mem_mentions_iff {x : Mention} : x ∈ index.mentions ↔ index.IsMention x := by
  unfold mentions IsMention
  rw [List.mem_flatMap]
  constructor
  · rintro ⟨source, hsource, hx⟩
    obtain ⟨s, hs, hx⟩ := List.mem_flatMap.mp hx
    obtain ⟨routine, hroutine, rfl⟩ := List.mem_map.mp hx
    have hin := Spot.mem_walk_iff.mp hs
    exact ⟨hsource, hin, (Resolver.mem_meant_iff hin).mp hroutine⟩
  · rintro ⟨hsource, hs, hrefers⟩
    refine ⟨x.source, hsource, List.mem_flatMap.mpr ⟨x.spot, Spot.mem_walk_iff.mpr hs, ?_⟩⟩
    exact List.mem_map.mpr ⟨x.routine, (Resolver.mem_meant_iff hs).mpr hrefers, rfl⟩

theorem Regular.nodup_meant (hindex : index.Regular) (source : SourceModule) (s : Spot) :
    (index.resolver.meant source s).Nodup := by
  rcases Resolver.meant_cases source s with hnone | ⟨constructs, byName, expression, hmeant⟩
  · rw [hnone]
    exact List.nodup_nil
  · rw [hmeant]
    exact hindex.resolver.nodup_resolve _ constructs byName expression

theorem Regular.nodup_files (hindex : index.Regular) : index.files.Nodup :=
  hindex.resolver.distinct.of_map

/-- No routine is mentioned twice at a place. -/
theorem Regular.nodup_mentions (hindex : index.Regular) : index.mentions.Nodup := by
  have hat : ∀ source s, (index.mentionsAt source s).Nodup := fun source s =>
    (hindex.nodup_meant source s).map fun a b heq => congrArg Mention.routine heq
  have hspot : ∀ source s, ∀ x ∈ index.mentionsAt source s, x.source = source ∧ x.spot = s := by
    intro source s x hx
    obtain ⟨routine, -, rfl⟩ := List.mem_map.mp hx
    exact ⟨rfl, rfl⟩
  refine List.nodup_flatMap.mpr ⟨fun source _ => List.nodup_flatMap.mpr ⟨fun s _ => hat source s, ?_⟩, ?_⟩
  · refine (List.nodup_iff_pairwise_ne.mp (Spot.nodup_walk source.tree)).imp ?_
    intro s t hne x hxs hxt
    exact hne ((hspot source s x hxs).2.symm.trans (hspot source t x hxt).2)
  · refine (List.nodup_iff_pairwise_ne.mp hindex.nodup_files).imp ?_
    intro source other hne x hx hx'
    obtain ⟨s, -, hxs⟩ := List.mem_flatMap.mp hx
    obtain ⟨t, -, hxt⟩ := List.mem_flatMap.mp hx'
    exact hne ((hspot source s x hxs).1.symm.trans (hspot other t x hxt).1)

/-! ## Sites are the mentions recorded -/

theorem forall₂_flatMap {α β γ : Type} {R : β → γ → Prop} {items : List α} {f : α → List β}
    {g : α → List γ} (hitems : ∀ a ∈ items, List.Forall₂ R (f a) (g a)) :
    List.Forall₂ R (items.flatMap f) (items.flatMap g) := by
  induction items with
  | nil => exact List.Forall₂.nil
  | cons a rest ih =>
      rw [List.flatMap_cons, List.flatMap_cons]
      exact List.rel_append (hitems a List.mem_cons_self)
        (ih fun b hb => hitems b (List.mem_cons_of_mem _ hb))

theorem Regular.records_sitesAt (hindex : index.Regular) {source : SourceModule}
    (hsource : source ∈ index.files) (s : Spot) :
    List.Forall₂ index.Records (index.mentionsAt source s)
      (index.resolver.sitesAt index.settings.handOffNames source s) := by
  unfold mentionsAt Resolver.meant Resolver.sitesAt
  cases href : referenceAt? s with
  | none => exact List.Forall₂.nil
  | some ref =>
      obtain ⟨hkind, hstart⟩ := kindOf_of_referenceAt? href
      have hsites : ∀ callees : List Routine, List.Forall₂ index.Records
          (callees.map (Mention.mk source s)) (callees.map fun callee =>
            { callee, caller := (enclosingFunctions s).head?.bind fun f => source.routineAt? f.path
              file := source.file, line := ref.span.line, column := ref.span.column, kind := ref.kind
              expression := ref.expression.source
              handedOff := index.settings.handOffNames.covers (some source.imports)
                ((enclosingFunctions s).head?.map Spot.path) s }) := by
        intro callees
        rw [List.forall₂_map_left_iff, List.forall₂_map_right_iff, List.forall₂_same]
        intro callee _
        exact ⟨rfl, rfl, hstart, hkind, (hindex.enclosingRoutine?_eq hsource s).symm, rfl⟩
      -- the caller is looked up only if there are callees, which makes no difference to the sites
      dsimp only
      cases index.resolver.targets ⟨source, enclosingFunctions s⟩ ref with
      | nil => exact List.Forall₂.nil
      | cons callee others => exact hsites (callee :: others)

/-- The sites of the index are its mentions, one after the other. -/
theorem Regular.records_sites (hindex : index.Regular) :
    List.Forall₂ index.Records index.mentions index.sites := by
  rw [hindex.sites]
  refine forall₂_flatMap fun source hsource => forall₂_flatMap fun s _ => ?_
  exact hindex.records_sitesAt hsource s

end Index

end CallChain
