import CallChain.Proofs.Index.Coverage
import CallChain.Proofs.Index.Receivers
import CallChain.Proofs.Nesting
import CallChain.Proofs.Resolver.Inheritance
import CallChain.Proofs.Spelling

/-!
# Types of attributes

The types of a class's attributes are recorded while one visits everything below its methods, level by
level, on behalf of the first parameter of the method.  Among the visits an annotation replaces what is
known and a construction counts only if nothing is known, so for each attribute one visit decides:
`get?_foldl_record_eq_some_iff`.

A visit goes by the name of the parameter alone.  It does not ask whether the method is static or
whether a method nested further down has a parameter of the same name, while the receivers at a place
come from the functions around it.  The two agree exactly for the visits that are made through a real
receiver, `Visit.IsReal`.

What is recorded is spelled in the source, and so it is not empty: a look-up that finds a type finds a
name, `Resolver.attributeType?_ne_empty`.
-/

namespace CallChain.Python.Spot

/-! ## Below a place -/

/-- Two levels with the same nodes have the same nodes below them. -/
theorem map_node_levels {level other : List Spot} (hsame : level.map node = other.map node) :
    (levels level).map node = (levels other).map node := by
  induction level using levels_induction generalizing other with
  | nil =>
      obtain rfl : other = [] := List.map_eq_nil_iff.mp hsame.symm
      rfl
  | next level hne ih =>
      have hne' : other ≠ [] := by
        rintro rfl
        exact hne (List.map_eq_nil_iff.mp hsame)
      have hbelow : ∀ spots : List Spot, (spots.flatMap children).map node =
          (spots.map node).flatMap fun n => n.children.map Prod.snd := by
        intro spots
        rw [List.map_flatMap, List.flatMap_map]
        simp only [map_node_children]
      have hnext : (level.flatMap children).map node = (other.flatMap children).map node := by
        rw [hbelow level, hbelow other, hsame]
      rw [levels_of_ne_nil hne, levels_of_ne_nil hne', List.map_append, List.map_append, hsame, ih hnext]

/-- Walking from a place, one comes to the nodes of the tree that begins there. -/
theorem map_node_walk (s : Spot) : (root s.node).walk.map node = s.walk.map node :=
  map_node_levels rfl

theorem mem_above_of_parent? {s p : Spot} (hparent : s.parent? = some p) : p ∈ s.above := by
  cases s with
  | root node => cases hparent
  | child parent role index node =>
      cases hparent
      exact List.mem_cons_self

theorem length_path_of_parent? {s p : Spot} (hparent : s.parent? = some p) :
    s.path.length = p.path.length + 1 := by
  cases s with
  | root node => cases hparent
  | child parent role index node =>
      cases hparent
      rfl

theorem below_of_mem_levels {level : List Spot} {t : Spot} (ht : t ∈ levels level) :
    ∃ s ∈ level, s ∈ t :: t.above := by
  induction level using levels_induction with
  | nil => simp [levels_nil] at ht
  | next level hne ih =>
      rw [levels_of_ne_nil hne, List.mem_append] at ht
      rcases ht with hhere | hbelow
      · exact ⟨t, hhere, List.mem_cons_self⟩
      · obtain ⟨c, hc, hct⟩ := ih hbelow
        obtain ⟨s, hs, hcs⟩ := List.mem_flatMap.mp hc
        refine ⟨s, hs, ?_⟩
        obtain ⟨role, index, node, rfl, -⟩ := mem_children.mp hcs
        rcases List.mem_cons.mp hct with rfl | habove
        · exact List.mem_cons_of_mem _ List.mem_cons_self
        · exact List.mem_cons_of_mem _ (above_trans habove List.mem_cons_self)

/-- Walking from a place of a tree, one comes to it and to the places below it. -/
theorem IsIn.mem_walk_iff {tree : Node} {s t : Spot} (hs : s.IsIn tree) :
    t ∈ s.walk ↔ t.IsIn tree ∧ s ∈ t :: t.above := by
  constructor
  · intro ht
    obtain ⟨u, hu, hbelow⟩ := below_of_mem_levels ht
    cases List.mem_singleton.mp hu
    refine ⟨IsIn.of_mem_levels (fun u hu => ?_) t ht, hbelow⟩
    cases List.mem_singleton.mp hu
    exact hs
  · intro hplace
    obtain ⟨ht, hbelow⟩ := hplace
    induction t with
    | root node =>
        obtain rfl : s = root node := by simpa [above] using hbelow
        exact subset_levels _ (List.mem_singleton_self _)
    | child parent role index node ih =>
        rcases List.mem_cons.mp hbelow with rfl | habove
        · exact subset_levels _ (List.mem_singleton_self _)
        · exact children_mem_levels (ih ht.1 habove) (mem_children.mpr ⟨role, index, node, rfl, ht.2⟩)

end CallChain.Python.Spot

namespace CallChain

open Python

/-! ## What a statement says about an attribute -/

/-- The type that an annotated assignment declares for an attribute of the receiver. -/
def declaredType? (receiver attr : String) : Node → Option String
  | .annAssign target hint _ =>
    if attributeOf? receiver target = some attr then hint.annotated? else none
  | _ => none

/-- The type that is constructed and assigned to an attribute of the receiver. -/
def constructedType? (receiver attr : String) : Node → Option String
  | .assign targets (.call _ callee _ _) =>
    if attr ∈ targets.filterMap (attributeOf? receiver) then callee.dotted? else none
  | _ => none

theorem get?_foldl_putNew (attrs : List String) (type attr : String) (types : List (String × String)) :
    Assoc.get? attr (attrs.foldl (fun t a => Assoc.putNew a type t) types) =
      (Assoc.get? attr types).or (if attr ∈ attrs then some type else none) := by
  induction attrs generalizing types with
  | nil => simp
  | cons a rest ih =>
      rw [List.foldl_cons, ih, Assoc.get?_putNew, Option.or_assoc]
      by_cases hsame : a = attr
      · simp [hsame]
      · simp [hsame, Ne.symm hsame]

/-- An annotation replaces what is known, and a construction counts only if nothing is known. -/
theorem get?_recordAttribute (receiver attr : String) (types : List (String × String)) (node : Node) :
    Assoc.get? attr (recordAttribute receiver types node) =
      (declaredType? receiver attr node).or
        ((Assoc.get? attr types).or (constructedType? receiver attr node)) := by
  unfold recordAttribute
  split
  · rename_i target hint value
    simp only [declaredType?, constructedType?, Option.or_none]
    cases htype : hint.annotated? with
    | none => simp
    | some type =>
        cases hname : attributeOf? receiver target with
        | none => simp
        | some name =>
            rw [Assoc.get?_put]
            by_cases hsame : name = attr
            · simp [hsame]
            · simp [hsame]
  · rename_i targets span callee args keywords
    simp only [declaredType?, constructedType?, Option.none_or]
    cases htype : callee.dotted? with
    | none => simp
    | some type => rw [get?_foldl_putNew]
  · rename_i hdeclares hconstructs
    have hdeclared : declaredType? receiver attr node = none := by
      unfold declaredType?
      split
      · exact absurd rfl (hdeclares _ _ _)
      · rfl
    have hconstructed : constructedType? receiver attr node = none := by
      unfold constructedType?
      split
      · exact absurd rfl (hconstructs _ _ _ _ _)
      · rfl
    rw [hdeclared, hconstructed, Option.none_or, Option.or_none]

theorem nodup_keys_recordAttribute {receiver : String} {types : List (String × String)} {node : Node}
    (htypes : (types.map Prod.fst).Nodup) :
    ((recordAttribute receiver types node).map Prod.fst).Nodup := by
  unfold recordAttribute
  split
  · split
    · exact Assoc.nodup_keys_put htypes
    · exact htypes
  · rename_i targets span callee args keywords
    split
    · rename_i type htype
      induction targets.filterMap (attributeOf? receiver) generalizing types with
      | nil => exact htypes
      | cons attr rest ih => exact ih (Assoc.nodup_keys_putNew htypes)
    · exact htypes
  · exact htypes

/-! ## Visits -/

/-- A look at a place below a method, on behalf of the method's receiver. -/
structure Visit where
  method : Spot
  receiver : String
  place : Spot

namespace Visit

/-- The type that is declared at a visited place for an attribute. -/
def declares? (attr : String) (v : Visit) : Option String := declaredType? v.receiver attr v.place.node

/-- The type that is constructed at a visited place for an attribute. -/
def constructs? (attr : String) (v : Visit) : Option String :=
  constructedType? v.receiver attr v.place.node

/-- Records what is said at a visited place. -/
def record (types : List (String × String)) (v : Visit) : List (String × String) :=
  recordAttribute v.receiver types v.place.node

/-- The last declaration counts.  If there is none, what was known counts, and then the first
construction. -/
theorem get?_foldl_record (visits : List Visit) (types : List (String × String)) (attr : String) :
    Assoc.get? attr (visits.foldl record types) =
      (visits.reverse.findSome? (declares? attr)).or
        ((Assoc.get? attr types).or (visits.findSome? (constructs? attr))) := by
  induction visits generalizing types with
  | nil => simp
  | cons v rest ih =>
      have hrecord : Assoc.get? attr (record types v) =
          (declares? attr v).or ((Assoc.get? attr types).or (constructs? attr v)) :=
        get?_recordAttribute ..
      have hfirst : (v :: rest).findSome? (constructs? attr) =
          (constructs? attr v).or (rest.findSome? (constructs? attr)) := by
        rw [List.findSome?_cons]
        cases constructs? attr v <;> rfl
      have hlast : (v :: rest).reverse.findSome? (declares? attr) =
          (rest.reverse.findSome? (declares? attr)).or (declares? attr v) := by
        rw [List.reverse_cons, List.findSome?_append, List.findSome?_singleton]
      rw [List.foldl_cons, ih, hrecord, hfirst, hlast]
      simp only [Option.or_assoc]

theorem nodup_keys_foldl_record (visits : List Visit) {types : List (String × String)}
    (htypes : (types.map Prod.fst).Nodup) : ((visits.foldl record types).map Prod.fst).Nodup := by
  induction visits generalizing types with
  | nil => exact htypes
  | cons v rest ih => exact ih (nodup_keys_recordAttribute htypes)

/-- The visit that decides on the type of an attribute: the last that declares one, or the first that
constructs one if none is declared. -/
inductive Decides (attr type : String) (visits : List Visit) (v : Visit) : Prop
  | declared (before after : List Visit) (hvisits : visits = before ++ v :: after)
      (hnamed : v.declares? attr = some type) (hlast : ∀ w ∈ after, w.declares? attr = none)
  | constructed (before after : List Visit) (hvisits : visits = before ++ v :: after)
      (hnamed : v.constructs? attr = some type) (hfirst : ∀ w ∈ before, w.constructs? attr = none)
      (hundeclared : ∀ w ∈ visits, w.declares? attr = none)

theorem Decides.mem {attr type : String} {visits : List Visit} {v : Visit}
    (hdecides : Decides attr type visits v) : v ∈ visits := by
  cases hdecides with
  | declared before after hvisits => simp [hvisits]
  | constructed before after hvisits => simp [hvisits]

theorem get?_foldl_record_eq_some_iff {visits : List Visit} {attr type : String} :
    Assoc.get? attr (visits.foldl record []) = some type ↔ ∃ v, Decides attr type visits v := by
  rw [get?_foldl_record, Assoc.get?, Option.none_or, Option.or_eq_some_iff]
  have hnone : visits.reverse.findSome? (declares? attr) = none ↔
      ∀ w ∈ visits, w.declares? attr = none := by
    simp
  rw [hnone, List.findSome?_eq_some_iff, List.findSome?_eq_some_iff]
  constructor
  · intro hfound
    rcases hfound with ⟨after, v, before, hreverse, hnamed, hlast⟩ |
      ⟨hundeclared, before, v, after, hvisits, hnamed, hfirst⟩
    · refine ⟨v, .declared before.reverse after.reverse ?_ hnamed ?_⟩
      · rw [← List.reverse_reverse visits, hreverse]
        simp
      · exact fun w hw => hlast w (List.mem_reverse.mp hw)
    · exact ⟨v, .constructed before after hvisits hnamed hfirst hundeclared⟩
  · intro hdecided
    obtain ⟨v, hdecides⟩ := hdecided
    cases hdecides with
    | declared before after hvisits hnamed hlast =>
        refine .inl ⟨after.reverse, v, before.reverse, ?_, hnamed, ?_⟩
        · simp [hvisits]
        · exact fun w hw => hlast w (List.mem_reverse.mp hw)
    | constructed before after hvisits hnamed hfirst hundeclared =>
        exact .inr ⟨hundeclared, before, v, after, hvisits, hnamed, hfirst⟩

end Visit

/-! ## The visits on behalf of a class -/

/-- The functions of a tree that are recorded as methods of the class at a path, in document order. -/
def methodSpots (tree : Node) (path : List Nat) : List Spot :=
  (functionSpots tree).filter fun s => isClassAt path (scopesAt s).head?

/-- The visits below a method, level by level. -/
def visitsBelow (method : Spot) : List Visit :=
  match method.node.firstParameter? with
  | some receiver => method.walk.map fun s => ⟨method, receiver, s⟩
  | none => []

/-- The visits below the methods of the class at a path. -/
def classVisits (tree : Node) (path : List Nat) : List Visit :=
  (methodSpots tree path).flatMap visitsBelow

theorem recordMethod_eq (types : List (String × String)) (method : Spot) :
    recordMethod types method.node = (visitsBelow method).foldl Visit.record types := by
  unfold recordMethod visitsBelow
  cases method.node.firstParameter? with
  | none => rfl
  | some receiver =>
      simp only [Spot.map_node_walk, List.foldl_map]
      rfl

theorem map_node_filter_functionDeclarations (name : ModuleName) (tree : Node) (path : List Nat) :
    ((SourceModule.ofTree name tree).functionDeclarations.filter fun f =>
        isClassAt path f.scope).map FunctionDeclaration.node =
      (methodSpots tree path).map Spot.node := by
  rw [functionDeclarations_eq, List.filter_filterMap, List.map_filterMap, methodSpots,
    ← List.filterMap_eq_map, List.filterMap_filter]
  refine List.filterMap_congr fun s hs => ?_
  obtain ⟨f, hf⟩ := exists_declaredFunction? name hs
  obtain ⟨-, hscope, hnode⟩ := path_of_declaredFunction? hf
  rw [hf, Option.filter_some, hscope]
  split
  · exact congrArg some hnode
  · rfl

/-- The types of a class's attributes are recorded visit by visit. -/
theorem attributeTypes_eq {name : ModuleName} {tree : Node} {c : ClassEntry}
    (hc : c ∈ (SourceModule.ofTree name tree).classEntries) :
    c.attributeTypes = (classVisits tree c.path).foldl Visit.record [] := by
  obtain ⟨s, -, declared, -, rfl⟩ := SourceModule.mem_classEntries_iff.mp hc
  change (((SourceModule.ofTree name tree).functionDeclarations.filter fun f =>
    isClassAt declared.path f.scope).map FunctionDeclaration.node).foldl recordMethod [] = _
  rw [map_node_filter_functionDeclarations, List.foldl_map, classVisits, List.foldl_flatMap]
  simp only [recordMethod_eq]
  rfl

theorem mem_methodSpots_iff {name : ModuleName} {tree : Node} {c : ClassEntry}
    (hc : c ∈ (SourceModule.ofTree name tree).classEntries) {s : Spot} :
    s ∈ methodSpots tree c.path ↔
      s.IsIn tree ∧ (SourceModule.ofTree name tree).RecordsMethod c s := by
  rw [methodSpots, List.mem_filter]
  constructor
  · intro hfiltered
    obtain ⟨hs, hclass⟩ := hfiltered
    obtain ⟨f, hf⟩ := exists_declaredFunction? name hs
    obtain ⟨hpath, hscope, -⟩ := path_of_declaredFunction? hf
    refine ⟨(mem_functionSpots_iff.mp hs).1, hc, f, ?_, hpath, hscope ▸ hclass⟩
    rw [functionDeclarations_eq]
    exact List.mem_filterMap.mpr ⟨s, hs, hf⟩
  · intro hrecorded
    obtain ⟨hs, -, f, hf, hpath, hclass⟩ := hrecorded
    rw [functionDeclarations_eq] at hf
    obtain ⟨t, ht, hdeclared⟩ := List.mem_filterMap.mp hf
    obtain ⟨hplace, hscope, -⟩ := path_of_declaredFunction? hdeclared
    obtain rfl : t = s := (mem_functionSpots_iff.mp ht).1.eq_of_path_eq hs (hplace.symm.trans hpath)
    exact ⟨ht, hscope ▸ hclass⟩

theorem mem_visitsBelow_iff {method : Spot} {v : Visit} :
    v ∈ visitsBelow method ↔ v.method = method ∧ method.node.firstParameter? = some v.receiver ∧
      v.place ∈ method.walk := by
  unfold visitsBelow
  cases method.node.firstParameter? with
  | none => simp
  | some receiver =>
      rw [List.mem_map]
      constructor
      · rintro ⟨s, hs, rfl⟩
        exact ⟨rfl, rfl, hs⟩
      · rintro ⟨rfl, hreceiver, hplace⟩
        cases hreceiver
        exact ⟨v.place, hplace, rfl⟩

/-- The visit is to a place below a method of the class, on behalf of the first parameter. -/
structure SourceModule.Visits (m : SourceModule) (c : ClassEntry) (v : Visit) : Prop where
  inTree : v.place.IsIn m.tree
  below : v.method ∈ v.place :: v.place.above
  recorded : m.RecordsMethod c v.method
  parameter : v.method.node.firstParameter? = some v.receiver

theorem mem_classVisits_iff {name : ModuleName} {tree : Node} {c : ClassEntry}
    (hc : c ∈ (SourceModule.ofTree name tree).classEntries) {v : Visit} :
    v ∈ classVisits tree c.path ↔ (SourceModule.ofTree name tree).Visits c v := by
  rw [classVisits, List.mem_flatMap]
  constructor
  · intro hvisited
    obtain ⟨method, hmethod, hv⟩ := hvisited
    obtain ⟨rfl, hparameter, hplace⟩ := mem_visitsBelow_iff.mp hv
    obtain ⟨hin, hrecorded⟩ := (mem_methodSpots_iff hc).mp hmethod
    obtain ⟨hplaceIn, hbelow⟩ := hin.mem_walk_iff.mp hplace
    exact ⟨hplaceIn, hbelow, hrecorded, hparameter⟩
  · intro hv
    have hin : v.method.IsIn tree := hv.inTree.of_mem_cons_above hv.below
    refine ⟨v.method, (mem_methodSpots_iff hc).mpr ⟨hin, hv.recorded⟩, ?_⟩
    exact mem_visitsBelow_iff.mpr ⟨rfl, hv.parameter, hin.mem_walk_iff.mpr ⟨hv.inTree, hv.below⟩⟩

/-! ## No type is empty -/

namespace Visit

variable {v : Visit} {accepts : String → Prop} {attr type : String}

theorem declares?_ne_empty (hformed : v.place.node.Formed accepts)
    (hnamed : v.declares? attr = some type) : type ≠ "" := by
  unfold declares? declaredType? at hnamed
  split at hnamed
  · rename_i target hint value hnode
    rw [hnode] at hformed
    split at hnamed
    · have hhint : (.part, hint) ∈ (Node.annAssign target hint value).children := by
        simp [Node.children]
      exact (hformed.child hhint).annotated?_ne_empty hnamed
    · cases hnamed
  · cases hnamed

theorem constructs?_ne_empty (hformed : v.place.node.Formed accepts)
    (hnamed : v.constructs? attr = some type) : type ≠ "" := by
  unfold constructs? constructedType? at hnamed
  split at hnamed
  · rename_i targets span callee args keywords hnode
    rw [hnode] at hformed
    split at hnamed
    · have hcall : (.part, .call span callee args keywords) ∈
          (Node.assign targets (.call span callee args keywords)).children := by
        simp [Node.children]
      have hcallee : (.callee, callee) ∈ (Node.call span callee args keywords).children := by
        simp [Node.children]
      exact ((hformed.child hcall).child hcallee).dotted?_ne_empty hnamed
    · cases hnamed
  · cases hnamed

theorem Decides.ne_empty {visits : List Visit} (hdecides : Decides attr type visits v)
    (hformed : v.place.node.Formed accepts) : type ≠ "" := by
  cases hdecides with
  | declared _ _ _ hnamed _ => exact declares?_ne_empty hformed hnamed
  | constructed _ _ _ hnamed _ _ => exact constructs?_ne_empty hformed hnamed

end Visit

/-- The recorded types of a parsed file are names. -/
theorem SourceModule.IsParsed.attributeType_ne_empty {m : SourceModule} (hm : m.IsParsed)
    {c : ClassEntry} (hc : c ∈ m.classEntries) {attr type : String}
    (hget : Assoc.get? attr c.attributeTypes = some type) : type ≠ "" := by
  obtain ⟨name, text, tree, htree, rfl⟩ := hm
  obtain ⟨-, tokens, -, hformed⟩ := exists_formed_of_parse? htree
  rw [attributeTypes_eq hc, Visit.get?_foldl_record_eq_some_iff] at hget
  obtain ⟨v, hdecides⟩ := hget
  have hvisit := (mem_classVisits_iff hc).mp hdecides.mem
  exact hdecides.ne_empty (hformed.of_isIn hvisit.inTree)

/-- What a look-up through the bases finds as the type of an attribute is a name. -/
theorem Resolver.attributeType?_ne_empty {r : Resolver} (hr : r.Regular) {c : ClassEntry}
    (hc : r.Knows c) {attr type : String} (hfound : r.attributeType? c attr = some type) :
    type ≠ "" := by
  obtain ⟨order, horder, hsearch⟩ := exists_order hr.distinct_classes hc
  rw [attributeType?, hsearch _ _ (Nat.le_refl _)] at hfound
  obtain ⟨d, hd, hget⟩ := List.exists_of_findSome?_eq_some hfound
  obtain ⟨m, hm, hentry⟩ := horder.knows (by simpa using hc) d hd
  exact (hr.parsed m hm).attributeType_ne_empty hentry hget

/-! ## Real receivers -/

/-- The function stands right in a class, is not static, and its first parameter has the name. -/
structure TakesReceiver (function : Spot) (receiver : String) : Prop where
  direct : StandsInClass function
  dynamic : function.node.isStatic = false
  parameter : function.node.firstParameter? = some receiver

/-- The visit is made through a real receiver: it goes to the body of a method that takes the receiver,
and no function nested in between takes the name for itself. -/
structure Visit.IsReal (v : Visit) : Prop where
  takes : TakesReceiver v.method v.receiver
  body : InBody v.method v.place
  nearest : ∀ g ∈ enclosingFunctions v.place, v.method ∈ g.above → ¬ TakesReceiver g v.receiver

/-- The functions around a place are above each other. -/
theorem pairwise_enclosingFunctions (s : Spot) :
    (enclosingFunctions s).Pairwise fun inner outer => outer ∈ inner.above := by
  induction s with
  | root node => exact List.Pairwise.nil
  | child parent role index node ih =>
      rw [enclosingFunctions]
      split
      · exact List.pairwise_cons.mpr ⟨fun g hg => (above_of_mem_enclosingFunctions hg).1, ih⟩
      · exact ih

namespace Surroundings

variable {name : ModuleName} {tree : Node} {c : ClassEntry}

theorem standsInClass_of_ownerOf? {here : Surroundings} {function : Spot}
    (howner : here.ownerOf? function = some c) : StandsInClass function := by
  by_contra hindirect
  rw [ownerOf?_eq_none hindirect] at howner
  cases howner

theorem exists_ownerOf?_iff (functions : List Spot) {function : Spot} (hin : function.IsIn tree) :
    (∃ d, ownerOf? ⟨SourceModule.ofTree name tree, functions⟩ function = some d) ↔
      StandsInClass function := by
  constructor
  · intro howned
    obtain ⟨d, howner⟩ := howned
    exact standsInClass_of_ownerOf? howner
  · intro hdirect
    obtain ⟨owner, hparent, hclass⟩ := hdirect
    have hownerIn : owner.IsIn tree := hin.of_mem_above (Spot.mem_above_of_parent? hparent)
    obtain ⟨declared, hat, -⟩ := SourceModule.exists_classAt? name hownerIn hclass
    simp only [ownerOf?, hparent, hclass, if_true]
    exact ⟨_, hat⟩

/-- The class that a function binds a name to, if the name is its receiver. -/
def boundBy? (here : Surroundings) (receiver : String) (function : Spot) : Option ClassEntry :=
  match here.ownerOf? function, function.node.isStatic, function.node.firstParameter? with
  | some owner, false, some parameter => if parameter == receiver then some owner else none
  | _, _, _ => none

theorem receiverClass?_eq (here : Surroundings) (receiver : String) :
    here.receiverClass? receiver = here.functions.findSome? (here.boundBy? receiver) := by
  unfold receiverClass? receivers
  induction here.functions with
  | nil => rfl
  | cons function rest ih =>
      rw [List.filterMap_cons, List.findSome?_cons, ← ih, boundBy?]
      cases here.ownerOf? function with
      | none => rfl
      | some owner =>
          cases function.node.isStatic with
          | true => rfl
          | false =>
              cases function.node.firstParameter? with
              | none => rfl
              | some parameter =>
                  by_cases hsame : (parameter == receiver) = true
                  · simp only [Assoc.get?, hsame, if_true]
                  · simp only [Assoc.get?, hsame]
                    rfl

theorem boundBy?_eq_some_iff {here : Surroundings} {receiver : String} {function : Spot} :
    here.boundBy? receiver function = some c ↔
      here.ownerOf? function = some c ∧ TakesReceiver function receiver := by
  unfold boundBy?
  constructor
  · intro hbound
    split at hbound
    · rename_i owner parameter howner hstatic hparameter
      split at hbound
      · rename_i hsame
        cases hbound
        exact ⟨howner, standsInClass_of_ownerOf? howner, hstatic,
          hparameter.trans (congrArg some (eq_of_beq hsame))⟩
      · cases hbound
    · cases hbound
  · intro htaken
    obtain ⟨howner, htakes⟩ := htaken
    simp only [howner, htakes.dynamic, htakes.parameter, BEq.rfl, if_true]

/-- A function of a tree binds its receiver. -/
theorem boundBy?_eq_none_iff {functions : List Spot} {receiver : String} {function : Spot}
    (hin : function.IsIn tree) :
    boundBy? ⟨SourceModule.ofTree name tree, functions⟩ receiver function = none ↔
      ¬ TakesReceiver function receiver := by
  constructor
  · intro hnone htakes
    obtain ⟨d, howner⟩ := (exists_ownerOf?_iff functions hin).mpr htakes.direct
    cases hnone.symm.trans (boundBy?_eq_some_iff.mpr ⟨howner, htakes⟩)
  · intro hother
    rw [Option.eq_none_iff_forall_ne_some]
    intro d hbound
    exact hother (boundBy?_eq_some_iff.mp hbound).2

/-- Of the functions on the way up from a place only the method itself is one of its class, right
below the class.  Those further up are above the class, and those further down below the method. -/
theorem eq_of_ownerOf? {function g s : Spot}
    (hmethod : (SourceModule.ofTree name tree).RecordsMethod c function) (hs : s.IsIn tree)
    (hfunction : function ∈ s :: s.above) (hg : g ∈ s :: s.above) (hkind : g.isFunction = true)
    {here : Surroundings} (howner : here.ownerOf? g = some c) : g = function := by
  obtain ⟨owner, hparent, hpath⟩ := path_of_ownerOf? howner
  obtain ⟨scope, hscope, -, hscopePath⟩ := hmethod.scope (hs.of_mem_cons_above hfunction)
  obtain ⟨t, ht, hopens, hnearest⟩ := exists_of_scopesAt_head? hscope
  have htlength : t.path.length = owner.path.length := by
    rw [← hpath, ← hscopePath, (path_of_scopeOf? hopens).1]
  have hglength := Spot.length_path_of_parent? hparent
  have hflength := Spot.length_path_of_mem_above ht
  rcases Spot.above_trichotomy hg hfunction with rfl | hup | hdown
  · rfl
  · obtain ⟨opened, hopened⟩ := exists_scopeOf?_of_isFunction hkind
    rcases hnearest g hup (by rw [hopened]; rfl) with rfl | hless
    · omega
    · have := Spot.length_path_of_mem_above hless
      omega
  · have := Spot.length_path_of_mem_above hdown
    omega

/-- At a visited place the receiver stands for the class exactly if the visit is made through a real
receiver. -/
theorem receiverClass?_eq_some_iff {v : Visit} (hv : (SourceModule.ofTree name tree).Visits c v) :
    receiverClass? ⟨SourceModule.ofTree name tree, enclosingFunctions v.place⟩ v.receiver = some c ↔
      v.IsReal := by
  have hin : ∀ g ∈ enclosingFunctions v.place, g.IsIn tree :=
    fun g hg => (mem_enclosingFunctions.mp hg).isIn hv.inTree
  have hpairs := pairwise_enclosingFunctions v.place
  rw [receiverClass?_eq, List.findSome?_eq_some_iff]
  constructor
  · intro hfirst
    obtain ⟨inner, g, outer, hsplit, hbound, hinner⟩ := hfirst
    have hfunctions : enclosingFunctions v.place = inner ++ g :: outer := hsplit
    obtain ⟨howner, htakes⟩ := boundBy?_eq_some_iff.mp hbound
    have hg : g ∈ enclosingFunctions v.place := by simp [hfunctions]
    obtain ⟨habove, hkind⟩ := above_of_mem_enclosingFunctions hg
    obtain rfl : g = v.method :=
      eq_of_ownerOf? hv.recorded hv.inTree hv.below (List.mem_cons_of_mem _ habove) hkind howner
    refine ⟨htakes, mem_enclosingFunctions.mp hg, fun h hh hdown => ?_⟩
    rw [hfunctions, List.pairwise_append, List.pairwise_cons] at hpairs
    rw [hfunctions] at hh
    -- whoever is below the method comes before it among the functions around the place
    rcases List.mem_append.mp hh with hnear | hfar
    · exact (boundBy?_eq_none_iff (hin h (by simp [hfunctions, hnear]))).mp (hinner h hnear)
    have hlower := Spot.length_path_of_mem_above hdown
    rcases List.mem_cons.mp hfar with rfl | houter
    · exact absurd hlower (Nat.lt_irrefl _)
    · have hupper := Spot.length_path_of_mem_above (hpairs.2.1.1 h houter)
      omega
  · intro hreal
    obtain ⟨htakes, hbody, hnearest⟩ := hreal
    obtain ⟨inner, outer, hsplit⟩ := List.append_of_mem (mem_enclosingFunctions.mpr hbody)
    have howner : ownerOf? ⟨SourceModule.ofTree name tree, enclosingFunctions v.place⟩ v.method =
        some c :=
      ownerOf?_eq_some hv.recorded (hv.inTree.of_mem_cons_above hv.below) htakes.direct
    refine ⟨inner, v.method, outer, hsplit, boundBy?_eq_some_iff.mpr ⟨howner, htakes⟩, fun g hg => ?_⟩
    have hmem : g ∈ enclosingFunctions v.place := by simp [hsplit, hg]
    rw [hsplit, List.pairwise_append] at hpairs
    exact (boundBy?_eq_none_iff (hin g hmem)).mpr
      (hnearest g hmem (hpairs.2.2 g hg v.method List.mem_cons_self))

end Surroundings

namespace SourceModule

/-- For every file and every class of it: the type of an attribute comes from one assignment below the
methods of the class, the last that declares a type or, if none does, the first that constructs one.
All places below the methods are visited, on behalf of the first parameters.  At a visited place the
name of the parameter stands for the class exactly if the method is not static and stands right in the
class, the place is in its body, and no method in between takes the name for itself. -/
theorem attribute_types_stem_from_assignments (name : ModuleName) (tree : Node) {c : ClassEntry}
    (hc : c ∈ (ofTree name tree).classEntries) :
    let m := ofTree name tree
    let visits := classVisits tree c.path
    (c.attributeTypes.map Prod.fst).Nodup ∧
      (∀ attr type, (attr, type) ∈ c.attributeTypes ↔ ∃ v, Visit.Decides attr type visits v) ∧
      (∀ v, v ∈ visits ↔ m.Visits c v) ∧
      ∀ v ∈ visits,
        Surroundings.receiverClass? ⟨m, enclosingFunctions v.place⟩ v.receiver = some c ↔
          v.IsReal := by
  intro m visits
  have hnodup : (c.attributeTypes.map Prod.fst).Nodup := by
    rw [attributeTypes_eq hc]
    exact Visit.nodup_keys_foldl_record visits List.nodup_nil
  refine ⟨hnodup, fun attr type => ?_, fun v => mem_classVisits_iff hc, fun v hv => ?_⟩
  · have hmem : (attr, type) ∈ c.attributeTypes ↔ Assoc.get? attr c.attributeTypes = some type :=
      ⟨Assoc.get?_of_mem hnodup, Assoc.mem_of_get?⟩
    rw [hmem, attributeTypes_eq hc, Visit.get?_foldl_record_eq_some_iff]
  · exact Surroundings.receiverClass?_eq_some_iff ((mem_classVisits_iff hc).mp hv)

end SourceModule

namespace Index

/-- A class that constructs an attribute in a method. -/
def constructedAttribute : List (String × String) :=
  [("m.py", "class K: pass\nclass C:\n    def f(self):\n        self.a = K()\n")]

theorem attribute_types_stem_from_assignments_of_construction :
    ∃ m ∈ (ofSources {} none constructedAttribute).files, ∃ c ∈ m.classEntries,
      ("a", "K") ∈ c.attributeTypes ∧
      ∃ v, Visit.Decides "a" "K" (classVisits m.tree c.path) v ∧
        Surroundings.receiverClass? ⟨m, enclosingFunctions v.place⟩ v.receiver = some c := by
  have hfacts : ∃ m ∈ (ofSources {} none constructedAttribute).files, ∃ c ∈ m.classEntries,
      ("a", "K") ∈ c.attributeTypes ∧
      ∀ v ∈ classVisits m.tree c.path, v.declares? "a" = none ∧
        ((v.constructs? "a").isSome = true →
          (enclosingFunctions v.place).map Spot.path = [v.method.path] ∧
          (v.method.parent?.any fun owner => owner.node.isClass) = true ∧
          v.method.node.isStatic = false) := by
    decide +kernel
  obtain ⟨m, hm, c, hc, hentry, hvisits⟩ := hfacts
  obtain ⟨name, text, tree, -, rfl⟩ :=
    (@regular_ofSources {} none constructedAttribute (by decide)).resolver.parsed m hm
  obtain ⟨-, hstems, hmem, hreal⟩ := SourceModule.attribute_types_stem_from_assignments name tree hc
  obtain ⟨v, hdecides⟩ := (hstems "a" "K").mp hentry
  have hv := hdecides.mem
  have hvisit := (hmem v).mp hv
  obtain ⟨hundeclared, hmethod⟩ := hvisits v hv
  have hconstructs : (v.constructs? "a").isSome = true := by
    cases hdecides with
    | declared _ _ _ hnamed => cases hundeclared.symm.trans hnamed
    | constructed _ _ _ hnamed => rw [hnamed]; rfl
  obtain ⟨hpaths, hclass, hstatic⟩ := hmethod hconstructs
  -- the only function around the place has the path of the method, so it is the method
  have hfunctions : enclosingFunctions v.place = [v.method] := by
    obtain ⟨g, hg, hpath⟩ := List.map_eq_singleton_iff.mp hpaths
    have hbody : InBody g v.place := mem_enclosingFunctions.mp (hg ▸ List.mem_singleton_self g)
    rw [hg, (hbody.isIn hvisit.inTree).eq_of_path_eq (hvisit.inTree.of_mem_cons_above hvisit.below) hpath]
  refine ⟨_, hm, c, hc, hentry, v, hdecides, (hreal v hv).mpr ⟨⟨?_, hstatic, hvisit.parameter⟩, ?_, ?_⟩⟩
  · rwa [Option.any_eq_true] at hclass
  · exact mem_enclosingFunctions.mp (hfunctions ▸ List.mem_singleton_self _)
  · intro g hg hdown
    rw [hfunctions, List.mem_singleton] at hg
    exact absurd (hg ▸ hdown) (Spot.not_mem_above_self _)

/-- A class whose only method is static and assigns to an attribute of its parameter. -/
def staticAssignment : List (String × String) :=
  [("m.py", "class K:\n    def go(self): return 1\nclass C:\n    @staticmethod\n" ++
    "    def make(x):\n        x.a = K()\n")]

/-- The class is given a type for the attribute, although no name stands for the class at any place of
the file. -/
theorem static_assignment_types_attribute :
    ∃ m ∈ (ofSources {} none staticAssignment).files, ∃ c ∈ m.classEntries,
      ("a", "K") ∈ c.attributeTypes ∧
      ∀ s : Spot, s.IsIn m.tree → ∀ receiver,
        Surroundings.receiverClass? ⟨m, enclosingFunctions s⟩ receiver ≠ some c := by
  have hfacts : ∃ m ∈ (ofSources {} none staticAssignment).files, ∃ c ∈ m.classEntries,
      ("a", "K") ∈ c.attributeTypes ∧
      ∀ s ∈ (Spot.root m.tree).walk, ∀ bound ∈ Surroundings.receivers ⟨m, enclosingFunctions s⟩,
        bound.2.path ≠ c.path := by
    decide +kernel
  obtain ⟨m, hm, c, hc, hentry, hnowhere⟩ := hfacts
  refine ⟨m, hm, c, hc, hentry, fun s hs receiver hbound => ?_⟩
  exact hnowhere s (Spot.mem_walk_iff.mpr hs) _ (Assoc.mem_of_get? hbound) rfl

end Index

end CallChain
