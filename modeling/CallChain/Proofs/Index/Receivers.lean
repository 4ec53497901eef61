import CallChain.Proofs.Index.Mentions
import CallChain.Proofs.Scopes

/-!
# The receivers of methods

A method is recorded by the class that is the innermost scope around it, however many statements
stand between the two.  Inside the method, its first parameter should stand for an object of that
class, and `super()` for the bases of it.  But the class of a method is looked up right above it: so
the first parameter is bound to the class, and `super()` goes to its bases, exactly if the method
stands right in the class.  A method below an `if` or a `try` of the class is passed over like a
plain function, and its first parameter means what it means for the functions further out.  It never
means the class itself by way of them: the class of a function further out stands above that function
and so above the class of the method.
-/

namespace CallChain

open Python

/-! ## Functions around a place -/

theorem above_of_mem_enclosingFunctions {function s : Spot} (hmem : function ∈ enclosingFunctions s) :
    function ∈ s.above ∧ function.isFunction = true := by
  induction s with
  | root node => cases hmem
  | child parent role index node ih =>
      rw [enclosingFunctions] at hmem
      split at hmem
      · rename_i hbody
        rw [Bool.and_eq_true] at hbody
        rcases List.mem_cons.mp hmem with rfl | houter
        · exact ⟨List.mem_cons_self, hbody.2⟩
        · exact (ih houter).imp_left (List.mem_cons_of_mem _)
      · exact (ih hmem).imp_left (List.mem_cons_of_mem _)

/-- The functions around a place behind the nearest are those around the nearest. -/
theorem enclosingFunctions_eq_cons {function s : Spot}
    (hnearest : (enclosingFunctions s).head? = some function) :
    enclosingFunctions s = function :: enclosingFunctions function := by
  induction s with
  | root node => cases hnearest
  | child parent role index node ih =>
      rw [enclosingFunctions] at hnearest ⊢
      split
      · rename_i hbody
        rw [if_pos hbody] at hnearest
        cases hnearest
        rfl
      · rename_i hbody
        rw [if_neg hbody] at hnearest
        exact ih hnearest

/-! ## Methods and their classes -/

/-- The file records the function at a place as a method of a class. -/
structure SourceModule.RecordsMethod (m : SourceModule) (c : ClassEntry) (function : Spot) : Prop where
  known : c ∈ m.classEntries
  declared : ∃ f ∈ m.functionDeclarations, f.path = function.path ∧ isClassAt c.path f.scope = true

/-- The place is right below a class. -/
def StandsInClass (s : Spot) : Prop := ∃ owner, s.parent? = some owner ∧ owner.node.isClass = true

namespace SourceModule

variable {name : ModuleName} {tree : Node} {c : ClassEntry} {function : Spot}

/-- The class of a recorded method is the innermost scope around it. -/
theorem RecordsMethod.scope (hmethod : (ofTree name tree).RecordsMethod c function)
    (hin : function.IsIn tree) :
    ∃ scope, (scopesAt function).head? = some scope ∧ scope.isClass = true ∧ scope.path = c.path := by
  obtain ⟨f, hf, hpath, hclass⟩ := hmethod.declared
  obtain ⟨s, hs, hown⟩ := mem_functionDeclarations_iff.mp hf
  obtain ⟨hplace, hscope⟩ := scope_of_ofFunction_mem hown
  obtain rfl : s = function := hs.eq_of_path_eq hin (hplace.symm.trans hpath)
  rw [hscope] at hclass
  cases hhead : (scopesAt s).head? with
  | none =>
      rw [hhead] at hclass
      cases hclass
  | some scope =>
      rw [hhead, isClassAt, Bool.and_eq_true, beq_iff_eq] at hclass
      exact ⟨scope, rfl, hclass⟩

theorem RecordsMethod.classAt?_eq (hmethod : (ofTree name tree).RecordsMethod c function)
    (hin : function.IsIn tree) {owner : Spot} (hparent : function.parent? = some owner)
    (hclass : owner.node.isClass = true) : (ofTree name tree).classAt? owner.path = some c := by
  obtain ⟨scope, hscope, -, hpath⟩ := hmethod.scope hin
  obtain ⟨opened, hopened⟩ := exists_scopeOf?_of_isClass hclass
  cases function with
  | root node => cases hparent
  | child parent role index node =>
      obtain rfl : parent = owner := Option.some.inj hparent
      rw [scopesAt, scopesBelow_eq, hopened] at hscope
      obtain rfl : opened = scope := Option.some.inj hscope
      rw [← (path_of_scopeOf? hopened).1, hpath]
      exact classAt?_of_mem hmethod.known

end SourceModule

namespace Surroundings

variable {name : ModuleName} {tree : Node} {c : ClassEntry} {function : Spot} {functions : List Spot}

theorem path_of_ownerOf? {here : Surroundings} (howner : here.ownerOf? function = some c) :
    ∃ owner, function.parent? = some owner ∧ c.path = owner.path := by
  unfold ownerOf? at howner
  split at howner
  · rename_i owner hparent
    split at howner
    · exact ⟨owner, hparent, by simpa using List.find?_some howner⟩
    · cases howner
  · cases howner

theorem ownerOf?_eq_none {here : Surroundings} (hindirect : ¬ StandsInClass function) :
    here.ownerOf? function = none := by
  unfold ownerOf?
  split
  · rename_i owner hparent
    rw [if_neg fun hclass => hindirect ⟨owner, hparent, hclass⟩]
  · rfl

theorem ownerOf?_eq_some (hmethod : (SourceModule.ofTree name tree).RecordsMethod c function)
    (hin : function.IsIn tree) (hdirect : StandsInClass function) :
    ownerOf? ⟨SourceModule.ofTree name tree, functions⟩ function = some c := by
  obtain ⟨owner, hparent, hclass⟩ := hdirect
  unfold ownerOf?
  rw [hparent]
  simp only [hclass, if_true]
  exact hmethod.classAt?_eq hin hparent hclass

/-- A function around a method is not one of the method's class: its class stands further up. -/
theorem ownerOf?_ne_of_outer (hmethod : (SourceModule.ofTree name tree).RecordsMethod c function)
    (hin : function.IsIn tree) {outer : Spot} (houter : outer ∈ enclosingFunctions function)
    {here : Surroundings} : here.ownerOf? outer ≠ some c := by
  intro howner
  obtain ⟨owner, hparent, hpath⟩ := path_of_ownerOf? howner
  obtain ⟨scope, hscope, -, hscopePath⟩ := hmethod.scope hin
  obtain ⟨t, -, hopens, hnearest⟩ := exists_of_scopesAt_head? hscope
  obtain ⟨habove, hfunction⟩ := above_of_mem_enclosingFunctions houter
  obtain ⟨opened, hopened⟩ := exists_scopeOf?_of_isFunction hfunction
  have htop : owner.path.length < outer.path.length := by
    refine Spot.length_path_of_mem_above ?_
    cases outer with
    | root node => cases hparent
    | child parent role index node =>
        obtain rfl : parent = owner := Option.some.inj hparent
        exact List.mem_cons_self
  have hdown : outer.path.length ≤ t.path.length := by
    rcases hnearest outer habove (by rw [hopened]; rfl) with rfl | hless
    · exact Nat.le_refl _
    · exact Nat.le_of_lt (Spot.length_path_of_mem_above hless)
  rw [← hpath, ← hscopePath, (path_of_scopeOf? hopens).1] at htop
  omega

/-! ## What a function contributes to the receivers -/

theorem receivers_cons {source : SourceModule} {outer : List Spot} {receiver : String}
    (howner : ownerOf? ⟨source, function :: outer⟩ function = some c)
    (hstatic : function.node.isStatic = false)
    (hparameter : function.node.firstParameter? = some receiver) :
    receivers ⟨source, function :: outer⟩ = (receiver, c) :: receivers ⟨source, outer⟩ := by
  rw [receivers, List.filterMap_cons]
  simp only [howner, hstatic, hparameter]
  rfl

theorem receivers_of_no_owner {source : SourceModule} {outer : List Spot}
    (howner : ownerOf? ⟨source, function :: outer⟩ function = none) :
    receivers ⟨source, function :: outer⟩ = receivers ⟨source, outer⟩ := by
  rw [receivers, List.filterMap_cons]
  simp only [howner]
  rfl

theorem methodClass?_of_no_owner {source : SourceModule} {outer : List Spot}
    (howner : ownerOf? ⟨source, function :: outer⟩ function = none) :
    methodClass? ⟨source, function :: outer⟩ = methodClass? ⟨source, outer⟩ := by
  rw [methodClass?, List.findSome?_cons, howner]
  rfl

theorem exists_owner_of_receiverClass? {here : Surroundings} {receiver : String}
    (hbound : here.receiverClass? receiver = some c) :
    ∃ f ∈ here.functions, here.ownerOf? f = some c := by
  obtain ⟨f, hf, hentry⟩ := List.mem_filterMap.mp (Assoc.mem_of_get? hbound)
  split at hentry
  · rename_i howner _ _
    cases hentry
    exact ⟨f, hf, howner⟩
  · cases hentry

end Surroundings

namespace Resolver

variable {here : Surroundings} {c : ClassEntry}

theorem resolve_member_of_receiver (r : Resolver) {receiver : String}
    (hbound : here.receiverClass? receiver = some c) (constructs byName : Bool) (span span' : Span)
    (context context' : Context) (attr : String) :
    r.resolve here constructs byName (.member span (.name span' receiver context') attr context) =
      (r.lookupMethod? c attr).toList := by
  have hclass : r.receiverClass? here (.name span' receiver context') = some c := by
    simp only [receiverClass?, hbound]
  simp only [resolve, resolveMember, isSuper, hclass]
  rfl

theorem resolve_member_of_super (r : Resolver) (howner : here.methodClass? = some c)
    (constructs byName : Bool) (span span' span'' : Span) (context context' : Context)
    (args keywords : List Node) (attr : String) :
    r.resolve here constructs byName
        (.member span (.call span' (.name span'' "super" context') args keywords) attr context) =
      ((r.bases c).findSome? fun base => r.lookupMethod? base attr).toList := by
  simp only [resolve, resolveMember, isSuper, howner]
  rfl

end Resolver

/-! ## What the first parameter of a method means -/

/-- Attributes of the name `receiver` are looked up on the class, and attributes of `super()` on its
bases. -/
structure Surroundings.Serves (here : Surroundings) (receiver : String) (c : ClassEntry) : Prop where
  bound : here.receiverClass? receiver = some c
  owner : here.methodClass? = some c
  own : ∀ (r : Resolver) (constructs byName : Bool) (span span' : Span) (context context' : Context)
    (attr : String),
    r.resolve here constructs byName (.member span (.name span' receiver context') attr context) =
      (r.lookupMethod? c attr).toList
  inherited : ∀ (r : Resolver) (constructs byName : Bool) (span span' span'' : Span)
    (context context' : Context) (args keywords : List Node) (attr : String),
    r.resolve here constructs byName
        (.member span (.call span' (.name span'' "super" context') args keywords) attr context) =
      ((r.bases c).findSome? fun base => r.lookupMethod? base attr).toList

theorem Surroundings.Serves.of_bound {here : Surroundings} {receiver : String} {c : ClassEntry}
    (hbound : here.receiverClass? receiver = some c) (howner : here.methodClass? = some c) :
    here.Serves receiver c where
  bound := hbound
  owner := howner
  own r := r.resolve_member_of_receiver hbound
  inherited r := r.resolve_member_of_super howner

/-- Let a file record a function as a method of a class, not a static one and with a first parameter,
and let this be the nearest function around a place.  If the function stands right in the class, then
at the place the parameter serves as the receiver.  If it does not, the function is passed over: the
parameter and `super()` mean what they mean around the function, and that is not the class. -/
theorem receiver_serves_right_in_class {m : SourceModule} (hm : m.IsParsed) {s function : Spot}
    (hs : s.IsIn m.tree) (hnearest : (enclosingFunctions s).head? = some function) {c : ClassEntry}
    (hmethod : m.RecordsMethod c function) (hstatic : function.node.isStatic = false)
    {receiver : String} (hparameter : function.node.firstParameter? = some receiver) :
    let here : Surroundings := ⟨m, enclosingFunctions s⟩
    let around : Surroundings := ⟨m, enclosingFunctions function⟩
    (StandsInClass function → here.Serves receiver c) ∧
      (¬ StandsInClass function →
        here.receivers = around.receivers ∧ here.methodClass? = around.methodClass? ∧
        here.receiverClass? receiver ≠ some c ∧ here.methodClass? ≠ some c) := by
  intro here around
  obtain ⟨name, text, tree, -, rfl⟩ := hm
  have hfunctions := enclosingFunctions_eq_cons hnearest
  have hin : function.IsIn tree := by
    have hmem : function ∈ enclosingFunctions s := hfunctions ▸ List.mem_cons_self
    exact (mem_enclosingFunctions.mp hmem).isIn hs
  have hhere : here = ⟨SourceModule.ofTree name tree, function :: enclosingFunctions function⟩ := by
    rw [← hfunctions]
  constructor
  · intro hdirect
    have howner : here.ownerOf? function = some c :=
      Surroundings.ownerOf?_eq_some hmethod hin hdirect
    rw [hhere] at howner ⊢
    refine .of_bound ?_ ?_
    · rw [Surroundings.receiverClass?, Surroundings.receivers_cons howner hstatic hparameter,
        Assoc.get?, if_pos BEq.rfl]
    · rw [Surroundings.methodClass?, List.findSome?_cons, howner]
  · intro hindirect
    have hnone : here.ownerOf? function = none := Surroundings.ownerOf?_eq_none hindirect
    rw [hhere] at hnone
    have hreceivers : here.receivers = around.receivers :=
      hhere ▸ Surroundings.receivers_of_no_owner hnone
    have hclass : here.methodClass? = around.methodClass? :=
      hhere ▸ Surroundings.methodClass?_of_no_owner hnone
    refine ⟨hreceivers, hclass, fun hbound => ?_, fun howner => ?_⟩
    · have houter : around.receiverClass? receiver = some c := by
        rw [Surroundings.receiverClass?, ← hreceivers]
        exact hbound
      obtain ⟨outer, hmem, howner⟩ := Surroundings.exists_owner_of_receiverClass? houter
      exact Surroundings.ownerOf?_ne_of_outer hmethod hin hmem howner
    · rw [hclass] at howner
      obtain ⟨outer, hmem, howner⟩ := List.exists_of_findSome?_eq_some howner
      exact Surroundings.ownerOf?_ne_of_outer hmethod hin hmem howner

/-- The name and the attribute of it that a node calls, if it calls one. -/
def calledMember? : Node → Option (String × String)
  | .call _ (.member _ (.name _ id _) attr _) _ _ => some (id, attr)
  | _ => none

namespace Index

/-- A method that calls another one of its class. -/
def plainMethod : List (String × String) :=
  [("m.py", "class A:\n def f(self): self.g()\n def g(self): return 1\n")]

theorem receiver_serves_right_in_class_of_plain_method :
    ∃ m ∈ (ofSources {} none plainMethod).files, ∃ s function c, s.IsIn m.tree ∧
      (enclosingFunctions s).head? = some function ∧ m.RecordsMethod c function ∧
      calledMember? s.node = some ("self", "g") ∧
      Surroundings.Serves ⟨m, enclosingFunctions s⟩ "self" c := by
  have hfacts : ∃ m ∈ (ofSources {} none plainMethod).files, ∃ s ∈ (Spot.root m.tree).walk,
      ∃ function ∈ (enclosingFunctions s).head?.toList, ∃ c ∈ m.classEntries,
        (function.parent?.any fun owner => owner.node.isClass) = true ∧
        (∃ f ∈ m.functionDeclarations, f.path = function.path ∧ isClassAt c.path f.scope = true) ∧
        function.node.isStatic = false ∧ function.node.firstParameter? = some "self" ∧
        calledMember? s.node = some ("self", "g") := by
    decide +kernel
  obtain ⟨m, hm, s, hs, function, hnearest, c, hc, hclass, hdeclared, hstatic, hparameter, hcalled⟩ :=
    hfacts
  have hparsed : m.IsParsed :=
    (@regular_ofSources {} none plainMethod (by decide)).resolver.parsed m hm
  have hin : s.IsIn m.tree := Spot.mem_walk_iff.mp hs
  have hdirect : StandsInClass function := by
    rwa [Option.any_eq_true] at hclass
  rw [Option.mem_toList] at hnearest
  refine ⟨m, hm, s, function, c, hin, hnearest, ⟨hc, hdeclared⟩, hcalled, ?_⟩
  exact (receiver_serves_right_in_class hparsed hin hnearest ⟨hc, hdeclared⟩ hstatic hparameter).1
    hdirect

/-- A method under a condition that calls another one of its class, and a second class with a method
of that name. -/
def conditionalMethod : List (String × String) :=
  [("m.py", "class A:\n if x:\n  def f(self): self.g()\n def g(self): return 1\n" ++
    "class B:\n def g(self): return 2\n")]

/-- The call in the method under a condition means nothing, although its class has the method. -/
theorem conditional_method_has_no_receiver :
    ∃ m ∈ (ofSources {} none conditionalMethod).files, ∃ s function c, s.IsIn m.tree ∧
      (enclosingFunctions s).head? = some function ∧ m.RecordsMethod c function ∧
      function.node.isStatic = false ∧ function.node.firstParameter? = some "self" ∧
      calledMember? s.node = some ("self", "g") ∧
      Surroundings.receiverClass? ⟨m, enclosingFunctions s⟩ "self" ≠ some c ∧
      (ofSources {} none conditionalMethod).resolver.meant m s ≠
        ((ofSources {} none conditionalMethod).resolver.lookupMethod? c "g").toList := by
  have hfacts : ∃ m ∈ (ofSources {} none conditionalMethod).files, ∃ s ∈ (Spot.root m.tree).walk,
      ∃ function ∈ (enclosingFunctions s).head?.toList, ∃ c ∈ m.classEntries,
        (∃ f ∈ m.functionDeclarations, f.path = function.path ∧ isClassAt c.path f.scope = true) ∧
        function.node.isStatic = false ∧ function.node.firstParameter? = some "self" ∧
        calledMember? s.node = some ("self", "g") ∧
        (Surroundings.receiverClass? ⟨m, enclosingFunctions s⟩ "self").isNone = true ∧
        ((ofSources {} none conditionalMethod).resolver.meant m s).isEmpty = true ∧
        ((ofSources {} none conditionalMethod).resolver.lookupMethod? c "g").isSome = true := by
    decide +kernel
  obtain ⟨m, hm, s, hs, function, hnearest, c, hc, hdeclared, hstatic, hparameter, hcalled, hunbound,
    hempty, hsome⟩ := hfacts
  rw [Option.mem_toList] at hnearest
  obtain ⟨routine, hroutine⟩ := Option.isSome_iff_exists.mp hsome
  refine ⟨m, hm, s, function, c, Spot.mem_walk_iff.mp hs, hnearest, ⟨hc, hdeclared⟩, hstatic,
    hparameter, hcalled, ?_, ?_⟩
  · rw [Option.isNone_iff_eq_none.mp hunbound]
    exact Option.some_ne_none c |>.symm
  · rw [List.isEmpty_iff.mp hempty, hroutine]
    exact (List.cons_ne_nil _ _).symm

end Index

end CallChain
