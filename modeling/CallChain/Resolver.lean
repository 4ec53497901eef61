import CallChain.Settings
import CallChain.SourceModule

/-!
# Which routines a reference means

References are bound by name, at the type that the source declares.  A plain name is looked up
among the functions declared in the enclosing functions, then among the functions, classes and
imported names of the file.  The receiver of an attribute may be the first parameter of a
method, `super()`, a class, a variable or attribute whose type is written down, a construction,
or an imported module.  What is left is a method call on a receiver of unknown type, which the
settings may bind by the method's name alone.

Classes are looked up through their bases depth first, each class once.
-/

namespace CallChain

open Python

/-- The parsed files, and how unknown receivers are treated. -/
structure Resolver where
  /-- All files in order. -/
  files : List SourceModule
  ambiguity : Ambiguity

/-- Where a reference stands: its file and the functions around it, the nearest first. -/
structure Surroundings where
  source : SourceModule
  functions : List Spot

/-- The functions whose body a spot stands in, the nearest first. -/
def enclosingFunctions : Spot → List Spot
  | .root _ => []
  | .child parent role _ _ =>
    if role == .body && parent.isFunction then parent :: enclosingFunctions parent
    else enclosingFunctions parent

namespace Surroundings

/-- The class that a function is a method of. -/
def ownerOf? (here : Surroundings) (function : Spot) : Option ClassEntry :=
  match function.parent? with
  | some owner => if owner.node.isClass then here.source.classAt? owner.path else none
  | none => none

/-- The class of the nearest enclosing method. -/
def methodClass? (here : Surroundings) : Option ClassEntry :=
  here.functions.findSome? here.ownerOf?

/-- The receivers that enclosing methods bind, the nearest first. -/
def receivers (here : Surroundings) : List (String × ClassEntry) :=
  here.functions.filterMap fun f =>
    match here.ownerOf? f, f.node.isStatic, f.node.firstParameter? with
    | some owner, false, some receiver => some (receiver, owner)
    | _, _, _ => none

/-- The class that a name stands for as the receiver of an enclosing method. -/
def receiverClass? (here : Surroundings) (name : String) : Option ClassEntry :=
  Assoc.get? name here.receivers

end Surroundings

/-! ## Types of local names -/

/-- The annotated parameters of a function; the later of two wins. -/
def parameterTypes : Node → List (String × String)
  | .functionDef _ _ _ (.parameters positionalOnly positional _ keywordOnly _ _ _) _ _ _ =>
    (positionalOnly ++ positional ++ keywordOnly).foldl (fun types p =>
      match p with
      | .param id (some hint) =>
        match hint.annotated? with
        | some type => Assoc.put id type types
        | none => types
      | _ => types) []
  | _ => []

/-- The statements of a function and what is below them, without entering other scopes. -/
def functionNodes (function : Node) : List Node := function.functionBody.flatMap Node.localNodes

/-- Adds what an annotated assignment declares about a name; the first one wins. -/
def recordDeclared (types : List (String × String)) : Node → List (String × String)
  | .annAssign (.name _ id _) hint _ =>
    match hint.annotated? with
    | some type => Assoc.putNew id type types
    | none => types
  | _ => types

/-- Adds what a construction says about the names it is assigned to; the first one wins. -/
def recordConstructed (types : List (String × String)) : Node → List (String × String)
  | .assign targets (.call _ callee _ _) =>
    match callee.dotted? with
    | some type => targets.foldl (fun t target =>
        match target with
        | .name _ id _ => Assoc.putNew id type t
        | _ => t) types
    | none => types
  | _ => types

/-- The type that a function writes down for a local name: a declared one before a constructed
one. -/
def localType? (function : Node) (name : String) : Option String :=
  let nodes := functionNodes function
  Assoc.get? name (nodes.foldl recordDeclared (parameterTypes function)) <|>
    Assoc.get? name (nodes.foldl recordConstructed [])

namespace Resolver

/-! ## Files and classes -/

/-- The files by module name; of two files with one name the later counts. -/
def modules (r : Resolver) : List (String × SourceModule) :=
  r.files.foldl (fun table m => Assoc.put m.name m table) []

/-- The files by module name, in the order of the names. -/
def sortedModules (r : Resolver) : List (String × SourceModule) :=
  r.modules.mergeSort fun a b => !(b.1 < a.1)

/-- Every class in the order of the module names. -/
def allClasses (r : Resolver) : List ClassEntry :=
  r.sortedModules.flatMap fun m => m.2.classes.map Prod.snd

/-- Every method with a name, in the order of the module names. -/
def methodsNamed (r : Resolver) (name : String) : List Routine :=
  r.sortedModules.flatMap fun m =>
    m.2.routines.filter fun routine => routine.className.any (· != "") && routine.name == name

/-- The file with a module name; failing that, the first whose name ends with the given one or
is an end of it. -/
def findModule? (r : Resolver) (dotted : String) : Option SourceModule :=
  Assoc.get? dotted r.modules <|>
    (r.sortedModules.find? fun m =>
      Text.endsWith dotted ("." ++ m.1) || Text.endsWith m.1 ("." ++ dotted)).map Prod.snd

/-- The ways to cut a dotted name in two, the longest front first. -/
def cuts (dotted : String) : List (String × List String) :=
  let parts := Text.splitOn '.' dotted
  ((List.range (parts.length - 1)).reverse.map (· + 1)).map fun n =>
    (Text.joinWith "." (parts.take n), parts.drop n)

/-- The class with a full name. -/
def classByFullName? (r : Resolver) (full : String) : Option ClassEntry :=
  (cuts full).findSome? fun (front, rest) => do
    let m ← r.findModule? front
    Assoc.get? (Text.joinWith "." rest) m.classes

/-- The class that a name means in a file: one of the file, an imported one, or the only one of
that name. -/
def resolveClass? (r : Resolver) (dotted : String) (source : SourceModule) : Option ClassEntry :=
  match Assoc.get? dotted source.classes with
  | some c => some c
  | none =>
    match source.imports.resolve? (Text.firstPart dotted) with
    | some _ => r.classByFullName? (source.imports.expand dotted)
    | none =>
      match r.allClasses.filter fun c => c.name == Text.lastPart dotted with
      | [one] => some one
      | _ => none

/-- The file that declares a class. -/
def homeOf? (r : Resolver) (c : ClassEntry) : Option SourceModule :=
  r.files.find? fun m => m.file == c.file

/-- The classes that the bases of a class mean, in order. -/
def bases (r : Resolver) (c : ClassEntry) : List ClassEntry :=
  match r.homeOf? c with
  | some home => c.bases.filterMap fun base => r.resolveClass? base home
  | none => []

/-- What identifies a class. -/
def classId (c : ClassEntry) : String × List Nat := (c.file, c.path)

/-- Looks for something on a class, then depth first on its bases, each class once.  Gives what
was found and the classes seen. -/
def searchBases {α : Type} (r : Resolver) (look : ClassEntry → Option α) :
    Nat → List ClassEntry → List (String × List Nat) → Option α × List (String × List Nat)
  | 0, _, seen => (none, seen)
  | _ + 1, [], seen => (none, seen)
  | fuel + 1, c :: rest, seen =>
    if seen.contains (classId c) then searchBases r look fuel rest seen
    else
      let seen := classId c :: seen
      match look c with
      | some found => (some found, seen)
      | none =>
        match searchBases r look fuel (r.bases c) seen with
        | (some found, seen) => (some found, seen)
        | (none, seen) => searchBases r look fuel rest seen

/-- A bound on the steps of a look-up through the bases. -/
def classBound (r : Resolver) : Nat :=
  let classes := r.files.flatMap SourceModule.classEntries
  (classes.flatMap ClassEntry.bases).length + 2 * classes.length + 2

/-- A method of a class or of its bases. -/
def lookupMethod? (r : Resolver) (c : ClassEntry) (name : String) : Option Routine :=
  (r.searchBases (fun c => Assoc.get? name c.methods) r.classBound [c] []).1

/-- The type of an attribute, as written in a class or in its bases.  What is written is never empty, so
whatever is found is a name. -/
def attributeType? (r : Resolver) (c : ClassEntry) (attr : String) : Option String :=
  (r.searchBases (fun c => Assoc.get? attr c.attributeTypes) r.classBound [c] []).1

/-- What constructing a class calls. -/
def constructor (r : Resolver) (c : ClassEntry) : List Routine :=
  (r.lookupMethod? c "__init__").toList

/-! ## Names -/

/-- The routines that a full name means: a function, a class being constructed, or a method. -/
def resolveFullName (r : Resolver) (constructs : Bool) (full : String) : List Routine :=
  ((cuts full).findSome? fun (front, rest) => do
    let m ← r.findModule? front
    match rest with
    | [] => none
    | [one] =>
      match Assoc.get? one m.functions with
      | some f => some [f]
      | none => do
        let c ← Assoc.get? one m.classes
        return if constructs then r.constructor c else []
    | first :: second :: _ => do
      let c ← Assoc.get? first m.classes
      return (r.lookupMethod? c second).toList).getD []

/-- The routines that a plain name means. -/
def resolveName (r : Resolver) (here : Surroundings) (constructs : Bool) (name : String) :
    List Routine :=
  match here.functions.findSome? fun f => Assoc.get? name (here.source.localFunctions f.path) with
  | some f => [f]
  | none =>
    match Assoc.get? name here.source.functions with
    | some f => [f]
    | none =>
      match Assoc.get? name here.source.classes with
      | some c => if constructs then r.constructor c else []
      | none =>
        match Assoc.get? name here.source.imports.members with
        | some full => r.resolveFullName constructs full
        | none => []

/-! ## Attributes -/

/-- The class of the object that a receiver is, where the source tells. -/
def receiverClass? (r : Resolver) (here : Surroundings) (receiver : Node) : Option ClassEntry :=
  match receiver with
  | .name _ id _ =>
    match here.receiverClass? id with
    | some c => some c
    | none =>
      match here.functions.findSome? fun f => localType? f.node id with
      | some type => r.resolveClass? type here.source
      | none =>
        if Assoc.has id here.source.classes || Assoc.has id here.source.imports.members then
          r.resolveClass? id here.source
        else none
  | .call _ callee _ _ =>
    match callee.dotted? with
    | some dotted => if dotted = "super" then none else r.resolveClass? dotted here.source
    | none => none
  | .member _ (.name _ id _) attr _ =>
    match here.receiverClass? id with
    | some owner => do
      let type ← r.attributeType? owner attr
      let home ← r.homeOf? owner
      r.resolveClass? type home
    | none => none
  | _ => none

/-- The file that a receiver means as an imported module. -/
def receiverModule? (r : Resolver) (source : SourceModule) (receiver : Node) : Option SourceModule := do
  let dotted ← receiver.dotted?
  let _ ← source.imports.resolve? (Text.firstPart dotted)
  r.findModule? (source.imports.expand dotted)

/-- The routines that a method call on an unknown receiver is bound to by name. -/
def byMethodName (r : Resolver) (attr : String) : List Routine :=
  let candidates := r.methodsNamed attr
  match r.ambiguity with
  | .all => candidates
  | .unique => if candidates.length = 1 then candidates else []
  | .none => []

/-- Whether a receiver is a call of `super`. -/
def isSuper : Node → Bool
  | .call _ (.name _ "super" _) _ _ => true
  | _ => false

/-- The routines that an attribute of a receiver means. -/
def resolveMember (r : Resolver) (here : Surroundings) (constructs byName : Bool) (receiver : Node)
    (attr : String) : List Routine :=
  if isSuper receiver then
    match here.methodClass? with
    | some owner => ((r.bases owner).findSome? fun base => r.lookupMethod? base attr).toList
    | none => []
  else
    match r.receiverClass? here receiver with
    | some c => (r.lookupMethod? c attr).toList
    | none =>
      match r.receiverModule? here.source receiver with
      | some m =>
        match Assoc.get? attr m.functions with
        | some f => [f]
        | none =>
          match Assoc.get? attr m.classes with
          | some c => if constructs then r.constructor c else []
          | none => []
      | none => if byName then r.byMethodName attr else []

/-- The routines that an expression means. -/
def resolve (r : Resolver) (here : Surroundings) (constructs byName : Bool) (expression : Node) :
    List Routine :=
  match expression with
  | .name _ id _ => r.resolveName here constructs id
  | .member _ receiver attr _ => r.resolveMember here constructs byName receiver attr
  | _ => []

/-- The routines that a callee means. -/
def resolveCall (r : Resolver) (here : Surroundings) (callee : Node) : List Routine :=
  r.resolve here true true callee

/-- The routines that a name or attribute means as a value. -/
def resolveReference (r : Resolver) (here : Surroundings) (expression : Node) : List Routine :=
  r.resolve here false false expression

end Resolver

end CallChain
