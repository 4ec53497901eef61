import CallChain.Imports
import CallChain.Routine

/-!
# What a file declares

`declarations` goes through a tree in document order and keeps a stack of the classes and
functions around it; from that stack come the qualified names.  A `SourceModule` holds the
tables built from the declarations: the functions, the classes with their methods and the types
of their attributes, and the functions declared inside functions.  In every table a later
declaration of a name replaces an earlier one.
-/

namespace CallChain

open Python

/-- A class or function around a declaration. -/
structure Scope where
  isClass : Bool
  name : String
  /-- Where the class or function stands in the tree. -/
  path : List Nat

/-- A declared function, where it stands and the scope right around it. -/
structure FunctionDeclaration where
  routine : Routine
  path : List Nat
  scope : Option Scope
  node : Node

/-- A declared class and where it stands. -/
structure ClassDeclaration where
  name : String
  qualname : String
  path : List Nat
  /-- The bases that are dotted names. -/
  bases : List String

inductive Declaration where
  | ofFunction (f : FunctionDeclaration)
  | ofClass (c : ClassDeclaration)

/-- A name behind the names of the scopes around it, the innermost scope coming first in the
list. -/
def qualify (scopes : List Scope) (name : String) : String :=
  Text.joinWith "." ((scopes.map Scope.name).reverse ++ [name])

/-- The name of a module and its file. -/
structure ModuleName where
  file : String
  name : String
  isPackage : Bool

/-- The routine that a function definition declares. -/
def declaredRoutine (m : ModuleName) (scopes : List Scope) (isAsync : Bool) (span : Span)
    (name : String) (node : Node) : Routine :=
  ({ name, qualname := qualify scopes name, moduleName := m.name, file := m.file, line := span.line
     endLine := span.line
     className := match scopes.head? with
       | some scope => if scope.isClass then some scope.name else none
       | none => none
     isAsync, hasBody := node.hasBody } : Routine).withEnd span.endLine

/-- The declarations at and below a spot, in document order. -/
def declarations (m : ModuleName) (scopes : List Scope) (s : Spot) : List Declaration :=
  match s.node with
  | .classDef name bases _ _ _ =>
    let here : ClassDeclaration :=
      ⟨name, qualify scopes name, s.path, bases.filterMap Node.dotted?⟩
    .ofClass here ::
      s.children.attach.flatMap fun ⟨c, _⟩ => declarations m (⟨true, name, s.path⟩ :: scopes) c
  | .functionDef isAsync span name _ _ _ _ =>
    let here : FunctionDeclaration :=
      ⟨declaredRoutine m scopes isAsync span name s.node, s.path, scopes.head?, s.node⟩
    .ofFunction here ::
      s.children.attach.flatMap fun ⟨c, _⟩ => declarations m (⟨false, name, s.path⟩ :: scopes) c
  | _ => s.children.attach.flatMap fun ⟨c, _⟩ => declarations m scopes c
termination_by sizeOf s.node
decreasing_by all_goals exact Spot.sizeOf_node_lt_of_mem_children ‹_›

/-! ## Types of attributes -/

/-- The attribute of `receiver` that a target names. -/
def attributeOf? (receiver : String) : Node → Option String
  | .member _ (.name _ id _) attr _ => if id = receiver then some attr else none
  | _ => none

/-- Records what one statement says about the types of a receiver's attributes: an annotation
replaces, a construction only adds. -/
def recordAttribute (receiver : String) (types : List (String × String)) (node : Node) :
    List (String × String) :=
  match node with
  | .annAssign target hint _ =>
    match hint.annotated?, attributeOf? receiver target with
    | some type, some attr => Assoc.put attr type types
    | _, _ => types
  | .assign targets (.call _ callee _ _) =>
    match callee.dotted? with
    | some type =>
      (targets.filterMap (attributeOf? receiver)).foldl (fun t attr => Assoc.putNew attr type t) types
    | none => types
  | _ => types

/-- Records what a method says about the types of its receiver's attributes, statements level by
level. -/
def recordMethod (types : List (String × String)) (method : Node) : List (String × String) :=
  match method.firstParameter? with
  | some receiver =>
    ((Spot.root method).walk.map Spot.node).foldl (recordAttribute receiver) types
  | none => types

/-! ## Tables -/

/-- A class with its methods and the types of its attributes. -/
structure ClassEntry where
  name : String
  qualname : String
  /-- The file that declares the class. -/
  file : String
  moduleName : String
  path : List Nat
  bases : List String
  methods : List (String × Routine)
  attributeTypes : List (String × String)
  deriving Inhabited

/-- Everything that is known about one file. -/
structure SourceModule where
  file : String
  name : String
  isPackage : Bool
  tree : Node
  imports : ImportTable
  functionDeclarations : List FunctionDeclaration
  /-- Every declared class, also those that a later one replaces. -/
  classEntries : List ClassEntry

/-- The functions of a scope by name; the later of two wins. -/
def functionsIn (inScope : Option Scope → Bool) (functions : List FunctionDeclaration) :
    List (String × Routine) :=
  (functions.filter fun f => inScope f.scope).foldl
    (fun table f => Assoc.put f.routine.name f.routine table) []

/-- Whether a scope is the class at a path. -/
def isClassAt (path : List Nat) : Option Scope → Bool
  | some scope => scope.isClass && scope.path == path
  | none => false

/-- Whether a scope is the function at a path. -/
def isFunctionAt (path : List Nat) : Option Scope → Bool
  | some scope => !scope.isClass && scope.path == path
  | none => false

namespace SourceModule

/-- The table entry of a declared class. -/
def classEntry (m : ModuleName) (functions : List FunctionDeclaration) (c : ClassDeclaration) :
    ClassEntry where
  name := c.name
  qualname := c.qualname
  file := m.file
  moduleName := m.name
  path := c.path
  bases := c.bases
  methods := functionsIn (isClassAt c.path) functions
  attributeTypes := ((functions.filter fun f => isClassAt c.path f.scope).map (·.node)).foldl recordMethod []

/-- The tables of a parsed file. -/
def ofTree (m : ModuleName) (tree : Node) : SourceModule :=
  let found := declarations m [] (.root tree)
  let functions := found.filterMap fun
    | .ofFunction f => some f
    | .ofClass _ => none
  let classes := found.filterMap fun
    | .ofClass c => some c
    | .ofFunction _ => none
  { file := m.file, name := m.name, isPackage := m.isPackage, tree
    imports := ImportTable.ofTree m.name m.isPackage tree
    functionDeclarations := functions
    classEntries := classes.map (classEntry m functions) }

/-- The routines of a file, in document order. -/
def routines (m : SourceModule) : List Routine := m.functionDeclarations.map (·.routine)

/-- The functions outside of any class or function. -/
def functions (m : SourceModule) : List (String × Routine) :=
  functionsIn Option.isNone m.functionDeclarations

/-- The classes by qualified name; the later of two wins. -/
def classes (m : SourceModule) : List (String × ClassEntry) :=
  m.classEntries.foldl (fun table c => Assoc.put c.qualname c table) []

/-- The functions declared directly inside the function at a path. -/
def localFunctions (m : SourceModule) (path : List Nat) : List (String × Routine) :=
  functionsIn (isFunctionAt path) m.functionDeclarations

/-- The routine whose definition stands at a path. -/
def routineAt? (m : SourceModule) (path : List Nat) : Option Routine :=
  (m.functionDeclarations.find? fun f => f.path == path).map (·.routine)

/-- The class whose definition stands at a path. -/
def classAt? (m : SourceModule) (path : List Nat) : Option ClassEntry :=
  m.classEntries.find? fun c => c.path == path

/-- A file in words. -/
def display (m : SourceModule) : String :=
  "ModuleInfo(module='" ++ m.name ++ "', file='" ++ m.file ++ "', routines=" ++
    toString m.functionDeclarations.length ++ ")"

end SourceModule

/-- A class in words. -/
def ClassEntry.display (c : ClassEntry) : String :=
  "ClassInfo(qualname='" ++ c.qualname ++ "', module='" ++ c.moduleName ++ "')"

end CallChain
