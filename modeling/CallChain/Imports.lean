import CallChain.Assoc
import CallChain.Python.Names

/-!
# What a file imports

An `ImportTable` records for each name that imports bind in a file what it stands for: names
after `import … as`, modules imported by their own names, and names after `from … import`.
Relative imports are made absolute from the name of the file's module.
-/

namespace CallChain

open Python

/-- The names that imports bind in a file. -/
structure ImportTable where
  /-- `import pkg.mod as m` binds `m`. -/
  aliases : List (String × String) := []
  /-- `import pkg.mod` binds `pkg`, and `pkg.mod` can be written out. -/
  modules : List (String × String) := []
  /-- `from pkg.mod import f as g` binds `g`. -/
  members : List (String × String) := []

/-- The module that an import names, given the module it is written in. -/
def absoluteModule (moduleName : String) (isPackage : Bool) (source : Option String) (level : Nat) :
    String :=
  if level = 0 then source.getD ""
  else
    let parts := if moduleName = "" then [] else Text.splitOn '.' moduleName
    let package := if isPackage then parts else parts.dropLast
    let base := Text.joinWith "." (package.take (package.length - (level - 1)))
    match source with
    | some name => if base = "" then name else base ++ "." ++ name
    | none => base

namespace ImportTable

/-- Records one `import` name. -/
def addModule (t : ImportTable) (name : Alias) : ImportTable :=
  match name.asName with
  | some local' => { t with aliases := Assoc.put local' name.name t.aliases }
  | none =>
    let root := Text.firstPart name.name
    { t with modules := Assoc.put name.name name.name (Assoc.put root root t.modules) }

/-- Records one name of a `from` import. -/
def addMember (source : String) (t : ImportTable) (name : Alias) : ImportTable :=
  if name.name = "*" then t
  else
    let full := if source = "" then name.name else source ++ "." ++ name.name
    { t with members := Assoc.put (name.asName.getD name.name) full t.members }

/-- Records an import statement. -/
def addStatement (moduleName : String) (isPackage : Bool) (t : ImportTable) (s : Spot) : ImportTable :=
  match s.node with
  | .imports names => names.foldl addModule t
  | .importFrom source names level =>
    names.foldl (addMember (absoluteModule moduleName isPackage source level)) t
  | _ => t

/-- The imports of a tree, in the order of the source. -/
def ofTree (moduleName : String) (isPackage : Bool) (tree : Node) : ImportTable :=
  (Spot.root tree).preorder.foldl (addStatement moduleName isPackage) {}

/-- What a name stands for, if an import binds it. -/
def resolve? (t : ImportTable) (name : String) : Option String :=
  (Assoc.get? name t.aliases <|> Assoc.get? name t.members) <|> Assoc.get? name t.modules

/-- A dotted name with its first part replaced by what an import binds it to. -/
def expand (t : ImportTable) (dotted : String) : String :=
  match t.resolve? (Text.firstPart dotted) with
  | none => dotted
  | some full =>
    match Text.cutFirst? '.' dotted with
    | some (_, rest) => if rest = "" then full else full ++ "." ++ rest
    | none => full

/-- Every bound name with what it stands for: aliases, overlaid by modules, overlaid by members. -/
def all (t : ImportTable) : List (String × String) :=
  Assoc.overlay (Assoc.overlay t.aliases t.modules) t.members

end ImportTable

end CallChain
