import CallChain.Text.Words
import CallChain.Value

/-!
# Routines

A routine is a function or method as it is declared.  It is identified by its key, the file,
line and qualified name of the declaration, so two routines of one name are still two.  They
are ordered by file, line and qualified name.
-/

namespace CallChain

/-- A declared function or method. -/
structure Routine where
  name : String
  qualname : String
  moduleName : String
  file : String
  line : Int
  endLine : Int
  className : Option String := none
  isAsync : Bool := false
  hasBody : Bool := true
  deriving Inhabited

namespace Routine

/-- What identifies a routine. -/
def key (r : Routine) : String := r.file ++ ":" ++ toString r.line ++ ":" ++ r.qualname

/-- Routines are compared by their keys. -/
instance : BEq Routine := ⟨fun a b => a.key == b.key⟩

/-- The qualified name behind the name of the module. -/
def fullName (r : Routine) : String :=
  if r.moduleName = "" then r.qualname else r.moduleName ++ "." ++ r.qualname

/-- A routine whose last line, unless it is known, is its first. -/
def withEnd (r : Routine) (endLine : Int) : Routine :=
  { r with endLine := if 0 < endLine then endLine else r.line }

/-- The order of declarations: by file, then line, then qualified name. -/
def before (a b : Routine) : Bool :=
  if a.file ≠ b.file then a.file < b.file
  else if a.line ≠ b.line then a.line < b.line
  else a.qualname < b.qualname

/-- A routine in words. -/
def display (r : Routine) : String :=
  "Routine(qualname='" ++ r.qualname ++ "', file='" ++ r.file ++ "', line=" ++ toString r.line ++ ")"

/-- A routine as data. -/
def toValue (r : Routine) : Value :=
  .object [("name", .text r.name), ("qualname", .text r.qualname), ("module", .text r.moduleName),
    ("file", .text r.file), ("line", .int r.line), ("end_line", .int r.endLine),
    ("class_name", Value.ofText? r.className), ("is_async", .bool r.isAsync),
    ("has_body", .bool r.hasBody)]

end Routine

end CallChain
