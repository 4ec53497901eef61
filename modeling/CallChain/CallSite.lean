import CallChain.Python.Printer
import CallChain.Routine

/-!
# Call sites

A call site is one reference to a routine: a call, or a mention of the routine as a value.  The
caller is missing when the reference stands in no routine.  A site has the source text of its
reference, or the reason why there is none.
-/

namespace CallChain

/-- How a routine is referred to. -/
inductive SiteKind where
  | call
  | reference
  deriving DecidableEq, Inhabited

def SiteKind.text : SiteKind → String
  | .call => "call"
  | .reference => "reference"

/-- One reference to a routine. -/
structure CallSite where
  callee : Routine
  caller : Option Routine
  file : String
  line : Nat
  column : Nat
  kind : SiteKind
  /-- The reference as source text. -/
  expression : Except Python.Unprintable String
  /-- Whether the reference is handed to another thread of execution. -/
  handedOff : Bool
  deriving Inhabited

namespace CallSite

/-- The order of sites: by file, then line, then column. -/
def notAfter (a b : CallSite) : Bool :=
  if a.file ≠ b.file then a.file < b.file
  else if a.line ≠ b.line then a.line < b.line
  else a.column ≤ b.column

/-- Sites in order; those at one place stay in the order they have. -/
def sort (sites : List CallSite) : List CallSite := sites.mergeSort notAfter

/-- Why the reference has no source text. -/
def fault? (s : CallSite) : Option Python.Unprintable :=
  match s.expression with
  | .ok _ => none
  | .error fault => some fault

theorem fault?_eq_none_iff {s : CallSite} : s.fault? = none ↔ ∃ text, s.expression = .ok text := by
  rw [fault?]
  cases s.expression <;> simp

/-- What is shown of the reference: its source text, which every site of an index that is handed out
has, or why there is none. -/
def shown (s : CallSite) : String :=
  match s.expression with
  | .ok text => text
  | .error fault => fault.message

/-- A site as data. -/
def toValue (s : CallSite) : Value :=
  .object [("callee", .text s.callee.qualname), ("caller", Value.ofText? (s.caller.map Routine.qualname)),
    ("file", .text s.file), ("line", .int s.line), ("col", .int s.column),
    ("kind", .text s.kind.text), ("expression", .text s.shown),
    ("inside_async_boundary", .bool s.handedOff)]

/-- A site in words. -/
def display (s : CallSite) : String :=
  "CallSite(callee='" ++ s.callee.qualname ++ "', caller='" ++
    ((s.caller.map Routine.qualname).getD "None") ++ "', line=" ++ toString s.line ++
    ", async_boundary=" ++ (if s.handedOff then "True" else "False") ++ ")"

end CallSite

/-- The routines of a codebase and the references between them. -/
structure CallGraph where
  routines : List Routine
  sites : List CallSite

/-- The references to a routine. -/
def CallGraph.sitesOf (graph : CallGraph) (r : Routine) : List CallSite :=
  graph.sites.filter fun s => s.callee == r

end CallChain
