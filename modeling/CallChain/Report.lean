import CallChain.Decimal.Fixed
import CallChain.Routine

/-!
# Reports

A report says what a search for call paths came to: an outcome for the whole search, and for
each routine with the target's name an outcome and the paths found.
-/

namespace CallChain

/-- How a search ended. -/
inductive Outcome where
  | pathsFound
  | noPathFound
  | emptyStart
  | noTargetName
  | targetNotFound
  | targetHasNoBody
  | targetIsStart
  | canceled
  /-- An outcome that is not one of a search; its text is a message of its own. -/
  | other (text : String)
  deriving DecidableEq

namespace Outcome

def text : Outcome → String
  | .pathsFound => "paths_found"
  | .noPathFound => "no_path_found"
  | .emptyStart => "empty_start"
  | .noTargetName => "no_target_name"
  | .targetNotFound => "target_not_found"
  | .targetHasNoBody => "target_has_no_body"
  | .targetIsStart => "target_is_start"
  | .canceled => "canceled"
  | .other text => text

/-- The outcomes of a search. -/
def all : List Outcome :=
  [.pathsFound, .noPathFound, .emptyStart, .noTargetName, .targetNotFound, .targetHasNoBody,
    .targetIsStart, .canceled]

/-- The outcome with a text. -/
def ofText (text : String) : Outcome :=
  (all.find? fun o => o.text == text).getD (.other text)

/-- Whether the search was refused before any work. -/
def isPrecondition : Outcome → Bool
  | .emptyStart | .noTargetName | .targetNotFound => true
  | _ => false

/-- Whether the search ran to its end. -/
def isCompleted : Outcome → Bool
  | .pathsFound | .noPathFound => true
  | _ => false

end Outcome

/-- What the search for one routine came to. -/
structure Candidate where
  target : Routine
  outcome : Outcome
  paths : List (List String) := []

/-- What a whole search came to. -/
structure Report where
  start : Option Routine
  targetName : Option String
  outcome : Outcome
  candidates : List Candidate := []
  elapsed : Float := 0.0

namespace Candidate

def toValue (c : Candidate) : Value :=
  .object [("target", c.target.toValue), ("outcome", .text c.outcome.text),
    ("path_count", .int c.paths.length),
    ("paths", .list (c.paths.map fun p => .list (p.map Value.text)))]

def display (c : Candidate) : String :=
  "CandidateResult(target='" ++ c.target.qualname ++ "', outcome='" ++ c.outcome.text ++
    "', paths=" ++ toString c.paths.length ++ ")"

end Candidate

namespace Report

/-- All paths, candidate by candidate. -/
def allPaths (r : Report) : List (List String) := r.candidates.flatMap Candidate.paths

/-- A report as data; the time has four places. -/
def toEntries (r : Report) : Entries :=
  [("start", (r.start.map Routine.toValue).getD .null), ("target_name", Value.ofText? r.targetName),
    ("outcome", .text r.outcome.text), ("elapsed", .float (Decimal.rounded 4 r.elapsed)),
    ("candidates", .list (r.candidates.map Candidate.toValue)),
    ("summary", .object [("candidate_count", .int r.candidates.length),
      ("path_count", .int r.allPaths.length)])]

def toValue (r : Report) : Value := .object r.toEntries

def display (r : Report) : String :=
  "SearchReport(target_name='" ++ r.targetName.getD "None" ++ "', outcome='" ++ r.outcome.text ++
    "', candidates=" ++ toString r.candidates.length ++ ")"

end Report

end CallChain
