import CallChain.Assoc
import CallChain.CallSite
import CallChain.Cancellation

/-!
# Chains of calls from a start to a target

The search goes backward: from the target to its callers, to their callers and so on, until it
meets the start, and never through a routine that is already on its trail.  What it finds are
chains of routines from the start to the caller of the target.  A hand-off ends the expansion of
a routine or is passed over, as the policy says.

`visit` threads a `Run` through the recursion: the token that may stop the search, the clock,
the number of routines expanded and what was noted on the way.  Its bound on the depth is never
reached, since the routines on a trail are distinct and each but the first is a caller of some
site.
-/

namespace CallChain

/-- What to do with a call site that is handed to another thread. -/
inductive HandOffPolicy where
  /-- It ends the expansion of the routine. -/
  | sever
  /-- Only this site is passed over. -/
  | skip
  deriving DecidableEq

def HandOffPolicy.text : HandOffPolicy → String
  | .sever => "sever_branch"
  | .skip => "skip_call_site"

def HandOffPolicy.choices : List HandOffPolicy := [.sever, .skip]

/-- The policy with a name; otherwise the message that refuses it. -/
def HandOffPolicy.ofText (text : String) : Except String HandOffPolicy :=
  match choices.find? fun p => p.text == text with
  | some p => .ok p
  | none => .error ("Unknown async boundary policy '" ++ text ++ "', expected one of " ++
      Text.joinWith ", " (choices.map HandOffPolicy.text))

/-- A chain of calls, the start first and the target left out. -/
abbrev Chain := List Routine

/-- What a search tells while it runs. -/
inductive Note where
  /-- A routine is expanded, as the `count`th one. -/
  | progress (count : Nat) (routine : Routine)
  /-- A call site is handed to another thread. -/
  | handOff (site : CallSite) (routine : Routine)

/-- The state of a search. -/
structure Run where
  token : Option CancelToken := none
  clock : Clock := {}
  expanded : Nat := 0
  /-- The count of expanded routines at which the token is cancelled from outside. -/
  cancelAt : Option Nat := none
  /-- What was noted, the last first. -/
  notes : List Note := []

namespace Run

/-- Polls the token, if there is one. -/
def poll (run : Run) : Bool × Run :=
  match run.token with
  | none => (false, run)
  | some token =>
    let (token, clock) := token.poll run.clock
    (token.cancelled, { run with token := some token, clock })

/-- Notes something. -/
def note (run : Run) (n : Note) : Run := { run with notes := n :: run.notes }

/-- Counts a routine as expanded and reports it. -/
def expand (run : Run) (r : Routine) : Run :=
  let count := run.expanded + 1
  let token := if run.cancelAt == some count then run.token.map CancelToken.cancel else run.token
  ({ run with expanded := count, token } : Run).note (.progress count r)

end Run

/-- What a part of a search gives: the chains found, or nothing if it was stopped. -/
abbrev Found := Option (List Chain) × Run

namespace Search

/-- Follows the sites of a routine in order.  `visit` continues with a caller that is not on the
trail, which includes the routine itself. -/
def follow (policy : HandOffPolicy) (visit : Routine → Run → Found) (current : Routine)
    (trail : List Routine) : List CallSite → List Chain → Run → Found
  | [], chains, run => (some chains, run)
  | site :: rest, chains, run =>
    if site.handedOff then
      let run := run.note (.handOff site current)
      match policy with
      | .sever => (some chains, run)
      | .skip => follow policy visit current trail rest chains run
    else match site.caller with
      | none => follow policy visit current trail rest chains run
      | some caller =>
        if trail.contains caller then follow policy visit current trail rest chains run
        else match visit caller run with
          | (none, run) => (none, run)
          | (some found, run) => follow policy visit current trail rest (chains ++ found) run

/-- Searches from a routine on.  `trail` holds the routines from the target to here, the last
first. -/
def visit (graph : CallGraph) (start : Routine) (policy : HandOffPolicy) :
    Nat → List Routine → Routine → Run → Found
  | 0, _, _, run => (some [], run)
  | depth + 1, trail, current, run =>
    if trail.contains current then (some [], run)
    else
      let (stopped, run) := run.poll
      if stopped then (none, run)
      else
        let trail' := current :: trail
        if current == start then (some [trail'.dropLast], run)
        else follow policy (visit graph start policy depth trail') current trail'
          (graph.sitesOf current) [] (run.expand current)

/-- A bound on the length of a trail. -/
def depthBound (graph : CallGraph) : Nat := graph.sites.length + 2

/-- The routines of chains by qualified name, in order of first occurrence. -/
def byQualname (chains : List Chain) : List (String × List Routine) :=
  chains.flatten.foldl (fun groups r =>
    let group := (Assoc.get? r.qualname groups).getD []
    Assoc.put r.qualname (if group.contains r then group else group ++ [r]) groups) []

/-- A name for every routine of chains: the qualified name or, where distinct routines share it,
the full name. -/
def nameTable (chains : List Chain) : List (String × String) :=
  (byQualname chains).foldl (fun names group =>
    group.2.foldl (fun names r =>
      Assoc.put r.key (if group.2.length = 1 then group.1 else r.fullName) names) names) []

/-- Chains by the names of their routines. -/
def nameChains (chains : List Chain) : List (List String) :=
  let names := nameTable chains
  chains.map fun chain => chain.map fun r => (Assoc.get? r.key names).getD r.qualname

/-- All chains of calls from `start` to `target`, each once, in the order of their discovery;
nothing if the search was stopped. -/
def chains (graph : CallGraph) (start : Routine) (policy : HandOffPolicy) (target : Routine)
    (run : Run) : Found :=
  let (found, run) := visit graph start policy (depthBound graph) [] target { run with expanded := 0 }
  (found.map firstOccurrences, run)

/-- All chains of calls from `start` to `target`, by name. -/
def paths (graph : CallGraph) (start : Routine) (policy : HandOffPolicy) (target : Routine)
    (run : Run) : Option (List (List String)) × Run :=
  let (found, run) := chains graph start policy target run
  (found.map nameChains, run)

end Search

end CallChain
