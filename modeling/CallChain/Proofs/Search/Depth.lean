import CallChain.Index
import CallChain.Proofs.Search.Enumeration
import Mathlib.Logic.Function.Iterate

/-!
# How deep a search is nested

`visit` is given a bound on its depth, and where the bound is used up it finds nothing.  This file
shows that the bound decides nothing.  `enter` is one entry of the search with the entries for the
callers left open, so that `visit` is `enter` put into itself as often as the bound says
(`visit_succ`).  `Entered` are the places that a search without a bound comes to: a routine and the
trail behind it.

An entry asks only for places that are entered in turn (`enter_congr`).  Along with an entry the trail
grows by a routine that was not on it, so in a graph whose callers are among `n` routines no trail has
`n` of them when something is entered (`Entered.length_le`).  Two searches that make the same entries
can therefore be compared from the deepest entries upward: `agree_of_entered`.  What is done at a
depth beyond `n` is of no importance, and without any bound the recursion has one result only.

That the graph of an index is closed in this sense needs nothing but the construction of its sites: a
caller is looked up among the routines of the file in which the site stands.
-/

namespace CallChain

/-- Every caller of a site is one of the routines. -/
def CallGraph.IsClosed (graph : CallGraph) : Prop :=
  ∀ caller ∈ graph.sites.filterMap CallSite.caller, graph.routines.contains caller = true

namespace Search

/-! ## One entry -/

/-- One entry of a search, where `search` is what happens at the entries for callers. -/
def enter (graph : CallGraph) (start : Routine) (policy : HandOffPolicy)
    (search : List Routine → Routine → Run → Found) (trail : List Routine) (current : Routine)
    (run : Run) : Found :=
  if trail.contains current then (some [], run)
  else
    let (stopped, run) := run.poll
    if stopped then (none, run)
    else
      let trail' := current :: trail
      if current == start then (some [trail'.dropLast], run)
      else follow policy (search trail') current trail' (graph.sitesOf current) []
        (run.expand current)

theorem visit_succ (graph : CallGraph) (start : Routine) (policy : HandOffPolicy) (depth : Nat) :
    visit graph start policy (depth + 1) = enter graph start policy (visit graph start policy depth) :=
  rfl

/-- The search for a target enters a routine behind a trail: first the target and then, from a
routine other than the start, the callers that are not on the trail. -/
inductive Entered (graph : CallGraph) (start : Routine) (policy : HandOffPolicy) (target : Routine) :
    List Routine → Routine → Prop
  | target : Entered graph start policy target [] target
  | caller {trail : List Routine} {current caller : Routine}
      (hcurrent : Entered graph start policy target trail current)
      (hother : (current == start) = false) (hcaller : caller ∈ graph.callers policy current)
      (hfresh : (current :: trail).contains caller = false) :
      Entered graph start policy target (current :: trail) caller

variable {graph : CallGraph} {start target : Routine} {policy : HandOffPolicy}

/-- Following sites, one asks only for their callers that are not on the trail. -/
theorem follow_congr {first second : Routine → Run → Found} {current : Routine}
    {trail : List Routine} {sites : List CallSite}
    (hsame : ∀ caller ∈ (policy.admitted sites).filterMap CallSite.caller,
      trail.contains caller = false → first caller = second caller)
    (chains : List Chain) (run : Run) :
    follow policy first current trail sites chains run =
      follow policy second current trail sites chains run := by
  induction sites generalizing chains run with
  | nil => rfl
  | cons site rest ih =>
      rw [follow, follow]
      cases hoff : site.handedOff with
      | true =>
          cases policy with
          | sever => rfl
          | skip =>
              refine ih (fun caller hcaller => hsame caller ?_) chains _
              simpa [HandOffPolicy.admitted, hoff] using hcaller
      | false =>
          have hadmitted : policy.admitted (site :: rest) = site :: policy.admitted rest := by
            cases policy <;> simp [HandOffPolicy.admitted, hoff]
          rw [hadmitted, List.filterMap_cons] at hsame
          simp only [Bool.false_eq_true, if_false]
          cases hcaller : site.caller with
          | none =>
              rw [hcaller] at hsame
              exact ih hsame chains run
          | some caller =>
              rw [hcaller] at hsame
              have hrest := ih fun other hother => hsame other (List.mem_cons_of_mem _ hother)
              by_cases hmem : trail.contains caller = true
              · simp only [hmem, if_true]
                exact hrest chains run
              · simp only [hmem, Bool.false_eq_true, if_false]
                rw [hsame caller List.mem_cons_self (by simpa using hmem)]
                cases second caller run with
                | mk found after =>
                    cases found with
                    | none => rfl
                    | some found => exact hrest (chains ++ found) after

/-- An entry asks only for places that are entered in turn. -/
theorem enter_congr {first second : List Routine → Routine → Run → Found} {trail : List Routine}
    {current : Routine} (hcurrent : Entered graph start policy target trail current)
    (hsame : ∀ caller, Entered graph start policy target (current :: trail) caller →
      first (current :: trail) caller = second (current :: trail) caller) :
    enter graph start policy first trail current = enter graph start policy second trail current := by
  funext run
  unfold enter
  cases hother : current == start with
  | true => rfl
  | false =>
      have hfollow : ∀ chains run,
          follow policy (first (current :: trail)) current (current :: trail) (graph.sitesOf current)
            chains run =
          follow policy (second (current :: trail)) current (current :: trail) (graph.sitesOf current)
            chains run :=
        follow_congr fun caller hcaller hfresh => hsame caller (.caller hcurrent hother hcaller hfresh)
      simp only [Bool.false_eq_true, if_false, hfollow]

/-! ## The depth of entries -/

/-- The routines on the trail and the routine that is entered are different. -/
theorem Entered.distinct {trail : List Routine} {current : Routine}
    (hentered : Entered graph start policy target trail current) :
    (current :: trail).Pairwise fun a b => (a == b) = false := by
  induction hentered with
  | target => exact List.pairwise_singleton _ _
  | @caller trail current caller _ _ _ hfresh ih =>
      refine List.pairwise_cons.mpr ⟨fun r hr => ?_, ih⟩
      rw [← Bool.not_eq_true]
      intro heq
      rw [List.contains_iff_exists_mem_beq.mpr ⟨r, hr, heq⟩] at hfresh
      cases hfresh

/-- Entries are not nested more deeply than there are sites, the one for the target apart. -/
theorem Entered.length_le_sites {trail : List Routine} {current : Routine}
    (hentered : Entered graph start policy target trail current) :
    (current :: trail).length ≤ graph.sites.length + 1 := by
  have hcallers : ∀ r ∈ (current :: trail).dropLast, r ∈ graph.sites.filterMap CallSite.caller := by
    induction hentered with
    | target => exact fun _ h => nomatch h
    | caller _ _ hcaller _ ih =>
        rw [List.dropLast_cons_cons]
        exact List.forall_mem_cons.mpr ⟨CallGraph.mem_callers_of_graph hcaller, ih⟩
  have hlength := CallGraph.length_le_of_callers
    (hentered.distinct.sublist (List.dropLast_sublist _)) hcallers
  rw [List.length_dropLast] at hlength
  omega

section Closed

variable (hclosed : graph.IsClosed) (htarget : graph.routines.contains target = true)

include hclosed htarget

theorem Entered.contains {trail : List Routine} {current : Routine}
    (hentered : Entered graph start policy target trail current) :
    ∀ r ∈ current :: trail, graph.routines.contains r = true := by
  induction hentered with
  | target => exact List.forall_mem_singleton.mpr htarget
  | @caller trail current caller _ _ hcaller _ ih =>
      exact List.forall_mem_cons.mpr ⟨hclosed caller (CallGraph.mem_callers_of_graph hcaller), ih⟩

/-- Entries are not nested more deeply than there are routines. -/
theorem Entered.length_le {trail : List Routine} {current : Routine}
    (hentered : Entered graph start policy target trail current) :
    (current :: trail).length ≤ graph.routines.length :=
  Routine.length_le_of_distinct hentered.distinct (hentered.contains hclosed htarget)

/-- A chain is shorter than there are routines. -/
theorem length_lt_of_isSimpleChain {chain : Chain}
    (hchain : IsSimpleChain graph start policy target chain) :
    chain.length < graph.routines.length := by
  have hcontained : ∀ r ∈ target :: chain.reverse, graph.routines.contains r = true :=
    List.forall_mem_cons.mpr ⟨htarget, fun r hr => hclosed r (hchain.mem_callers r hr)⟩
  have hlength := Routine.length_le_of_distinct hchain.distinct hcontained
  rwa [List.length_cons, List.length_reverse] at hlength

theorem length_lt_of_mem_paths {run : Run} {found : List (List String)}
    (hfound : (paths graph start policy target run).1 = some found) {path : List String}
    (hpath : path ∈ found) : path.length < graph.routines.length := by
  rw [paths_fst, Option.map_eq_some_iff] at hfound
  obtain ⟨kept, hkept, rfl⟩ := hfound
  obtain ⟨-, rfl⟩ := chains_eq_some_iff.mp hkept
  obtain ⟨chain, hchain, rfl⟩ := List.mem_map.mp hpath
  rw [List.length_map]
  exact length_lt_of_isSimpleChain hclosed htarget
    (mem_arrivals_courseTo.mp ((firstOccurrences_sublist _).subset hchain))

end Closed

/-! ## Comparing searches from the deepest entries upward -/

/-- Two searches, each of which makes the entries of its next depth, agree where the depth that is
left reaches beyond all entries. -/
theorem agree_of_entered (first second : Nat → List Routine → Routine → Run → Found) {bound : Nat}
    (hbound : ∀ trail current, Entered graph start policy target trail current →
      (current :: trail).length ≤ bound)
    (hfirst : ∀ depth trail current, Entered graph start policy target trail current →
      first (depth + 1) trail current = enter graph start policy (first depth) trail current)
    (hsecond : ∀ depth trail current, Entered graph start policy target trail current →
      second (depth + 1) trail current = enter graph start policy (second depth) trail current) :
    ∀ (depth other : Nat) (trail : List Routine) (current : Routine),
      Entered graph start policy target trail current →
      bound ≤ depth + trail.length → bound ≤ other + trail.length →
      first depth trail current = second other trail current := by
  intro depth
  induction depth with
  | zero =>
      intro other trail current hentered hdepth
      have := hbound trail current hentered
      simp only [List.length_cons] at this
      omega
  | succ depth ih =>
      intro other trail current hentered hdepth hother
      cases other with
      | zero =>
          have := hbound trail current hentered
          simp only [List.length_cons] at this
          omega
      | succ other =>
          rw [hfirst depth trail current hentered, hsecond other trail current hentered]
          refine enter_congr hentered fun caller hcaller => ih other _ caller hcaller ?_ ?_
          · rw [List.length_cons]
            omega
          · rw [List.length_cons]
            omega

/-- A search that makes the entries of its next depth has the result of `visit` if it begins with the
depth of all entries. -/
theorem eq_visit_of_entered (search : Nat → List Routine → Routine → Run → Found) {bound : Nat}
    (hbound : ∀ trail current, Entered graph start policy target trail current →
      (current :: trail).length ≤ bound)
    (hsearch : ∀ depth trail current, Entered graph start policy target trail current →
      search (depth + 1) trail current = enter graph start policy (search depth) trail current) :
    search bound [] target = visit graph start policy (depthBound graph) [] target := by
  -- a trail is not longer than there are sites, so `visit` does not run into its bound either
  have hleast : ∀ trail current, Entered graph start policy target trail current →
      (current :: trail).length ≤ min bound (depthBound graph) :=
    fun trail current hentered => le_min (hbound trail current hentered)
      (hentered.length_le_sites.trans (Nat.le_succ _))
  have hvisit : ∀ depth trail current, Entered graph start policy target trail current →
      visit graph start policy (depth + 1) trail current =
        enter graph start policy (visit graph start policy depth) trail current :=
    fun depth trail current _ => by rw [visit_succ]
  exact agree_of_entered search _ hleast hsearch hvisit bound _ [] target .target
    (Nat.min_le_left ..) (Nat.min_le_right ..)

/-- The search makes its entries as the recursion says, with no bound on the depth. -/
def Recurs (graph : CallGraph) (start : Routine) (policy : HandOffPolicy) (target : Routine)
    (search : List Routine → Routine → Run → Found) : Prop :=
  ∀ trail current, Entered graph start policy target trail current →
    search trail current = enter graph start policy search trail current

/-- With a bound on the depth of all entries the recursion can be followed to its end. -/
theorem exists_recurs {bound : Nat}
    (hbound : ∀ trail current, Entered graph start policy target trail current →
      (current :: trail).length ≤ bound) :
    ∃ search, Recurs graph start policy target search := by
  refine ⟨fun trail => visit graph start policy (bound - trail.length) trail, ?_⟩
  intro trail current hentered
  have hlength := hbound trail current hentered
  rw [List.length_cons] at hlength
  obtain ⟨left, hleft⟩ : ∃ left, bound - trail.length = left + 1 :=
    ⟨bound - trail.length - 1, by omega⟩
  have hnext : bound - (current :: trail).length = left := by
    rw [List.length_cons]
    omega
  dsimp only
  rw [hleft, visit_succ]
  refine enter_congr hentered fun caller _ => ?_
  rw [hnext]

end Search

/-! ## The graph of an index -/

namespace Index

open Search

theorem caller_mem_of_mem_sitesAt {r : Resolver} {names : HandOffNames} {source : SourceModule}
    {s : Python.Spot} {site : CallSite} (hsite : site ∈ r.sitesAt names source s) {caller : Routine}
    (hcaller : site.caller = some caller) : caller ∈ source.routines := by
  unfold Resolver.sitesAt at hsite
  split at hsite
  · cases hsite
  dsimp only at hsite
  split at hsite
  · cases hsite
  obtain ⟨callee, -, rfl⟩ := List.mem_map.mp hsite
  obtain ⟨function, -, hroutine⟩ := Option.bind_eq_some_iff.mp hcaller
  obtain ⟨declared, hdeclared, rfl⟩ := Option.map_eq_some_iff.mp hroutine
  exact List.mem_map_of_mem (List.mem_of_find?_eq_some hdeclared)

theorem isClosed_graph (settings : Settings) (root : Option String) (skipped : List String)
    (modules : List SourceModule) : (ofModules settings root skipped modules).graph.IsClosed := by
  intro caller hcaller
  obtain ⟨site, hsite, hsome⟩ := List.mem_filterMap.mp hcaller
  have hrecorded : site ∈ (ofModules settings root skipped modules).sites :=
    List.mem_mergeSort.mp hsite
  obtain ⟨source, hsource, hin⟩ := List.mem_flatMap.mp hrecorded
  obtain ⟨s, -, hat⟩ := List.mem_flatMap.mp hin
  have hmem : caller ∈ (ofModules settings root skipped modules).routines :=
    List.mem_flatMap.mpr ⟨source, hsource, caller_mem_of_mem_sitesAt hat hsome⟩
  exact List.contains_iff_exists_mem_beq.mpr ⟨caller, hmem, BEq.rfl⟩

/-- For every index, every start and every target of the index: wherever the search enters, the
routine and those on the trail behind it are different routines of the index, so that entries are not
nested more deeply than the index has routines.  Whatever would be done at greater depths, the result
is that of `visit`; and the recursion, with no bound on its depth at all, has this result and no
other.  A path that is returned is shorter than the index has routines. -/
theorem search_depth_bounded (settings : Settings) (root : Option String) (skipped : List String)
    (modules : List SourceModule) (start target : Routine) (policy : HandOffPolicy)
    (htarget : (ofModules settings root skipped modules).contains target = true) :
    let index := ofModules settings root skipped modules
    let result := visit index.graph start policy (depthBound index.graph) [] target
    (∀ trail current, Entered index.graph start policy target trail current →
      (current :: trail).Pairwise (fun a b => (a == b) = false) ∧
      (∀ r ∈ current :: trail, index.contains r = true) ∧
      (current :: trail).length ≤ index.routines.length) ∧
    (∀ beyond, (enter index.graph start policy)^[index.routines.length] beyond [] target = result) ∧
    (∃ search, Recurs index.graph start policy target search) ∧
    (∀ search, Recurs index.graph start policy target search → search [] target = result) ∧
    ∀ run found, (paths index.graph start policy target run).1 = some found →
      ∀ path ∈ found, path.length + 1 ≤ index.routines.length := by
  intro index result
  have hclosed : index.graph.IsClosed := isClosed_graph settings root skipped modules
  have hbound : ∀ trail current, Entered index.graph start policy target trail current →
      (current :: trail).length ≤ index.routines.length :=
    fun trail current hentered => hentered.length_le hclosed htarget
  refine ⟨fun trail current hentered => ⟨hentered.distinct, hentered.contains hclosed htarget,
    hbound trail current hentered⟩, fun beyond => ?_, exists_recurs hbound, fun search hrecurs => ?_, ?_⟩
  · refine eq_visit_of_entered (fun n => (enter index.graph start policy)^[n] beyond) hbound ?_
    intro depth trail current _
    rw [Function.iterate_succ_apply']
  · exact eq_visit_of_entered (fun _ => search) hbound fun _ => hrecurs
  · intro run found hfound path hpath
    exact length_lt_of_mem_paths hclosed htarget hfound hpath

/-- Two functions that call each other, and a third that the second of them calls. -/
def mutualCalls : List (String × String) :=
  [("m.py", "def f():\n    g()\n\ndef g():\n    f()\n    h()\n\ndef h():\n    return 1\n")]

/-- The search enters all three routines behind each other, and the path that it finds is as long as
it may be. -/
theorem search_depth_bounded_of_mutual_calls :
    ∃ start ∈ (ofSources {} none mutualCalls).routines,
      ∃ target ∈ (ofSources {} none mutualCalls).routines,
        (ofSources {} none mutualCalls).routines.length = 3 ∧
        (paths (ofSources {} none mutualCalls).graph start .sever target {}).1 = some [["f", "g"]] ∧
        (∀ trail current,
          Entered (ofSources {} none mutualCalls).graph start .sever target trail current →
            (current :: trail).length ≤ 3) ∧
        ∀ run found,
          (paths (ofSources {} none mutualCalls).graph start .sever target run).1 = some found →
            ∀ path ∈ found, path.length ≤ 2 := by
  have hordered : (ofSources {} none mutualCalls).sites.Pairwise fun a b => a.notAfter b = true := by
    decide +kernel
  have hgraph : (ofSources {} none mutualCalls).graph =
      ⟨(ofSources {} none mutualCalls).routines, (ofSources {} none mutualCalls).sites⟩ := by
    rw [graph, CallSite.sort, List.mergeSort_of_pairwise hordered]
  have hfacts : ∃ start ∈ (ofSources {} none mutualCalls).routines,
      ∃ target ∈ (ofSources {} none mutualCalls).routines,
        (ofSources {} none mutualCalls).contains target = true ∧
        (ofSources {} none mutualCalls).routines.length = 3 ∧
        (paths ⟨(ofSources {} none mutualCalls).routines, (ofSources {} none mutualCalls).sites⟩ start
          .sever target {}).1 = some [["f", "g"]] := by
    decide +kernel
  obtain ⟨start, hstart, target, htarget, hcontains, hlength, hpaths⟩ := hfacts
  obtain ⟨hentered, -, -, -, hfound⟩ := search_depth_bounded {} none _ _ start target .sever hcontains
  refine ⟨start, hstart, target, htarget, hlength, hgraph ▸ hpaths, fun trail current hplace => ?_,
    fun run found hsome path hpath => ?_⟩
  · exact hlength ▸ (hentered trail current hplace).2.2
  · have hshort : path.length + 1 ≤ (ofSources {} none mutualCalls).routines.length :=
      hfound run found hsome path hpath
    rw [hlength] at hshort
    exact Nat.le_of_succ_le_succ hshort

end Index

end CallChain
