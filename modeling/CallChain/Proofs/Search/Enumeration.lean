import CallChain.Proofs.Occurrences
import CallChain.Proofs.Search.Course
import Mathlib.Data.List.Chain
import Mathlib.Data.List.Perm.Subperm

/-!
# A search finds exactly the simple chains

A way leads from a routine back to the start: each routine on it is a caller of the one before, by
a site that the policy lets through, and no routine is on it twice.  A chain is simple if it is
such a way for the target, read the other way round and without the target itself.

The arrivals of a course are compared with the ways in `mem_arrivals_course`, by induction on the
depth: the ways from a routine that avoid the trail and fit into the depth are, one step further,
the ways from its callers that avoid the routine as well.  The start needs no special care: a way
that is already there cannot go on, since it would end at the start a second time.  The bound on
the depth is harmless because the routines on a way, the first one apart, are callers of different
sites (`IsWay.length_le`).

Nothing here looks at a run; `Course.lean` has separated that part.
-/

namespace CallChain

/-! ## The sites that a policy lets through -/

/-- The sites that are followed when their callee is expanded. -/
def HandOffPolicy.admitted (policy : HandOffPolicy) (sites : List CallSite) : List CallSite :=
  match policy with
  | .skip => sites.filter fun site => !site.handedOff
  | .sever => sites.takeWhile fun site => !site.handedOff

/-- The callers from which a routine is entered, one for each site that is followed. -/
def CallGraph.callers (graph : CallGraph) (policy : HandOffPolicy) (callee : Routine) :
    List Routine :=
  (policy.admitted (graph.sitesOf callee)).filterMap CallSite.caller

theorem HandOffPolicy.admitted_sublist (policy : HandOffPolicy) (sites : List CallSite) :
    (policy.admitted sites).Sublist sites := by
  cases policy with
  | sever => exact List.takeWhile_sublist _
  | skip => exact List.filter_sublist

/-- Different routines that all occur in a list are not more than the list has. -/
theorem Routine.length_le_of_distinct {few many : List Routine}
    (hdistinct : few.Pairwise fun a b => (a == b) = false)
    (hcontained : ∀ r ∈ few, many.contains r = true) : few.length ≤ many.length := by
  have hnodup : (few.map Routine.key).Nodup :=
    List.pairwise_map.mpr (hdistinct.imp fun hne => Routine.beq_false_iff.mp hne)
  have hsubset : few.map Routine.key ⊆ many.map Routine.key := by
    intro key hkey
    obtain ⟨r, hr, rfl⟩ := List.mem_map.mp hkey
    obtain ⟨s, hs, heq⟩ := List.contains_iff_exists_mem_beq.mp (hcontained r hr)
    exact List.mem_map.mpr ⟨s, hs, (Routine.beq_iff.mp heq).symm⟩
  calc few.length = (few.map Routine.key).length := (List.length_map ..).symm
    _ ≤ (many.map Routine.key).length := (List.subperm_of_subset hnodup hsubset).length_le
    _ = many.length := List.length_map ..

namespace CallGraph

variable {graph : CallGraph} {policy : HandOffPolicy}

theorem sitesOf_congr {a b : Routine} (heq : (a == b) = true) :
    graph.sitesOf a = graph.sitesOf b := by
  have hkey : a.key = b.key := Routine.beq_iff.mp heq
  unfold sitesOf
  congr 1
  funext site
  change (site.callee.key == a.key) = (site.callee.key == b.key)
  rw [hkey]

/-- Equal routines have the same callers. -/
theorem callers_congr {a b : Routine} (heq : (a == b) = true) :
    graph.callers policy a = graph.callers policy b := by
  unfold callers
  rw [sitesOf_congr heq]

/-- Every caller is one of a site of the graph. -/
theorem mem_callers_of_graph {callee caller : Routine}
    (hcaller : caller ∈ graph.callers policy callee) :
    caller ∈ graph.sites.filterMap CallSite.caller := by
  have hsites : (policy.admitted (graph.sitesOf callee)).Sublist graph.sites :=
    (policy.admitted_sublist _).trans List.filter_sublist
  exact (hsites.filterMap CallSite.caller).subset hcaller

/-- Different routines that are all callers are not more than there are sites. -/
theorem length_le_of_callers {few : List Routine}
    (hdistinct : few.Pairwise fun a b => (a == b) = false)
    (hcallers : ∀ r ∈ few, r ∈ graph.sites.filterMap CallSite.caller) :
    few.length ≤ graph.sites.length := by
  have hcontained : ∀ r ∈ few, (graph.sites.filterMap CallSite.caller).contains r = true :=
    fun r hr => List.contains_iff_exists_mem_beq.mpr ⟨r, hcallers r hr, BEq.rfl⟩
  exact (Routine.length_le_of_distinct hdistinct hcontained).trans (List.length_filterMap_le ..)

end CallGraph

/-! ## Ways and simple chains -/

/-- A list of routines that leads back to the start, each a caller of the one before it and none
twice. -/
structure IsWay (graph : CallGraph) (start : Routine) (policy : HandOffPolicy)
    (way : List Routine) : Prop where
  linked : way.IsChain fun callee caller => caller ∈ graph.callers policy callee
  distinct : way.Pairwise fun a b => (a == b) = false
  anchored : ∃ last, way.getLast? = some last ∧ (last == start) = true

/-- A chain of calls from the start to the target, the target left out, on which no routine occurs
twice. -/
def IsSimpleChain (graph : CallGraph) (start : Routine) (policy : HandOffPolicy) (target : Routine)
    (chain : Chain) : Prop :=
  IsWay graph start policy (target :: chain.reverse)

namespace IsWay

variable {graph : CallGraph} {start : Routine} {policy : HandOffPolicy}

theorem singleton_iff {r : Routine} : IsWay graph start policy [r] ↔ (r == start) = true := by
  constructor
  · rintro ⟨_, _, last, hlast, hstart⟩
    rw [List.getLast?_singleton, Option.some.injEq] at hlast
    rwa [hlast]
  · intro hstart
    exact ⟨List.IsChain.singleton r, List.pairwise_singleton _ r, r, rfl, hstart⟩

theorem cons_cons_iff {callee caller : Routine} {rest : List Routine} :
    IsWay graph start policy (callee :: caller :: rest) ↔
      caller ∈ graph.callers policy callee ∧ (∀ r ∈ caller :: rest, (callee == r) = false) ∧
        IsWay graph start policy (caller :: rest) := by
  constructor
  · rintro ⟨hlinked, hdistinct, hanchored⟩
    rw [List.isChain_cons_cons] at hlinked
    rw [List.pairwise_cons] at hdistinct
    rw [List.getLast?_cons_cons] at hanchored
    exact ⟨hlinked.1, hdistinct.1, hlinked.2, hdistinct.2, hanchored⟩
  · rintro ⟨hcaller, hfresh, hlinked, hdistinct, hanchored⟩
    refine ⟨List.isChain_cons_cons.mpr ⟨hcaller, hlinked⟩,
      List.pairwise_cons.mpr ⟨hfresh, hdistinct⟩, ?_⟩
    rwa [List.getLast?_cons_cons]

/-- A way avoids a trail exactly if what follows its first routine avoids the trail that is longer
by this routine. -/
theorem avoids_cons_cons_iff {trail : List Routine} {callee caller : Routine}
    {rest : List Routine} :
    (IsWay graph start policy (callee :: caller :: rest) ∧
      ∀ r ∈ callee :: caller :: rest, trail.contains r = false) ↔
    caller ∈ graph.callers policy callee ∧ trail.contains callee = false ∧
      IsWay graph start policy (caller :: rest) ∧
      ∀ r ∈ caller :: rest, (callee :: trail).contains r = false := by
  rw [cons_cons_iff, List.forall_mem_cons (a := callee)]
  constructor
  · rintro ⟨⟨hcaller, hfresh, hrest⟩, htrail, havoid⟩
    refine ⟨hcaller, htrail, hrest, fun r hr => ?_⟩
    rw [List.contains_cons, Bool.or_eq_false_iff]
    exact ⟨BEq.comm.trans (hfresh r hr), havoid r hr⟩
  · rintro ⟨hcaller, htrail, hrest, havoid⟩
    have hboth : ∀ r ∈ caller :: rest, (callee == r) = false ∧ trail.contains r = false := by
      intro r hr
      have hr' := havoid r hr
      rw [List.contains_cons, Bool.or_eq_false_iff] at hr'
      exact ⟨BEq.comm.trans hr'.1, hr'.2⟩
    exact ⟨⟨hcaller, fun r hr => (hboth r hr).1, hrest⟩, htrail, fun r hr => (hboth r hr).2⟩

/-- A way that begins at the start ends there. -/
theorem eq_nil_of_start {r : Routine} {rest : List Routine}
    (hway : IsWay graph start policy (r :: rest)) (hstart : (r == start) = true) : rest = [] := by
  cases rest with
  | nil => rfl
  | cons caller others =>
      obtain ⟨_, hfresh, hrest⟩ := cons_cons_iff.mp hway
      obtain ⟨last, hlast, hend⟩ := hrest.anchored
      have hne : (r == last) = false := hfresh last (List.mem_of_getLast? hlast)
      rw [BEq.trans hstart (BEq.symm hend)] at hne
      cases hne

/-- The routines of a way behind the first are callers of sites. -/
theorem mem_callers {r : Routine} {rest : List Routine}
    (hway : IsWay graph start policy (r :: rest)) :
    ∀ caller ∈ rest, caller ∈ graph.sites.filterMap CallSite.caller := by
  induction rest generalizing r with
  | nil => simp
  | cons next others ih =>
      obtain ⟨hnext, _, hrest⟩ := cons_cons_iff.mp hway
      intro caller hcaller
      rcases List.mem_cons.mp hcaller with rfl | hcaller
      · exact CallGraph.mem_callers_of_graph hnext
      · exact ih hrest caller hcaller

/-- A way is not longer than there are sites, its first routine apart. -/
theorem length_le {r : Routine} {rest : List Routine}
    (hway : IsWay graph start policy (r :: rest)) :
    rest.length ≤ graph.sites.length :=
  CallGraph.length_le_of_callers (List.pairwise_cons.mp hway.distinct).2 hway.mem_callers

end IsWay

namespace Search

/-! ## The arrivals of a course are the ends of ways -/

/-- What is picked from the events along the sites, unless from their hand-offs, is what is picked for
the callers of the sites that are followed. -/
theorem filterMap_siteCourse {α : Type} {pick : Event → Option α}
    (hpick : ∀ site r, pick (.handOff site r) = none) (policy : HandOffPolicy)
    (branch : Routine → List Event) (current : Routine) (sites : List CallSite) :
    (siteCourse policy branch current sites).filterMap pick =
      ((policy.admitted sites).filterMap CallSite.caller).flatMap fun caller =>
        (branch caller).filterMap pick := by
  induction sites with
  | nil => cases policy <;> rfl
  | cons site rest ih =>
      rw [siteCourse]
      by_cases hoff : site.handedOff = true
      · rw [if_pos hoff, List.filterMap_cons_none (hpick site current)]
        cases policy with
        | sever => simp [HandOffPolicy.admitted, hoff]
        | skip =>
            rw [if_neg (by simp), ih]
            simp [HandOffPolicy.admitted, hoff]
      · rw [if_neg hoff, List.filterMap_append, ih]
        cases policy <;> cases hcaller : site.caller <;>
          simp [HandOffPolicy.admitted, hoff, hcaller]

/-- What a course arrives at behind a routine that is neither on the trail nor the start. -/
theorem arrivals_course_succ {graph : CallGraph} {start : Routine} {policy : HandOffPolicy}
    {trail : List Routine} {current : Routine} (htrail : trail.contains current = false)
    (hstart : (current == start) = false) (depth : Nat) :
    arrivals (course graph start policy (depth + 1) trail current) =
      (graph.callers policy current).flatMap fun caller =>
        arrivals (course graph start policy depth (current :: trail) caller) := by
  rw [course, htrail, hstart]
  exact filterMap_siteCourse (fun _ _ => rfl) policy _ current _

theorem mem_arrivals_course (graph : CallGraph) (start : Routine) (policy : HandOffPolicy) :
    ∀ (depth : Nat) (trail : List Routine) (current : Routine) (chain : Chain),
      chain ∈ arrivals (course graph start policy depth trail current) ↔
        ∃ rest, IsWay graph start policy (current :: rest) ∧
          (∀ r ∈ current :: rest, trail.contains r = false) ∧ rest.length < depth ∧
          chain = (rest.reverse ++ current :: trail).dropLast := by
  intro depth
  induction depth with
  | zero => simp [course]
  | succ depth ih =>
      intro trail current chain
      cases htrail : trail.contains current with
      | true =>
          rw [course_of_contains htrail, arrivals_nil]
          refine iff_of_false List.not_mem_nil ?_
          rintro ⟨rest, _, havoid, _⟩
          have hcurrent := havoid current (List.mem_cons_self ..)
          rw [htrail] at hcurrent
          cases hcurrent
      | false =>
          cases hstart : current == start with
          | true =>
              have hcourse : arrivals (course graph start policy (depth + 1) trail current) =
                  [(current :: trail).dropLast] := by
                rw [course, htrail, hstart]
                rfl
              rw [hcourse, List.mem_singleton]
              constructor
              · rintro rfl
                exact ⟨[], IsWay.singleton_iff.mpr hstart, by simpa using htrail, by simp, rfl⟩
              · rintro ⟨rest, hway, _, _, rfl⟩
                rw [hway.eq_nil_of_start hstart]
                rfl
          | false =>
              rw [arrivals_course_succ htrail hstart, List.mem_flatMap]
              constructor
              · rintro ⟨caller, hcaller, hchain⟩
                obtain ⟨rest, hway, havoid, hlength, rfl⟩ := (ih _ _ _).mp hchain
                obtain ⟨hlonger, havoid'⟩ :=
                  IsWay.avoids_cons_cons_iff.mpr ⟨hcaller, htrail, hway, havoid⟩
                exact ⟨caller :: rest, hlonger, havoid', by simpa using hlength, by simp⟩
              · rintro ⟨rest, hway, havoid, hlength, rfl⟩
                cases rest with
                | nil =>
                    rw [IsWay.singleton_iff.mp hway] at hstart
                    cases hstart
                | cons caller rest =>
                    obtain ⟨hcaller, _, hrest, havoid'⟩ :=
                      IsWay.avoids_cons_cons_iff.mp ⟨hway, havoid⟩
                    exact ⟨caller, hcaller,
                      (ih _ _ _).mpr ⟨rest, hrest, havoid', by simpa using hlength, by simp⟩⟩

/-- A whole search arrives exactly at the simple chains. -/
theorem mem_arrivals_courseTo {graph : CallGraph} {start : Routine} {policy : HandOffPolicy}
    {target : Routine} {chain : Chain} :
    chain ∈ arrivals (courseTo graph start policy target) ↔
      IsSimpleChain graph start policy target chain := by
  change chain ∈ arrivals (course graph start policy (depthBound graph) [] target) ↔ _
  rw [mem_arrivals_course]
  constructor
  · rintro ⟨rest, hway, _, _, rfl⟩
    simpa [IsSimpleChain] using hway
  · intro hway
    have hlength := hway.length_le
    refine ⟨chain.reverse, hway, by simp, ?_, by simp⟩
    unfold depthBound
    omega

/-! ## What is kept -/

/-- A search keeps the first of equal arrivals, unless a poll stops it. -/
theorem chains_eq_some_iff {graph : CallGraph} {start : Routine} {policy : HandOffPolicy}
    {target : Routine} {run : Run} {kept : List Chain} :
    (chains graph start policy target run).1 = some kept ↔
      ¬ Run.SeesCancelled (courseTo graph start policy target) run ∧
        kept = firstOccurrences (arrivals (courseTo graph start policy target)) := by
  rw [chains_eq, ← Run.play_stopped_iff]
  cases hplay : (Run.play (courseTo graph start policy target) run).1 with
  | true => simp
  | false => simp [eq_comm]

theorem paths_fst (graph : CallGraph) (start : Routine) (policy : HandOffPolicy) (target : Routine)
    (run : Run) :
    (paths graph start policy target run).1 =
      (chains graph start policy target run).1.map nameChains := rfl

theorem not_seesCancelled_of_token_none (events : List Event) {run : Run}
    (htoken : run.token = none) :
    ¬ Run.SeesCancelled events run := by
  rw [← Run.play_stopped_iff, Run.not_stopped_of_token_none events htoken]
  exact Bool.false_ne_true

/-- Unless a poll sees its token cancelled, a search finds the simple chains and nothing else, and
of those that are equal it keeps one. -/
theorem finds_exactly_the_simple_chains (graph : CallGraph) (start target : Routine)
    (policy : HandOffPolicy) (run : Run)
    (hquiet : ¬ Run.SeesCancelled (courseTo graph start policy target) run) :
    ∃ found kept,
      (visit graph start policy (depthBound graph) [] target { run with expanded := 0 }).1 =
        some found ∧
      (∀ chain, chain ∈ found ↔ IsSimpleChain graph start policy target chain) ∧
      (chains graph start policy target run).1 = some kept ∧
      (paths graph start policy target run).1 = some (nameChains kept) ∧
      (∀ chain ∈ kept, IsSimpleChain graph start policy target chain) ∧
      ∀ chain, IsSimpleChain graph start policy target chain → kept.countP (· == chain) = 1 := by
  have hkept : (chains graph start policy target run).1 =
      some (firstOccurrences (arrivals (courseTo graph start policy target))) :=
    chains_eq_some_iff.mpr ⟨hquiet, rfl⟩
  rw [← Run.play_stopped_iff, Bool.not_eq_true] at hquiet
  refine ⟨arrivals (courseTo graph start policy target), _, ?_, fun _ => mem_arrivals_courseTo,
    hkept, ?_, ?_, ?_⟩
  · have hplay : (Run.play (course graph start policy (depthBound graph) [] target)
        { run with expanded := 0 }).1 = false := hquiet
    rw [visit_eq_settle, settle, hplay]
    rfl
  · rw [paths_fst, hkept]
    rfl
  · intro chain hchain
    exact mem_arrivals_courseTo.mp ((firstOccurrences_sublist _).subset hchain)
  · intro chain hchain
    exact countP_firstOccurrences (mem_arrivals_courseTo.mpr hchain)

/-! ### A graph with a cycle, repeated sites and a hand-off -/

/-- A routine of a small module. -/
def sampleRoutine (name : String) (line : Int) : Routine :=
  { name, qualname := name, moduleName := "m", file := "m.py", line, endLine := line }

/-- A call of one routine in another. -/
def sampleSite (callee caller : Routine) (handedOff : Bool) : CallSite :=
  { callee, caller := some caller, file := "m.py", line := 1, column := 0, kind := .call
    expression := .ok callee.name, handedOff }

/-- `work` is called twice in `left`, once in `right` and, by way of a thread, in `main`; `left` and
`right` call each other, and `main` calls both. -/
def sampleGraph : CallGraph :=
  let main := sampleRoutine "main" 1
  let left := sampleRoutine "left" 5
  let right := sampleRoutine "right" 9
  let work := sampleRoutine "work" 13
  { routines := [main, left, right, work]
    sites := [sampleSite work left false, sampleSite work left false, sampleSite work main true,
      sampleSite work right false, sampleSite left right false, sampleSite right left false,
      sampleSite left main false, sampleSite right main false] }

theorem finds_exactly_the_simple_chains_of_sample :
    ∃ found kept,
      (visit sampleGraph (sampleRoutine "main" 1) .skip (depthBound sampleGraph) []
        (sampleRoutine "work" 13) { expanded := 0 }).1 = some found ∧
      (∀ chain, chain ∈ found ↔
        IsSimpleChain sampleGraph (sampleRoutine "main" 1) .skip (sampleRoutine "work" 13) chain) ∧
      (chains sampleGraph (sampleRoutine "main" 1) .skip (sampleRoutine "work" 13) {}).1 =
        some kept ∧
      (paths sampleGraph (sampleRoutine "main" 1) .skip (sampleRoutine "work" 13) {}).1 =
        some (nameChains kept) ∧
      (∀ chain ∈ kept,
        IsSimpleChain sampleGraph (sampleRoutine "main" 1) .skip (sampleRoutine "work" 13) chain) ∧
      ∀ chain,
        IsSimpleChain sampleGraph (sampleRoutine "main" 1) .skip (sampleRoutine "work" 13) chain →
          kept.countP (· == chain) = 1 :=
  finds_exactly_the_simple_chains sampleGraph (sampleRoutine "main" 1) (sampleRoutine "work" 13)
    .skip {} (not_seesCancelled_of_token_none _ rfl)

example : (paths sampleGraph (sampleRoutine "main" 1) .skip (sampleRoutine "work" 13) {}).1 =
    some [["main", "right", "left"], ["main", "left"], ["main", "left", "right"],
      ["main", "right"]] := by
  decide +kernel

example : (paths sampleGraph (sampleRoutine "main" 1) .sever (sampleRoutine "work" 13) {}).1 =
    some [["main", "right", "left"], ["main", "left"]] := by
  decide +kernel

end Search

end CallChain
