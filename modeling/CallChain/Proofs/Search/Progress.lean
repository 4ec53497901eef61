import CallChain.Proofs.Search.Cancellation
import Mathlib.Data.List.Forall2

/-!
# What a search reports is its search tree

A search reports every routine that it expands, with a running number.  The same routine may be
expanded many times, once for each walk that leads to it.  A walk is given by positions: from a routine
one goes to the caller of the site at the first position among those that are followed, from there on
by the second position, and so on.  So walks by different sites are different, even if the sites have
the same caller, and a walk is open if it comes to no routine twice and not to the start.

`walksFrom` lists the open walks as the search meets them, each with the routine it ends at.  Three
facts about it are proved apart, each by induction on the depth: its walks are the open ones
(`mem_walksFrom`), they stand in lexicographic order, which is the preorder of a tree
(`pairwise_walksFrom`), and their ends are what the course of the search expands (`expansions_course`).
That the numbers count up from one is a matter of the events alone (`Run.counts_foldl_after`), and
begins anew with every search.
-/

namespace CallChain

open Search (Event)

/-! ## Walks by positions -/

namespace CallGraph

/-- The routines on a walk back from a routine, which goes each time to the caller of the site at the
next position among the sites that are followed. -/
def walk? (graph : CallGraph) (policy : HandOffPolicy) : Routine → List Nat → Option (List Routine)
  | r, [] => some [r]
  | r, position :: rest =>
    ((policy.admitted (graph.sitesOf r))[position]?.bind CallSite.caller).bind fun caller =>
      (graph.walk? policy caller rest).map (r :: ·)

/-- The last routine on a walk. -/
def walkEnd? (graph : CallGraph) (policy : HandOffPolicy) (r : Routine) (walk : List Nat) :
    Option Routine :=
  (graph.walk? policy r walk).bind List.getLast?

variable {graph : CallGraph} {policy : HandOffPolicy}

theorem walk?_cons_eq_some_iff {r : Routine} {position : Nat} {rest : List Nat}
    {routines : List Routine} :
    graph.walk? policy r (position :: rest) = some routines ↔
      ∃ site caller others, (policy.admitted (graph.sitesOf r))[position]? = some site ∧
        site.caller = some caller ∧ graph.walk? policy caller rest = some others ∧
        routines = r :: others := by
  rw [walk?, Option.bind_eq_some_iff]
  constructor
  · rintro ⟨caller, hcaller, hrest⟩
    obtain ⟨site, hsite, hcaller⟩ := Option.bind_eq_some_iff.mp hcaller
    obtain ⟨others, hothers, rfl⟩ := Option.map_eq_some_iff.mp hrest
    exact ⟨site, caller, others, hsite, hcaller, hothers, rfl⟩
  · rintro ⟨site, caller, others, hsite, hcaller, hothers, rfl⟩
    exact ⟨caller, Option.bind_eq_some_iff.mpr ⟨site, hsite, hcaller⟩,
      Option.map_eq_some_iff.mpr ⟨others, hothers, rfl⟩⟩

/-- A walk comes to one routine more than it has positions.  The first is the one it begins at, and
the others are callers of sites. -/
theorem shape_of_walk? {r : Routine} {walk : List Nat} {routines : List Routine}
    (hwalk : graph.walk? policy r walk = some routines) :
    ∃ others, routines = r :: others ∧ others.length = walk.length ∧
      ∀ caller ∈ others, caller ∈ graph.sites.filterMap CallSite.caller := by
  induction walk generalizing r routines with
  | nil =>
      obtain rfl := Option.some.inj hwalk
      exact ⟨[], rfl, rfl, fun _ h => nomatch h⟩
  | cons position rest ih =>
      obtain ⟨site, caller, tail, hsite, hcaller, htail, rfl⟩ := walk?_cons_eq_some_iff.mp hwalk
      obtain ⟨others, rfl, hlength, hcallers⟩ := ih htail
      refine ⟨caller :: others, rfl, by simp [hlength], List.forall_mem_cons.mpr ⟨?_, hcallers⟩⟩
      have hmem : caller ∈ graph.callers policy r :=
        List.mem_filterMap.mpr ⟨site, List.mem_of_getElem? hsite, hcaller⟩
      exact mem_callers_of_graph hmem

end CallGraph

/-- A walk back from the target that comes to no routine twice and not to the start. -/
def IsOpenWalk (graph : CallGraph) (start : Routine) (policy : HandOffPolicy) (target : Routine)
    (walk : List Nat) : Prop :=
  ∃ routines, graph.walk? policy target walk = some routines ∧
    routines.Pairwise (fun a b => (a == b) = false) ∧ ∀ r ∈ routines, (r == start) = false

namespace Search

/-! ## The open walks in the order of the search -/

/-- The open walks from a routine that avoid a trail, each with its end: first the one that stays, then
those through the first site, through the second and so on. -/
def walksFrom (graph : CallGraph) (start : Routine) (policy : HandOffPolicy) :
    Nat → List Routine → Routine → List (List Nat × Routine)
  | 0, _, _ => []
  | depth + 1, trail, current =>
    if trail.contains current || current == start then []
    else ([], current) :: (policy.admitted (graph.sitesOf current)).zipIdx.flatMap fun (site, position) =>
      (site.caller.toList.flatMap (walksFrom graph start policy depth (current :: trail))).map
        fun (walk, last) => (position :: walk, last)

variable {graph : CallGraph} {start : Routine} {policy : HandOffPolicy}

/-- Either an entry stops at once or it goes on to the sites. -/
theorem stops_or_goes_on (start : Routine) (trail : List Routine) (current : Routine) :
    (trail.contains current = true ∨ (current == start) = true) ∨
      trail.contains current = false ∧ (current == start) = false := by
  cases trail.contains current <;> cases current == start <;> simp

theorem walksFrom_of_stop {trail : List Routine} {current : Routine}
    (hstop : trail.contains current = true ∨ (current == start) = true) (depth : Nat) :
    walksFrom graph start policy depth trail current = [] := by
  cases depth with
  | zero => rfl
  | succ depth =>
      rw [walksFrom, if_pos]
      rwa [Bool.or_eq_true]

theorem walksFrom_succ {trail : List Routine} {current : Routine}
    (htrail : trail.contains current = false) (hstart : (current == start) = false) (depth : Nat) :
    walksFrom graph start policy (depth + 1) trail current =
      ([], current) :: (policy.admitted (graph.sitesOf current)).zipIdx.flatMap fun (site, position) =>
        (site.caller.toList.flatMap (walksFrom graph start policy depth (current :: trail))).map
          fun (walk, last) => (position :: walk, last) := by
  rw [walksFrom, htrail, hstart]
  rfl

/-- A walk through a site goes on from its caller. -/
theorem cons_mem_walksFrom_iff {trail : List Routine} {current : Routine}
    (htrail : trail.contains current = false) (hstart : (current == start) = false) {depth : Nat}
    {position : Nat} {rest : List Nat} {last : Routine} :
    (position :: rest, last) ∈ walksFrom graph start policy (depth + 1) trail current ↔
      ∃ site caller, (policy.admitted (graph.sitesOf current))[position]? = some site ∧
        site.caller = some caller ∧
        (rest, last) ∈ walksFrom graph start policy depth (current :: trail) caller := by
  rw [walksFrom_succ htrail hstart, List.mem_cons, List.mem_flatMap]
  constructor
  · rintro (hnil | ⟨⟨site, i⟩, hsite, hwalk⟩)
    · cases hnil
    · obtain ⟨⟨walk, last'⟩, hwalk, hsame⟩ := List.mem_map.mp hwalk
      cases hsame
      obtain ⟨caller, hcaller, hwalk⟩ := List.mem_flatMap.mp hwalk
      exact ⟨site, caller, List.mem_zipIdx_iff_getElem?.mp hsite, Option.mem_toList.mp hcaller, hwalk⟩
  · rintro ⟨site, caller, hsite, hcaller, hwalk⟩
    refine Or.inr ⟨(site, position), List.mem_zipIdx_iff_getElem?.mpr hsite, ?_⟩
    exact List.mem_map.mpr ⟨(rest, last),
      List.mem_flatMap.mpr ⟨caller, Option.mem_toList.mpr hcaller, hwalk⟩, rfl⟩

/-- The routines are different, and none of them is on the trail or the start. -/
structure Fresh (start : Routine) (trail routines : List Routine) : Prop where
  distinct : routines.Pairwise fun a b => (a == b) = false
  avoids : ∀ r ∈ routines, trail.contains r = false ∧ (r == start) = false

/-- What comes after a routine must avoid a trail that is longer by it. -/
theorem fresh_cons_iff {trail routines : List Routine} {current : Routine} :
    Fresh start trail (current :: routines) ↔
      (trail.contains current = false ∧ (current == start) = false) ∧
        Fresh start (current :: trail) routines := by
  have hcontains : ∀ r, (current :: trail).contains r = false ↔
      (current == r) = false ∧ trail.contains r = false := by
    intro r
    rw [List.contains_cons, Bool.or_eq_false_iff, BEq.comm]
  constructor
  · rintro ⟨hdistinct, havoids⟩
    obtain ⟨hother, hdistinct⟩ := List.pairwise_cons.mp hdistinct
    obtain ⟨hcurrent, havoids⟩ := List.forall_mem_cons.mp havoids
    refine ⟨hcurrent, hdistinct, fun r hr => ⟨?_, (havoids r hr).2⟩⟩
    exact (hcontains r).mpr ⟨hother r hr, (havoids r hr).1⟩
  · rintro ⟨hcurrent, hdistinct, havoids⟩
    refine ⟨List.pairwise_cons.mpr ⟨fun r hr => ?_, hdistinct⟩,
      List.forall_mem_cons.mpr ⟨hcurrent, fun r hr => ⟨?_, (havoids r hr).2⟩⟩⟩
    · exact ((hcontains r).mp (havoids r hr).1).1
    · exact ((hcontains r).mp (havoids r hr).1).2

/-- The walks that are listed are those that fit into the depth and come to fresh routines only. -/
theorem mem_walksFrom {depth : Nat} {trail : List Routine} {current last : Routine}
    {walk : List Nat} :
    (walk, last) ∈ walksFrom graph start policy depth trail current ↔
      ∃ routines, graph.walk? policy current walk = some routines ∧ routines.getLast? = some last ∧
        Fresh start trail routines ∧ walk.length < depth := by
  induction depth generalizing trail current walk with
  | zero => simp [walksFrom]
  | succ depth ih =>
      rcases stops_or_goes_on start trail current with hstop | ⟨htrail, hstart⟩
      · rw [walksFrom_of_stop hstop]
        refine iff_of_false List.not_mem_nil ?_
        rintro ⟨routines, hwalk, -, hfresh, -⟩
        obtain ⟨others, rfl, -⟩ := CallGraph.shape_of_walk? hwalk
        obtain ⟨⟨htrail, hstart⟩, -⟩ := fresh_cons_iff.mp hfresh
        rw [htrail, hstart] at hstop
        simp at hstop
      · cases walk with
        | nil =>
            have hstays : ([], last) ∈ walksFrom graph start policy (depth + 1) trail current ↔
                last = current := by
              rw [walksFrom_succ htrail hstart]
              simp
            rw [hstays]
            constructor
            · rintro rfl
              refine ⟨[last], rfl, rfl, fresh_cons_iff.mpr ⟨⟨htrail, hstart⟩, ?_⟩, Nat.succ_pos _⟩
              exact ⟨List.Pairwise.nil, fun _ h => nomatch h⟩
            · rintro ⟨routines, hwalk, hlast, -⟩
              obtain rfl := Option.some.inj hwalk
              exact (Option.some.inj hlast).symm
        | cons position rest =>
            rw [cons_mem_walksFrom_iff htrail hstart]
            simp only [CallGraph.walk?_cons_eq_some_iff, ih]
            constructor
            · rintro ⟨site, caller, hsite, hcaller, others, hothers, hlast, hfresh, hlength⟩
              obtain ⟨tail, rfl, -⟩ := CallGraph.shape_of_walk? hothers
              refine ⟨_, ⟨site, caller, _, hsite, hcaller, hothers, rfl⟩, ?_,
                fresh_cons_iff.mpr ⟨⟨htrail, hstart⟩, hfresh⟩, Nat.succ_lt_succ hlength⟩
              rwa [List.getLast?_cons_cons]
            · rintro ⟨routines, ⟨site, caller, others, hsite, hcaller, hothers, rfl⟩, hlast, hfresh,
                hlength⟩
              obtain ⟨tail, rfl, -⟩ := CallGraph.shape_of_walk? hothers
              refine ⟨site, caller, hsite, hcaller, _, hothers, ?_, (fresh_cons_iff.mp hfresh).2,
                Nat.lt_of_succ_lt_succ hlength⟩
              rwa [List.getLast?_cons_cons] at hlast

/-- A walk is listed before those that go on from it, and these by the sites at which they part. -/
theorem pairwise_walksFrom (depth : Nat) (trail : List Routine) (current : Routine) :
    (walksFrom graph start policy depth trail current).Pairwise fun walk later =>
      walk.1 < later.1 := by
  induction depth generalizing trail current with
  | zero => exact List.Pairwise.nil
  | succ depth ih =>
      rcases stops_or_goes_on start trail current with hstop | ⟨htrail, hstart⟩
      · rw [walksFrom_of_stop hstop]
        exact List.Pairwise.nil
      · rw [walksFrom_succ htrail hstart, List.pairwise_cons, List.pairwise_flatMap]
        refine ⟨fun later hlater => ?_, fun (site, position) _ => ?_, ?_⟩
        · obtain ⟨_, _, hlater⟩ := List.mem_flatMap.mp hlater
          obtain ⟨_, _, rfl⟩ := List.mem_map.mp hlater
          exact List.nil_lt_cons ..
        · rw [List.pairwise_map]
          cases site.caller with
          | none => exact List.Pairwise.nil
          | some caller =>
              rw [Option.toList_some, List.flatMap_singleton]
              exact (ih (current :: trail) caller).imp List.cons_lt_cons_self.mpr
        · -- walks through different sites part at once
          have hpositions :
              (policy.admitted (graph.sitesOf current)).zipIdx.Pairwise fun a b => a.2 < b.2 := by
            rw [← List.pairwise_map (f := Prod.snd), List.zipIdx_map_snd]
            exact List.pairwise_lt_range'
          refine hpositions.imp fun {a b} hlt walk hwalk later hlater => ?_
          obtain ⟨_, _, rfl⟩ := List.mem_map.mp hwalk
          obtain ⟨_, _, rfl⟩ := List.mem_map.mp hlater
          exact List.cons_lt_cons_iff.mpr (Or.inl hlt)

/-! ## What a course expands -/

/-- The routines that are expanded along the events. -/
def expansions (events : List Event) : List Routine :=
  events.filterMap fun
    | .expand r => some r
    | _ => none

/-- A course expands the ends of the open walks, in their order. -/
theorem expansions_course (depth : Nat) (trail : List Routine) (current : Routine) :
    expansions (course graph start policy depth trail current) =
      (walksFrom graph start policy depth trail current).map Prod.snd := by
  induction depth generalizing trail current with
  | zero => rfl
  | succ depth ih =>
      rcases stops_or_goes_on start trail current with hstop | ⟨htrail, hstart⟩
      · rw [walksFrom_of_stop hstop, course]
        rcases hstop with htrail | hstart
        · rw [if_pos htrail]
          rfl
        · rw [hstart]
          split <;> rfl
      · let ends := fun caller =>
          (walksFrom graph start policy depth (current :: trail) caller).map Prod.snd
        have hcourse : expansions (course graph start policy (depth + 1) trail current) =
            current :: (policy.admitted (graph.sitesOf current)).flatMap fun site =>
              site.caller.toList.flatMap ends := by
          rw [course, htrail, hstart, ← List.flatMap_assoc, ← List.filterMap_eq_flatMap_toList]
          refine congrArg (current :: ·) ?_
          exact (filterMap_siteCourse (fun _ _ => rfl) policy _ current _).trans
            (List.flatMap_congr fun caller _ => ih (current :: trail) caller)
        have hwalks : (walksFrom graph start policy (depth + 1) trail current).map Prod.snd =
            current :: (policy.admitted (graph.sitesOf current)).zipIdx.flatMap fun numbered =>
              numbered.1.caller.toList.flatMap ends := by
          rw [walksFrom_succ htrail hstart, List.map_cons, List.map_flatMap]
          simp only [List.map_map, List.map_flatMap]
          rfl
        rw [hcourse, hwalks]
        nth_rewrite 1 [← List.zipIdx_map_fst 0 (policy.admitted (graph.sitesOf current))]
        rw [List.flatMap_map]

theorem begin_not_mem_siteCourse {branch : Routine → List Event}
    (hbranch : ∀ caller, .begin ∉ branch caller) (current : Routine) (sites : List CallSite) :
    .begin ∉ siteCourse policy branch current sites := by
  induction sites with
  | nil => exact List.not_mem_nil
  | cons site rest ih =>
      rw [siteCourse]
      split
      · split
        · simp
        · simpa using ih
      · rw [List.mem_append, not_or]
        refine ⟨?_, ih⟩
        cases site.caller with
        | none => exact List.not_mem_nil
        | some caller => exact hbranch caller

theorem begin_not_mem_course (depth : Nat) (trail : List Routine) (current : Routine) :
    .begin ∉ course graph start policy depth trail current := by
  induction depth generalizing trail current with
  | zero => exact List.not_mem_nil
  | succ depth ih =>
      rw [course]
      split
      · exact List.not_mem_nil
      split
      · simp
      · simpa using begin_not_mem_siteCourse (ih (current :: trail)) current (graph.sitesOf current)

end Search

/-! ## Numbers count up -/

namespace Run

/-- After the run the routines have been reported in addition, numbered from one on, and counted. -/
structure Tells (run after : Run) (reported : List Routine) : Prop where
  progress : after.progress = run.progress ++ (List.range' 1 reported.length).zip reported
  expanded : after.expanded = reported.length

/-- An event that expands a routine reports it with the next number. No other event reports or counts
anything, a beginning apart. -/
theorem counts_after (run : Run) {event : Event} (hevent : event ≠ .begin) :
    (run.after event).progress =
        run.progress ++ (Search.expansions [event]).map (run.expanded + 1, ·) ∧
      (run.after event).expanded = run.expanded + (Search.expansions [event]).length := by
  cases event with
  | begin => exact absurd rfl hevent
  | poll =>
      refine ⟨?_, run.poll_agree.expanded⟩
      exact run.poll_agree.progress.trans (List.append_nil _).symm
  | expand r => exact ⟨by simp [after, expand, note, progress, Search.expansions], rfl⟩
  | handOff site r => exact ⟨by simp [after, note, progress, Search.expansions], rfl⟩
  | arrive chain => exact ⟨(List.append_nil _).symm, rfl⟩

/-- Events without a beginning report what they expand, with the numbers that follow. -/
theorem counts_foldl_after (run : Run) {events : List Event} (hevents : .begin ∉ events) :
    (events.foldl after run).progress = run.progress ++
        (List.range' (run.expanded + 1) (Search.expansions events).length).zip
          (Search.expansions events) ∧
      (events.foldl after run).expanded = run.expanded + (Search.expansions events).length := by
  induction events generalizing run with
  | nil => simp [Search.expansions]
  | cons event rest ih =>
      rw [List.mem_cons, not_or] at hevents
      obtain ⟨hprogress, hexpanded⟩ := counts_after run (Ne.symm hevents.1)
      obtain ⟨hprogress', hexpanded'⟩ := ih (run.after event) hevents.2
      have hsplit : Search.expansions (event :: rest) =
          Search.expansions [event] ++ Search.expansions rest :=
        List.filterMap_append (l := [event]) ..
      rw [List.foldl_cons, hprogress', hexpanded', hprogress, hexpanded, hsplit, List.length_append]
      refine ⟨?_, Nat.add_assoc ..⟩
      cases event with
      | expand r => simp [Search.expansions, Nat.add_comm 1, List.range'_succ]
      | _ => simp [Search.expansions]

end Run

namespace Search

variable {graph : CallGraph} {start target : Routine} {policy : HandOffPolicy}

/-- The open walks are all listed within the bound on the depth. -/
theorem mem_walksFrom_depthBound {walk : List Nat} :
    walk ∈ (walksFrom graph start policy (depthBound graph) [] target).map Prod.fst ↔
      IsOpenWalk graph start policy target walk := by
  constructor
  · intro hwalk
    obtain ⟨⟨_, last⟩, hmem, rfl⟩ := List.mem_map.mp hwalk
    obtain ⟨routines, hwalk, -, hfresh, -⟩ := mem_walksFrom.mp hmem
    exact ⟨routines, hwalk, hfresh.distinct, fun r hr => (hfresh.avoids r hr).2⟩
  · rintro ⟨routines, hwalk, hdistinct, havoid⟩
    obtain ⟨others, rfl, hlength, hcallers⟩ := CallGraph.shape_of_walk? hwalk
    have hshort := CallGraph.length_le_of_callers (List.pairwise_cons.mp hdistinct).2 hcallers
    refine List.mem_map.mpr ⟨(walk, (target :: others).getLast (by simp)), ?_, rfl⟩
    refine mem_walksFrom.mpr ⟨_, hwalk, List.getLast?_eq_getLast_of_ne_nil _,
      ⟨hdistinct, fun r hr => ⟨rfl, havoid r hr⟩⟩, ?_⟩
    unfold depthBound
    omega

/-- A search that no poll stops tells the ends of the open walks. -/
theorem tells_paths {run : Run}
    (hquiet : ¬ Run.SeesCancelled (courseTo graph start policy target) run) :
    run.Tells (paths graph start policy target run).2
      ((walksFrom graph start policy (depthBound graph) [] target).map Prod.snd) := by
  rw [← expansions_course, paths_of_not_seesCancelled hquiet]
  obtain ⟨hprogress, hexpanded⟩ := Run.counts_foldl_after { run with expanded := 0 }
    (begin_not_mem_course (depthBound graph) [] target)
  exact ⟨hprogress, hexpanded.trans (Nat.zero_add _)⟩

/-- A search that no poll stops reports the ends of the open walks from the target, one walk for each
sequence of sites, in depth-first preorder: by their positions the walks stand in lexicographic order,
in which a walk is before those that go on from it.  The reports are numbered from one on and counted.
The start is never reported, nothing is reported exactly if it is the target, and the same search made
again reports the same, from one on. -/
theorem progress_enumerates_walks (graph : CallGraph) (start target : Routine)
    (policy : HandOffPolicy) (run : Run)
    (hquiet : ¬ Run.SeesCancelled (courseTo graph start policy target) run) :
    let after := (paths graph start policy target run).2
    ∃ (walks : List (List Nat)) (reported : List Routine),
      (∀ walk, walk ∈ walks ↔ IsOpenWalk graph start policy target walk) ∧
      walks.Pairwise (· < ·) ∧
      List.Forall₂ (fun walk r => graph.walkEnd? policy target walk = some r) walks reported ∧
      run.Tells after reported ∧
      (∀ r ∈ reported, (r == start) = false) ∧
      (after.expanded = 0 ↔ (target == start) = true) ∧
      (¬ Run.SeesCancelled (courseTo graph start policy target) after →
        after.Tells (paths graph start policy target after).2 reported) := by
  intro after
  have htells := tells_paths hquiet
  refine ⟨(walksFrom graph start policy (depthBound graph) [] target).map Prod.fst,
    (walksFrom graph start policy (depthBound graph) [] target).map Prod.snd,
    fun walk => mem_walksFrom_depthBound, ?_, ?_, htells, ?_, ?_, fun hagain => tells_paths hagain⟩
  · exact List.pairwise_map.mpr (pairwise_walksFrom _ _ _)
  · rw [List.forall₂_map_left_iff, List.forall₂_map_right_iff, List.forall₂_same]
    rintro ⟨walk, last⟩ hmem
    obtain ⟨routines, hwalk, hlast, -⟩ := mem_walksFrom.mp hmem
    exact Option.bind_eq_some_iff.mpr ⟨routines, hwalk, hlast⟩
  · intro r hr
    obtain ⟨⟨walk, _⟩, hmem, rfl⟩ := List.mem_map.mp hr
    obtain ⟨routines, -, hlast, hfresh, -⟩ := mem_walksFrom.mp hmem
    exact (hfresh.avoids _ (List.mem_of_getLast? hlast)).2
  · rw [htells.expanded, List.length_eq_zero_iff, List.map_eq_nil_iff]
    constructor
    · intro hnone
      by_contra hother
      rw [depthBound, walksFrom_succ rfl (by simpa using hother)] at hnone
      cases hnone
    · exact fun hstart => walksFrom_of_stop (Or.inr hstart) _

theorem progress_enumerates_walks_of_sample :
    let after := (paths sampleGraph (sampleRoutine "main" 1) .skip (sampleRoutine "work" 13) {}).2
    let again := (paths sampleGraph (sampleRoutine "main" 1) .skip (sampleRoutine "work" 13) after).2
    (after.progress.map fun (count, r) => (count, r.name)) =
      [(1, "work"), (2, "left"), (3, "right"), (4, "left"), (5, "right"), (6, "right"), (7, "left")] ∧
    ∃ reported, Run.Tells {} after reported ∧ after.Tells again reported := by
  intro after again
  have hquiet : ¬ Run.SeesCancelled
      (courseTo sampleGraph (sampleRoutine "main" 1) .skip (sampleRoutine "work" 13)) after := by
    refine not_seesCancelled_of_token_none _ (Option.isNone_iff_eq_none.mp ?_)
    decide +kernel
  obtain ⟨walks, reported, -, -, -, htells, -, -, hagain⟩ :=
    progress_enumerates_walks sampleGraph (sampleRoutine "main" 1) (sampleRoutine "work" 13) .skip {}
      (not_seesCancelled_of_token_none _ rfl)
  exact ⟨by decide +kernel, reported, htells, hagain hquiet⟩

end Search

end CallChain
