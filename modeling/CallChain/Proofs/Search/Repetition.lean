import CallChain.Proofs.Search.Order

/-!
# Repeated sites and the order of the result

A routine may be referred to from the same caller many times, and a search follows every one of these
sites.  `reduced` leaves of the sites that the policy lets through the first of each caller, and none
without a caller.  By `foundFrom_succ` the callers of a routine count only by their first occurrences,
so the search finds the same chains in the reduced graph, in the same order (`foundFrom_reduced`).

The bound on the depth of a search is the number of sites, and the reduced graph has fewer of them.
But a depth that all ways fit into is as good as any other: a greater depth only adds chains
(`foundFrom_sublist`), and there are none to be added (`foundFrom_of_le`).

As the chains from one caller stand in front of those from the next, the result is in lexicographic
order: read from the target on, chains are compared by the positions at which each caller first occurs
among the sites of its callee (`pairwise_foundFrom`).
-/

namespace CallChain

/-! ## The first site of each caller -/

namespace CallSite

/-- The first site of each caller that is not among `seen`. -/
def firstAfter : List Routine → List CallSite → List CallSite
  | _, [] => []
  | seen, site :: rest =>
    match site.caller with
    | none => firstAfter seen rest
    | some caller =>
      if seen.contains caller then firstAfter seen rest
      else site :: firstAfter (caller :: seen) rest

/-- The first site of each caller; sites without a caller are left out. -/
def firstOfCallers (sites : List CallSite) : List CallSite := firstAfter [] sites

theorem firstAfter_sublist (seen : List Routine) (sites : List CallSite) :
    (firstAfter seen sites).Sublist sites := by
  induction sites generalizing seen with
  | nil => exact List.Sublist.refl _
  | cons site rest ih =>
      rw [firstAfter]
      split
      · exact (ih seen).cons site
      · split
        · exact (ih seen).cons site
        · exact (ih _).cons_cons site

theorem filterMap_caller_firstAfter (seen : List Routine) (sites : List CallSite) :
    (firstAfter seen sites).filterMap caller = occurrencesAfter seen (sites.filterMap caller) := by
  induction sites generalizing seen with
  | nil => rfl
  | cons site rest ih =>
      rw [firstAfter, List.filterMap_cons]
      cases hcaller : site.caller with
      | none => exact ih seen
      | some r =>
          simp only [occurrencesAfter]
          split
          · exact ih seen
          · rw [List.filterMap_cons, hcaller, ih]

/-- The callers of the sites that are left are the callers, each once. -/
theorem filterMap_caller_firstOfCallers (sites : List CallSite) :
    (firstOfCallers sites).filterMap caller = firstOccurrences (sites.filterMap caller) :=
  filterMap_caller_firstAfter [] sites

end CallSite

theorem HandOffPolicy.admitted_eq_self {policy : HandOffPolicy} {sites : List CallSite}
    (hkept : ∀ site ∈ sites, site.handedOff = false) : policy.admitted sites = sites := by
  cases policy with
  | sever => exact List.takeWhile_eq_self_iff.mpr fun site hsite => by simp [hkept site hsite]
  | skip => exact List.filter_eq_self.mpr fun site hsite => by simp [hkept site hsite]

theorem HandOffPolicy.handedOff_of_mem_admitted {policy : HandOffPolicy} {sites : List CallSite}
    {site : CallSite} (hsite : site ∈ policy.admitted sites) : site.handedOff = false := by
  cases policy with
  | sever => simpa using List.mem_takeWhile_imp hsite
  | skip => simpa using (List.mem_filter.mp hsite).2

/-! ## The reduced graph -/

namespace CallGraph

variable {graph : CallGraph} {policy : HandOffPolicy}

/-- The graph in which of the sites of a routine only those are left that are followed when it is
expanded, the first of each caller. -/
def reduced (graph : CallGraph) (policy : HandOffPolicy) : CallGraph where
  routines := graph.routines
  sites := (firstOccurrences (graph.sites.map CallSite.callee)).flatMap fun callee =>
    CallSite.firstOfCallers (policy.admitted (graph.sitesOf callee))

theorem sublist_sitesOf (callee : Routine) :
    (CallSite.firstOfCallers (policy.admitted (graph.sitesOf callee))).Sublist
      (graph.sitesOf callee) :=
  (CallSite.firstAfter_sublist [] _).trans (policy.admitted_sublist _)

/-- Of what is left for one callee another routine has all if it is equal, and nothing otherwise. -/
theorem filter_firstOfCallers (callee r : Routine) :
    (CallSite.firstOfCallers (policy.admitted (graph.sitesOf callee))).filter
        (fun site => site.callee == r) =
      if callee == r then CallSite.firstOfCallers (policy.admitted (graph.sitesOf callee)) else [] := by
  have hcallee : ∀ site ∈ CallSite.firstOfCallers (policy.admitted (graph.sitesOf callee)),
      (site.callee == callee) = true := fun site hsite =>
    (List.mem_filter.mp ((sublist_sitesOf callee).subset hsite)).2
  split
  · rename_i heq
    exact List.filter_eq_self.mpr fun site hsite => BEq.trans (hcallee site hsite) heq
  · rename_i hne
    refine List.filter_eq_nil_iff.mpr fun site hsite heq => hne ?_
    exact BEq.trans (BEq.symm (hcallee site hsite)) heq

theorem sitesOf_reduced (callee : Routine) :
    (graph.reduced policy).sitesOf callee =
      CallSite.firstOfCallers (policy.admitted (graph.sitesOf callee)) := by
  have hsites : (graph.reduced policy).sitesOf callee =
      (firstOccurrences (graph.sites.map CallSite.callee)).flatMap fun r =>
        if r == callee then CallSite.firstOfCallers (policy.admitted (graph.sitesOf r)) else [] := by
    rw [sitesOf, reduced, List.filter_flatMap]
    simp only [filter_firstOfCallers]
  rw [hsites]
  have hdistinct := firstOccurrences_pairwise (graph.sites.map CallSite.callee)
  have hcontains := contains_firstOccurrences (graph.sites.map CallSite.callee) callee
  generalize firstOccurrences (graph.sites.map CallSite.callee) = callees at hdistinct hcontains
  by_cases hmem : ∃ r ∈ callees, (r == callee) = true
  · -- one of the callees is equal to the routine, and the others have nothing for it
    obtain ⟨r, hr, heq⟩ := hmem
    have hnodup : callees.Nodup := hdistinct.imp fun hne hsame => by simp [hsame] at hne
    have hothers : ∀ s ∈ callees, s ≠ r → (s == callee) = false := by
      intro s hs hne
      have hsymm : Std.Symm fun a b : Routine => (a == b) = false := ⟨fun _ _ => BEq.comm.trans⟩
      have hdiffer : (s == r) = false := hdistinct.forall hs hr hne
      rw [← Bool.not_eq_true]
      intro hsame
      simp [BEq.trans hsame (BEq.symm heq)] at hdiffer
    rw [flatMap_eq_of_unique hnodup hr fun s hs hne => if_neg (by simp [hothers s hs hne]), if_pos heq,
      sitesOf_congr heq]
  · -- no site refers to the routine
    push Not at hmem
    have hnone : graph.sitesOf callee = [] := by
      refine List.filter_eq_nil_iff.mpr fun site hsite heq => ?_
      have hlisted : (graph.sites.map CallSite.callee).contains callee = true :=
        List.contains_iff_exists_mem_beq.mpr
          ⟨site.callee, List.mem_map_of_mem hsite, BEq.symm heq⟩
      rw [← hcontains, List.contains_iff_exists_mem_beq] at hlisted
      obtain ⟨r, hr, hsame⟩ := hlisted
      exact hmem r hr (BEq.symm hsame)
    rw [hnone, List.flatMap_eq_nil_iff.mpr fun r hr => if_neg (hmem r hr)]
    cases policy <;> rfl

/-- The callers in the reduced graph are the callers, each once. -/
theorem callers_reduced (callee : Routine) :
    (graph.reduced policy).callers policy callee =
      firstOccurrences (graph.callers policy callee) := by
  have hkept : ∀ site ∈ CallSite.firstOfCallers (policy.admitted (graph.sitesOf callee)),
      site.handedOff = false := fun site hsite =>
    HandOffPolicy.handedOff_of_mem_admitted ((CallSite.firstAfter_sublist [] _).subset hsite)
  rw [callers, sitesOf_reduced, HandOffPolicy.admitted_eq_self hkept,
    CallSite.filterMap_caller_firstOfCallers]
  rfl

/-! ## Positions of callers -/

/-- The position at which a caller first occurs among the sites that are followed when its callee is
expanded. -/
def position (graph : CallGraph) (policy : HandOffPolicy) (callee caller : Routine) : Nat :=
  (policy.admitted (graph.sitesOf callee)).findIdx fun site => site.caller == some caller

/-- The positions along a way, each routine of which is a caller of the one before it. -/
def positions (graph : CallGraph) (policy : HandOffPolicy) : List Routine → List Nat
  | callee :: caller :: rest =>
    graph.position policy callee caller :: graph.positions policy (caller :: rest)
  | _ => []

theorem positions_append (front : List Routine) (r : Routine) (rest : List Routine) :
    graph.positions policy (front ++ r :: rest) =
      graph.positions policy (front ++ [r]) ++ graph.positions policy (r :: rest) := by
  induction front with
  | nil => rfl
  | cons first others ih =>
      cases others with
      | nil => rfl
      | cons second others =>
          simp only [List.cons_append, positions] at ih ⊢
          rw [ih]

end CallGraph

/-- Callers stand in the order of the sites at which they first occur. -/
theorem CallSite.pairwise_findIdx (sites : List CallSite) :
    (firstOccurrences (sites.filterMap CallSite.caller)).Pairwise fun a b =>
      sites.findIdx (fun site => site.caller == some a) <
        sites.findIdx (fun site => site.caller == some b) := by
  induction sites with
  | nil => exact List.Pairwise.nil
  | cons site rest ih =>
      rw [List.filterMap_cons]
      cases hcaller : site.caller with
      | none => simpa [List.findIdx_cons, hcaller] using ih
      | some first =>
          have hlater : ∀ r, (r == first) = false →
              (site :: rest).findIdx (fun s => s.caller == some r) =
                rest.findIdx (fun s => s.caller == some r) + 1 := by
            intro r hr
            have hsite : (site.caller == some r) = false := by
              rw [hcaller]
              exact (BEq.comm : (first == r) = (r == first)).trans hr
            rw [List.findIdx_cons, hsite]
            rfl
          have hfirst : (site :: rest).findIdx (fun s => s.caller == some first) = 0 := by
            have hsite : (site.caller == some first) = true := by
              rw [hcaller]
              exact (BEq.rfl : (first == first) = true)
            rw [List.findIdx_cons, hsite]
            rfl
          simp only [firstOccurrences_cons]
          refine List.pairwise_cons.mpr ⟨fun r hr => ?_, ?_⟩
          · have hne : (r == first) = false := by simpa using (List.mem_filter.mp hr).2
            rw [hfirst, hlater r hne]
            exact Nat.succ_pos _
          · refine List.Pairwise.imp_of_mem ?_ (ih.filter _)
            intro a b ha hb hlt
            have hne : (a == first) = false := by simpa using (List.mem_filter.mp ha).2
            have hne' : (b == first) = false := by simpa using (List.mem_filter.mp hb).2
            rw [hlater a hne, hlater b hne']
            exact Nat.succ_lt_succ hlt

namespace Search

variable {graph : CallGraph} {start : Routine} {policy : HandOffPolicy}

/-! ## Depths that all ways fit into -/

/-- A selection of different items that has one for each of them is all of them. -/
theorem eq_of_sublist_of_contains {α : Type} [BEq α] [EquivBEq α] {few many : List α}
    (hfew : few.Sublist many) (hdistinct : many.Pairwise fun a b => (a == b) = false)
    (hcontains : ∀ a ∈ many, few.contains a = true) : few = many := by
  induction hfew with
  | slnil => rfl
  | @cons few many a hfew ih =>
      -- the item that is left out would have an equal one behind it
      obtain ⟨b, hb, heq⟩ := List.contains_iff_exists_mem_beq.mp (hcontains a List.mem_cons_self)
      have hne := (List.pairwise_cons.mp hdistinct).1 b (hfew.subset hb)
      rw [heq] at hne
      cases hne
  | @cons_cons few many a hfew ih =>
      obtain ⟨hfirst, hrest⟩ := List.pairwise_cons.mp hdistinct
      refine congrArg (a :: ·) (ih hrest fun b hb => ?_)
      have hb' := hcontains b (List.mem_cons_of_mem _ hb)
      rwa [List.contains_cons, BEq.comm, hfirst b hb, Bool.false_or] at hb'

/-- What is found from a routine on the trail and from the start is the same in every graph and at
every depth but zero. -/
theorem foundFrom_of_end {trail : List Routine} {current : Routine}
    (hend : trail.contains current = true ∨ (current == start) = true) (depth : Nat) :
    foundFrom graph start policy (depth + 1) trail current =
      if trail.contains current then [] else [(current :: trail).dropLast] := by
  unfold foundFrom course
  split
  · rfl
  · rename_i htrail
    rw [if_pos (hend.resolve_left htrail)]
    rfl

theorem foundFrom_sublist (depth : Nat) (trail : List Routine) (current : Routine) :
    (foundFrom graph start policy depth trail current).Sublist
      (foundFrom graph start policy (depth + 1) trail current) := by
  induction depth generalizing trail current with
  | zero => exact List.nil_sublist _
  | succ depth ih =>
      by_cases hend : trail.contains current = true ∨ (current == start) = true
      · rw [foundFrom_of_end hend, foundFrom_of_end hend]
      · obtain ⟨htrail, hstart⟩ := not_or.mp hend
        rw [foundFrom_succ (by simpa using htrail) (by simpa using hstart),
          foundFrom_succ (by simpa using htrail) (by simpa using hstart)]
        exact List.Sublist.flatMap_right _ fun caller _ => ih (current :: trail) caller

/-- Beyond the number of sites a greater depth finds nothing more. -/
theorem foundFrom_of_le {depth : Nat} (hdepth : depthBound graph ≤ depth) (target : Routine) :
    foundFrom graph start policy depth [] target =
      foundFrom graph start policy (depthBound graph) [] target := by
  induction depth, hdepth using Nat.le_induction with
  | base => rfl
  | succ depth hdepth ih =>
      rw [← ih]
      refine (eq_of_sublist_of_contains (foundFrom_sublist depth [] target)
        (firstOccurrences_pairwise _) fun chain hchain => ?_).symm
      obtain ⟨rest, hway, havoid, -, rfl⟩ :=
        (mem_arrivals_course ..).mp ((firstOccurrences_sublist _).subset hchain)
      have hlength : rest.length < depth := by
        have := hway.length_le
        unfold depthBound at hdepth
        omega
      rw [foundFrom, contains_firstOccurrences]
      exact List.contains_iff_exists_mem_beq.mpr
        ⟨_, (mem_arrivals_course ..).mpr ⟨rest, hway, havoid, hlength, rfl⟩, BEq.rfl⟩

/-! ## The same chains in the reduced graph -/

theorem foundFrom_reduced (depth : Nat) (trail : List Routine) (current : Routine) :
    foundFrom (graph.reduced policy) start policy depth trail current =
      foundFrom graph start policy depth trail current := by
  induction depth generalizing trail current with
  | zero => rfl
  | succ depth ih =>
      by_cases hend : trail.contains current = true ∨ (current == start) = true
      · rw [foundFrom_of_end hend, foundFrom_of_end hend]
      · obtain ⟨htrail, hstart⟩ := not_or.mp hend
        have honce : firstOccurrences (firstOccurrences (graph.callers policy current)) =
            firstOccurrences (graph.callers policy current) :=
          eq_of_sublist_of_contains (firstOccurrences_sublist _) (firstOccurrences_pairwise _)
            fun caller hcaller => by
              rw [contains_firstOccurrences]
              exact List.contains_iff_exists_mem_beq.mpr ⟨caller, hcaller, BEq.rfl⟩
        rw [foundFrom_succ (by simpa using htrail) (by simpa using hstart),
          foundFrom_succ (by simpa using htrail) (by simpa using hstart),
          CallGraph.callers_reduced, honce]
        simp only [ih]

/-- What a search finds in the reduced graph is what it finds in the graph: there is a depth that the
ways of both fit into. -/
theorem foundFrom_depthBound_reduced (target : Routine) :
    foundFrom (graph.reduced policy) start policy (depthBound (graph.reduced policy)) [] target =
      foundFrom graph start policy (depthBound graph) [] target := by
  rw [← foundFrom_of_le (Nat.le_max_left _ (depthBound graph)), foundFrom_reduced,
    foundFrom_of_le (Nat.le_max_right _ _)]

/-! ## The order of the chains -/

/-- A chain that is found from a routine leads, read from the target on, along the trail to it. -/
theorem exists_reverse_of_mem_foundFrom {depth : Nat} {trail : List Routine} {current target : Routine}
    (htarget : (current :: trail).getLast? = some target) {chain : Chain}
    (hchain : chain ∈ foundFrom graph start policy depth trail current) :
    ∃ rest, target :: chain.reverse = trail.reverse ++ current :: rest := by
  obtain ⟨rest, -, -, -, rfl⟩ :=
    (mem_arrivals_course ..).mp ((firstOccurrences_sublist _).subset hchain)
  refine ⟨rest, ?_⟩
  have hlast : (rest.reverse ++ current :: trail).getLast? = some target := by
    rw [List.getLast?_append_of_ne_nil _ (List.cons_ne_nil _ _), htarget]
  have hwhole := congrArg List.reverse (List.dropLast_append_getLast? target hlast)
  simpa using hwhole

theorem pairwise_foundFrom (depth : Nat) {trail : List Routine} {current target : Routine}
    (htarget : (current :: trail).getLast? = some target) :
    (foundFrom graph start policy depth trail current).Pairwise fun chain later =>
      graph.positions policy (target :: chain.reverse) <
        graph.positions policy (target :: later.reverse) := by
  induction depth generalizing trail current with
  | zero => exact List.Pairwise.nil
  | succ depth ih =>
      by_cases hend : trail.contains current = true ∨ (current == start) = true
      · rw [foundFrom_of_end hend]
        split
        · exact List.Pairwise.nil
        · exact List.pairwise_singleton _ _
      · obtain ⟨htrail, hstart⟩ := not_or.mp hend
        have hlast : ∀ caller, (caller :: current :: trail).getLast? = some target := fun caller => by
          rw [List.getLast?_cons_cons, htarget]
        rw [foundFrom_succ (by simpa using htrail) (by simpa using hstart), List.pairwise_flatMap]
        refine ⟨fun caller _ => ih (hlast caller), ?_⟩
        -- two chains part at the callers that they are found from
        refine (CallSite.pairwise_findIdx _).imp fun {caller other} hlt chain hchain later hlater => ?_
        obtain ⟨rest, hrest⟩ := exists_reverse_of_mem_foundFrom (hlast caller) hchain
        obtain ⟨rest', hrest'⟩ := exists_reverse_of_mem_foundFrom (hlast other) hlater
        rw [List.reverse_cons, List.append_assoc, List.singleton_append] at hrest hrest'
        rw [hrest, hrest', CallGraph.positions_append _ current (caller :: rest),
          CallGraph.positions_append _ current (other :: rest')]
        exact List.append_left_lt (List.cons_lt_cons_iff.mpr (Or.inl hlt))

/-- Repeated sites change nothing in what a search finds: with the first site of each caller alone it
finds the same chains, and by name the same paths, in the same order.  This order is lexicographic:
read from the target on, chains are compared by the positions at which each caller first occurs among
the sites that are followed for its callee. -/
theorem repeated_sites_change_nothing (graph : CallGraph) (start target : Routine)
    (policy : HandOffPolicy) (run run' : Run)
    (hquiet : ¬ Run.SeesCancelled (courseTo graph start policy target) run)
    (hquiet' : ¬ Run.SeesCancelled (courseTo (graph.reduced policy) start policy target) run') :
    (∀ callee, (graph.reduced policy).sitesOf callee =
      CallSite.firstOfCallers (policy.admitted (graph.sitesOf callee))) ∧
    ∃ found,
      (chains graph start policy target run).1 = some found ∧
      (chains (graph.reduced policy) start policy target run').1 = some found ∧
      (paths graph start policy target run).1 = some (nameChains found) ∧
      (paths (graph.reduced policy) start policy target run').1 = some (nameChains found) ∧
      found.Pairwise fun chain later =>
        graph.positions policy (target :: chain.reverse) <
          graph.positions policy (target :: later.reverse) := by
  let found := foundFrom graph start policy (depthBound graph) [] target
  have hfound : (chains graph start policy target run).1 = some found :=
    chains_eq_some_iff.mpr ⟨hquiet, rfl⟩
  have hreduced : (chains (graph.reduced policy) start policy target run').1 = some found :=
    chains_eq_some_iff.mpr ⟨hquiet', (foundFrom_depthBound_reduced target).symm⟩
  refine ⟨CallGraph.sitesOf_reduced, found, hfound, hreduced, ?_, ?_, pairwise_foundFrom _ rfl⟩
  · rw [paths_fst, hfound]
    rfl
  · rw [paths_fst, hreduced]
    rfl

theorem repeated_sites_change_nothing_of_sample :
    (sampleGraph.reduced .skip).sites.length < sampleGraph.sites.length ∧ ∃ found,
      (chains sampleGraph (sampleRoutine "main" 1) .skip (sampleRoutine "work" 13) {}).1 =
        some found ∧
      (chains (sampleGraph.reduced .skip) (sampleRoutine "main" 1) .skip (sampleRoutine "work" 13)
        {}).1 = some found := by
  obtain ⟨-, found, hfound, hreduced, -⟩ :=
    repeated_sites_change_nothing sampleGraph (sampleRoutine "main" 1) (sampleRoutine "work" 13) .skip
      {} {} (not_seesCancelled_of_token_none _ rfl) (not_seesCancelled_of_token_none _ rfl)
  exact ⟨by decide +kernel, found, hfound, hreduced⟩

end Search

end CallChain
