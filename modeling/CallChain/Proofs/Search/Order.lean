import CallChain.Proofs.Search.Reachability
import Mathlib.Data.List.Flatten
import Mathlib.Data.List.Infix
import Mathlib.Data.List.TakeWhile

/-!
# The order in which chains are found

A search keeps of equal chains the one it finds first, and it looks for equal chains only at the very
end.  `foundFrom_succ` says that it might as well do so at every routine: drop the repetitions among
the callers, and put the chains found from each caller one after the other.  That is so because equal
callers lead to equal chains and different callers to different ones, since the caller itself stands
on every chain that is found from it.

Two searches can therefore be compared routine by routine.  Where a hand-off ends the expansion of a
routine, the callers that are followed are the first of those that are followed if hand-offs are only
passed over.  So `sever` finds a selection of the chains that `skip` finds, in the same order.  It is
important that they are the first ones: if some other callers were left out, the first of two equal
callers might be among them, and the chains of the second would come later.
-/

namespace CallChain

namespace Search

variable {graph : CallGraph} {start : Routine} {policy : HandOffPolicy}

/-! ## Chains through a caller -/

/-- From equal routines equal chains are found. -/
theorem contains_arrivals_of_beq {depth : Nat} {trail : List Routine} {a b : Routine}
    (heq : (a == b) = true) {chain : Chain}
    (hchain : chain ∈ arrivals (course graph start policy depth trail a)) :
    (arrivals (course graph start policy depth trail b)).contains chain = true := by
  obtain ⟨rest, hway, havoid, hlength, rfl⟩ := (mem_arrivals_course ..).mp hchain
  have hfresh : ∀ r ∈ b :: rest, trail.contains r = false := by
    intro r hr
    rcases List.mem_cons.mp hr with rfl | hr
    · rw [← List.contains_congr heq]
      exact havoid a List.mem_cons_self
    · exact havoid r (List.mem_cons_of_mem _ hr)
  have hother : (rest.reverse ++ b :: trail).dropLast ∈
      arrivals (course graph start policy depth trail b) :=
    (mem_arrivals_course ..).mpr ⟨rest, hway.congr_head heq, hfresh, hlength, rfl⟩
  refine List.contains_iff_exists_mem_beq.mpr ⟨_, hother, Chain.beq_iff.mpr ?_⟩
  have hkey : a.key = b.key := Routine.beq_iff.mp heq
  simp [List.map_dropLast, hkey]

/-- The routine from which a chain is found stands on it, as far from its end as the trail is long. -/
theorem exists_of_mem_arrivals {depth : Nat} {trail : List Routine} {current target : Routine}
    {chain : Chain}
    (hchain : chain ∈ arrivals (course graph start policy depth (current :: trail) target)) :
    ∃ front, chain = front ++ target :: (current :: trail).dropLast := by
  obtain ⟨rest, -, -, -, rfl⟩ := (mem_arrivals_course ..).mp hchain
  exact ⟨rest.reverse, by simp [List.dropLast_append_of_ne_nil]⟩

/-- From different routines different chains are found. -/
theorem not_contains_arrivals_of_ne {depth : Nat} {trail : List Routine} {current a b : Routine}
    (hne : (a == b) = false) {chain : Chain}
    (hchain : chain ∈ arrivals (course graph start policy depth (current :: trail) a)) :
    (arrivals (course graph start policy depth (current :: trail) b)).contains chain = false := by
  rw [← Bool.not_eq_true, List.contains_iff_exists_mem_beq]
  rintro ⟨other, hother, heq⟩
  obtain ⟨front, rfl⟩ := exists_of_mem_arrivals hchain
  obtain ⟨front', rfl⟩ := exists_of_mem_arrivals hother
  have hkeys := Chain.beq_iff.mp heq
  rw [List.map_append, List.map_append, List.map_cons, List.map_cons] at hkeys
  obtain ⟨-, hbehind⟩ := List.append_inj' hkeys (by simp)
  exact Routine.beq_false_iff.mp hne (List.cons.inj hbehind).1

/-! ## Chains from a routine -/

/-- The chains found from a routine on, behind the routines of a trail, each once. -/
def foundFrom (graph : CallGraph) (start : Routine) (policy : HandOffPolicy) (depth : Nat)
    (trail : List Routine) (current : Routine) : List Chain :=
  firstOccurrences (arrivals (course graph start policy depth trail current))

/-- The chains found from a routine that is neither on the trail nor the start are those found from
its callers, one caller after the other. -/
theorem foundFrom_succ {trail : List Routine} {current : Routine}
    (htrail : trail.contains current = false) (hstart : (current == start) = false) (depth : Nat) :
    foundFrom graph start policy (depth + 1) trail current =
      (firstOccurrences (graph.callers policy current)).flatMap fun caller =>
        foundFrom graph start policy depth (current :: trail) caller := by
  rw [foundFrom, arrivals_course_succ htrail hstart]
  exact firstOccurrences_flatMap (fun _ _ heq _ hchain => contains_arrivals_of_beq heq hchain)
    (fun _ _ hne _ hchain => not_contains_arrivals_of_ne hne hchain) _

/-- For a routine on the trail and for the start the policy is not asked. -/
theorem foundFrom_congr {few many : HandOffPolicy} {trail : List Routine} {current : Routine}
    (hend : trail.contains current = true ∨ (current == start) = true) (depth : Nat) :
    foundFrom graph start few depth trail current = foundFrom graph start many depth trail current := by
  cases depth with
  | zero => rfl
  | succ depth =>
      unfold foundFrom course
      rcases hend with htrail | hstart
      · rw [if_pos htrail, if_pos htrail]
      · rw [if_pos hstart, if_pos hstart]

end Search

/-! ## Callers up to the first hand-off -/

theorem HandOffPolicy.admitted_sever_prefix (sites : List CallSite) :
    HandOffPolicy.sever.admitted sites <+: HandOffPolicy.skip.admitted sites := by
  have hkept : (sites.takeWhile fun site => !site.handedOff).filter (fun site => !site.handedOff) =
      sites.takeWhile fun site => !site.handedOff := by
    rw [List.filter_eq_self]
    intro site hsite
    exact List.mem_takeWhile_imp (p := fun s : CallSite => !s.handedOff) hsite
  have hfront : sites.takeWhile (fun site => !site.handedOff) <+: sites := List.takeWhile_prefix _
  rw [admitted, admitted, ← hkept]
  exact hfront.filter _

/-- The callers that are followed up to the first hand-off are the first of those that are followed
if hand-offs are passed over. -/
theorem CallGraph.callers_sever_prefix (graph : CallGraph) (callee : Routine) :
    graph.callers .sever callee <+: graph.callers .skip callee :=
  (HandOffPolicy.admitted_sever_prefix _).filterMap _

/-- Behind a hand-off every routine is only handed off. -/
def CallGraph.HandsOffLast (graph : CallGraph) : Prop :=
  ∀ callee, (graph.sitesOf callee).Pairwise fun site later =>
    site.handedOff = true → later.handedOff = true

theorem HandOffPolicy.admitted_eq {sites : List CallSite}
    (hlast : sites.Pairwise fun site later => site.handedOff = true → later.handedOff = true) :
    HandOffPolicy.sever.admitted sites = HandOffPolicy.skip.admitted sites := by
  induction sites with
  | nil => rfl
  | cons site rest ih =>
      rw [List.pairwise_cons] at hlast
      cases hoff : site.handedOff with
      | true =>
          have hnone : rest.filter (fun later => !later.handedOff) = [] := by
            rw [List.filter_eq_nil_iff]
            intro later hlater
            simp [hlast.1 later hlater hoff]
          simp [admitted, hoff, hnone]
      | false =>
          have hrest := ih hlast.2
          simp only [admitted] at hrest
          simp [admitted, hoff, hrest]

theorem CallGraph.HandsOffLast.callers_eq {graph : CallGraph} (hlast : graph.HandsOffLast)
    (callee : Routine) : graph.callers .sever callee = graph.callers .skip callee := by
  rw [callers, callers, HandOffPolicy.admitted_eq (hlast callee)]

namespace Search

variable {graph : CallGraph} {start : Routine}

/-- The step from callers to their callee, for two policies that are compared in some way. -/
theorem foundFrom_compare {few many : HandOffPolicy} {R : List Chain → List Chain → Prop}
    (hrefl : ∀ chains, R chains chains)
    (hstep : ∀ callee, ∀ f g : Routine → List Chain, (∀ caller, R (f caller) (g caller)) →
      R ((firstOccurrences (graph.callers few callee)).flatMap f)
        ((firstOccurrences (graph.callers many callee)).flatMap g))
    (depth : Nat) (trail : List Routine) (current : Routine) :
    R (foundFrom graph start few depth trail current)
      (foundFrom graph start many depth trail current) := by
  induction depth generalizing trail current with
  | zero => exact hrefl _
  | succ depth ih =>
      by_cases hend : trail.contains current = true ∨ (current == start) = true
      · rw [foundFrom_congr hend]
        exact hrefl _
      · obtain ⟨htrail, hstart⟩ := not_or.mp hend
        rw [foundFrom_succ (by simpa using htrail) (by simpa using hstart),
          foundFrom_succ (by simpa using htrail) (by simpa using hstart)]
        exact hstep current _ _ fun caller => ih (current :: trail) caller

theorem foundFrom_sever_sublist (depth : Nat) (trail : List Routine) (current : Routine) :
    (foundFrom graph start .sever depth trail current).Sublist
      (foundFrom graph start .skip depth trail current) := by
  refine foundFrom_compare List.Sublist.refl (fun callee f g hfg => ?_) depth trail current
  have hcallers : firstOccurrences (graph.callers .sever callee) <+:
      firstOccurrences (graph.callers .skip callee) :=
    firstOccurrences_prefix (graph.callers_sever_prefix callee)
  exact (hcallers.sublist.flatMap f).trans (List.Sublist.flatMap_right _ fun caller _ => hfg caller)

theorem foundFrom_eq_of_handsOffLast (hlast : graph.HandsOffLast) (depth : Nat)
    (trail : List Routine) (current : Routine) :
    foundFrom graph start .sever depth trail current =
      foundFrom graph start .skip depth trail current := by
  refine foundFrom_compare (fun _ => rfl) (fun callee f g hfg => ?_) depth trail current
  rw [hlast.callers_eq callee, funext hfg]

/-- What a search finds if a hand-off ends the expansion of a routine is a selection of what it finds
if hand-offs are passed over, in the same order.  It is all of that if no routine has a hand-off in
front of a site that is none. -/
theorem severed_search_selects (graph : CallGraph) (start target : Routine) (run run' : Run)
    (hsever : ¬ Run.SeesCancelled (courseTo graph start .sever target) run)
    (hskip : ¬ Run.SeesCancelled (courseTo graph start .skip target) run') :
    ∃ severed skipped,
      (chains graph start .sever target run).1 = some severed ∧
      (chains graph start .skip target run').1 = some skipped ∧
      severed.Sublist skipped ∧ (graph.HandsOffLast → severed = skipped) := by
  refine ⟨_, _, chains_eq_some_iff.mpr ⟨hsever, rfl⟩, chains_eq_some_iff.mpr ⟨hskip, rfl⟩, ?_, ?_⟩
  · exact foundFrom_sever_sublist (depthBound graph) [] target
  · exact fun hlast => foundFrom_eq_of_handsOffLast hlast (depthBound graph) [] target

/-- `work` is called in `left` and, by way of a thread, in `main`; `main` calls `left`. -/
def lateHandOff : CallGraph :=
  let main := sampleRoutine "main" 1
  let left := sampleRoutine "left" 5
  let work := sampleRoutine "work" 9
  { routines := [main, left, work]
    sites := [sampleSite work left false, sampleSite left main false, sampleSite work main true] }

theorem lateHandOff_handsOffLast : lateHandOff.HandsOffLast := by
  have hsites : lateHandOff.sites.Pairwise fun site later =>
      site.handedOff = true → later.handedOff = true := by decide
  exact fun callee => hsites.filter _

theorem severed_search_selects_of_late_hand_off :
    lateHandOff.HandsOffLast ∧ ∃ found,
      (chains lateHandOff (sampleRoutine "main" 1) .sever (sampleRoutine "work" 9) {}).1 =
        some found ∧
      (chains lateHandOff (sampleRoutine "main" 1) .skip (sampleRoutine "work" 9) {}).1 =
        some found := by
  obtain ⟨severed, skipped, hsevered, hskipped, -, hall⟩ :=
    severed_search_selects lateHandOff (sampleRoutine "main" 1) (sampleRoutine "work" 9) {} {}
      (not_seesCancelled_of_token_none _ rfl) (not_seesCancelled_of_token_none _ rfl)
  rw [← hall lateHandOff_handsOffLast] at hskipped
  exact ⟨lateHandOff_handsOffLast, severed, hsevered, hskipped⟩

end Search

end CallChain
