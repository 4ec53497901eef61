import CallChain.Proofs.Search.Enumeration
import Mathlib.Logic.Relation

/-!
# A search finds something exactly if the start reaches the target

`Calls` is one call that the policy lets through when its callee is expanded, and a routine reaches
another if a sequence of such calls leads there; routines may repeat on it.  The search only knows
simple chains, so the two are tied together by cutting loops: a way is extended by one callee at a
time, and where the callee is on the way already, the part of the way in front of it is dropped
(`IsWay.extend`).  That the policy may end the expansion of a routine early does no harm to this:
which sites are followed depends on the callee alone and not on the way by which it was met.
-/

namespace CallChain

/-- A call in `caller` of `callee`, by a site that is followed when `callee` is expanded. -/
def CallGraph.Calls (graph : CallGraph) (policy : HandOffPolicy) (caller callee : Routine) : Prop :=
  ∃ site ∈ policy.admitted (graph.sitesOf callee), ∃ r, site.caller = some r ∧ (r == caller) = true

/-- Some calls in a row, at least one, lead from the start to the target. -/
def CallGraph.Reaches (graph : CallGraph) (policy : HandOffPolicy) (start target : Routine) :
    Prop :=
  Relation.TransGen (graph.Calls policy) start target

namespace CallGraph

variable {graph : CallGraph} {policy : HandOffPolicy}

theorem calls_iff {caller callee : Routine} :
    graph.Calls policy caller callee ↔
      ∃ r ∈ graph.callers policy callee, (r == caller) = true := by
  unfold Calls callers
  constructor
  · rintro ⟨site, hsite, r, hr, heq⟩
    exact ⟨r, List.mem_filterMap.mpr ⟨site, hsite, hr⟩, heq⟩
  · rintro ⟨r, hr, heq⟩
    obtain ⟨site, hsite, hr⟩ := List.mem_filterMap.mp hr
    exact ⟨site, hsite, r, hr, heq⟩

end CallGraph

namespace IsWay

variable {graph : CallGraph} {start : Routine} {policy : HandOffPolicy}

/-! ## Cutting loops -/

/-- The first routine of a way may be replaced by an equal one. -/
theorem congr_head {a b : Routine} {rest : List Routine}
    (hway : IsWay graph start policy (a :: rest)) (heq : (a == b) = true) :
    IsWay graph start policy (b :: rest) := by
  cases rest with
  | nil => exact singleton_iff.mpr (BEq.trans (BEq.symm heq) (singleton_iff.mp hway))
  | cons caller others =>
      obtain ⟨hcaller, hfresh, hrest⟩ := cons_cons_iff.mp hway
      refine cons_cons_iff.mpr ⟨CallGraph.callers_congr heq ▸ hcaller, ?_, hrest⟩
      intro r hr
      have hkey := Routine.beq_false_iff.mp (hfresh r hr)
      rw [Routine.beq_iff.mp heq] at hkey
      exact Routine.beq_false_iff.mpr hkey

/-- What follows a routine on a way is a way again. -/
theorem suffix {front : List Routine} {r : Routine} {rest : List Routine}
    (hway : IsWay graph start policy (front ++ r :: rest)) :
    IsWay graph start policy (r :: rest) := by
  refine ⟨hway.linked.right_of_append, (List.pairwise_append.mp hway.distinct).2.1, ?_⟩
  obtain ⟨last, hlast, hstart⟩ := hway.anchored
  rw [List.getLast?_append_of_ne_nil _ (List.cons_ne_nil r rest)] at hlast
  exact ⟨last, hlast, hstart⟩

/-- Where a way leads from a caller, one leads from the callee. -/
theorem extend {callee caller : Routine} {rest : List Routine}
    (hway : IsWay graph start policy (caller :: rest))
    (hcaller : caller ∈ graph.callers policy callee) :
    ∃ rest', IsWay graph start policy (callee :: rest') := by
  by_cases hloop : ∃ r ∈ caller :: rest, (callee == r) = true
  · obtain ⟨r, hr, heq⟩ := hloop
    obtain ⟨front, others, hsplit⟩ := List.append_of_mem hr
    rw [hsplit] at hway
    exact ⟨others, hway.suffix.congr_head (BEq.symm heq)⟩
  · refine ⟨caller :: rest, cons_cons_iff.mpr ⟨hcaller, ?_, hway⟩⟩
    intro r hr
    rw [← Bool.not_eq_true]
    exact fun heq => hloop ⟨r, hr, heq⟩

/-! ## Ways and reachability -/

/-- Wherever the start leads, a way leads back. -/
theorem exists_of_reaches {r : Routine} (hreach : graph.Reaches policy start r) :
    ∃ rest, IsWay graph start policy (r :: rest) := by
  induction hreach with
  | single hcall =>
      obtain ⟨caller, hcaller, heq⟩ := CallGraph.calls_iff.mp hcall
      exact (singleton_iff.mpr heq).extend hcaller
  | tail _ hcall ih =>
      obtain ⟨rest, hway⟩ := ih
      obtain ⟨caller, hcaller, heq⟩ := CallGraph.calls_iff.mp hcall
      exact (hway.congr_head (BEq.symm heq)).extend hcaller

/-- A way of more than one routine is a sequence of calls. -/
theorem reaches {callee caller : Routine} {rest : List Routine}
    (hway : IsWay graph start policy (callee :: caller :: rest)) :
    graph.Reaches policy start callee := by
  induction rest generalizing callee caller with
  | nil =>
      obtain ⟨hcaller, _, hrest⟩ := cons_cons_iff.mp hway
      exact .single (CallGraph.calls_iff.mpr ⟨caller, hcaller, singleton_iff.mp hrest⟩)
  | cons next others ih =>
      obtain ⟨hcaller, _, hrest⟩ := cons_cons_iff.mp hway
      exact (ih hrest).tail (CallGraph.calls_iff.mpr ⟨caller, hcaller, BEq.rfl⟩)

end IsWay

/-- For a target other than the start there is a simple chain exactly if the start reaches it. -/
theorem exists_isSimpleChain_iff_reaches {graph : CallGraph} {start : Routine}
    {policy : HandOffPolicy} {target : Routine} (hother : (target == start) = false) :
    (∃ chain, IsSimpleChain graph start policy target chain) ↔
      graph.Reaches policy start target := by
  constructor
  · rintro ⟨chain, hway⟩
    unfold IsSimpleChain at hway
    cases hreverse : chain.reverse with
    | nil =>
        rw [hreverse, IsWay.singleton_iff, hother] at hway
        cases hway
    | cons caller rest =>
        rw [hreverse] at hway
        exact hway.reaches
  · intro hreach
    obtain ⟨rest, hway⟩ := IsWay.exists_of_reaches hreach
    refine ⟨rest.reverse, ?_⟩
    unfold IsSimpleChain
    rwa [List.reverse_reverse]

namespace Search

/-- What a search that nothing stops returns is empty exactly if the start does not reach the
target. -/
theorem paths_eq_nil_iff {graph : CallGraph} {start : Routine} {policy : HandOffPolicy}
    {target : Routine} {run : Run} {found : List (List String)} (hother : (target == start) = false)
    (hfound : (paths graph start policy target run).1 = some found) :
    found = [] ↔ ¬ graph.Reaches policy start target := by
  rw [paths_fst, Option.map_eq_some_iff] at hfound
  obtain ⟨kept, hkept, rfl⟩ := hfound
  obtain ⟨_, rfl⟩ := chains_eq_some_iff.mp hkept
  rw [← exists_isSimpleChain_iff_reaches hother]
  constructor
  · rintro hnil ⟨chain, hchain⟩
    obtain ⟨first, hfirst, _⟩ := exists_mem_firstOccurrences (mem_arrivals_courseTo.mpr hchain)
    rw [nameChains, List.map_eq_nil_iff] at hnil
    rw [hnil] at hfirst
    exact List.not_mem_nil hfirst
  · intro hnone
    have hempty : arrivals (courseTo graph start policy target) = [] := by
      rw [List.eq_nil_iff_forall_not_mem]
      exact fun chain hchain => hnone ⟨chain, mem_arrivals_courseTo.mp hchain⟩
    rw [hempty]
    rfl

end Search

end CallChain
