import CallChain.Proofs.Search.Enumeration

/-!
# A search in a graph with fewer callers

Two graphs are compared by the callers from which a routine is entered when it is expanded.  If each
of these callers in the one graph is one in the other, then every way of the first graph is a way of
the second, and so every chain that is found in the first is found in the second.  The order of the
callers does not matter, nor how often one of them occurs.

What makes callers fewer: to hand more sites off, under either policy, and to leave sites out, where
the policy only passes over what is handed off.  Where a hand-off ends the expansion of a routine, a
site that is left out may be the one that ends it, so leaving it out may let more callers through.
-/

namespace CallChain

/-- From wherever a routine is entered in the first graph, it is entered in the second. -/
def CallGraph.Within (few many : CallGraph) (policy : HandOffPolicy) : Prop :=
  ∀ callee, few.callers policy callee ⊆ many.callers policy callee

theorem IsWay.of_within {few many : CallGraph} {start : Routine} {policy : HandOffPolicy}
    {way : List Routine} (hwithin : few.Within many policy) (hway : IsWay few start policy way) :
    IsWay many start policy way where
  linked := hway.linked.imp fun {callee _} hcaller => hwithin callee hcaller
  distinct := hway.distinct
  anchored := hway.anchored

namespace Search

/-- The chains that a search finds if nothing stops it. -/
def foundChains (graph : CallGraph) (start : Routine) (policy : HandOffPolicy) (target : Routine) :
    List Chain :=
  firstOccurrences (arrivals (courseTo graph start policy target))

theorem chains_of_token_none {graph : CallGraph} {start target : Routine} {policy : HandOffPolicy}
    {run : Run} (htoken : run.token = none) :
    (chains graph start policy target run).1 = some (foundChains graph start policy target) :=
  chains_eq_some_iff.mpr ⟨not_seesCancelled_of_token_none _ htoken, rfl⟩

/-- Chains are compared by the keys of their routines: what is found is, up to that, what is simple. -/
theorem contains_foundChains {graph : CallGraph} {start target : Routine} {policy : HandOffPolicy}
    {chain : Chain} (hchain : IsSimpleChain graph start policy target chain) :
    (foundChains graph start policy target).contains chain = true := by
  rw [foundChains, contains_firstOccurrences]
  have hmem := mem_arrivals_courseTo.mpr hchain
  exact List.contains_iff_exists_mem_beq.mpr ⟨chain, hmem, BEq.rfl⟩

theorem isSimpleChain_of_mem_foundChains {graph : CallGraph} {start target : Routine}
    {policy : HandOffPolicy} {chain : Chain}
    (hchain : chain ∈ foundChains graph start policy target) :
    IsSimpleChain graph start policy target chain :=
  mem_arrivals_courseTo.mp ((firstOccurrences_sublist _).subset hchain)

/-- What is found in a graph with fewer callers is found in the other one. -/
theorem foundChains_of_within {few many : CallGraph} {policy : HandOffPolicy}
    (hwithin : few.Within many policy) {start target : Routine} {chain : Chain}
    (hchain : chain ∈ foundChains few start policy target) :
    (foundChains many start policy target).contains chain = true := by
  have hway : IsSimpleChain few start policy target chain := isSimpleChain_of_mem_foundChains hchain
  exact contains_foundChains (hway.of_within hwithin)

end Search

/-! ## Sites that are handed off in addition -/

/-- The second site is the first one, except that it may be handed off where the first is not. -/
structure CallSite.HandedOver (site wider : CallSite) : Prop where
  same : wider = { site with handedOff := wider.handedOff }
  kept : site.handedOff = true → wider.handedOff = true

theorem CallSite.HandedOver.caller {site wider : CallSite} (hover : site.HandedOver wider) :
    wider.caller = site.caller := by
  rw [hover.same]

theorem CallSite.HandedOver.not_handedOff {site wider : CallSite} (hover : site.HandedOver wider)
    (hoff : wider.handedOff = false) : site.handedOff = false := by
  cases hsite : site.handedOff with
  | false => rfl
  | true => rw [hover.kept hsite] at hoff; cases hoff

/-- Under either policy, callers that are let through although more is handed off are let through. -/
theorem HandOffPolicy.callers_sublist (policy : HandOffPolicy) {sites wider : List CallSite}
    (hsites : List.Forall₂ CallSite.HandedOver sites wider) :
    ((policy.admitted wider).filterMap CallSite.caller).Sublist
      ((policy.admitted sites).filterMap CallSite.caller) := by
  induction hsites with
  | nil => cases policy <;> exact List.Sublist.refl _
  | @cons site site' rest rest' hover _ ih =>
      cases hoff : site'.handedOff with
      | true =>
          -- the wider site is not let through: under `sever` nothing behind it is either
          cases policy with
          | sever => simp [admitted, hoff]
          | skip =>
              have hskip : HandOffPolicy.skip.admitted (site' :: rest') =
                  HandOffPolicy.skip.admitted rest' := by
                simp [admitted, hoff]
              rw [hskip]
              refine ih.trans (List.Sublist.filterMap _ ?_)
              exact (List.sublist_cons_self site rest).filter _
      | false =>
          have hsite : site.handedOff = false := hover.not_handedOff hoff
          have hboth : policy.admitted (site' :: rest') = site' :: policy.admitted rest' ∧
              policy.admitted (site :: rest) = site :: policy.admitted rest := by
            cases policy <;> simp [admitted, hoff, hsite]
          rw [hboth.1, hboth.2, List.filterMap_cons, List.filterMap_cons, hover.caller]
          cases site.caller with
          | none => exact ih
          | some caller => exact ih.cons_cons caller

/-! ## Sites that are left out -/

/-- Where hand-offs are passed over, callers are let through if their sites stay. -/
theorem HandOffPolicy.callers_sublist_of_sublist {sites more : List CallSite}
    (hsites : sites.Sublist more) :
    ((HandOffPolicy.skip.admitted sites).filterMap CallSite.caller).Sublist
      ((HandOffPolicy.skip.admitted more).filterMap CallSite.caller) :=
  (hsites.filter _).filterMap _

end CallChain
