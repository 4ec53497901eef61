import CallChain.Proofs.Index.Sites
import CallChain.Proofs.Search.Inclusion

/-!
# More names of hand-offs

The names that mark hand-offs come in three lists.  With more names in them every call that hands
off still does, so a place that is covered stays covered.  Nothing else in an index looks at these
names: its sites are the same ones in the same order, some of them handed off in addition.  A search
then enters routines from fewer callers, under either policy, and finds no chain that it would not
find with fewer names.
-/

namespace CallChain

open Python

/-! ## Places that are covered -/

namespace HandOffNames

/-- Each of the lists holds at least the same names. -/
structure Within (names wider : HandOffNames) : Prop where
  threadConstructors : names.threadConstructors ⊆ wider.threadConstructors
  executorTypes : names.executorTypes ⊆ wider.executorTypes
  executorMethods : names.executorMethods ⊆ wider.executorMethods

variable {names wider : HandOffNames} {imports : Option ImportTable}

theorem contains_of_subset {list longer : List String} (hsubset : list ⊆ longer) {text : String}
    (hcontains : list.contains text = true) : longer.contains text = true :=
  List.contains_iff_mem.mpr (hsubset (List.contains_iff_mem.mp hcontains))

theorem matchesCallee_of_within (hwithin : names.Within wider) {callee : Node}
    (hmatches : names.matchesCallee imports callee = true) :
    wider.matchesCallee imports callee = true := by
  have hbyLast : ∀ last : String,
      (names.threadConstructors.contains last || names.executorTypes.contains last) = true →
        (wider.threadConstructors.contains last || wider.executorTypes.contains last) = true := by
    intro last hlast
    rw [Bool.or_eq_true] at hlast ⊢
    exact hlast.imp (contains_of_subset hwithin.threadConstructors)
      (contains_of_subset hwithin.executorTypes)
  cases callee with
  | member span receiver attr context =>
      -- either list may decide, and the list of methods is asked first
      unfold matchesCallee at hmatches ⊢
      dsimp only at hmatches ⊢
      by_cases hmethod : wider.executorMethods.contains attr = true
      · rw [if_pos hmethod]
      · have hnone : ¬ names.executorMethods.contains attr = true := fun hattr =>
          hmethod (contains_of_subset hwithin.executorMethods hattr)
        rw [if_neg hnone] at hmatches
        rw [if_neg hmethod]
        split at hmatches
        · cases hmatches
        · exact hbyLast _ hmatches
  | name span id context => exact hbyLast _ hmatches
  | _ => cases hmatches

theorem isHandOff_of_within (hwithin : names.Within wider) {node : Node}
    (hhandOff : names.isHandOff imports node = true) : wider.isHandOff imports node = true := by
  unfold isHandOff at hhandOff ⊢
  split at hhandOff
  · exact matchesCallee_of_within hwithin hhandOff
  · cases hhandOff

/-- What is covered by hand-offs of some names is covered by those of more names. -/
theorem covers_of_within (hwithin : names.Within wider) {stop : Option (List Nat)} {s : Spot}
    (hcovers : names.covers imports stop s = true) : wider.covers imports stop s = true := by
  induction s with
  | root node =>
      rw [covers, Bool.and_eq_true] at hcovers ⊢
      exact ⟨hcovers.1, isHandOff_of_within hwithin hcovers.2⟩
  | child parent role index node ih =>
      rw [covers] at hcovers ⊢
      split at hcovers
      · cases hcovers
      · rename_i hstop
        rw [if_neg hstop, Bool.or_eq_true]
        rw [Bool.or_eq_true] at hcovers
        exact hcovers.imp (isHandOff_of_within hwithin) ih

end HandOffNames

/-- The settings with other names of hand-offs. -/
def Settings.withHandOffs (settings : Settings) (names : HandOffNames) : Settings :=
  { settings with
    threadConstructors := names.threadConstructors, executorTypes := names.executorTypes
    executorMethods := names.executorMethods }

/-! ## Sites of two indexes -/

namespace CallSite

/-- The sites are at the same place. -/
def SamePlace (a b : CallSite) : Prop := a.file = b.file ∧ a.line = b.line ∧ a.column = b.column

/-- To put sites in order keeps apart what was side by side, if it is at the same places. -/
theorem forall₂_sort {R : CallSite → CallSite → Prop} (hplace : ∀ a b, R a b → SamePlace a b)
    {sites others : List CallSite} (hsites : List.Forall₂ R sites others) :
    List.Forall₂ R (sort sites) (sort others) := by
  -- one list of pairs is put in order, and both lists are read off it
  let pairs := sites.zip others
  have hlength : sites.length = others.length := hsites.length_eq
  have hfirst : pairs.map Prod.fst = sites := List.map_fst_zip hlength.le
  have hsecond : pairs.map Prod.snd = others := List.map_snd_zip hlength.ge
  have hpairs : ∀ pair ∈ pairs, R pair.1 pair.2 := fun pair hpair =>
    List.forall₂_zip hsites hpair
  let sorted := pairs.mergeSort fun p q => p.1.notAfter q.1
  have hsortFirst : sort sites = sorted.map Prod.fst := by
    rw [sort, ← hfirst]
    exact (List.map_mergeSort (f := Prod.fst) fun _ _ _ _ => rfl).symm
  have hsortSecond : sort others = sorted.map Prod.snd := by
    rw [sort, ← hsecond]
    refine (List.map_mergeSort fun p hp q hq => ?_).symm
    obtain ⟨hpfile, hpline, hpcolumn⟩ := hplace _ _ (hpairs p hp)
    obtain ⟨hqfile, hqline, hqcolumn⟩ := hplace _ _ (hpairs q hq)
    simp only [notAfter, hpfile, hpline, hpcolumn, hqfile, hqline, hqcolumn]
  rw [hsortFirst, hsortSecond, List.forall₂_map_left_iff, List.forall₂_map_right_iff,
    List.forall₂_same]
  intro pair hpair
  exact hpairs pair (List.mem_mergeSort.mp hpair)

theorem HandedOver.samePlace {site wider : CallSite} (hover : site.HandedOver wider) :
    SamePlace site wider := by
  rw [hover.same]
  exact ⟨rfl, rfl, rfl⟩

theorem HandedOver.callee {site wider : CallSite} (hover : site.HandedOver wider) :
    site.callee = wider.callee := by
  rw [hover.same]

end CallSite

namespace Resolver

/-- More names of hand-offs only hand sites over. -/
theorem handedOver_sitesAt {names wider : HandOffNames} (hwithin : names.Within wider)
    (r : Resolver) (source : SourceModule) (s : Spot) :
    List.Forall₂ CallSite.HandedOver (r.sitesAt names source s) (r.sitesAt wider source s) := by
  unfold sitesAt
  cases referenceAt? s with
  | none => exact List.Forall₂.nil
  | some ref =>
      dsimp only
      cases r.targets ⟨source, enclosingFunctions s⟩ ref with
      | nil => exact List.Forall₂.nil
      | cons callee others =>
          rw [List.forall₂_map_left_iff, List.forall₂_map_right_iff, List.forall₂_same]
          intro target _
          exact ⟨rfl, fun hcovers => HandOffNames.covers_of_within hwithin hcovers⟩

end Resolver

namespace Index

/-- The sites of the two indexes are the same ones in the same order, some of them handed off in
addition in the second index. -/
def HandsOver (few more : Index) : Prop := List.Forall₂ CallSite.HandedOver few.sites more.sites

theorem HandsOver.sitesOf {few more : Index} (hsites : few.HandsOver more) (r : Routine) :
    List.Forall₂ CallSite.HandedOver (few.sitesOf r) (more.sitesOf r) := by
  have hsorted := CallSite.forall₂_sort (fun _ _ hover => hover.samePlace) hsites
  refine List.rel_filter (fun site wider hover => ?_) hsorted
  dsimp only
  rw [hover.callee]

theorem HandsOver.within {few more : Index} (hsites : few.HandsOver more) (policy : HandOffPolicy) :
    more.graph.Within few.graph policy := fun callee =>
  (policy.callers_sublist (hsites.sitesOf callee)).subset

/-- The parsed files do not depend on the settings, so that only the flags of the sites differ. -/
theorem handsOver_ofSources {settings : Settings} {wider : HandOffNames}
    (hwithin : settings.handOffNames.Within wider) (root : Option String)
    (sources : List (String × String)) :
    (ofSources settings root sources).HandsOver
      (ofSources (settings.withHandOffs wider) root sources) := by
  refine forall₂_flatMap fun source _ => forall₂_flatMap fun s _ => ?_
  exact Resolver.handedOver_sitesAt hwithin _ source s

/-- Let two settings differ only in the names of hand-offs, of which the second ones have more.  The
indexes of the same sources have the same sites in the same order, those of each routine as well as
all of them, except that sites may be handed off in the second index which are not in the first, and
never the other way round.  Whatever chain a search finds in the second index, it finds in the first,
under either policy. -/
theorem more_hand_offs_find_no_more (settings : Settings) (wider : HandOffNames)
    (hwithin : settings.handOffNames.Within wider) (root : Option String)
    (sources : List (String × String)) :
    let few := ofSources settings root sources
    let more := ofSources (settings.withHandOffs wider) root sources
    List.Forall₂ CallSite.HandedOver few.sites more.sites ∧
    (∀ r, List.Forall₂ CallSite.HandedOver (few.sitesOf r) (more.sitesOf r)) ∧
    ∀ start target policy, ∃ found foundMore,
      (Search.chains few.graph start policy target {}).1 = some found ∧
      (Search.chains more.graph start policy target {}).1 = some foundMore ∧
      ∀ chain ∈ foundMore, found.contains chain = true := by
  intro few more
  have hsites : few.HandsOver more := handsOver_ofSources hwithin root sources
  refine ⟨hsites, hsites.sitesOf, fun start target policy => ?_⟩
  refine ⟨_, _, Search.chains_of_token_none rfl, Search.chains_of_token_none rfl, ?_⟩
  intro chain hchain
  exact Search.foundChains_of_within (hsites.within policy) hchain

/-- A function that is handed to a starter of threads which the default names do not hold. -/
def launching : List (String × String) :=
  [("a.py", "def main():\n    launch(work)\n\ndef work():\n    return 1\n")]

/-- The default names and that starter. -/
def launchNames : HandOffNames :=
  let names := ({} : Settings).handOffNames
  { names with threadConstructors := "launch" :: names.threadConstructors }

theorem within_launchNames : ({} : Settings).handOffNames.Within launchNames where
  threadConstructors := List.subset_cons_self "launch" _
  executorTypes := List.Subset.refl _
  executorMethods := List.Subset.refl _

theorem more_hand_offs_find_no_more_of_launching :
    (ofSources {} none launching).sites.map CallSite.handedOff = [false] ∧
      (ofSources (({} : Settings).withHandOffs launchNames) none launching).sites.map
        CallSite.handedOff = [true] ∧
      List.Forall₂ CallSite.HandedOver (ofSources {} none launching).sites
        (ofSources (({} : Settings).withHandOffs launchNames) none launching).sites :=
  ⟨by decide +kernel, by decide +kernel,
    (more_hand_offs_find_no_more {} launchNames within_launchNames none launching).1⟩

end Index

end CallChain
