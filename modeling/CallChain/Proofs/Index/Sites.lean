import CallChain.Proofs.Index.Mentions
import CallChain.Proofs.Occurrences
import Mathlib.Data.String.Basic

/-!
# The call sites of an index

An index of sources is closed: the callees and callers of its sites are routines of its own, a
caller is missing exactly where no function has the reference in its body, and the sites of a
routine come in the order of their places, those at one place in the order of the walk.

It is also complete: the sites are in bijection with the mentions of routines, and have the kind,
place, caller and flag of what is mentioned.
-/

namespace CallChain

open Python

/-! ## The order of places -/

namespace CallSite

/-- The first site is not behind the second one: by file, then line, then column. -/
def InOrder (a b : CallSite) : Prop :=
  a.file < b.file ∨ a.file = b.file ∧ (a.line < b.line ∨ a.line = b.line ∧ a.column ≤ b.column)

theorem notAfter_iff {a b : CallSite} : a.notAfter b = true ↔ a.InOrder b := by
  unfold notAfter InOrder
  split
  · rename_i hfile
    simp [hfile]
  · rename_i hfile
    have hfile : a.file = b.file := not_not.mp hfile
    split
    · rename_i hline
      simp [hfile, hline]
    · rename_i hline
      have hline : a.line = b.line := not_not.mp hline
      simp [hfile, hline]

theorem InOrder.trans {a b c : CallSite} (hab : a.InOrder b) (hbc : b.InOrder c) : a.InOrder c := by
  unfold InOrder at *
  rcases hab with hfile | ⟨hfile, hab⟩
  · rcases hbc with hfile' | ⟨hfile', -⟩
    · exact .inl (hfile.trans hfile')
    · exact .inl (hfile' ▸ hfile)
  · rcases hbc with hfile' | ⟨hfile', hbc⟩
    · exact .inl (hfile ▸ hfile')
    · exact .inr ⟨hfile.trans hfile', by omega⟩

theorem inOrder_total (a b : CallSite) : a.InOrder b ∨ b.InOrder a := by
  unfold InOrder
  rcases lt_trichotomy a.file b.file with hfile | hfile | hfile
  · exact .inl (.inl hfile)
  · rw [hfile]
    have : (a.line < b.line ∨ a.line = b.line ∧ a.column ≤ b.column) ∨
        (b.line < a.line ∨ b.line = a.line ∧ b.column ≤ a.column) := by omega
    exact this.imp (fun h => .inr ⟨rfl, h⟩) fun h => .inr ⟨rfl, h⟩
  · exact .inr (.inl hfile)

theorem notAfter_trans (a b c : CallSite) (hab : a.notAfter b = true) (hbc : b.notAfter c = true) :
    a.notAfter c = true :=
  notAfter_iff.mpr ((notAfter_iff.mp hab).trans (notAfter_iff.mp hbc))

theorem notAfter_total (a b : CallSite) : (a.notAfter b || b.notAfter a) = true := by
  rw [Bool.or_eq_true, notAfter_iff, notAfter_iff]
  exact inOrder_total a b

theorem pairwise_sort (sites : List CallSite) : (sort sites).Pairwise InOrder :=
  (List.pairwise_mergeSort notAfter_trans notAfter_total sites).imp fun h => notAfter_iff.mp h

/-- Sites between which the order does not decide stay as they are. -/
theorem filter_sort {keep : CallSite → Bool}
    (hkeep : ∀ a b, keep a = true → keep b = true → a.InOrder b) (sites : List CallSite) :
    (sort sites).filter keep = sites.filter keep := by
  have hpairwise : (sites.filter keep).Pairwise fun a b => a.notAfter b = true := by
    refine List.pairwise_of_forall_mem_list fun a ha b hb => notAfter_iff.mpr ?_
    exact hkeep a b (List.mem_filter.mp ha).2 (List.mem_filter.mp hb).2
  have hsublist : (sites.filter keep).Sublist ((sort sites).filter keep) := by
    have hsort := List.sublist_mergeSort notAfter_trans notAfter_total hpairwise List.filter_sublist
    simpa [sort] using hsort.filter keep
  refine (hsublist.eq_of_length ?_).symm
  exact ((List.mergeSort_perm sites notAfter).filter keep).length_eq.symm

/-- Whether a site is at a place. -/
def isAt (file : String) (line column : Nat) (site : CallSite) : Bool :=
  site.file == file && site.line == line && site.column == column

theorem inOrder_of_isAt {file : String} {line column : Nat} {a b : CallSite}
    (ha : a.isAt file line column = true) (hb : b.isAt file line column = true) : a.InOrder b := by
  simp only [isAt, Bool.and_eq_true, beq_iff_eq] at ha hb
  exact .inr ⟨ha.1.1.trans hb.1.1.symm, .inr ⟨ha.1.2.trans hb.1.2.symm, (ha.2.trans hb.2.symm).le⟩⟩

end CallSite

namespace Index

variable {index : Index}

/-! ## Sites and mentions -/

theorem exists_of_mem_forall₂ {α β : Type} {R : α → β → Prop} {as : List α} {bs : List β}
    (hrel : List.Forall₂ R as bs) {b : β} (hb : b ∈ bs) : ∃ a ∈ as, R a b := by
  induction hrel with
  | nil => cases hb
  | cons hfirst _ ih =>
      rcases List.mem_cons.mp hb with rfl | hrest
      · exact ⟨_, List.mem_cons_self, hfirst⟩
      · obtain ⟨a, ha, hrel⟩ := ih hrest
        exact ⟨a, List.mem_cons_of_mem _ ha, hrel⟩

/-- Every site was found at a place of a file, where it records a mention. -/
theorem Regular.exists_mention (hindex : index.Regular) {site : CallSite}
    (hsite : site ∈ index.sites) :
    ∃ x, index.IsMention x ∧ index.Records x site ∧
      site ∈ index.resolver.sitesAt index.settings.handOffNames x.source x.spot := by
  rw [hindex.sites] at hsite
  obtain ⟨source, hsource, hin⟩ := List.mem_flatMap.mp hsite
  obtain ⟨s, hs, hat⟩ := List.mem_flatMap.mp hin
  obtain ⟨x, hx, hrecords⟩ := exists_of_mem_forall₂ (hindex.records_sitesAt hsource s) hat
  have hmention : x ∈ index.mentions :=
    List.mem_flatMap.mpr ⟨source, hsource, List.mem_flatMap.mpr ⟨s, hs, hx⟩⟩
  obtain ⟨routine, -, rfl⟩ := List.mem_map.mp hx
  exact ⟨_, mem_mentions_iff.mp hmention, hrecords, hat⟩

/-- What is mentioned is a routine of the index. -/
theorem Regular.mem_routines (hindex : index.Regular) {x : Mention} (hx : index.IsMention x) :
    x.routine ∈ index.routines := by
  obtain ⟨hsource, -, hrefers⟩ := hx
  have hdeclared : index.resolver.Declares x.routine := by
    rcases hrefers with ⟨_, _, _, _, -, hroutine⟩ | ⟨-, -, -, hroutine⟩
    · exact (Resolver.declares_of_mem_resolve hindex.resolver.coherent hsource hroutine).1
    · exact (Resolver.declares_of_mem_resolve hindex.resolver.coherent hsource hroutine).1
  exact List.mem_flatMap.mpr hdeclared

theorem mem_sitesOf_iff {r : Routine} {site : CallSite} :
    site ∈ index.sitesOf r ↔ site ∈ index.sites ∧ (site.callee == r) = true := by
  rw [sitesOf, CallGraph.sitesOf, List.mem_filter, graph, CallSite.sort, List.mem_mergeSort]

theorem pairwise_sitesOf (r : Routine) : (index.sitesOf r).Pairwise CallSite.InOrder :=
  (CallSite.pairwise_sort index.sites).filter _

/-- The sites at a place of a file come in the order of the walk. -/
theorem Regular.filter_sitesOf (hindex : index.Regular) {source : SourceModule}
    (hsource : source ∈ index.files) (r : Routine) (line column : Nat) :
    (index.sitesOf r).filter (CallSite.isAt source.file line column) =
      (index.resolver.sitesIn index.settings.handOffNames source).filter fun site =>
        site.isAt source.file line column && site.callee == r := by
  have hsorted : (index.sitesOf r).filter (CallSite.isAt source.file line column) =
      index.sites.filter fun site => site.isAt source.file line column && site.callee == r := by
    rw [sitesOf, CallGraph.sitesOf, List.filter_filter]
    refine CallSite.filter_sort (fun a b ha hb => ?_) index.sites
    rw [Bool.and_eq_true] at ha hb
    exact CallSite.inOrder_of_isAt ha.1 hb.1
  rw [hsorted, hindex.sites, List.filter_flatMap]
  -- the sites of another file are at places of that file
  refine flatMap_eq_of_unique hindex.nodup_files hsource fun other hother hne => ?_
  rw [List.filter_eq_nil_iff]
  intro site hsite hkeep
  simp only [CallSite.isAt, Bool.and_eq_true, beq_iff_eq] at hkeep
  obtain ⟨s, -, hat⟩ := List.mem_flatMap.mp hsite
  obtain ⟨x, hx, hrecords⟩ := exists_of_mem_forall₂ (hindex.records_sitesAt hother s) hat
  obtain ⟨routine, -, rfl⟩ := List.mem_map.mp hx
  refine hne (hindex.resolver.eq_of_file_eq hother hsource ?_)
  exact hrecords.file.symm.trans hkeep.1.1.1

/-! ## The call graph is closed -/

/-- The caller of a recorded mention: the routine around its place, one of the same file. -/
theorem Regular.caller_spec (hindex : index.Regular) {x : Mention} {site : CallSite}
    (hx : index.IsMention x) (hrecords : index.Records x site) :
    (site.caller = none ↔ ∀ function, ¬ InBody function x.spot) ∧
      ∀ caller, site.caller = some caller → caller ∈ index.routines ∧ caller.file = site.file := by
  rw [hrecords.caller, hrecords.file]
  rcases hindex.enclosingRoutine?_cases hx.1 hx.2.1 with
    ⟨hnone, hbody⟩ | ⟨routine, hroutine, hsome, function, hbody⟩
  · rw [hnone]
    exact ⟨iff_of_true rfl hbody, nofun⟩
  · rw [hsome]
    refine ⟨iff_of_false nofun fun hnot => hnot function hbody, ?_⟩
    rintro caller ⟨⟩
    exact ⟨List.mem_flatMap.mpr ⟨x.source, hx.1, hroutine⟩,
      (hindex.resolver.parsed x.source hx.1).file_eq hroutine⟩

/-- Every routine that has sites is one of the index.  Each of its sites has it as callee, stands at
a place of one of the files and has the routine around that place as caller: none exactly if no
function has the place in its body, and else one of the routines declared in that file.  The sites
are in the order of file, line and column, and those at one place in the order of the walk through
the tree of their file, level by level. -/
theorem call_graph_closed (settings : Settings) (root : Option String)
    (sources : List (String × String)) (hpaths : (sources.map Prod.fst).Nodup) (r : Routine) :
    let index := ofSources settings root sources
    (index.sitesOf r ≠ [] → index.contains r = true) ∧
    (∀ site ∈ index.sitesOf r, site.callee ∈ index.routines ∧ (site.callee == r) = true ∧
      ∃ source ∈ index.files, site.file = source.file ∧ ∃ s : Spot, s.IsIn source.tree ∧
        site ∈ index.resolver.sitesAt settings.handOffNames source s ∧
        site.caller = index.enclosingRoutine? site.file s ∧
        (site.caller = none ↔ ∀ function, ¬ InBody function s) ∧
        ∀ caller, site.caller = some caller →
          caller ∈ index.routines ∧ caller.file = site.file) ∧
    (index.sitesOf r).Pairwise CallSite.InOrder ∧
    ∀ source ∈ index.files, ∀ line column,
      (index.sitesOf r).filter (CallSite.isAt source.file line column) =
        ((Spot.root source.tree).walk.flatMap
          (index.resolver.sitesAt settings.handOffNames source)).filter fun site =>
            site.isAt source.file line column && site.callee == r := by
  intro index
  have hindex : index.Regular := regular_ofSources settings root hpaths
  have hcallee : ∀ site ∈ index.sitesOf r, site.callee ∈ index.routines ∧
      (site.callee == r) = true := by
    intro site hsite
    obtain ⟨hrecorded, heq⟩ := mem_sitesOf_iff.mp hsite
    obtain ⟨x, hx, hrecords, -⟩ := hindex.exists_mention hrecorded
    exact ⟨hrecords.callee ▸ hindex.mem_routines hx, heq⟩
  refine ⟨fun hne => ?_, fun site hsite => ?_, pairwise_sitesOf r,
    fun source hsource line column => hindex.filter_sitesOf hsource r line column⟩
  · obtain ⟨site, hsite⟩ := List.exists_mem_of_ne_nil _ hne
    obtain ⟨hmem, heq⟩ := hcallee site hsite
    exact List.contains_iff_exists_mem_beq.mpr ⟨site.callee, hmem, BEq.symm heq⟩
  · obtain ⟨x, hx, hrecords, hat⟩ := hindex.exists_mention (mem_sitesOf_iff.mp hsite).1
    obtain ⟨hnone, hsome⟩ := hindex.caller_spec hx hrecords
    refine ⟨(hcallee site hsite).1, (hcallee site hsite).2, x.source, hx.1, hrecords.file, x.spot,
      hx.2.1, hat, ?_, hnone, hsome⟩
    rw [hrecords.file]
    exact hrecords.caller

/-- A file with two functions, one of which calls the other. -/
def oneCall : List (String × String) := [("a.py", "def f():\n    g()\n\ndef g():\n    pass\n")]

/-- The function that is called. -/
def calledOnce : Routine :=
  { name := "g", qualname := "g", moduleName := "a", file := "a.py", line := 4, endLine := 5
    hasBody := false }

theorem call_graph_closed_of_one_call :
    ((ofSources {} none oneCall).sitesOf calledOnce).length = 1 ∧
      (ofSources {} none oneCall).contains calledOnce = true := by
  have hlength : ((ofSources {} none oneCall).sitesOf calledOnce).length = 1 := by decide +kernel
  refine ⟨hlength, (call_graph_closed {} none oneCall (by decide) calledOnce).1 fun hnil => ?_⟩
  rw [hnil] at hlength
  cases hlength

/-! ## Every mention is recorded once -/

/-- The routines of the index are told apart by their files and lines. -/
theorem Regular.eq_of_file_of_line (hindex : index.Regular) {a b : Routine}
    (ha : a ∈ index.routines) (hb : b ∈ index.routines) (hfile : a.file = b.file)
    (hline : a.line = b.line) : a = b := by
  obtain ⟨m, hm, ham⟩ := List.mem_flatMap.mp ha
  obtain ⟨m', hm', hbm⟩ := List.mem_flatMap.mp hb
  have hparsed := hindex.resolver.parsed m hm
  have hparsed' := hindex.resolver.parsed m' hm'
  obtain rfl : m = m' := hindex.resolver.eq_of_file_eq hm hm' <|
    (hparsed.file_eq ham).symm.trans (hfile.trans (hparsed'.file_eq hbm))
  exact hparsed.eq_of_line_eq ham hbm hline

/-- A mention is known by the path of its file, the way to its place, and the file and line of the
routine. -/
theorem Regular.mention_ext (hindex : index.Regular) {x y : Mention} (hx : index.IsMention x)
    (hy : index.IsMention y) (hsource : x.source.file = y.source.file)
    (hpath : x.spot.path = y.spot.path) (hfile : x.routine.file = y.routine.file)
    (hline : x.routine.line = y.routine.line) : x = y := by
  have hroutine := hindex.eq_of_file_of_line (hindex.mem_routines hx) (hindex.mem_routines hy) hfile hline
  have hfiles := hindex.resolver.eq_of_file_eq hx.1 hy.1 hsource
  have hspot : x.spot = y.spot := hx.2.1.eq_of_path_eq (hfiles ▸ hy.2.1) hpath
  cases x
  cases y
  cases hroutine
  cases hfiles
  cases hspot
  rfl

/-- The sites of the index are in bijection with the mentions of routines in its files: there is one
site for each mention, in the same order, and it has the kind, place, caller and flag of what is at
the place.  No mention occurs twice, also if mentions are told apart only by file and path of the
place and by file and line of the routine.  The sites of a routine are those whose callee it is, and
the summary counts the mentions, and those that are handed off. -/
theorem sites_are_the_mentions (settings : Settings) (root : Option String)
    (sources : List (String × String)) (hpaths : (sources.map Prod.fst).Nodup) :
    let index := ofSources settings root sources
    ∃ mentions : List Mention,
      (∀ x, x ∈ mentions ↔ index.IsMention x) ∧
      mentions.Pairwise (fun x y => ¬ (x.source.file = y.source.file ∧ x.spot.path = y.spot.path ∧
        x.routine.file = y.routine.file ∧ x.routine.line = y.routine.line)) ∧
      List.Forall₂ index.Records mentions index.sites ∧
      (∀ r, (index.sitesOf r).Perm (index.sites.filter fun site => site.callee == r)) ∧
      index.summary.field? "call_sites" = some (.int mentions.length) ∧
      index.summary.field? "async_boundary_call_sites" =
        some (.int (mentions.filter index.handsOff).length) := by
  intro index
  have hindex : index.Regular := regular_ofSources settings root hpaths
  have hrecords := hindex.records_sites
  refine ⟨index.mentions, fun x => mem_mentions_iff, ?_, hrecords, fun r => ?_, ?_, ?_⟩
  · refine (List.nodup_iff_pairwise_ne.mp hindex.nodup_mentions).imp_of_mem ?_
    rintro x y hx hy hne ⟨hsource, hpath, hfile, hline⟩
    exact hne (hindex.mention_ext (mem_mentions_iff.mp hx) (mem_mentions_iff.mp hy) hsource hpath
      hfile hline)
  · exact (List.mergeSort_perm index.sites CallSite.notAfter).filter _
  · rw [hrecords.length_eq]
    rfl
  · have hflagged : (mentions index |>.filter index.handsOff).length =
        (index.sites.filter CallSite.handedOff).length := by
      refine (List.rel_filter (fun x site hsite => ?_) hrecords).length_eq
      simp only [hsite.handedOff]
    rw [hflagged]
    rfl

theorem sites_are_the_mentions_of_one_call :
    ∃ mentions : List Mention, mentions.length = 1 ∧
      List.Forall₂ (ofSources {} none oneCall).Records mentions (ofSources {} none oneCall).sites := by
  have hlength : (ofSources {} none oneCall).sites.length = 1 := by decide +kernel
  obtain ⟨mentions, -, -, hrecords, -⟩ := sites_are_the_mentions {} none oneCall (by decide)
  exact ⟨mentions, hrecords.length_eq.trans hlength, hrecords⟩

end Index

end CallChain
