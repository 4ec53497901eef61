import CallChain.Detector
import CallChain.Proofs.Index.Files

/-!
# Texts that cannot be parsed

A text that cannot be parsed is listed as skipped and leaves no other trace.  The files of an index
are known by two facts: they are in the order of their paths (`pairwise_files`), and they are those of
the texts that can be parsed (`mem_files_ofSources_iff`).  Neither depends on the order in which the
texts are given, or on texts that cannot be parsed, and all the rest is computed from the files.

So two indexes of which one was given the texts of the other in any order, and others that cannot be
parsed, coincide in all that they can be asked for: `unparsed_texts_leave_no_trace`.
-/

namespace CallChain

/-- What another key maps to has no influence. -/
theorem Assoc.get?_replaced {α : Type} {key other : String} (hne : (other == key) = false)
    (front back : List (String × α)) (first second : α) :
    get? key (front ++ (other, first) :: back) = get? key (front ++ (other, second) :: back) := by
  induction front with
  | nil => simp only [List.nil_append, get?, hne, Bool.false_eq_true, if_false]
  | cons entry rest ih => simp only [List.cons_append, get?, ih]

namespace Index

open Python

variable (settings : Settings) (root : Option String) {sources : List (String × String)}

/-! ## What is parsed and what is skipped -/

/-- The files are those of the texts that can be parsed. -/
theorem mem_files_ofSources_iff {m : SourceModule} :
    m ∈ (ofSources settings root sources).files ↔
      ∃ path text tree, (path, text) ∈ sources ∧ parse? text = some tree ∧ m = moduleOf path tree := by
  simp only [ofSources, ofParsed, ofModules, sortSources, List.mem_mergeSort, List.mem_filterMap,
    List.mem_map, Option.map_eq_some_iff]
  constructor
  · rintro ⟨-, ⟨⟨path, text⟩, hsource, rfl⟩, tree, htree, hm⟩
    exact ⟨path, text, tree, hsource, htree, hm.symm⟩
  · rintro ⟨path, text, tree, hsource, htree, hm⟩
    exact ⟨_, ⟨_, hsource, rfl⟩, tree, htree, hm.symm⟩

theorem mem_skipped_ofSources_iff {path : String} :
    path ∈ (ofSources settings root sources).skipped ↔
      ∃ text, (path, text) ∈ sources ∧ parse? text = none := by
  simp only [ofSources, ofParsed, ofModules, sortSources, List.mem_map, List.mem_filter,
    List.mem_mergeSort, Option.isNone_iff_eq_none]
  constructor
  · rintro ⟨-, ⟨⟨⟨path, text⟩, hsource, rfl⟩, hnone⟩, rfl⟩
    exact ⟨text, hsource, hnone⟩
  · rintro ⟨text, hsource, hnone⟩
    exact ⟨_, ⟨⟨_, hsource, rfl⟩, hnone⟩, rfl⟩

/-- Skipped files are listed in the order of their paths. -/
theorem pairwise_skipped (hpaths : (sources.map Prod.fst).Nodup) :
    (ofSources settings root sources).skipped.Pairwise (· < ·) := by
  have hsorted : ((sortSources sources).map fun source => (source.1, parse? source.2)).Pairwise
      fun a b => a.1 < b.1 :=
    List.pairwise_map.mpr (Text.pairwise_lt_mergeSort Prod.fst hpaths)
  exact List.pairwise_map.mpr (hsorted.sublist List.filter_sublist)

/-! ## Indexes that coincide -/

/-- The two indexes can be told apart by what they skipped at most: they hold the same files with
their tables, the same routines and sites, bind and find routines alike, and are searched with the same
reports. -/
structure Coincides (first second : Index) : Prop where
  settings : second.settings = first.settings
  root : second.root = first.root
  files : second.files = first.files
  routines : second.routines = first.routines
  sites : second.sites = first.sites
  sitesOf : ∀ r, second.sitesOf r = first.sitesOf r
  resolver : second.resolver = first.resolver
  findRoutines : ∀ spec, second.findRoutines spec = first.findRoutines spec
  enclosingRoutine? : ∀ file s, second.enclosingRoutine? file s = first.enclosingRoutine? file s
  detect : ∀ settings start name run,
    Detector.detect second settings start name run = Detector.detect first settings start name run
  summary : ∀ key ≠ "skipped_files", second.summary.field? key = first.summary.field? key

/-- A search reads an index through the names that it finds and through its graph. -/
theorem detect_congr {first second : Index} (hgraph : second.graph = first.graph)
    (hfind : ∀ spec, second.findRoutines spec = first.findRoutines spec) (settings : Settings)
    (start : Option Routine) (name : Option String) (run : Run) :
    Detector.detect second settings start name run = Detector.detect first settings start name run := by
  simp only [Detector.detect, Detector.detectNamed, hgraph, hfind]

theorem findRoutines_with_skipped (index : Index) (skipped : List String) (spec : String) :
    findRoutines { index with skipped } spec = index.findRoutines spec := by
  simp only [findRoutines, specFile, routines]

theorem summary_with_skipped (index : Index) (skipped : List String) {key : String}
    (hkey : key ≠ "skipped_files") :
    (summary { index with skipped }).field? key = index.summary.field? key := by
  have hskipped : ("skipped_files" == key) = false := beq_eq_false_iff_ne.mpr hkey.symm
  unfold summary Value.field?
  exact Assoc.get?_replaced hskipped [_, _] _ _ _

theorem coincides_with_skipped (index : Index) (skipped : List String) :
    index.Coincides { index with skipped } where
  settings := rfl
  root := rfl
  files := rfl
  routines := rfl
  sites := rfl
  sitesOf _ := rfl
  resolver := rfl
  findRoutines := findRoutines_with_skipped index skipped
  enclosingRoutine? _ _ := rfl
  detect := detect_congr rfl (findRoutines_with_skipped index skipped)
  summary _ := summary_with_skipped index skipped

/-- An index of texts is known by its files, up to what was skipped. -/
theorem ofSources_eq_of_files {others : List (String × String)}
    (hfiles : (ofSources settings root others).files = (ofSources settings root sources).files) :
    ofSources settings root others =
      { ofSources settings root sources with skipped := (ofSources settings root others).skipped } := by
  simp only [ofSources, ofParsed, ofModules] at hfiles ⊢
  rw [hfiles]

/-- Let texts be given by different paths, some of which cannot be parsed, in any order.  The index of
them coincides with that of the others.  The paths that it skipped are those of the texts that cannot
be parsed, in order. -/
theorem unparsed_texts_leave_no_trace {broken given : List (String × String)}
    (hpaths : ((sources ++ broken).map Prod.fst).Nodup)
    (hbroken : ∀ source ∈ broken, parse? source.2 = none) (hgiven : given.Perm (sources ++ broken)) :
    (ofSources settings root sources).Coincides (ofSources settings root given) ∧
      (ofSources settings root given).skipped.Pairwise (· < ·) ∧
      (∀ path, path ∈ (ofSources settings root given).skipped ↔
        ∃ text, (path, text) ∈ given ∧ parse? text = none) ∧
      (ofSources settings root given).summary.field? "skipped_files" =
        some (.list ((ofSources settings root given).skipped.map Value.text)) := by
  have hdistinct : (given.map Prod.fst).Nodup := ((hgiven.map Prod.fst).nodup_iff).mpr hpaths
  have hsources : (sources.map Prod.fst).Nodup := by
    rw [List.map_append] at hpaths
    exact hpaths.of_append_left
  have hfiles : (ofSources settings root given).files = (ofSources settings root sources).files := by
    refine Text.eq_of_pairwise_lt SourceModule.file (pairwise_files settings root hdistinct)
      (pairwise_files settings root hsources) fun m => ?_
    rw [mem_files_ofSources_iff, mem_files_ofSources_iff]
    constructor
    · rintro ⟨path, text, tree, hmem, htree, hm⟩
      rcases List.mem_append.mp (hgiven.mem_iff.mp hmem) with hsource | hskipped
      · exact ⟨path, text, tree, hsource, htree, hm⟩
      · cases (hbroken _ hskipped).symm.trans htree
    · rintro ⟨path, text, tree, hsource, htree, hm⟩
      exact ⟨path, text, tree, hgiven.mem_iff.mpr (List.mem_append_left _ hsource), htree, hm⟩
  refine ⟨?_, pairwise_skipped settings root hdistinct,
    fun path => mem_skipped_ofSources_iff settings root, rfl⟩
  rw [ofSources_eq_of_files settings root hfiles]
  exact coincides_with_skipped _ _

/-- Two texts, the later path first, and between them one that cannot be parsed. -/
def scattered : List (String × String) :=
  [("m.py", "def f(): g()\n"), ("b.py", "def g(:"), ("a.py", "def g(): return 1\n")]

theorem unparsed_texts_leave_no_trace_of_scattered :
    parse? "def g(:" = none ∧
      (ofSources {} none [("a.py", "def g(): return 1\n"), ("m.py", "def f(): g()\n")]).Coincides
        (ofSources {} none scattered) ∧
      (ofSources {} none scattered).skipped = ["b.py"] := by
  have hbroken : parse? "def g(:" = none := Option.isNone_iff_eq_none.mp (by decide +kernel)
  obtain ⟨hcoincides, hsorted, hskipped, -⟩ := @unparsed_texts_leave_no_trace {} none
    [("a.py", "def g(): return 1\n"), ("m.py", "def f(): g()\n")] [("b.py", "def g(:")] scattered
    (by decide) (by simpa using hbroken) (by decide)
  refine ⟨hbroken, hcoincides, Text.eq_of_pairwise_lt id hsorted (by decide) fun path => ?_⟩
  have hfirst : parse? "def f(): g()\n" ≠ none := Option.isSome_iff_ne_none.mp (by decide +kernel)
  have hlast : parse? "def g(): return 1\n" ≠ none := Option.isSome_iff_ne_none.mp (by decide +kernel)
  rw [hskipped, List.mem_singleton]
  constructor
  · rintro ⟨text, hmem, hnone⟩
    simp only [scattered, List.mem_cons, List.not_mem_nil, or_false, Prod.mk.injEq] at hmem
    rcases hmem with ⟨rfl, rfl⟩ | ⟨rfl, rfl⟩ | ⟨rfl, rfl⟩
    · exact absurd hnone hfirst
    · rfl
    · exact absurd hnone hlast
  · rintro rfl
    exact ⟨_, by decide, hbroken⟩

end Index

end CallChain
