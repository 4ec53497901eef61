import CallChain.Proofs.Index.Mentions
import CallChain.Proofs.Occurrences
import Mathlib.Data.String.Basic

/-!
# The files of an index

The files stand in the order of their paths, and a table holds them by the names of their modules.
Of two files with one name only the later is in the table: the earlier one is `Shadowed`.

Sources that are given in the order of their paths are not moved: `ofSources_of_sorted`.
-/

namespace CallChain

open Python

/-! ## Files by the names of their modules -/

namespace Resolver

variable {r : Resolver}

/-- A file is found under the name of its module if it is the last one of that name. -/
theorem get?_modules (r : Resolver) (name : String) :
    Assoc.get? name r.modules = r.files.reverse.find? fun m => m.name == name := by
  rw [modules, Assoc.get?_foldl_put_eq, Option.map_id']

/-- If the names differ, each file is found under its own. -/
theorem findModule?_name (hnames : (r.files.map SourceModule.name).Nodup) {m : SourceModule}
    (hm : m ∈ r.files) : r.findModule? m.name = some m := by
  have hsome : (r.files.reverse.find? fun other => other.name == m.name).isSome = true :=
    List.find?_isSome.mpr ⟨m, List.mem_reverse.mpr hm, beq_iff_eq.mpr rfl⟩
  obtain ⟨found, hfound⟩ := Option.isSome_iff_exists.mp hsome
  have hmem : found ∈ r.files := List.mem_reverse.mp (List.mem_of_find?_eq_some hfound)
  have hname : found.name = m.name := by simpa using List.find?_some hfound
  obtain rfl : found = m := List.inj_on_of_nodup_map hnames hmem hm hname
  rw [findModule?, get?_modules, hfound]
  rfl

/-- The table of files holds what is found in it. -/
theorem mem_modules_iff {entry : String × SourceModule} :
    entry ∈ r.modules ↔ Assoc.get? entry.1 r.modules = some entry.2 := by
  constructor
  · exact Assoc.get?_of_mem (Assoc.nodup_keys_foldl_put r.files List.nodup_nil)
  · exact fun hget => Assoc.mem_of_get? hget

end Resolver

namespace Index

variable {index : Index}

/-! ## Files by their paths -/

/-- A file holds the imports of its tree, read under the module name that its path gives. -/
structure IsFiled (m : SourceModule) : Prop where
  name : m.name = (moduleNameOf m.file).1
  isPackage : m.isPackage = (moduleNameOf m.file).2
  imports : m.imports = ImportTable.ofTree m.name m.isPackage m.tree

theorem moduleOf_eq (path : String) (tree : Node) : moduleOf path tree =
    SourceModule.ofTree ⟨path, (moduleNameOf path).1, (moduleNameOf path).2⟩ tree := by
  unfold moduleOf
  cases moduleNameOf path
  rfl

@[simp] theorem moduleOf_file (path : String) (tree : Node) : (moduleOf path tree).file = path := by
  rw [moduleOf_eq]
  rfl

theorem isParsed_moduleOf (path : String) {text : String} {tree : Node}
    (htree : parse? text = some tree) : (moduleOf path tree).IsParsed :=
  ⟨_, text, tree, htree, moduleOf_eq path tree⟩

theorem isFiled_moduleOf (path : String) (tree : Node) : IsFiled (moduleOf path tree) := by
  rw [moduleOf_eq]
  constructor <;> simp only [SourceModule.ofTree]

theorem isFiled_of_mem {settings : Settings} {root : Option String} {sources : List (String × String)}
    {m : SourceModule} (hm : m ∈ (ofSources settings root sources).files) : IsFiled m := by
  obtain ⟨⟨path, tree?⟩, -, hmodule⟩ := List.mem_filterMap.mp (List.mem_mergeSort.mp hm)
  obtain ⟨tree, -, rfl⟩ := Option.map_eq_some_iff.mp hmodule
  exact isFiled_moduleOf path tree

/-- The files stand in the order of their paths. -/
theorem pairwise_files (settings : Settings) (root : Option String)
    {sources : List (String × String)} (hpaths : (sources.map Prod.fst).Nodup) :
    (ofSources settings root sources).files.Pairwise fun a b => a.file < b.file := by
  have hne := (regular_ofSources settings root hpaths).resolver.distinct
  exact Text.pairwise_lt_mergeSort SourceModule.file
    ((((List.mergeSort_perm _ _).map SourceModule.file).nodup_iff).mp hne)

/-- Another file behind this one has the same module name. -/
def Shadowed (index : Index) (m : SourceModule) : Prop :=
  ∃ other ∈ index.files, other.name = m.name ∧ m.file < other.file

/-- Of the files of the index those that are not shadowed are found by their names. -/
theorem mem_modules_iff_not_shadowed (hsorted : index.files.Pairwise fun a b => a.file < b.file)
    {m : SourceModule} (hm : m ∈ index.files) :
    (m.name, m) ∈ index.resolver.modules ↔ ¬ index.Shadowed m := by
  obtain ⟨before, after, hfiles⟩ := List.append_of_mem hm
  rw [hfiles, List.pairwise_append, List.pairwise_cons] at hsorted
  obtain ⟨-, ⟨hbehind, -⟩, hcross⟩ := hsorted
  -- what stands behind the file in the list are the files with a later path
  have hshadowed : index.Shadowed m ↔ ∃ other ∈ after, other.name = m.name := by
    unfold Shadowed
    rw [hfiles]
    constructor
    · rintro ⟨other, hother, hname, hlt⟩
      rcases List.mem_append.mp hother with hearlier | hlater
      · exact absurd (hcross other hearlier m List.mem_cons_self) hlt.asymm
      · rcases List.mem_cons.mp hlater with rfl | hlater
        · exact absurd hlt (lt_irrefl _)
        · exact ⟨other, hlater, hname⟩
    · rintro ⟨other, hother, hname⟩
      exact ⟨other, List.mem_append_right _ (List.mem_cons_of_mem _ hother), hname,
        hbehind other hother⟩
  have hfind : index.resolver.files.reverse.find? (fun file => file.name == m.name) =
      (after.reverse.find? fun file => file.name == m.name).or (some m) := by
    change index.files.reverse.find? _ = _
    rw [hfiles]
    simp [List.find?_append]
  rw [Resolver.mem_modules_iff, Resolver.get?_modules, hfind, hshadowed]
  cases hlater : after.reverse.find? fun file => file.name == m.name with
  | none =>
      have hnone : ∀ other ∈ after, other.name ≠ m.name := by simpa using hlater
      simpa using hnone
  | some other =>
      have hmem : other ∈ after := List.mem_reverse.mp (List.mem_of_find?_eq_some hlater)
      have hname : other.name = m.name := by simpa using List.find?_some hlater
      have hne : other ≠ m := fun heq => (hbehind other hmem).ne (congrArg SourceModule.file heq.symm)
      refine iff_of_false (fun heq => hne (Option.some.inj heq)) fun hnot => hnot ⟨other, hmem, hname⟩

/-! ## Sources in order -/

/-- The index of parsed texts by path that stand in the order of the paths. -/
def ofParsedSorted (settings : Settings) (root : Option String)
    (parsed : List (String × Option Node)) : Index :=
  let files := parsed.filterMap fun (path, tree?) => tree?.map (moduleOf path)
  let resolver : Resolver := ⟨files, settings.ambiguity⟩
  { settings, root, skipped := (parsed.filter fun p => p.2.isNone).map Prod.fst, files
    sites := files.flatMap (resolver.sitesIn settings.handOffNames) }

/-- The index of texts by path that stand in the order of the paths. -/
def ofSorted (settings : Settings) (root : Option String) (sources : List (String × String)) : Index :=
  ofParsedSorted settings root (sources.map fun (path, text) => (path, parse? text))

theorem ofParsed_of_sorted (settings : Settings) (root : Option String)
    {parsed : List (String × Option Node)}
    (hsorted : parsed.Pairwise fun a b => (!(b.1 < a.1 : Bool)) = true) :
    ofParsed settings root parsed = ofParsedSorted settings root parsed := by
  let files := parsed.filterMap fun (path, tree?) => tree?.map (moduleOf path)
  have hpaths : (parsed.map Prod.fst).Pairwise fun a b => (!(b < a : Bool)) = true :=
    List.pairwise_map.mpr hsorted
  have hfiles : files.Pairwise fun a b => (!(b.file < a.file : Bool)) = true :=
    List.pairwise_map.mp (List.Pairwise.sublist (map_file_sublist parsed) hpaths)
  have hinOrder : (files.mergeSort fun a b => !(b.file < a.file)) = files :=
    List.mergeSort_of_pairwise hfiles
  rw [ofParsed, ofModules, hinOrder]
  rfl

theorem ofSources_of_sorted (settings : Settings) (root : Option String)
    {sources : List (String × String)}
    (hsorted : sources.Pairwise fun a b => (!(b.1 < a.1 : Bool)) = true) :
    ofSources settings root sources = ofSorted settings root sources := by
  have hsources : sortSources sources = sources := List.mergeSort_of_pairwise hsorted
  rw [ofSources, hsources]
  exact ofParsed_of_sorted settings root (List.pairwise_map.mpr hsorted)

end Index

end CallChain
