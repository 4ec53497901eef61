import CallChain.Index.Build
import CallChain.Proofs.Files.Sources
import CallChain.Proofs.Index.Mentions

/-!
# Indexing a directory on a disk

The files of an index are named by the ways to them from the indexed directory.  For a directory the
ways are the names below it, joined by slashes, in the order of these texts
(`pairwise_relative_sources`, `mem_relative_sources_iff`), however the path to the directory is
spelled.  So to index a directory is to index the texts of its files by these ways, as if they had
never been on a disk: `build_eq_ofSources`.
-/

namespace CallChain

open Text (joinWith)

/-- The text of a source file with this content. -/
def sourceTextOf (content : Bytes) : String := String.ofList (Text.unifyLineEnds (Utf8.lenient content))

/-- The texts of the source files in a directory, by the ways to them.  All of them have a text, so
there is none that may not be opened. -/
structure FileTree.IsSourceMap (tree : FileTree) (excluded : List String)
    (sources : List (String × String)) : Prop where
  distinct : (sources.map Prod.fst).Nodup
  mem_iff : ∀ path text, (path, text) ∈ sources ↔ Path.EndsInPy path ∧
    ∃ names content, tree.Holds excluded names (some content) ∧ path = joinWith "/" names ∧
      text = sourceTextOf content
  readable : ∀ names, tree.Holds excluded names none → ¬ Path.EndsInPy (joinWith "/" names)

namespace Disk

variable {d : Disk} {found : FileTree} {entries : List (String × FileTree)}
  {base path target : String} (excluded : List String)

section Ways

variable (hd : d.IsSound)

include hd

/-- The way to a file below a path from the place of the path. -/
theorem relative_below {names : List String} {content : Option Bytes}
    (hfind : d.find path = .ok (.directory entries))
    (hbase : Path.place d.directory base = Path.place d.directory path)
    (hholds : (FileTree.directory entries).Holds excluded names content) :
    Path.relative d.directory base (Path.below path names) = joinWith "/" names := by
  have hpath := (get?_place_of_find hd hfind).1
  have hbelow := (get?_place_of_find hd (find_below hd hfind hholds.leads)).1
  refine Path.relative_eq hd.rooted hbelow hholds.ne_nil ?_
  rw [hbase, Path.place_below _ hpath (hholds.isEntryName (hd.isProper hfind))]

theorem endsInPy_below_iff {names : List String} {content : Option Bytes}
    (hfind : d.find path = .ok (.directory entries))
    (hholds : (FileTree.directory entries).Holds excluded names content) :
    Path.EndsInPy (Path.below path names) ↔ Path.EndsInPy (joinWith "/" names) := by
  rw [Path.below_eq path (hholds.isEntryName (hd.isProper hfind)) hholds.ne_nil, ← Path.isPython_iff,
    Path.isPython_trunk_append, Path.isPython_iff]

variable (hfind : d.find path = .ok (.directory entries))
  (hbase : Path.place d.directory base = Path.place d.directory path)

include hfind hbase

/-- The ways to the source files of a directory are in order, as their paths are. -/
theorem pairwise_relative_sources : (d.sources excluded path).Pairwise
    fun p q => Path.relative d.directory base p < Path.relative d.directory base q := by
  refine List.Pairwise.imp_of_mem ?_ (pairwise_sources excluded hd path)
  intro p q hp hq hlt
  obtain ⟨-, names, content, hholds, rfl⟩ := (mem_sources_iff excluded hd hfind).mp hp
  obtain ⟨-, others, content', hholds', rfl⟩ := (mem_sources_iff excluded hd hfind).mp hq
  have hproper := hd.isProper hfind
  rw [relative_below excluded hd hfind hbase hholds, relative_below excluded hd hfind hbase hholds']
  exact (Path.below_lt_below_iff path (hholds.isEntryName hproper) (hholds'.isEntryName hproper)
    hholds.ne_nil hholds'.ne_nil).mp hlt

theorem mem_relative_sources_iff {way : String} :
    way ∈ (d.sources excluded path).map (Path.relative d.directory base) ↔ Path.EndsInPy way ∧
      ∃ names content, (FileTree.directory entries).Holds excluded names content ∧
        way = joinWith "/" names := by
  rw [List.mem_map]
  constructor
  · rintro ⟨p, hp, rfl⟩
    obtain ⟨hends, names, content, hholds, rfl⟩ := (mem_sources_iff excluded hd hfind).mp hp
    rw [relative_below excluded hd hfind hbase hholds]
    exact ⟨(endsInPy_below_iff excluded hd hfind hholds).mp hends, names, content, hholds, rfl⟩
  · rintro ⟨hends, names, content, hholds, rfl⟩
    refine ⟨Path.below path names, (mem_sources_iff excluded hd hfind).mpr ⟨?_, names, content, hholds,
      rfl⟩, relative_below excluded hd hfind hbase hholds⟩
    exact (endsInPy_below_iff excluded hd hfind hholds).mpr hends

end Ways

/-! ## The indexed directory -/

theorem isDirectory_of_find (hfind : d.find path = .ok found) :
    d.isDirectory path = found.isDirectory := by
  rw [isDirectory, find?_eq_some_iff.mpr hfind]
  rfl

section Root

variable (hd : d.IsSound)

include hd

/-- The directory that is indexed for a target is the target, or the directory of a file. -/
theorem place_indexRoot (hfind : d.find target = .ok found) :
    Path.place d.directory (d.indexRoot target) =
      if found.isDirectory then Path.place d.directory target
      else (Path.place d.directory target).dropLast := by
  have habsolute := isDirectory_of_find (find_absolute_of_find hd hfind)
  rw [indexRoot, habsolute]
  cases found with
  | directory entries =>
      rw [FileTree.isDirectory, if_pos rfl, if_pos rfl]
      exact Path.place_absolute hd.rooted target
  | file content =>
      rw [FileTree.isDirectory, if_neg Bool.false_ne_true, if_neg Bool.false_ne_true]
      -- a file is not the root of the tree, so its place has a last name
      obtain ⟨-, hget⟩ := get?_place_of_find hd hfind
      obtain ⟨listed, htree⟩ := hd.exists_entries
      have hne : Path.place d.directory target ≠ [] := by
        intro hnil
        rw [hnil, htree] at hget
        cases hget
      exact Path.place_parent hd.rooted (List.dropLast_concat_getLast hne).symm

theorem indexRoot_of_directory (hfind : d.find target = .ok (.directory entries)) :
    d.indexRoot target = d.absolute target := by
  rw [indexRoot, isDirectory_of_find (find_absolute_of_find hd hfind), FileTree.isDirectory, if_pos rfl]

/-- The ways to the source files of a target are those of the target as it is spelled. -/
theorem map_name_sourceFiles (settings : Settings) (hfind : d.find target = .ok found) :
    (d.sourceFiles settings target).map SourceFile.name =
      (d.sources settings.excludeDirs target).map
        (Path.relative d.directory (d.indexRoot target)) := by
  have habsolute := find_absolute_of_find hd hfind
  have hplace := Path.place_absolute hd.rooted target
  rw [sourceFiles, List.map_map]
  change (d.sources settings.excludeDirs (d.absolute target)).map
    (Path.relative d.directory (d.indexRoot target)) = _
  cases found with
  | file content =>
      have hway := Path.relative_congr hd.rooted (d.indexRoot target)
        (get?_place_of_find hd habsolute).1 (get?_place_of_find hd hfind).1 hplace
      rw [sources_of_file _ habsolute, sources_of_file _ hfind, isPython_absolute hd hfind]
      split
      · exact congrArg (fun way => [way]) hway
      · rfl
  | directory entries =>
      have hroot := place_indexRoot hd hfind
      have hroot' := hroot.trans hplace.symm
      refine Text.eq_of_pairwise_lt id ?_ ?_ fun way => ?_
      · exact List.pairwise_map.mpr
          (pairwise_relative_sources settings.excludeDirs hd habsolute hroot')
      · exact List.pairwise_map.mpr (pairwise_relative_sources settings.excludeDirs hd hfind hroot)
      · rw [mem_relative_sources_iff settings.excludeDirs hd habsolute hroot',
          mem_relative_sources_iff settings.excludeDirs hd hfind hroot]

end Root

/-- The text of a source file is made from its content; without content there is none. -/
theorem sourceText_of_file {content : Option Bytes} (hfind : d.find path = .ok (.file content)) :
    (d.sourceText path).toOption = content.map sourceTextOf := by
  rw [sourceText, read, hfind]
  cases content <;> rfl

end Disk

/-! ## The index -/

/-- A source file by its name, parsed if it may be read. -/
def SourceFile.parsed (file : SourceFile) : String × Option Python.Node :=
  (file.name, file.text.bind Python.parse?)

namespace Index

variable {d : Disk} {entries : List (String × FileTree)} {target : String}

/-- The index of source files is that of their texts by name. -/
theorem ofFiles_fst (settings : Settings) (root target : String) (files : List SourceFile) :
    (ofFiles settings root target files).1 =
      ofParsed settings (some root) (files.map SourceFile.parsed) := by
  simp only [ofFiles, List.map_map]
  rfl

/-- Every file that is given is a file of the index or one that was skipped. -/
theorem perm_files_skipped (settings : Settings) (root : Option String)
    (parsed : List (String × Option Python.Node)) :
    ((ofParsed settings root parsed).files.map SourceModule.file ++
      (ofParsed settings root parsed).skipped).Perm (parsed.map Prod.fst) := by
  refine (((List.mergeSort_perm _ _).map SourceModule.file).append_right _).trans ?_
  induction parsed with
  | nil => exact .nil
  | cons entry rest ih =>
      obtain ⟨path, tree?⟩ := entry
      cases tree? with
      | none => exact List.perm_middle.trans (ih.cons path)
      | some tree => exact ih.cons path

/-- The source files of a directory stand in the order of the ways to them. -/
theorem pairwise_name_sourceFiles (hd : d.IsSound) (settings : Settings)
    (hfind : d.find target = .ok (.directory entries)) :
    (d.sourceFiles settings target).Pairwise fun a b => a.name < b.name := by
  have habsolute := Disk.find_absolute_of_find hd hfind
  have hroot := congrArg (Path.place d.directory) (Disk.indexRoot_of_directory hd hfind)
  rw [Disk.sourceFiles, List.pairwise_map]
  exact Disk.pairwise_relative_sources settings.excludeDirs hd habsolute hroot

/-- The source files of a directory, by the ways to them, with the texts of those that have content. -/
theorem mem_sourceFiles_iff (hd : d.IsSound) (settings : Settings)
    (hfind : d.find target = .ok (.directory entries)) {way : String} {text? : Option String} :
    (way, text?) ∈ (d.sourceFiles settings target).map (fun file => (file.name, file.text)) ↔
      Path.EndsInPy way ∧ ∃ names content,
        (FileTree.directory entries).Holds settings.excludeDirs names content ∧
        way = joinWith "/" names ∧ text? = content.map sourceTextOf := by
  have habsolute := Disk.find_absolute_of_find hd hfind
  have hroot := congrArg (Path.place d.directory) (Disk.indexRoot_of_directory hd hfind)
  have htext : ∀ {names content},
      (FileTree.directory entries).Holds settings.excludeDirs names content →
      (d.sourceText (Path.below (d.absolute target) names)).toOption = content.map sourceTextOf :=
    fun hholds => Disk.sourceText_of_file (Disk.find_below hd habsolute hholds.leads)
  rw [Disk.sourceFiles, List.map_map, List.mem_map]
  constructor
  · rintro ⟨p, hp, heq⟩
    obtain ⟨hends, names, content, hholds, rfl⟩ := (Disk.mem_sources_iff _ hd habsolute).mp hp
    obtain ⟨hway, hwords⟩ := Prod.mk.inj heq
    have hway := hway.symm.trans (Disk.relative_below _ hd habsolute hroot hholds)
    refine ⟨?_, names, content, hholds, hway, hwords.symm.trans (htext hholds)⟩
    rw [hway]
    exact (Disk.endsInPy_below_iff _ hd habsolute hholds).mp hends
  · rintro ⟨hends, names, content, hholds, rfl, rfl⟩
    refine ⟨Path.below (d.absolute target) names, ?_, ?_⟩
    · refine (Disk.mem_sources_iff _ hd habsolute).mpr ⟨?_, names, content, hholds, rfl⟩
      exact (Disk.endsInPy_below_iff _ hd habsolute hholds).mpr hends
    · exact Prod.ext (Disk.relative_below _ hd habsolute hroot hholds) (htext hholds)

/-- In whatever order the texts of a directory are given, they are put in the order of its files. -/
theorem sortSources_eq (hd : d.IsSound) (settings : Settings)
    (hfind : d.find target = .ok (.directory entries)) {sources : List (String × String)}
    (hsources : (FileTree.directory entries).IsSourceMap settings.excludeDirs sources) :
    (sortSources sources).map (fun (path, text) => (path, some text)) =
      (d.sourceFiles settings target).map fun file => (file.name, file.text) := by
  refine Text.eq_of_pairwise_lt Prod.fst ?_ ?_ fun source => ?_
  · exact List.pairwise_map.mpr (Text.pairwise_lt_mergeSort Prod.fst hsources.distinct)
  · exact List.pairwise_map.mpr (pairwise_name_sourceFiles hd settings hfind)
  obtain ⟨way, text?⟩ := source
  rw [mem_sourceFiles_iff hd settings hfind, List.mem_map]
  constructor
  · rintro ⟨⟨path, text⟩, hmem, heq⟩
    obtain ⟨rfl, rfl⟩ := Prod.mk.inj heq
    obtain ⟨hends, names, content, hholds, hway, rfl⟩ :=
      (hsources.mem_iff path text).mp (List.mem_mergeSort.mp hmem)
    exact ⟨hends, names, some content, hholds, hway, rfl⟩
  · rintro ⟨hends, names, content, hholds, rfl, rfl⟩
    cases content with
    | none => exact absurd hends (hsources.readable names hholds)
    | some content =>
        refine ⟨(joinWith "/" names, sourceTextOf content), List.mem_mergeSort.mpr ?_, rfl⟩
        exact (hsources.mem_iff _ _).mpr ⟨hends, names, content, hholds, rfl, rfl⟩

theorem build_of_find {found : FileTree} (hfind : d.find target = .ok found) (settings : Settings) :
    build d settings target = .ok (ofFiles settings (d.indexRoot target) (d.absolute target)
      (d.sourceFiles settings target)) := by
  rw [build, Disk.contains_iff.mpr ⟨_, hfind⟩]
  rfl

/-- The source files of a directory are parsed like the texts by the ways to them. -/
theorem ofFiles_sourceFiles (hd : d.IsSound) (settings : Settings)
    (hfind : d.find target = .ok (.directory entries)) {sources : List (String × String)}
    (hsources : (FileTree.directory entries).IsSourceMap settings.excludeDirs sources) :
    (ofFiles settings (d.indexRoot target) (d.absolute target) (d.sourceFiles settings target)).1 =
      { ofSources settings none sources with root := some (d.indexRoot target) } := by
  have hparsed : (d.sourceFiles settings target).map SourceFile.parsed =
      (sortSources sources).map fun source => (source.1, Python.parse? source.2) := by
    have hfiles := congrArg (List.map fun file => (file.1, file.2.bind Python.parse?))
      (sortSources_eq hd settings hfind hsources)
    rw [List.map_map, List.map_map] at hfiles
    exact hfiles.symm
  rw [ofFiles_fst, hparsed]
  rfl

/-- To index a directory is to index the texts of its source files by the ways to them: the two
indexes differ in the directory alone. -/
theorem build_eq_ofSources (hd : d.IsSound) (settings : Settings)
    (hfind : d.find target = .ok (.directory entries)) {sources : List (String × String)}
    (hsources : (FileTree.directory entries).IsSourceMap settings.excludeDirs sources) :
    (build d settings target).map Prod.fst =
      .ok { ofSources settings none sources with root := some (d.indexRoot target) } := by
  rw [build_of_find hfind]
  exact congrArg Except.ok (ofFiles_sourceFiles hd settings hfind hsources)

/-- The directory of an index plays no part in finishing it. -/
theorem finished_with_root (index : Index) (root : Option String) :
    ({ index with root } : Index).finished = index.finished.map fun index => { index with root } := by
  have hfault : ({ index with root } : Index).fault? = index.fault? := rfl
  rw [finished, finished, hfault]
  cases index.fault? <;> rfl

theorem fromDisk_eq (d : Disk) (settings : Settings) (target : String) :
    fromDisk d settings target = (build d settings target).map Prod.fst >>= finished := by
  rw [fromDisk]
  cases build d settings target <;> rfl

/-- So the finished indexes differ in the directory alone, and if one of them cannot be finished, the
other cannot either, for the same reason. -/
theorem fromDisk_eq_fromSources (hd : d.IsSound) (settings : Settings)
    (hfind : d.find target = .ok (.directory entries)) {sources : List (String × String)}
    (hsources : (FileTree.directory entries).IsSourceMap settings.excludeDirs sources) :
    fromDisk d settings target =
      (fromSources settings sources).map fun index =>
        { index with root := some (d.indexRoot target) } := by
  have hindex := ofFiles_sourceFiles hd settings hfind hsources
  rw [fromDisk_eq, build_of_find hfind]
  exact (congrArg finished hindex).trans (finished_with_root _ _)

/-- A directory with a text that cannot be parsed, an ending in capitals, an excluded directory and a
file of another kind that may not be opened. -/
def sampleDirectory : List (String × FileTree) :=
  [("build", .directory [("c.py", .file (some []))]),
    ("lib", .directory [("B.PY", .file (Utf8.encode "def g(:"))]),
    ("a.py", .file (Utf8.encode "def f(): g()")),
    ("notes.txt", .file none)]

def sampleDisk : Disk where
  tree := .directory [("home", .directory sampleDirectory)]
  directory := "/home"

theorem sampleDirectory_isProper : (FileTree.directory sampleDirectory).IsProper := by
  refine .directory (by decide) (by decide) ?_
  simp only [sampleDirectory, List.forall_mem_cons, List.not_mem_nil, false_implies, implies_true,
    and_true]
  refine ⟨.directory (by decide) (by decide) ?_, .directory (by decide) (by decide) ?_, .file _, .file _⟩
  all_goals
    intro entry hentry
    obtain rfl := List.mem_singleton.mp hentry
    exact .file _

theorem sampleDisk_isSound : sampleDisk.IsSound := by
  refine ⟨.directory (by decide) (by decide) ?_, by decide, sampleDirectory, rfl⟩
  intro entry hentry
  obtain rfl := List.mem_singleton.mp hentry
  exact sampleDirectory_isProper

/-- The sample holds two source files and a file of another kind. -/
theorem sampleDirectory_holds_iff {names : List String} {content : Option Bytes} :
    (FileTree.directory sampleDirectory).Holds ({} : Settings).excludeDirs names content ↔
      names = ["lib", "B.PY"] ∧ content = Utf8.encode "def g(:" ∨
        names = ["a.py"] ∧ content = Utf8.encode "def f(): g()" ∨
        names = ["notes.txt"] ∧ content = none := by
  constructor
  · intro hholds
    obtain ⟨name, entry, rest, hentry, rfl, hrest, hallowed⟩ :=
      sampleDirectory_isProper.holds_iff.mp hholds
    simp only [sampleDirectory, List.mem_cons, List.not_mem_nil, or_false, Prod.mk.injEq] at hentry
    rcases hentry with ⟨rfl, rfl⟩ | ⟨rfl, rfl⟩ | ⟨rfl, rfl⟩ | ⟨rfl, rfl⟩
    · exact absurd (by decide) (hallowed rfl)
    · have hlib : (FileTree.directory sampleDirectory).get? ["lib"] =
          some (.directory [("B.PY", .file (Utf8.encode "def g(:"))]) := rfl
      have hproper := (sampleDirectory_isProper.of_get? hlib).1
      obtain ⟨name, entry, rest, hentry, rfl, hrest, -⟩ := hproper.holds_iff.mp hrest
      obtain ⟨rfl, rfl⟩ := Prod.mk.inj (List.mem_singleton.mp hentry)
      obtain ⟨rfl, rfl⟩ := FileTree.holds_file_iff.mp hrest
      exact Or.inl ⟨rfl, rfl⟩
    · obtain ⟨rfl, rfl⟩ := FileTree.holds_file_iff.mp hrest
      exact Or.inr (Or.inl ⟨rfl, rfl⟩)
    · obtain ⟨rfl, rfl⟩ := FileTree.holds_file_iff.mp hrest
      exact Or.inr (Or.inr ⟨rfl, rfl⟩)
  · rintro (⟨rfl, rfl⟩ | ⟨rfl, rfl⟩ | ⟨rfl, rfl⟩)
    all_goals exact ⟨rfl, by decide⟩

theorem sampleDirectory_isSourceMap : (FileTree.directory sampleDirectory).IsSourceMap
    ({} : Settings).excludeDirs [("lib/B.PY", "def g(:"), ("a.py", "def f(): g()")] := by
  have hnotes : ¬ Path.EndsInPy "notes.txt" := by
    rw [← Path.isPython_iff, Path.isPython, Text.lowerAscii, String.map_eq_internal]
    decide
  refine ⟨by decide, fun path text => ⟨fun hmem => ?_, ?_⟩, fun names hholds => ?_⟩
  · simp only [List.mem_cons, List.not_mem_nil, or_false, Prod.mk.injEq] at hmem
    rcases hmem with ⟨rfl, rfl⟩ | ⟨rfl, rfl⟩
    · exact ⟨⟨"lib/B", ".PY", by decide, by decide⟩, ["lib", "B.PY"], _,
        sampleDirectory_holds_iff.mpr (Or.inl ⟨rfl, rfl⟩), by decide, by decide +kernel⟩
    · exact ⟨⟨"a", ".py", by decide, by decide⟩, ["a.py"], _,
        sampleDirectory_holds_iff.mpr (Or.inr (Or.inl ⟨rfl, rfl⟩)), by decide, by decide +kernel⟩
  · rintro ⟨hends, names, content, hholds, rfl, rfl⟩
    rcases sampleDirectory_holds_iff.mp hholds with ⟨rfl, hcontent⟩ | ⟨rfl, hcontent⟩ | ⟨rfl, hcontent⟩
    · cases hcontent
      decide +kernel
    · cases hcontent
      decide +kernel
    · cases hcontent
  · rcases sampleDirectory_holds_iff.mp hholds with ⟨-, hcontent⟩ | ⟨-, hcontent⟩ | ⟨rfl, -⟩
    · cases hcontent
    · cases hcontent
    · exact hnotes

theorem build_eq_ofSources_sample :
    sampleDisk.IsSound ∧ sampleDisk.find "lib/.." = .ok (.directory sampleDirectory) ∧
      (FileTree.directory sampleDirectory).IsSourceMap ({} : Settings).excludeDirs
        [("lib/B.PY", "def g(:"), ("a.py", "def f(): g()")] ∧
      (build sampleDisk {} "lib/..").map Prod.fst =
        .ok { ofSources {} none
                [("lib/B.PY", "def g(:"), ("a.py", "def f(): g()")] with
              root := some (sampleDisk.indexRoot "lib/..") } :=
  ⟨sampleDisk_isSound, rfl, sampleDirectory_isSourceMap,
    build_eq_ofSources sampleDisk_isSound {} rfl sampleDirectory_isSourceMap⟩

end Index

end CallChain
