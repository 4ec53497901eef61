import CallChain.Proofs.Files.Places

/-!
# The source files below a path

What is found below a path is told by names: `FileTree.Holds` says that some names lead to a file by
directories that are not excluded.  The source files below a path are those files whose paths end in
`.py`, in any case of letters (`mem_sources_iff`), and they stand in the order of their paths, each
once (`pairwise_sources`).  So the order in which directories list their entries has no influence
(`sources_relisted`).
-/

namespace CallChain

open Text (joinWith)

/-! ## The ending of source files -/

namespace Path

/-- A path that ends in `.py`, in any case of letters. -/
def EndsInPy (path : String) : Prop :=
  ∃ stem, ∃ ending ∈ [".py", ".pY", ".Py", ".PY"], path = stem ++ ending

theorem EndsInPy.dot_mem {path : String} (hends : EndsInPy path) : '.' ∈ path.toList := by
  obtain ⟨stem, ending, hending, rfl⟩ := hends
  rw [String.toList_append]
  refine List.mem_append_right _ ?_
  revert ending
  decide

/-- A character that becomes `lower` is this one or the capital that belongs to it. -/
theorem eq_of_toLower_eq {c lower : Char} (upper : Char) (hletter : upper.val + 32 = lower.val)
    (hlower : c.toLower = lower) : c = lower ∨ c = upper := by
  unfold Char.toLower at hlower
  split at hlower
  · subst hlower
    exact Or.inr (Char.ext ((UInt32.add_left_inj _).mp hletter).symm)
  · exact Or.inl hlower

theorem isPython_iff {path : String} : isPython path = true ↔ EndsInPy path := by
  rw [isPython, endsWith_iff, Text.lowerAscii, String.toList_map, List.suffix_map_iff]
  constructor
  · rintro ⟨ending, ⟨stem, hpath⟩, hlower⟩
    have hlength : ending.length = 3 := by simpa using (congrArg List.length hlower).symm
    obtain ⟨dot, p, y, rfl⟩ := List.length_eq_three.mp hlength
    obtain ⟨hdot, hp, hy⟩ : dot.toLower = '.' ∧ p.toLower = 'p' ∧ y.toLower = 'y' := by
      simpa [eq_comm] using hlower
    -- no letter becomes a dot
    have hdot : dot = '.' := by
      rcases eq_of_toLower_eq (Char.ofNat 14) (by decide) hdot with rfl | rfl
      · rfl
      · exact absurd hdot (by decide)
    refine ⟨String.ofList stem, String.ofList [dot, p, y], ?_, ?_⟩
    · subst hdot
      rcases eq_of_toLower_eq 'P' (by decide) hp with rfl | rfl <;>
        rcases eq_of_toLower_eq 'Y' (by decide) hy with rfl | rfl <;> decide
    · rw [← String.ofList_append, hpath, String.ofList_toList]
  · rintro ⟨stem, ending, hending, rfl⟩
    refine ⟨ending.toList, ?_, ?_⟩
    · rw [String.toList_append]
      exact List.suffix_append _ _
    · revert ending
      decide

theorem lowerAscii_append (front back : String) :
    Text.lowerAscii (front ++ back) = Text.lowerAscii front ++ Text.lowerAscii back := by
  apply String.toList_injective
  simp [Text.lowerAscii]

theorem isPython_append (front name : String) :
    isPython (front ++ "/" ++ name) = isPython name := by
  have hslash : Text.lowerAscii "/" = "/" := by
    rw [Text.lowerAscii, String.map_eq_internal]
    decide
  rw [isPython, lowerAscii_append, lowerAscii_append, hslash, endsWith_append _ (by decide), isPython]

/-- Behind a directory a path ends as it does alone. -/
theorem isPython_trunk_append (path back : String) :
    isPython (trunk path ++ back) = isPython back := by
  by_cases hempty : path = ""
  · rw [trunk, if_pos (Or.inl hempty), hempty, String.empty_append]
  · obtain ⟨front, hfront⟩ := exists_trunk_eq hempty
    rw [hfront, isPython_append]

/-- Names that are joined end as the last of them. -/
theorem isPython_joinWith (names : List String) (last : String) :
    isPython (joinWith "/" (names ++ [last])) = isPython last := by
  by_cases hnames : names = []
  · subst hnames
    rfl
  · rw [Text.joinWith_append "/" hnames (List.cons_ne_nil _ _), isPython_append]
    rfl

end Path

/-! ## Files by names -/

namespace FileTree

variable {tree other : FileTree} {entries : List (String × FileTree)} {excluded names : List String}
  {content : Option Bytes} {path p : String}

/-- The names lead to a file with this content, or to one without any that may not be opened, by
directories that are not excluded. -/
structure Holds (tree : FileTree) (excluded names : List String) (content : Option Bytes) : Prop where
  leads : tree.get? names = some (.file content)
  allowed : ∀ name ∈ names.dropLast, name ∉ excluded

theorem Holds.isEntryName (hholds : tree.Holds excluded names content) (hproper : tree.IsProper) :
    ∀ name ∈ names, IsEntryName name :=
  (hproper.of_get? hholds.leads).2

theorem Holds.ne_nil (hholds : (FileTree.directory entries).Holds excluded names content) :
    names ≠ [] := by
  rintro rfl
  cases hholds.leads

/-- A file holds itself alone. -/
theorem holds_file_iff {own : Option Bytes} :
    (FileTree.file own).Holds excluded names content ↔ names = [] ∧ content = own := by
  constructor
  · rintro ⟨hleads, -⟩
    cases names with
    | nil =>
        cases hleads
        exact ⟨rfl, rfl⟩
    | cons name rest => cases hleads
  · rintro ⟨rfl, rfl⟩
    exact ⟨rfl, fun name hname => absurd hname List.not_mem_nil⟩

/-- What a directory holds is an entry of it, or an entry that is not excluded holds it. -/
theorem IsProper.holds_iff (hproper : IsProper (.directory entries)) :
    (FileTree.directory entries).Holds excluded names content ↔
      ∃ name entry rest, (name, entry) ∈ entries ∧ names = name :: rest ∧
        entry.Holds excluded rest content ∧ (entry.isDirectory = true → name ∉ excluded) := by
  constructor
  · rintro ⟨hleads, hallowed⟩
    cases names with
    | nil => cases hleads
    | cons name rest =>
        obtain ⟨entry, hentry, hrest⟩ := hproper.get?_cons_iff.mp hleads
        refine ⟨name, entry, rest, hentry, rfl, ⟨hrest, fun other hother => ?_⟩, fun hdirectory => ?_⟩
        · refine hallowed other ?_
          cases rest with
          | nil => cases hother
          | cons next others => exact List.mem_cons_of_mem _ hother
        · refine hallowed name ?_
          cases rest with
          | nil =>
              cases hrest
              cases hdirectory
          | cons next others => exact List.mem_cons_self
  · rintro ⟨name, entry, rest, hentry, rfl, ⟨hrest, hallowed⟩, hname⟩
    refine ⟨hproper.get?_cons_iff.mpr ⟨entry, hentry, hrest⟩, ?_⟩
    cases rest with
    | nil => exact fun other hother => absurd hother List.not_mem_nil
    | cons next others =>
        obtain ⟨below, rfl⟩ := exists_entries_of_get?_cons hrest
        exact List.forall_mem_cons.mpr ⟨hname rfl, hallowed⟩

/-- The order of entries has no influence on what a tree holds. -/
theorem Relisted.holds (hrelisted : tree.Relisted other) (hproper : tree.IsProper)
    (hholds : tree.Holds excluded names content) : other.Holds excluded names content := by
  obtain ⟨found, hfound, hfile⟩ := hrelisted.get? hproper hholds.leads
  rw [hfile.eq_of_isFile rfl] at hfound
  exact ⟨hfound, hholds.allowed⟩

/-! ## The source files in a directory -/

/-- The source files at and below one entry of a directory at `path`. -/
def entrySource (excluded : List String) (path : String) : String × FileTree → List String
  | (name, .file _) => if Path.isPython name then [Path.join path name] else []
  | (name, .directory entries) =>
    if excluded.contains name then [] else entrySources excluded (Path.join path name) entries

theorem entrySources_eq (excluded : List String) (path : String) (entries : List (String × FileTree)) :
    entrySources excluded path entries = entries.flatMap (entrySource excluded path) := by
  induction entries with
  | nil => rw [entrySources, List.flatMap_nil]
  | cons entry rest ih =>
      obtain ⟨name, entry⟩ := entry
      cases entry with
      | file content => rw [entrySources, List.flatMap_cons, ih, entrySource]
      | directory below => rw [entrySources, List.flatMap_cons, ih, entrySource, FileTree.sources]

/-- What is found at an entry, if it is known what is found in its directory. -/
theorem mem_entrySource_iff {name : String} (hname : IsEntryName name)
    (hbelow : ∀ below, tree = .directory below → ∀ path,
      p ∈ entrySources excluded path below ↔ Path.isPython p = true ∧
        ∃ names content, tree.Holds excluded names content ∧ p = Path.below path names) :
    p ∈ entrySource excluded path (name, tree) ↔ Path.isPython p = true ∧
      ∃ rest content, tree.Holds excluded rest content ∧
        (tree.isDirectory = true → name ∉ excluded) ∧ p = Path.below path (name :: rest) := by
  cases tree with
  | file own =>
      have hsame : Path.isPython (Path.join path name) = Path.isPython name := by
        rw [Path.join_eq path (Path.isAbsolute_of_isEntryName hname), Path.isPython_trunk_append]
      have hmem : p ∈ entrySource excluded path (name, .file own) ↔
          Path.isPython name = true ∧ p = Path.join path name := by
        rw [entrySource]
        split <;> simp_all
      rw [hmem]
      constructor
      · rintro ⟨hpython, rfl⟩
        exact ⟨hsame.trans hpython, [], own, holds_file_iff.mpr ⟨rfl, rfl⟩, nofun, rfl⟩
      · rintro ⟨hpython, rest, content, hholds, -, hp⟩
        obtain ⟨rfl, -⟩ := holds_file_iff.mp hholds
        obtain rfl : p = Path.join path name := hp
        exact ⟨hsame.symm.trans hpython, rfl⟩
  | directory below =>
      have hmem : p ∈ entrySource excluded path (name, .directory below) ↔
          name ∉ excluded ∧ p ∈ entrySources excluded (Path.join path name) below := by
        rw [entrySource]
        split <;> simp_all
      rw [hmem, hbelow below rfl]
      constructor
      · rintro ⟨hallowed, hpython, rest, content, hholds, hp⟩
        exact ⟨hpython, rest, content, hholds, fun _ => hallowed, hp⟩
      · rintro ⟨hpython, rest, content, hholds, hallowed, hp⟩
        exact ⟨hallowed rfl, hpython, rest, content, hholds, hp⟩

/-- The source files in a directory are the files in and below it whose paths end as they should. -/
theorem IsProper.mem_entrySources_iff (hproper : tree.IsProper) (htree : tree = .directory entries)
    (path : String) :
    p ∈ entrySources excluded path entries ↔ Path.isPython p = true ∧
      ∃ names content, tree.Holds excluded names content ∧ p = Path.below path names := by
  induction hproper generalizing entries path with
  | file content => cases htree
  | @directory listed hnodup hnames hbelow ih =>
      cases htree
      have hentry : ∀ entry ∈ listed, p ∈ entrySource excluded path entry ↔ Path.isPython p = true ∧
          ∃ rest content, entry.2.Holds excluded rest content ∧
            (entry.2.isDirectory = true → entry.1 ∉ excluded) ∧
            p = Path.below path (entry.1 :: rest) := fun entry hmem =>
        mem_entrySource_iff (hnames entry hmem) fun below hdirectory path =>
          ih entry hmem hdirectory path
      rw [entrySources_eq, List.mem_flatMap]
      constructor
      · rintro ⟨entry, hmem, hp⟩
        obtain ⟨hpython, rest, content, hholds, hallowed, rfl⟩ := (hentry entry hmem).mp hp
        refine ⟨hpython, entry.1 :: rest, content, ?_, rfl⟩
        exact (IsProper.directory hnodup hnames hbelow).holds_iff.mpr
          ⟨entry.1, entry.2, rest, hmem, rfl, hholds, hallowed⟩
      · rintro ⟨hpython, names, content, hholds, rfl⟩
        obtain ⟨name, entry, rest, hmem, rfl, hholds, hallowed⟩ :=
          (IsProper.directory hnodup hnames hbelow).holds_iff.mp hholds
        exact ⟨(name, entry), hmem, (hentry _ hmem).mpr
          ⟨hpython, rest, content, hholds, hallowed, rfl⟩⟩

/-- No source file is found twice. -/
theorem IsProper.nodup_entrySources (hproper : tree.IsProper) (htree : tree = .directory entries)
    (path : String) : (entrySources excluded path entries).Nodup := by
  induction hproper generalizing entries path with
  | file content => cases htree
  | @directory listed hnodup hnames hbelow ih =>
      cases htree
      rw [entrySources_eq, List.nodup_flatMap]
      constructor
      · rintro ⟨name, entry⟩ hmem
        cases entry with
        | file content =>
            rw [entrySource]
            split
            · exact List.nodup_singleton _
            · exact List.nodup_nil
        | directory below =>
            rw [entrySource]
            split
            · exact List.nodup_nil
            · exact ih _ hmem rfl _
      · -- what is found at an entry has the name of the entry next to the path
        have hnext : ∀ entry ∈ listed, ∀ p ∈ entrySource excluded path entry,
            ∃ rest, (∀ name ∈ entry.1 :: rest, IsEntryName name) ∧ p = Path.below path (entry.1 :: rest) := by
          intro entry hmem p hp
          obtain ⟨-, rest, content, hholds, -, rfl⟩ := (mem_entrySource_iff (hnames entry hmem)
            fun below hdirectory path => (hbelow entry hmem).mem_entrySources_iff hdirectory path).mp hp
          exact ⟨rest, List.forall_mem_cons.mpr ⟨hnames entry hmem, hholds.isEntryName (hbelow entry hmem)⟩,
            rfl⟩
        rw [List.nodup_iff_pairwise_ne, List.pairwise_map] at hnodup
        refine List.Pairwise.imp_of_mem ?_ hnodup
        intro first second hfirst hsecond hne p hp hp'
        obtain ⟨rest, hentries, rfl⟩ := hnext first hfirst p hp
        obtain ⟨rest', hentries', heq⟩ := hnext second hsecond _ hp'
        rw [Path.below_eq path hentries (List.cons_ne_nil _ _),
          Path.below_eq path hentries' (List.cons_ne_nil _ _), String.append_right_inj] at heq
        exact hne (List.cons.inj (Path.joinWith_injective hentries hentries' heq)).1

end FileTree

/-! ## The source files of a path -/

namespace Disk

variable {d : Disk} {found : FileTree} {path p : String} (excluded : List String)

theorem sources_of_file {content : Option Bytes} (hfind : d.find path = .ok (.file content)) :
    d.sources excluded path = if Path.isPython path then [path] else [] := by
  rw [sources, find?_eq_some_iff.mpr hfind]

theorem sources_of_directory {entries : List (String × FileTree)}
    (hfind : d.find path = .ok (.directory entries)) :
    d.sources excluded path = sortPaths (entrySources excluded path entries) := by
  rw [sources, find?_eq_some_iff.mpr hfind]
  simp only [FileTree.sources]

variable (hd : d.IsSound)

include hd

/-- What a path leads to on a sound disk is proper. -/
theorem IsSound.isProper (hfind : d.find path = .ok found) : found.IsProper :=
  (hd.proper.of_get? (get?_place_of_find hd hfind).2).1

/-- The path of a file and its path from the root end alike. -/
theorem isPython_absolute {content : Option Bytes} (hfind : d.find path = .ok (.file content)) :
    Path.isPython (d.absolute path) = Path.isPython path := by
  obtain ⟨names, last, hplace, hpath⟩ := exists_last_of_find hd hfind
  have hlast : Path.isPython path = Path.isPython last := by
    rcases hpath with rfl | ⟨front, rfl⟩
    · rfl
    · exact Path.isPython_append front last
  obtain ⟨front, -, heq⟩ := Path.absolute_eq hd.rooted path
  rw [absolute, heq, Path.isPython_append, hplace, Path.isPython_joinWith, hlast]

/-- The source files of a path are the files at and below it whose paths end as they should. -/
theorem mem_sources_iff (hfind : d.find path = .ok found) :
    p ∈ d.sources excluded path ↔ Path.EndsInPy p ∧
      ∃ names content, found.Holds excluded names content ∧ p = Path.below path names := by
  rw [← Path.isPython_iff]
  cases found with
  | file own =>
      have hmem : p ∈ d.sources excluded path ↔ Path.isPython p = true ∧ p = path := by
        rw [sources_of_file excluded hfind]
        split
        · rename_i hpython
          rw [List.mem_singleton]
          exact ⟨fun hp => ⟨hp ▸ hpython, hp⟩, fun hp => hp.2⟩
        · rename_i hpython
          exact iff_of_false List.not_mem_nil fun hp => hpython (hp.2 ▸ hp.1)
      rw [hmem]
      simp only [FileTree.holds_file_iff]
      constructor
      · rintro ⟨hpython, rfl⟩
        exact ⟨hpython, [], own, ⟨rfl, rfl⟩, rfl⟩
      · rintro ⟨hpython, names, content, ⟨rfl, rfl⟩, rfl⟩
        exact ⟨hpython, rfl⟩
  | directory entries =>
      rw [sources_of_directory excluded hfind, sortPaths, List.mem_mergeSort]
      exact (hd.isProper hfind).mem_entrySources_iff rfl path

/-- The source files of a path stand in the order of their paths, and none stands there twice. -/
theorem pairwise_sources (path : String) : (d.sources excluded path).Pairwise (· < ·) := by
  cases hfind : d.find path with
  | error cause =>
      rw [sources, find?, hfind]
      exact List.Pairwise.nil
  | ok found =>
      cases found with
      | file content =>
          rw [sources_of_file excluded hfind]
          split
          · exact List.pairwise_singleton _ _
          · exact List.Pairwise.nil
      | directory entries =>
          have hnodup : (entrySources excluded path entries).Nodup :=
            (hd.isProper hfind).nodup_entrySources rfl path
          rw [sources_of_directory excluded hfind]
          exact Text.pairwise_lt_mergeSort id ((List.map_id _).symm ▸ hnodup)

/-- The order in which directories list their entries has no influence on the source files. -/
theorem sources_relisted {other : FileTree} (hrelisted : d.tree.Relisted other)
    (hfind : d.find path = .ok found) :
    ({ d with tree := other } : Disk).sources excluded path = d.sources excluded path := by
  have hother : ({ d with tree := other } : Disk).IsSound := by
    obtain ⟨entries, hworking⟩ := hd.working
    obtain ⟨found', hfound', hkind⟩ := hrelisted.get? hd.proper hworking
    refine ⟨hrelisted.isProper hd.proper, hd.rooted, ?_⟩
    cases found' with
    | file content => exact absurd hkind.isDirectory nofun
    | directory entries' => exact ⟨entries', hfound'⟩
  obtain ⟨found', hfind', hfound⟩ := find_relisted hd hrelisted hfind
  refine Text.eq_of_pairwise_lt id (pairwise_sources excluded hother path)
    (pairwise_sources excluded hd path) fun p => ?_
  rw [mem_sources_iff excluded hother hfind', mem_sources_iff excluded hd hfind]
  have hholds : ∀ names content,
      found'.Holds excluded names content ↔ found.Holds excluded names content := fun names content =>
    ⟨hfound.symm.holds (hother.isProper hfind'), hfound.holds (hd.isProper hfind)⟩
  simp only [hholds]

end Disk

end CallChain
