import CallChain.Proofs.CommandLine.Run
import CallChain.Proofs.Index.Disk

/-!
# The files that are listed are those that are indexed

Both commands look for the same files, but one prints their paths as the target is spelled and the
other knows them by the ways to them from the directory that it indexes.  `listed_files_are_indexed` puts
together what is listed, in which order, and that it is what is indexed.
-/

namespace CallChain.CommandLine

variable {d : Disk} {found : FileTree} {target : String}

/-- An index of a target holds or skips every source file of it, by the way to it. -/
theorem exists_build (hd : d.IsSound) (settings : Settings) (hfind : d.find target = .ok found) :
    ∃ index records, Index.build d settings target = .ok (index, records) ∧
      ((d.sources settings.excludeDirs target).map
        (Path.relative d.directory (d.indexRoot target))).Perm
          (index.files.map SourceModule.file ++ index.skipped) := by
  refine ⟨_, _, Index.build_of_find hfind settings, ?_⟩
  rw [← Disk.map_name_sourceFiles hd settings hfind]
  refine (List.Perm.of_eq ?_).trans (Index.perm_files_skipped _ _ _).symm
  rw [List.map_map, List.map_map]
  rfl

/-- The source files of a target are in order, without doubles, and exactly the files at or below it
that end in `.py` and lie in no excluded directory, however directories list their entries.  They
are listed, and the ways to them are those of the files that an index of the target holds or
skips. -/
theorem listed_files_are_indexed (hd : d.IsSound) (settings : Settings) (hfind : d.find target = .ok found) :
    let files := d.sources settings.excludeDirs target
    files.Pairwise (· < ·) ∧
    (∀ path, path ∈ files ↔ Path.EndsInPy path ∧ ∃ names content,
      found.Holds settings.excludeDirs names content ∧ path = Path.below target names) ∧
    (∀ other, d.tree.Relisted other →
      ({ d with tree := other } : Disk).sources settings.excludeDirs target = files) ∧
    (∃ index records, Index.build d settings target = .ok (index, records) ∧
      (files.map (Path.relative d.directory (d.indexRoot target))).Perm
        (index.files.map SourceModule.file ++ index.skipped) ∧
      Path.place d.directory (d.indexRoot target) =
        if found.isDirectory then Path.place d.directory target
        else (Path.place d.directory target).dropLast) ∧
    ∀ words config s, parse words = .ok (.listFiles target config) →
      SettingsFile.load s.surround.yaml d config = .ok settings → s.disk = d → s.IsPlain →
      ∃ t, run words s = (.done 0, t) ∧
        t.out = s.out ++ String.join ((fileListing target files).map (· ++ "\n")) := by
  intro files
  refine ⟨Disk.pairwise_sources _ hd target, fun path => Disk.mem_sources_iff _ hd hfind,
    fun other hother => Disk.sources_relisted _ hd hother hfind, ?_, ?_⟩
  · obtain ⟨index, records, hbuild, hperm⟩ := exists_build hd settings hfind
    exact ⟨index, records, hbuild, hperm, Disk.place_indexRoot hd hfind⟩
  · rintro words config s hparse hload rfl hplain
    have htargets : s.disk.targetFiles settings.excludeDirs target = .ok files := by
      rw [Disk.targetFiles, Disk.contains_iff.mpr ⟨found, hfind⟩]
      rfl
    have hlist : ∀ s', s.Alike s' → (execute (.listFiles target config)).Gives s' (.ok 0)
        { s with out := s.out ++ String.join ((fileListing target files).map (· ++ "\n")) } := by
      intro s' hs'
      rw [← hs'.disk] at hload htargets
      rw [← hs'.surround] at hload
      exact (listFiles_gives (hplain.of_alike hs') hload htargets).of_alike (hs'.append_out _)
    obtain ⟨t, hrun, ht⟩ := run_gives hplain hparse hlist
    exact ⟨t, hrun, ht.out⟩

/-- In the sample two files are listed, by the target as it is spelled. -/
theorem listed_files_are_indexed_sample :
    Index.sampleDisk.IsSound ∧
      Index.sampleDisk.find "lib/.." = .ok (.directory Index.sampleDirectory) ∧
      parse ["list-files", "--target", "lib/.."] = .ok (.listFiles "lib/.." none) ∧
      SettingsFile.load SettingsFile.plainYaml Index.sampleDisk none = .ok {} ∧
      Index.sampleDisk.sources ({} : Settings).excludeDirs "lib/.." =
        ["lib/../a.py", "lib/../lib/B.PY"] ∧
      ∃ t, run ["list-files", "--target", "lib/.."]
          { surround := { times := ⟨"", "", ""⟩ }, disk := Index.sampleDisk } = (.done 0, t) ∧
        t.out = "[File List] 2 Python files under lib/..:\n  1. lib/../a.py\n  2. lib/../lib/B.PY\n" := by
  have hfind : Index.sampleDisk.find "lib/.." = .ok (.directory Index.sampleDirectory) := rfl
  obtain ⟨hsorted, hmem, -, -, hlisted⟩ := listed_files_are_indexed Index.sampleDisk_isSound {} hfind
  have hfiles : Index.sampleDisk.sources ({} : Settings).excludeDirs "lib/.." =
      ["lib/../a.py", "lib/../lib/B.PY"] := by
    refine Text.eq_of_pairwise_lt id hsorted (by decide) fun path => ?_
    rw [hmem]
    constructor
    · rintro ⟨hends, names, content, hholds, rfl⟩
      rcases Index.sampleDirectory_holds_iff.mp hholds with ⟨rfl, rfl⟩ | ⟨rfl, rfl⟩ | ⟨rfl, rfl⟩
      · decide
      · decide
      · rw [← Path.isPython_iff, Path.isPython, Text.lowerAscii, String.map_eq_internal] at hends
        exact absurd hends (by decide)
    · simp only [List.mem_cons, List.not_mem_nil, or_false]
      rintro (rfl | rfl)
      · exact ⟨⟨"lib/../a", ".py", by decide, by decide⟩, ["a.py"], _,
          Index.sampleDirectory_holds_iff.mpr (Or.inr (Or.inl ⟨rfl, rfl⟩)), by decide⟩
      · exact ⟨⟨"lib/../lib/B", ".PY", by decide, by decide⟩, ["lib", "B.PY"], _,
          Index.sampleDirectory_holds_iff.mpr (Or.inl ⟨rfl, rfl⟩), by decide⟩
  rw [hfiles] at hlisted
  obtain ⟨t, hrun, hout⟩ := hlisted ["list-files", "--target", "lib/.."] none
    { surround := { times := ⟨"", "", ""⟩ }, disk := Index.sampleDisk } rfl rfl rfl ⟨rfl, rfl⟩
  exact ⟨Index.sampleDisk_isSound, hfind, rfl, rfl, hfiles, t, hrun, by rw [hout]; decide +kernel⟩

end CallChain.CommandLine
