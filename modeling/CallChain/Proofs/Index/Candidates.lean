import CallChain.Proofs.Index.Specifiers

/-!
# Printed candidates

The candidates for a name are printed as specifiers: the way to the file, a colon and the qualified
name.  To type one back finds the routine if the way ends in `.py` and begins with no blank.  A way
that ends in capitals is taken for a dotted name, and blanks in front are lost, after which the
file is found only by chance: `ReadsBack` says how, and `printed_candidate_is_found_iff` that there is
no other way.
-/

namespace CallChain

open Text (splitOn joinWith)

namespace Text

theorem beginsPlain_slash (text : String) : BeginsPlain ("/" ++ text) :=
  beginsPlain_of_isAbsolute (Path.isAbsolute_append (by decide) text)

theorem trimStart_joinWith (first : String) (rest : List String) :
    trimStart (joinWith "/" (first :: rest)) = joinWith "/" (trimStart first :: rest) := by
  by_cases hrest : rest = []
  · subst hrest
    rfl
  · rw [joinWith_cons "/" first hrest, joinWith_cons "/" _ hrest, String.append_assoc,
      trimStart_append first (beginsPlain_slash _), String.append_assoc]

theorem beginsPlain_of_trimStart_eq {text : String} (htext : trimStart text = text) :
    BeginsPlain text := by
  intro c hc
  have hnot := List.head?_dropWhile_not (fun c : Char => isBlank c.toNat) text.toList
  have hsame := congrArg String.toList htext
  rw [trimStart, String.toList_ofList] at hsame
  rw [hsame, Option.mem_def.mp hc] at hnot
  exact hnot

theorem Dotted.endsPlain {text : String} (htext : Dotted text) : EndsPlain text := by
  intro c hc
  by_cases hdot : c = '.'
  · subst hdot
    rfl
  · have := htext c (List.mem_of_getLast? hc) hdot
    simp only [isDivider, decide_eq_false_iff_not] at this
    simp_all

end Text

theorem Path.EndsInPy.trimStart {path : String} (hends : EndsInPy path) :
    EndsInPy (Text.trimStart path) := by
  obtain ⟨stem, ending, hending, rfl⟩ := hends
  refine ⟨Text.trimStart stem, ending, hending, Text.trimStart_append stem ?_⟩
  revert ending
  decide

/-- Before its qualified name the full name of a routine has no colon. -/
theorem Routine.not_suffix_fullName (r : Routine) (front : String) :
    ¬ (front ++ ":" ++ r.qualname).toList <:+ r.fullName.toList := by
  intro hsuffix
  have hcolon : (':' :: r.qualname.toList) <:+ r.fullName.toList := by
    refine List.IsSuffix.trans ?_ hsuffix
    rw [String.append_assoc, String.toList_append, String.toList_append]
    exact List.suffix_append _ _
  rw [fullName] at hcolon
  split at hcolon
  · exact absurd hcolon.length_le (by simp)
  · rw [String.append_assoc, String.toList_append, String.toList_append, dot_toList] at hcolon
    have hdot : ('.' :: r.qualname.toList) <:+ r.moduleName.toList ++ (['.'] ++ r.qualname.toList) :=
      List.suffix_append _ _
    have hsame := (List.suffix_of_suffix_length_le hcolon hdot (by simp)).eq_of_length (by simp)
    exact absurd (List.cons.inj hsame).1 (by decide)

namespace Index

/-- The names of a way that is found again when it is typed, in an index of the directory with the
names `root`: it begins with no blank, or what is left of its first name is a dot, which is dropped,
or nothing, and then the way is absolute and has to lead into the directory. -/
inductive ReadsBack (root : List String) : List String → Prop
  | plain {first : String} {rest : List String} (hfirst : Text.BeginsPlain first) :
      ReadsBack root (first :: rest)
  | dot {first : String} {rest : List String} (hfirst : Text.trimStart first = ".") :
      ReadsBack root (first :: rest)
  | rooted {first : String} {rest : List String} (hfirst : Text.trimStart first = "")
      (hrest : rest ≠ []) : ReadsBack root (first :: (root ++ rest))

variable {index : Index} {file first root : String} {rest names others : List String}

/-! ## The names that are looked for -/

/-- The file of a specifier is looked for by these names. -/
structure Seeks (index : Index) (file : String) (names : List String) : Prop where
  ne_nil : names ≠ []
  no_slash : ∀ name ∈ names, '/' ∉ name.toList
  specFile : index.specFile file = joinWith "/" names

theorem Seeks.matches_iff (hseeks : index.Seeks file others) (hne : names ≠ [])
    (hnames : ∀ name ∈ names, IsEntryName name) :
    (joinWith "/" names == index.specFile file ||
      Text.endsWith (joinWith "/" names) ("/" ++ index.specFile file)) = true ↔ others <:+ names := by
  rw [Bool.or_eq_true, beq_iff_eq, hseeks.specFile]
  exact endsIn_joinWith_iff (fun name hname => (hnames name hname).no_slash) hseeks.no_slash hne
    hseeks.ne_nil

theorem isAbsolute_joinWith (hempty : first ≠ "") (hslash : '/' ∉ first.toList) (rest : List String) :
    Path.isAbsolute (joinWith "/" (first :: rest)) = false := by
  have hfirst := Path.isAbsolute_of_no_slash hslash
  by_cases hrest : rest = []
  · subst hrest
    exact hfirst
  · rw [Text.joinWith_cons "/" first hrest, String.append_assoc, Path.isAbsolute_append hempty, hfirst]

section

variable (hroot : index.root = some root) (hne : root ≠ "") (hrest : ∀ name ∈ rest, IsEntryName name)

include hroot hne hrest

theorem seeks_of_relative (hempty : first ≠ "") (hdot : first ≠ ".") (hslash : '/' ∉ first.toList) :
    index.Seeks (joinWith "/" (first :: rest)) (first :: rest) := by
  have hnames : ∀ name ∈ first :: rest, '/' ∉ name.toList :=
    List.forall_mem_cons.mpr ⟨hslash, fun name hname => (hrest name hname).no_slash⟩
  refine ⟨List.cons_ne_nil _ _, hnames, specFile_eq hroot hne ?_ hnames fun heq => absurd heq hdot⟩
  rw [isAbsolute_joinWith hempty hslash, if_neg Bool.false_ne_true]

omit hne in
/-- A dot in front of a way is dropped. -/
theorem seeks_of_dot (hnil : rest ≠ []) : index.Seeks (joinWith "/" ("." :: rest)) rest := by
  refine ⟨hnil, fun name hname => (hrest name hname).no_slash, ?_⟩
  have hrelative : Path.isAbsolute (joinWith "/" ("." :: rest)) = false :=
    isAbsolute_joinWith (by decide) (by decide) rest
  have hchars : (joinWith "/" ("." :: rest)).toList = '.' :: '/' :: (joinWith "/" rest).toList := by
    rw [Text.joinWith_cons "/" "." hnil, String.toList_append]
    rfl
  have hlength : (joinWith "/" ("." :: rest)).length = (joinWith "/" rest).toList.length + 1 + 1 := by
    rw [← String.length_toList, hchars, List.length_cons, List.length_cons]
  obtain ⟨next, more, rfl⟩ := List.exists_cons_of_ne_nil hnil
  have hkept := dropDots_joinWith (fun name hname => (hrest name hname).no_slash)
    fun hdot => absurd hdot (hrest next List.mem_cons_self).ne_dot
  rw [specFile, hroot]
  simp only [hrelative, Bool.false_eq_true, and_false, if_false, hlength, hchars, dropDots, hkept,
    String.ofList_toList]

/-- An absolute way into the indexed directory is looked for by what it adds to the directory. -/
theorem seeks_of_inside (hnil : names ≠ []) (hinside : rest = Path.place "/" root ++ names) :
    index.Seeks ("/" ++ joinWith "/" rest) names := by
  have habsolute : Path.isAbsolute ("/" ++ joinWith "/" rest) = true :=
    Path.isAbsolute_append (by decide) _
  have hnames : ∀ name ∈ names, IsEntryName name := fun name hname =>
    hrest name (hinside ▸ List.mem_append_right _ hname)
  have hway : Path.relative "/" root ("/" ++ joinWith "/" rest) = joinWith "/" names :=
    Path.relative_eq (by decide) (Path.ne_empty_of_isAbsolute habsolute) hnil
      ((Path.place_rooted "/" hrest).trans hinside)
  refine ⟨hnil, fun name hname => (hnames name hname).no_slash, ?_⟩
  obtain ⟨first, more, rfl⟩ := List.exists_cons_of_ne_nil hnil
  refine specFile_eq hroot hne ?_ (fun name hname => (hnames name hname).no_slash)
    fun hdot => absurd hdot (hnames first List.mem_cons_self).ne_dot
  rw [if_pos habsolute, hway]

/-- An absolute way that leads out of the indexed directory is looked for by dots. -/
theorem exists_seeks_of_outside
    (houtside : ∀ names, names ≠ [] → rest ≠ Path.place "/" root ++ names) :
    ∃ first more, ¬ IsEntryName first ∧
      index.Seeks ("/" ++ joinWith "/" rest) (first :: more) := by
  have habsolute : Path.isAbsolute ("/" ++ joinWith "/" rest) = true :=
    Path.isAbsolute_append (by decide) _
  have hnot : ∀ names, names ≠ [] →
      Path.place "/" ("/" ++ joinWith "/" rest) ≠ Path.place "/" root ++ names := by
    rw [Path.place_rooted "/" hrest]
    exact houtside
  obtain ⟨first, more, hfirst, hnames, hway⟩ := Path.exists_relative_eq_of_not_below
    (by decide) (Path.ne_empty_of_isAbsolute habsolute) hnot
  refine ⟨first, more, ?_, List.cons_ne_nil _ _, hnames, specFile_eq hroot hne ?_ hnames ?_⟩
  · rcases hfirst with ⟨rfl, -⟩ | rfl <;> decide
  · rw [if_pos habsolute, hway]
  · rintro rfl
    exact (hfirst.resolve_right (by decide)).2

/-- A way without its blanks in front means the file if it reads back. -/
theorem matches_iff_readsBack (hfirst : IsEntryName first)
    (hpy : Text.endsWith (joinWith "/" (Text.trimStart first :: rest)) ".py" = true) :
    (joinWith "/" (first :: rest) == index.specFile (joinWith "/" (Text.trimStart first :: rest)) ||
        Text.endsWith (joinWith "/" (first :: rest))
          ("/" ++ index.specFile (joinWith "/" (Text.trimStart first :: rest)))) = true ↔
      ReadsBack (Path.place "/" root) (first :: rest) := by
  have hnil : first :: rest ≠ [] := List.cons_ne_nil _ _
  have hnames : ∀ name ∈ first :: rest, IsEntryName name := List.forall_mem_cons.mpr ⟨hfirst, hrest⟩
  by_cases hempty : Text.trimStart first = ""
  · rw [hempty] at hpy ⊢
    have hrestNil : rest ≠ [] := by
      rintro rfl
      exact absurd hpy (by decide)
    have hpath : joinWith "/" ("" :: rest) = "/" ++ joinWith "/" rest := by
      rw [Text.joinWith_cons "/" "" hrestNil, String.empty_append]
    rw [hpath]
    by_cases hinside : ∃ tail, tail ≠ [] ∧ rest = Path.place "/" root ++ tail
    · obtain ⟨tail, htail, hinside⟩ := hinside
      rw [(seeks_of_inside hroot hne hrest htail hinside).matches_iff hnil hnames, hinside]
      refine iff_of_true ?_ (.rooted hempty htail)
      exact (List.suffix_append _ _).trans (List.suffix_cons _ _)
    · obtain ⟨dots, more, hdots, hseeks⟩ := exists_seeks_of_outside hroot hne hrest
        fun tail htail heq => hinside ⟨tail, htail, heq⟩
      rw [hseeks.matches_iff hnil hnames]
      refine iff_of_false (fun hsuffix => ?_) fun hreads => ?_
      · exact hdots (hnames dots (hsuffix.subset List.mem_cons_self))
      · cases hreads with
        | plain hplain => exact hfirst.ne_empty (hplain.trimStart_eq.symm.trans hempty)
        | dot heq => exact absurd (heq.symm.trans hempty) (by decide)
        | rooted _ htail => exact hinside ⟨_, htail, rfl⟩
  by_cases hdot : Text.trimStart first = "."
  · rw [hdot] at hpy ⊢
    have hrestNil : rest ≠ [] := by
      rintro rfl
      exact absurd hpy (by decide)
    rw [(seeks_of_dot hroot hrest hrestNil).matches_iff hnil hnames]
    exact iff_of_true (List.suffix_cons _ _) (.dot hdot)
  · have hslash : '/' ∉ (Text.trimStart first).toList := fun hmem =>
      hfirst.no_slash ((Text.suffix_trimStart first).subset hmem)
    rw [(seeks_of_relative hroot hne hrest hempty hdot hslash).matches_iff hnil hnames]
    constructor
    · intro hsuffix
      have hsame := (List.cons.inj (hsuffix.eq_of_length rfl)).1
      exact .plain (Text.beginsPlain_of_trimStart_eq hsame)
    · intro hreads
      cases hreads with
      | plain hplain => exact hplain.trimStart_eq.symm ▸ List.suffix_refl _
      | dot heq => exact absurd heq hdot
      | rooted heq => exact absurd heq hempty

end

/-- What is printed for a candidate finds the routine when it is typed exactly if the way to its file
ends in `.py` and reads back. -/
theorem printed_candidate_is_found_iff {d : Disk} {settings : Settings} {target : String}
    {entries : List (String × FileTree)} {log : List Log.Record} (hd : d.IsSound)
    (hfind : d.find target = .ok (.directory entries))
    (hbuild : build d settings target = .ok (index, log)) {r : Routine} (hr : r ∈ index.routines) :
    r ∈ index.findRoutines (r.file ++ ":" ++ r.qualname) ↔
      Text.endsWith r.file ".py" = true ∧
        ReadsBack (Path.place d.directory target) (splitOn '/' r.file) := by
  obtain ⟨⟨file, hfile, hsame⟩, -, hqualname⟩ := exists_file_of_mem_routines hd hfind hbuild hr
  obtain ⟨names, hnames, hne, -, hname, hends⟩ := exists_names_of_mem_sourceFiles hd hfind hfile
  have hspec := Text.trim_specifier r.file hqualname.endsPlain
  have hcolon : ':' ∉ r.qualname.toList := hqualname.not_mem (by decide) (by decide)
  have hending : Text.endsWith (Text.trimStart r.file) ".py" = Text.endsWith r.file ".py" :=
    Text.endsWith_trimStart r.file (by decide)
  by_cases hpy : Text.endsWith r.file ".py" = true
  · obtain ⟨first, rest, rfl⟩ := List.exists_cons_of_ne_nil hne
    obtain ⟨hfirst, hrest⟩ := List.forall_mem_cons.mp hnames
    have hcalled : r.isCalled r.qualname = true := by simp [Routine.isCalled]
    have hroot : d.absolute target ≠ "" :=
      Path.ne_empty_of_isAbsolute (Path.isAbsolute_absolute hd.rooted target)
    have hplace : Path.place "/" (d.absolute target) = Path.place d.directory target :=
      (Path.place_of_isAbsolute (Path.isAbsolute_absolute hd.rooted target) _ _).trans
        (Path.place_absolute hd.rooted target)
    have hway : r.file = joinWith "/" (first :: rest) := hsame.trans hname
    rw [findRoutines_of_py hspec hcolon (hending.trans hpy), List.mem_filter, hcalled, Bool.and_true]
    rw [hway, Text.trimStart_joinWith] at hending
    rw [hway, Text.trimStart_joinWith, Path.splitOn_names hnames hne, ← hplace,
      matches_iff_readsBack (root_of_build hd hfind hbuild) hroot hrest hfirst (hending.trans (hway ▸ hpy))]
    exact ⟨fun hboth => ⟨hway ▸ hpy, hboth.2⟩, fun hboth => ⟨hr, hboth.2⟩⟩
  · refine iff_of_false (fun hmem => ?_) fun hboth => hpy hboth.1
    rw [Bool.not_eq_true, ← hending] at hpy
    have hdot : '.' ∈ (Text.trimStart r.file).toList := (hsame ▸ hends).trimStart.dot_mem
    obtain ⟨-, hsuffix⟩ := suffix_fullName_of_mem hspec hcolon hpy hdot hmem
    exact r.not_suffix_fullName _ hsuffix

theorem printed_candidate_is_found_iff_of_plain_way :
    twinDisk.IsSound ∧ twinDisk.find "." = .ok (.directory twinDirectory) ∧
      (∃ log, build twinDisk {} "." = .ok (twinIndex, log)) ∧
      ∃ r ∈ twinIndex.routines, r.file = "lib/a.py" ∧ r.qualname = "f" ∧
        r ∈ twinIndex.findRoutines (r.file ++ ":" ++ r.qualname) := by
  obtain ⟨log, hbuild⟩ := exists_build_twinDisk
  have hfacts : ∃ r ∈ twinIndex.routines, r.file = "lib/a.py" ∧ r.qualname = "f" := by decide +kernel
  obtain ⟨r, hr, hfile, hqualname⟩ := hfacts
  refine ⟨twinDisk_isSound, rfl, ⟨log, hbuild⟩, r, hr, hfile, hqualname, ?_⟩
  have hsplit : splitOn '/' "lib/a.py" = ["lib", "a.py"] := by decide
  refine (printed_candidate_is_found_iff twinDisk_isSound rfl hbuild hr).mpr ⟨by rw [hfile]; decide, ?_⟩
  rw [hfile, hsplit]
  exact .plain (by decide)

/-- The specifier that is printed for a routine in a file that ends in capitals finds nothing. -/
theorem printed_candidate_is_lost_in_capitals :
    (∃ log, build twinDisk {} "." = .ok (twinIndex, log)) ∧
      ∃ r ∈ twinIndex.routines, r.file ++ ":" ++ r.qualname = "B.PY:g" ∧
        r ∉ twinIndex.findRoutines (r.file ++ ":" ++ r.qualname) := by
  have hfacts : (∃ r ∈ twinIndex.routines, r.file ++ ":" ++ r.qualname = "B.PY:g") ∧
      (twinIndex.findRoutines "B.PY:g").isEmpty = true := by decide +kernel
  obtain ⟨⟨r, hr, hspec⟩, hempty⟩ := hfacts
  refine ⟨exists_build_twinDisk, r, hr, hspec, ?_⟩
  rw [hspec, List.isEmpty_iff.mp hempty]
  exact List.not_mem_nil

end Index

end CallChain
