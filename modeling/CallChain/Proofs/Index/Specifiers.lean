import CallChain.Proofs.Index.Disk
import CallChain.Proofs.Index.Files
import CallChain.Proofs.Spelling

/-!
# Specifiers with a file

A specifier with a file is trimmed, cut at its last colon, and its file is compared with the files of
the index: a file is meant if its way is the one that is written, or if it ends in the one that is
written behind a slash.  In names, what is written is a tail of the names of the file
(`endsIn_joinWith_iff`).

The absolute path of an indexed file is taken relative to the indexed directory, which gives the way
to the file.  So it means the file, but also each file whose way ends like that, and it means nothing
if the path ends in capitals: `absolute_specifier_finds`.
-/

namespace CallChain

open Text (splitOn joinWith)

/-! ## Blanks in front -/

namespace Text

theorem colon_toList : (":" : String).toList = [':'] := by decide

/-- A text without the blanks in front of it. -/
def trimStart (text : String) : String := String.ofList (text.toList.dropWhile fun c => isBlank c.toNat)

/-- The text does not begin with a blank. -/
def BeginsPlain (text : String) : Prop := ∀ c ∈ text.toList.head?, isBlank c.toNat = false

/-- The text does not end with a blank. -/
def EndsPlain (text : String) : Prop := ∀ c ∈ text.toList.getLast?, isBlank c.toNat = false

instance (text : String) : Decidable (BeginsPlain text) :=
  Option.decidableForallMem text.toList.head?

theorem beginsPlain_of_isAbsolute {path : String} (hpath : Path.isAbsolute path = true) :
    BeginsPlain path := by
  obtain ⟨rest, hrest⟩ := Path.startsWith_iff.mp hpath
  intro c hc
  rw [← hrest, slash_toList] at hc
  cases hc
  rfl

theorem BeginsPlain.trimStart_eq {text : String} (htext : BeginsPlain text) : trimStart text = text := by
  rw [trimStart]
  cases hchars : text.toList with
  | nil => exact (String.toList_eq_nil_iff.mp hchars).symm
  | cons c rest =>
      have hc : isBlank c.toNat = false := htext c (by rw [hchars]; rfl)
      rw [List.dropWhile_cons_of_neg (by simp [hc]), ← hchars, String.ofList_toList]

/-- Blanks in front stay in front. -/
theorem trimStart_append (front : String) {back : String} (hback : BeginsPlain back) :
    trimStart (front ++ back) = trimStart front ++ back := by
  apply String.toList_injective
  rw [trimStart, String.toList_append, String.toList_append, trimStart, String.toList_ofList,
    String.toList_ofList, List.dropWhile_append]
  split
  · rename_i hempty
    have hsame := congrArg String.toList hback.trimStart_eq
    rw [trimStart, String.toList_ofList] at hsame
    rw [hsame, List.isEmpty_iff.mp hempty, List.nil_append]
  · rfl

theorem endsPlain_of_trim_eq {text : String} (htrim : trim text = text) : EndsPlain text := by
  have hchars := congrArg String.toList htrim
  rw [trim, trimBy, String.toList_ofList] at hchars
  intro c hc
  rw [← hchars, List.getLast?_reverse, Option.mem_def] at hc
  have hnot := List.head?_dropWhile_not (fun c : Char => isBlank c.toNat)
    (text.toList.dropWhile fun c => isBlank c.toNat).reverse
  rw [hc] at hnot
  exact hnot

theorem suffix_trimStart (text : String) : (trimStart text).toList <:+ text.toList := by
  rw [trimStart, String.toList_ofList]
  exact List.dropWhile_suffix _

/-- Of a text that does not end with a blank, only the blanks in front are trimmed. -/
theorem EndsPlain.trim_eq {text : String} (htext : EndsPlain text) : trim text = trimStart text := by
  have hsuffix := suffix_trimStart text
  rw [trim, trimBy, trimStart]
  rw [trimStart, String.toList_ofList] at hsuffix
  generalize text.toList.dropWhile (fun c => isBlank c.toNat) = kept at hsuffix
  cases hkept : kept.reverse with
  | nil =>
      rw [List.reverse_eq_nil_iff.mp hkept]
      rfl
  | cons c rest =>
      obtain ⟨front, hfront⟩ := hsuffix
      have hlast : kept.getLast? = some c := by rw [← List.head?_reverse, hkept]; rfl
      have hc : isBlank c.toNat = false :=
        htext c (by rw [← hfront, List.getLast?_append, hlast]; rfl)
      rw [List.dropWhile_cons_of_neg (by simp [hc]), ← hkept, List.reverse_reverse]

/-- A specifier is trimmed in front of its file. -/
theorem trim_specifier (file : String) {name : String} (hname : EndsPlain name) :
    trim (file ++ ":" ++ name) = trimStart file ++ ":" ++ name := by
  have hends : EndsPlain (file ++ ":" ++ name) := by
    intro c hc
    rw [String.toList_append, List.getLast?_append, Option.mem_def, Option.or_eq_some_iff] at hc
    rcases hc with hlast | ⟨-, hcolon⟩
    · exact hname c hlast
    · rw [String.toList_append, colon_toList, List.getLast?_concat] at hcolon
      cases hcolon
      rfl
  have hbegins : BeginsPlain (":" ++ name) := by
    intro c hc
    rw [String.toList_append, colon_toList] at hc
    cases hc
    rfl
  rw [hends.trim_eq, String.append_assoc, trimStart_append file hbegins, String.append_assoc]

/-- Blanks in front have no influence on an ending that begins with none. -/
theorem endsWith_trimStart (text : String) {ending : String} (hending : BeginsPlain ending) :
    endsWith (trimStart text) ending = endsWith text ending := by
  rw [Bool.eq_iff_iff]
  constructor
  · exact fun hends => endsWith_iff.mpr ((endsWith_iff.mp hends).trans (suffix_trimStart text))
  · intro hends
    obtain ⟨front, rfl⟩ := exists_front_of_endsWith hends
    rw [trimStart_append front hending, endsWith_iff, String.toList_append]
    exact List.suffix_append _ _

end Text

/-! ## Tails of ways -/

/-- Names joined by slashes are other names joined by slashes, or end in these behind a slash,
exactly if the other names are a tail of the names. -/
theorem endsIn_joinWith_iff {names others : List String} (hnames : ∀ name ∈ names, '/' ∉ name.toList)
    (hothers : ∀ name ∈ others, '/' ∉ name.toList) (hne : names ≠ []) (hne' : others ≠ []) :
    (joinWith "/" names = joinWith "/" others ∨
      Text.endsWith (joinWith "/" names) ("/" ++ joinWith "/" others) = true) ↔ others <:+ names := by
  have hsplit := Text.splitOn_joinWith_of_not_mem slash_toList hne hnames
  have hsplit' := Text.splitOn_joinWith_of_not_mem slash_toList hne' hothers
  constructor
  · rintro (heq | hends)
    · have hsame : names = others := by rw [← hsplit, heq, hsplit']
      exact hsame ▸ List.suffix_refl _
    · obtain ⟨front, hfront⟩ := exists_front_of_endsWith hends
      rw [← hsplit, hfront, ← String.append_assoc, Text.splitOn_append slash_toList, hsplit']
      exact List.suffix_append _ _
  · rintro ⟨front, rfl⟩
    by_cases hfront : front = []
    · subst hfront
      exact Or.inl rfl
    · refine Or.inr (endsWith_iff.mpr ?_)
      rw [Text.joinWith_append "/" hfront hne', String.append_assoc,
        String.toList_append (s := joinWith "/" front)]
      exact List.suffix_append _ _

/-- No way ends in itself behind a slash. -/
theorem not_endsWith_self (way : String) : ¬ Text.endsWith way ("/" ++ way) = true := by
  intro hends
  have hle := (endsWith_iff.mp hends).length_le
  rw [String.toList_append, slash_toList, List.length_append, List.length_singleton] at hle
  omega

/-- Whether a routine has this name, alone or behind the names of the scopes around it. -/
def Routine.isCalled (r : Routine) (name : String) : Bool := r.qualname == name || r.name == name

theorem Routine.suffix_qualname (r : Routine) : r.qualname.toList <:+ r.fullName.toList := by
  rw [fullName]
  split
  · exact List.suffix_refl _
  · rw [String.toList_append]
    exact List.suffix_append _ _

namespace Index

variable {index : Index} {spec file name : String}

/-! ## Reading a specifier -/

theorem dropDots_of_ne {cs : List Char} (hcs : ¬ ['.', '/'] <+: cs) (fuel : Nat) :
    dropDots fuel cs = cs := by
  unfold dropDots
  split
  · exact absurd (by simp) hcs
  · rfl

/-- A dot in front is dropped only if it is followed by a slash. -/
theorem dropDots_joinWith {first : String} {rest : List String}
    (hnames : ∀ name ∈ first :: rest, '/' ∉ name.toList) (hfirst : first = "." → rest = [])
    (fuel : Nat) :
    dropDots fuel (joinWith "/" (first :: rest)).toList = (joinWith "/" (first :: rest)).toList := by
  refine dropDots_of_ne ?_ fuel
  rintro ⟨tail, htail⟩
  have htext : joinWith "/" (first :: rest) = "." ++ "/" ++ String.ofList tail := by
    apply String.toList_injective
    rw [← htail, String.toList_append, String.toList_ofList]
    rfl
  have hsplit := Text.splitOn_joinWith_of_not_mem slash_toList (List.cons_ne_nil first rest) hnames
  rw [htext, Text.splitOn_append slash_toList] at hsplit
  obtain ⟨hdot, htail⟩ := List.cons.inj hsplit
  exact Text.splitOn_ne_nil '/' _ (htail.trans (hfirst hdot.symm))

/-- The file that is looked for, where the names of the way to it are known. -/
theorem specFile_eq {root path first : String} {rest : List String} (hroot : index.root = some root)
    (hne : root ≠ "")
    (hway : (if Path.isAbsolute path then Path.relative "/" root path else path) =
      joinWith "/" (first :: rest))
    (hnames : ∀ name ∈ first :: rest, '/' ∉ name.toList) (hfirst : first = "." → rest = []) :
    index.specFile path = joinWith "/" (first :: rest) := by
  rw [specFile, hroot]
  simp only [hne, ne_eq, not_false_eq_true, true_and, hway, dropDots_joinWith hnames hfirst,
    String.ofList_toList]

theorem cutLast?_specifier (file : String) {name : String} (hname : ':' ∉ name.toList) :
    Text.cutLast? ':' (file ++ ":" ++ name) = some (file, name) := by
  have hchars : (file ++ ":" ++ name).toList = file.toList ++ ':' :: name.toList := by
    rw [String.toList_append, String.toList_append, Text.colon_toList, List.append_assoc]
    rfl
  rw [Text.cutLast?_of_last hchars hname, String.ofList_toList, String.ofList_toList]

section Reading

variable (htrim : Text.trim spec = file ++ ":" ++ name) (hname : ':' ∉ name.toList)

include htrim hname

/-- A specifier with a file that ends as it should means the routines of that name in the files that
are meant. -/
theorem findRoutines_of_py (hpy : Text.endsWith file ".py" = true) :
    index.findRoutines spec = index.routines.filter fun r =>
      (r.file == index.specFile file || Text.endsWith r.file ("/" ++ index.specFile file)) &&
        r.isCalled name := by
  have hne : file ++ ":" ++ name ≠ "" := by simp
  rw [findRoutines, htrim]
  simp only [if_neg hne, cutLast?_specifier file hname, Option.filter_some, hpy, if_true]
  rfl

/-- With another ending a specifier is taken for a dotted name, and means routines whose full names
end in it. -/
theorem suffix_fullName_of_mem (hpy : Text.endsWith file ".py" = false) (hdot : '.' ∈ file.toList)
    {r : Routine} (hr : r ∈ index.findRoutines spec) :
    r ∈ index.routines ∧ (file ++ ":" ++ name).toList <:+ r.fullName.toList := by
  have hne : file ++ ":" ++ name ≠ "" := by simp
  have hdotted : (file ++ ":" ++ name).toList.contains '.' = true := by simp [hdot]
  rw [findRoutines, htrim] at hr
  simp only [if_neg hne, cutLast?_specifier file hname, Option.filter_some, hpy, hdotted,
    Bool.false_eq_true, if_false, Bool.not_true] at hr
  generalize file ++ ":" ++ name = text at hr
  split at hr
  · obtain ⟨hlisted, hends⟩ := List.mem_filter.mp hr
    rw [endsWith_iff, String.toList_append] at hends
    exact ⟨hlisted, (List.suffix_append _ _).trans hends⟩
  · obtain ⟨hlisted, hexact⟩ := List.mem_filter.mp hr
    rw [Bool.or_eq_true, beq_iff_eq, beq_iff_eq] at hexact
    rcases hexact with rfl | rfl
    · exact ⟨hlisted, List.suffix_refl _⟩
    · exact ⟨hlisted, r.suffix_qualname⟩

end Reading

/-! ## The index of a directory -/

section Directory

variable {d : Disk} {settings : Settings} {entries : List (String × FileTree)} {target : String}
  {log : List Log.Record} (hd : d.IsSound) (hfind : d.find target = .ok (.directory entries))
  (hbuild : build d settings target = .ok (index, log))

include hd hfind

/-- A source file of a directory is at the end of some names, which are the way to it. -/
theorem exists_names_of_mem_sourceFiles {file : SourceFile}
    (hfile : file ∈ d.sourceFiles settings target) :
    ∃ names : List String, (∀ name ∈ names, IsEntryName name) ∧ names ≠ [] ∧
      file.path = Path.below (d.absolute target) names ∧ file.name = joinWith "/" names ∧
      Path.EndsInPy file.name := by
  have habsolute := Disk.find_absolute_of_find hd hfind
  have hroot := congrArg (Path.place d.directory) (Disk.indexRoot_of_directory hd hfind)
  obtain ⟨path, hpath, rfl⟩ := List.mem_map.mp hfile
  obtain ⟨hends, names, content, hholds, rfl⟩ := (Disk.mem_sources_iff _ hd habsolute).mp hpath
  have hname := Disk.relative_below _ hd habsolute hroot hholds
  refine ⟨names, hholds.isEntryName (hd.isProper habsolute), hholds.ne_nil, rfl, hname, ?_⟩
  change Path.EndsInPy (Path.relative _ _ _)
  rw [hname]
  exact (Disk.endsInPy_below_iff _ hd habsolute hholds).mp hends

include hbuild

/-- The index of a directory, with its files in the order in which they were found. -/
theorem eq_ofParsedSorted_of_build : index = ofParsedSorted settings (some (d.indexRoot target))
    ((d.sourceFiles settings target).map SourceFile.parsed) := by
  have hfiles := Except.ok.inj (hbuild.symm.trans (build_of_find hfind settings))
  have hindex : index = _ := (congrArg Prod.fst hfiles).trans (ofFiles_fst ..)
  rw [hindex]
  refine ofParsed_of_sorted settings _ (List.pairwise_map.mpr ?_)
  refine (pairwise_name_sourceFiles hd settings hfind).imp fun hlt => ?_
  rw [Bool.not_eq_true', decide_eq_false_iff_not]
  exact hlt.asymm

/-- Where a routine of the index is declared, and how it is called. -/
theorem exists_file_of_mem_routines {r : Routine} (hr : r ∈ index.routines) :
    (∃ file ∈ d.sourceFiles settings target, r.file = file.name) ∧
      r.moduleName = (moduleNameOf r.file).1 ∧ Text.Dotted r.qualname := by
  rw [eq_ofParsedSorted_of_build hd hfind hbuild] at hr
  obtain ⟨m, hm, hr⟩ := List.mem_flatMap.mp hr
  obtain ⟨⟨path, tree?⟩, hentry, hmodule⟩ := List.mem_filterMap.mp hm
  obtain ⟨tree, rfl, rfl⟩ := Option.map_eq_some_iff.mp hmodule
  obtain ⟨file, hfile, hparse⟩ := List.mem_map.mp hentry
  obtain ⟨rfl, htext⟩ := Prod.mk.inj hparse
  obtain ⟨text, -, htree⟩ := Option.bind_eq_some_iff.mp htext
  have hparsed := isParsed_moduleOf file.name htree
  have hname := hparsed.file_eq hr
  refine ⟨⟨file, hfile, by rw [hname, moduleOf_file]⟩, ?_, hparsed.dotted_qualname hr⟩
  rw [hparsed.moduleName_eq hr, (isFiled_moduleOf _ _).name, hname]

theorem slash_not_mem_fullName {r : Routine} (hr : r ∈ index.routines) : '/' ∉ r.fullName.toList := by
  obtain ⟨-, hmodule, hqualname⟩ := exists_file_of_mem_routines hd hfind hbuild hr
  have hslash : '/' ∉ r.qualname.toList := hqualname.not_mem (by decide) (by decide)
  rw [Routine.fullName]
  split
  · exact hslash
  · simp only [String.toList_append, List.mem_append, not_or]
    exact ⟨⟨hmodule ▸ slash_not_mem_moduleNameOf r.file, by decide⟩, hslash⟩

theorem root_of_build : index.root = some (d.absolute target) := by
  rw [eq_ofParsedSorted_of_build hd hfind hbuild, ← Disk.indexRoot_of_directory hd hfind]
  rfl

end Directory

/-! ## Absolute specifiers -/

/-- The routines of this name that a file declares. -/
def declaredIn (index : Index) (file name : String) : List Routine :=
  index.routines.filter fun r => r.file == file && r.isCalled name

theorem mem_declaredIn {r : Routine} :
    r ∈ index.declaredIn file name ↔ r ∈ index.routines ∧ r.file = file ∧ r.isCalled name = true := by
  rw [declaredIn, List.mem_filter, Bool.and_eq_true, beq_iff_eq]

section Absolute

variable {d : Disk} {settings : Settings} {entries : List (String × FileTree)} {target : String}
  {log : List Log.Record} (hd : d.IsSound) (hfind : d.find target = .ok (.directory entries))
  (hbuild : build d settings target = .ok (index, log)) {file : SourceFile}
  (hfile : file ∈ d.sourceFiles settings target)

include hd hfind hfile

/-- The path of a source file is absolute, and ends in the way to the file. -/
theorem path_of_mem_sourceFiles :
    Path.isAbsolute file.path = true ∧ ∃ front, file.path = front ++ "/" ++ file.name := by
  obtain ⟨names, hnames, hne, hpath, hname, -⟩ := exists_names_of_mem_sourceFiles hd hfind hfile
  have habsolute : Path.isAbsolute (d.absolute target) = true :=
    Path.isAbsolute_absolute hd.rooted target
  have htarget := Path.ne_empty_of_isAbsolute habsolute
  obtain ⟨front, hfront⟩ := Path.exists_trunk_eq htarget
  refine ⟨?_, front, ?_⟩
  · rw [hpath, Path.isAbsolute_below htarget hnames, habsolute]
  · rw [hpath, Path.below_eq _ hnames hne, hfront, hname]

include hbuild

/-- The path of a source file is read as the way to the file. -/
theorem specFile_path : index.specFile file.path = file.name := by
  obtain ⟨names, hnames, hne, hpath, hname, -⟩ := exists_names_of_mem_sourceFiles hd hfind hfile
  obtain ⟨habsolute, -⟩ := path_of_mem_sourceFiles hd hfind hfile
  have htarget : d.absolute target ≠ "" :=
    Path.ne_empty_of_isAbsolute (Path.isAbsolute_absolute hd.rooted target)
  have hrelative : Path.relative "/" (d.absolute target) file.path = joinWith "/" names := by
    refine Path.relative_eq (by decide) (Path.ne_empty_of_isAbsolute habsolute) hne ?_
    rw [hpath, Path.place_below "/" htarget hnames]
  obtain ⟨first, rest, rfl⟩ := List.exists_cons_of_ne_nil hne
  rw [hname]
  refine specFile_eq (root_of_build hd hfind hbuild) htarget ?_ (fun name hmem => (hnames name hmem).no_slash)
    fun hdot => absurd hdot (hnames first List.mem_cons_self).ne_dot
  rw [if_pos habsolute, hrelative]

/-- What is found by the path of a source file: the routines of that name in the file and in files
whose ways end in the way to it, or none if the file does not end in `.py`. -/
theorem findRoutines_path {name : String} (hcolon : ':' ∉ name.toList) (htrim : Text.trim name = name) :
    index.findRoutines (file.path ++ ":" ++ name) =
      if Text.endsWith file.name ".py" then
        index.routines.filter fun r =>
          (r.file == file.name || Text.endsWith r.file ("/" ++ file.name)) && r.isCalled name
      else [] := by
  obtain ⟨names, -, -, -, -, hends⟩ := exists_names_of_mem_sourceFiles hd hfind hfile
  obtain ⟨habsolute, front, hpath⟩ := path_of_mem_sourceFiles hd hfind hfile
  have hplain : Text.BeginsPlain file.path := Text.beginsPlain_of_isAbsolute habsolute
  have hspec := Text.trim_specifier file.path (Text.endsPlain_of_trim_eq htrim)
  rw [hplain.trimStart_eq] at hspec
  have hending : Text.endsWith file.path ".py" = Text.endsWith file.name ".py" := by
    rw [hpath, endsWith_append front (by decide)]
  split
  · rename_i hpy
    rw [findRoutines_of_py hspec hcolon (hending.trans hpy), specFile_path hd hfind hbuild hfile]
  · rename_i hpy
    rw [Bool.not_eq_true, ← hending] at hpy
    rw [List.eq_nil_iff_forall_not_mem]
    intro r hr
    have hdot : '.' ∈ file.path.toList := by
      rw [hpath, String.toList_append]
      exact List.mem_append_right _ hends.dot_mem
    obtain ⟨hr, hsuffix⟩ := suffix_fullName_of_mem hspec hcolon hpy hdot hr
    -- the path has a slash, and full names have none
    refine slash_not_mem_fullName hd hfind hbuild hr (hsuffix.subset ?_)
    simp [hpath]

/-- The path of a source file finds what the file declares and no more exactly if the file ends in
`.py` and no file whose way ends in the way to it declares a routine of that name, or if it ends
otherwise and declares none itself. -/
theorem absolute_specifier_finds {name : String} (hcolon : ':' ∉ name.toList)
    (htrim : Text.trim name = name) :
    index.findRoutines (file.path ++ ":" ++ name) =
        (if Text.endsWith file.name ".py" then
          index.routines.filter fun r =>
            (r.file == file.name || Text.endsWith r.file ("/" ++ file.name)) && r.isCalled name
        else []) ∧
      (index.findRoutines (file.path ++ ":" ++ name) = index.declaredIn file.name name ↔
        ∀ r ∈ index.routines, r.isCalled name = true →
          if Text.endsWith file.name ".py" then Text.endsWith r.file ("/" ++ file.name) = false
          else r.file ≠ file.name) := by
  have hfound := findRoutines_path hd hfind hbuild hfile hcolon htrim
  refine ⟨hfound, ?_⟩
  rw [hfound]
  split
  · constructor
    · intro heq r hr hcalled
      rw [Bool.eq_false_iff]
      intro htail
      have hmem : r ∈ index.declaredIn file.name name := by
        rw [← heq, List.mem_filter]
        exact ⟨hr, by simp [htail, hcalled]⟩
      rw [(mem_declaredIn.mp hmem).2.1] at htail
      exact not_endsWith_self file.name htail
    · intro hnone
      refine List.filter_congr fun r hr => ?_
      cases hcalled : r.isCalled name with
      | false => simp
      | true => simp [hnone r hr hcalled]
  · constructor
    · intro heq r hr hcalled hsame
      have hmem : r ∈ index.declaredIn file.name name := mem_declaredIn.mpr ⟨hr, hsame, hcalled⟩
      rw [← heq] at hmem
      cases hmem
    · intro hnone
      refine (List.eq_nil_iff_forall_not_mem.mpr fun r hmem => ?_).symm
      obtain ⟨hr, hsame, hcalled⟩ := mem_declaredIn.mp hmem
      exact hnone r hr hcalled hsame

end Absolute

/-- Two files of one name, and one whose name ends in capitals. -/
def twinDirectory : List (String × FileTree) :=
  [("B.PY", .file (Utf8.encode "def g():\n    return 3\n")),
    ("a.py", .file (Utf8.encode "def f():\n    return 1\n")),
    ("lib", .directory [("a.py", .file (Utf8.encode "def f():\n    return 2\n"))])]

def twinDisk : Disk where
  tree := .directory [("home", .directory twinDirectory)]
  directory := "/home"

theorem twinDisk_isSound : twinDisk.IsSound := by
  have hlib : (FileTree.directory [("a.py", .file (Utf8.encode "def f():\n    return 2\n"))]).IsProper := by
    refine .directory (by decide) (by decide) fun entry hentry => ?_
    obtain rfl := List.mem_singleton.mp hentry
    exact .file _
  have htwin : (FileTree.directory twinDirectory).IsProper := by
    refine .directory (by decide) (by decide) ?_
    simp only [twinDirectory, List.forall_mem_cons, List.not_mem_nil, false_implies, implies_true, and_true]
    exact ⟨.file _, .file _, hlib⟩
  refine ⟨.directory (by decide) (by decide) fun entry hentry => ?_, by decide, twinDirectory, rfl⟩
  obtain rfl := List.mem_singleton.mp hentry
  exact htwin

def twinFiles : List SourceFile :=
  [⟨"/home/B.PY", "B.PY", "def g():\n    return 3\n"⟩,
    ⟨"/home/a.py", "a.py", "def f():\n    return 1\n"⟩,
    ⟨"/home/lib/a.py", "lib/a.py", "def f():\n    return 2\n"⟩]

theorem twinDisk_sourceFiles : twinDisk.sourceFiles {} "." = twinFiles := by
  have habsolute : twinDisk.absolute "." = "/home" := by decide +kernel
  have hroot : twinDisk.indexRoot "." = "/home" := by decide +kernel
  have hentries : entrySources ({} : Settings).excludeDirs "/home" twinDirectory =
      ["/home/B.PY", "/home/a.py", "/home/lib/a.py"] := by
    simp only [twinDirectory, entrySources, FileTree.sources]
    decide +kernel
  have hsorted : twinDisk.sources ({} : Settings).excludeDirs "/home" =
      ["/home/B.PY", "/home/a.py", "/home/lib/a.py"] := by
    rw [Disk.sources_of_directory _ rfl, hentries]
    exact List.mergeSort_of_pairwise (by decide)
  rw [Disk.sourceFiles, habsolute, hroot, hsorted]
  simp only [twinFiles, List.map_cons, List.map_nil, List.cons.injEq, SourceFile.mk.injEq, true_and,
    and_true]
  decide +kernel

def twinIndex : Index :=
  ofParsedSorted {} (some "/home") (twinFiles.map SourceFile.parsed)

theorem exists_build_twinDisk : ∃ log, build twinDisk {} "." = .ok (twinIndex, log) := by
  have hroot : twinDisk.indexRoot "." = "/home" := by decide +kernel
  obtain ⟨index, log, hbuild⟩ : ∃ index log, build twinDisk {} "." = .ok (index, log) :=
    ⟨_, _, build_of_find rfl {}⟩
  have hindex := eq_ofParsedSorted_of_build twinDisk_isSound rfl hbuild
  rw [hroot, twinDisk_sourceFiles] at hindex
  refine ⟨log, ?_⟩
  rw [twinIndex, ← hindex]
  exact hbuild

theorem absolute_specifier_finds_of_unlike_ways :
    twinDisk.IsSound ∧ twinDisk.find "." = .ok (.directory twinDirectory) ∧
      (∃ log, build twinDisk {} "." = .ok (twinIndex, log)) ∧
      ∃ file ∈ twinDisk.sourceFiles {} ".", file.path = "/home/lib/a.py" ∧ ':' ∉ "f".toList ∧
        Text.trim "f" = "f" ∧
        twinIndex.findRoutines (file.path ++ ":" ++ "f") = twinIndex.declaredIn file.name "f" ∧
        (twinIndex.declaredIn file.name "f").map Routine.file = ["lib/a.py"] := by
  obtain ⟨log, hbuild⟩ := exists_build_twinDisk
  have hfile : ⟨"/home/lib/a.py", "lib/a.py", "def f():\n    return 2\n"⟩ ∈
      twinDisk.sourceFiles {} "." := by
    rw [twinDisk_sourceFiles]
    exact List.mem_cons_of_mem _ (List.mem_cons_of_mem _ List.mem_cons_self)
  refine ⟨twinDisk_isSound, rfl, ⟨log, hbuild⟩, _, hfile, rfl, by decide, by decide, ?_, by decide +kernel⟩
  refine (absolute_specifier_finds twinDisk_isSound rfl hbuild hfile (by decide) (by decide)).2.mpr ?_
  decide +kernel

/-- The path of one file finds a routine of another file as well, and the path of a file that ends in
capitals does not find its routine. -/
theorem absolute_specifier_misleads :
    (∃ log, build twinDisk {} "." = .ok (twinIndex, log)) ∧
      (twinDisk.sourceFiles {} ".").map (fun file => (file.path, file.name)) =
        [("/home/B.PY", "B.PY"), ("/home/a.py", "a.py"), ("/home/lib/a.py", "lib/a.py")] ∧
      (twinIndex.findRoutines "/home/a.py:f").map Routine.file = ["a.py", "lib/a.py"] ∧
      (twinIndex.declaredIn "a.py" "f").map Routine.file = ["a.py"] ∧
      (twinIndex.findRoutines "/home/B.PY:g").map Routine.file = [] ∧
      (twinIndex.declaredIn "B.PY" "g").map Routine.file = ["B.PY"] := by
  rw [twinDisk_sourceFiles]
  exact ⟨exists_build_twinDisk, rfl, by decide +kernel⟩

end Index

end CallChain
