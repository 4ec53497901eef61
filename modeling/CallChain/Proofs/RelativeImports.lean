import CallChain.Proofs.Files.Paths
import CallChain.Proofs.Identifiers
import Mathlib.Data.List.Induction

/-!
# Relative imports and the paths of files

A relative import goes up from the directory of its file, and the names behind its dots lead down
again.  The same can be done with paths: take the parent of the path as often as there are dots, and
join the names to it with slashes.  `relative_imports_follow_paths` says that both come to the same
module, as long as every name on the way is an identifier and the dots do not lead out of the root.

Paths of identifiers are handled as lists of names: the parent of a path drops its last name
(`Path.parent_joinWith`), and `moduleNameOf` joins the names of the path with dots
(`moduleNameOf_source`, `moduleNameOf_package`).
-/

namespace CallChain

open Text (splitOn joinWith)

/-- The text is an identifier. -/
def IsIdentifier (name : String) : Prop := Text.isIdentifier name.toList = true

instance (name : String) : Decidable (IsIdentifier name) := inferInstanceAs (Decidable (_ = true))

/-! ## Identifiers in paths and names -/

namespace IsIdentifier

variable {name : String}

theorem ne_empty (hname : IsIdentifier name) : name ≠ "" := by
  rintro rfl
  cases hname

theorem not_mem (hname : IsIdentifier name) {c : Char} (hdivider : Text.isDivider c.toNat = true) :
    c ∉ name.toList := by
  intro hc
  rw [Text.clear_of_isIdentifier hname c.toNat (List.mem_map_of_mem hc)] at hdivider
  cases hdivider

theorem no_dot (hname : IsIdentifier name) : '.' ∉ name.toList := hname.not_mem rfl

theorem isEntryName (hname : IsIdentifier name) : IsEntryName name where
  ne_empty := hname.ne_empty
  ne_dot heq := hname.no_dot (heq ▸ by decide)
  ne_dots heq := hname.no_dot (heq ▸ by decide)
  no_slash := hname.not_mem rfl

/-- A source file can be named after an identifier. -/
theorem isEntryName_source (hname : IsIdentifier name) : IsEntryName (name ++ ".py") := by
  have hlast : 'p' ∈ (name ++ ".py").toList := by
    rw [String.toList_append]
    exact List.mem_append_right _ (by decide)
  have hslash : '/' ∉ (name ++ ".py").toList := by
    rw [String.toList_append, List.mem_append]
    exact not_or.mpr ⟨hname.isEntryName.no_slash, by decide⟩
  refine ⟨fun heq => ?_, fun heq => ?_, fun heq => ?_, hslash⟩ <;>
    exact absurd (heq ▸ hlast) (by decide)

end IsIdentifier

/-! ## Going up and down along a path -/

/-- What is put behind joined texts is put behind the last of them. -/
theorem Text.joinWith_concat_append (sep : String) (front : List String) (last tail : String) :
    joinWith sep (front ++ [last]) ++ tail = joinWith sep (front ++ [last ++ tail]) := by
  by_cases hne : front = []
  · subst hne
    rfl
  · rw [joinWith_append sep hne (List.cons_ne_nil _ _), joinWith_append sep hne (List.cons_ne_nil _ _),
      String.append_assoc]
    rfl

namespace Path

variable {names : List String}

theorem joinWith_eq_below (hnames : ∀ name ∈ names, IsEntryName name) :
    joinWith "/" names = below "" names := by
  by_cases hne : names = []
  · subst hne
    rfl
  · rw [below_eq "" hnames hne]
    exact String.empty_append.symm

/-- A path of names does not end in a slash. -/
theorem trunk_joinWith (hnames : ∀ name ∈ names, IsEntryName name) (hne : names ≠ []) :
    trunk (joinWith "/" names) = joinWith "/" names ++ "/" := by
  obtain ⟨front, last, rfl⟩ := (List.eq_nil_or_concat' names).resolve_left hne
  have hlast : IsEntryName last := hnames last (by simp)
  rw [joinWith_eq_below hnames, below, List.foldl_append]
  exact trunk_join _ hlast

/-- The parent of a path that goes on behind a slash is what stands before the slash. -/
theorem parent_append {front last : String} (hfront : trunk front = front ++ "/")
    (hlast : '/' ∉ last.toList) : parent (front ++ "/" ++ last) = front := by
  have hends : ¬ (front = "" ∨ Text.endsWith front "/" = true) := by
    intro hends
    rw [trunk, if_pos hends] at hfront
    simpa using congrArg String.length hfront
  obtain ⟨hne, hslash⟩ := not_or.mp hends
  obtain ⟨before, c, hchars⟩ := (List.eq_nil_or_concat' front.toList).resolve_left
    fun hnil => hne (String.toList_eq_nil_iff.mp hnil)
  have hc : (c == '/') = false := by
    rw [beq_eq_false_iff_ne]
    rintro rfl
    exact hslash (endsWith_iff.mpr ⟨before, by rw [hchars, slash_toList]⟩)
  have hpath : (front ++ "/" ++ last).toList = front.toList ++ '/' :: last.toList := by
    rw [String.toList_append, String.toList_append, slash_toList, List.append_assoc]
    rfl
  have hhead : (front ++ "/").toList = before ++ [c, '/'] := by
    rw [String.toList_append, hchars, slash_toList, List.append_assoc]
    rfl
  rw [parent, Text.cutLast?_of_last hpath hlast]
  simp only [String.ofList_toList, hhead]
  refine String.toList_injective ?_
  rw [hchars]
  simp [hc]

/-- The parent of a path of names is the path of all of them but the last. -/
theorem parent_joinWith (hnames : ∀ name ∈ names, IsEntryName name) {last : String}
    (hlast : '/' ∉ last.toList) : parent (joinWith "/" (names ++ [last])) = joinWith "/" names := by
  by_cases hne : names = []
  · subst hne
    have hcut : Text.cutLast? '/' last = none := by
      rw [Text.cutLast?, List.dropWhile_eq_nil_iff.mpr]
      intro c hc
      rw [bne_iff_ne]
      rintro rfl
      exact hlast (List.mem_reverse.mp hc)
    change parent last = ""
    rw [parent, hcut]
  · rw [Text.joinWith_append "/" hne (List.cons_ne_nil last [])]
    exact parent_append (trunk_joinWith hnames hne) hlast

/-- To go up from a file is to leave its name and those of directories behind. -/
theorem iterate_parent_joinWith {kept climbed : List String} {file : String}
    (hnames : ∀ name ∈ kept ++ climbed, IsEntryName name) (hfile : '/' ∉ file.toList) :
    parent^[climbed.length + 1] (joinWith "/" (kept ++ climbed ++ [file])) = joinWith "/" kept := by
  induction climbed using List.reverseRecOn generalizing file with
  | nil =>
      rw [List.append_nil] at hnames ⊢
      exact parent_joinWith hnames hfile
  | append_singleton climbed last ih =>
      rw [← List.append_assoc] at hnames ⊢
      obtain ⟨hrest, hlast⟩ := List.forall_mem_append.mp hnames
      rw [Function.iterate_succ_apply, parent_joinWith hnames hfile, List.length_append]
      exact ih hrest (hlast last List.mem_cons_self).no_slash

theorem isAbsolute_joinWith (hnames : ∀ name ∈ names, IsEntryName name) :
    isAbsolute (joinWith "/" names) = false := by
  cases names with
  | nil => rfl
  | cons name rest =>
      have hname := hnames name List.mem_cons_self
      by_cases hnil : rest = []
      · subst hnil
        exact isAbsolute_of_isEntryName hname
      · rw [Text.joinWith_cons "/" name hnil, String.append_assoc, isAbsolute_append hname.ne_empty]
        exact isAbsolute_of_isEntryName hname

/-- To join more names to a path of names is to put the names behind each other. -/
theorem join_joinWith {more : List String} (hnames : ∀ name ∈ names, IsEntryName name)
    (hmore : ∀ name ∈ more, IsEntryName name) (hne : more ≠ []) :
    join (joinWith "/" names) (joinWith "/" more) = joinWith "/" (names ++ more) := by
  rw [join_eq _ (isAbsolute_joinWith hmore)]
  by_cases hnil : names = []
  · subst hnil
    exact String.empty_append
  · rw [trunk_joinWith hnames hnil, Text.joinWith_append "/" hnil hne]

end Path

/-! ## Modules on paths of names -/

section Modules

variable {directories : List String} (hdirectories : ∀ directory ∈ directories, IsEntryName directory)

include hdirectories

theorem route_joinWith {file : String} (hfile : IsEntryName file) :
    route (joinWith "/" (directories ++ [file])) = (directories, file) := by
  have hnames : ∀ name ∈ directories ++ [file], IsEntryName name :=
    List.forall_mem_append.mpr ⟨hdirectories, by simpa using hfile⟩
  have hsteps : directories.filter isStep = directories := by
    rw [List.filter_eq_self]
    intro directory hdirectory
    have hentry := hdirectories directory hdirectory
    simp [isStep, hentry.ne_empty, hentry.ne_dot]
  rw [route, Path.splitOn_names hnames (by simp), List.dropLast_concat, List.getLast?_concat, hsteps]
  rfl

/-- A source file has the name of its directory and its own. -/
theorem moduleNameOf_source {name : String} (hname : IsIdentifier name) (hplain : name ≠ "__init__") :
    moduleNameOf (joinWith "/" (directories ++ [name ++ ".py"])) =
      (joinWith "." (directories ++ [name]), false) := by
  have hroute := route_joinWith hdirectories hname.isEntryName_source
  have hstep : isStep name = true := by
    simp [isStep, hname.isEntryName.ne_empty, hname.isEntryName.ne_dot]
  rw [moduleNameOf_eq, hroute, stemOf_source, if_neg hplain]
  rwa [hroute, stemOf_source]

/-- The file that stands for a directory has the name of the directory. -/
theorem moduleNameOf_package :
    moduleNameOf (joinWith "/" (directories ++ ["__init__.py"])) = (joinWith "." directories, true) := by
  have hroute : route (joinWith "/" (directories ++ ["__init__.py"])) = (directories, "__init__.py") :=
    route_joinWith hdirectories (by decide)
  have hstem : stemOf "__init__.py" = "__init__" := stemOf_source "__init__"
  rw [moduleNameOf_eq, hroute, hstem, if_pos rfl]
  rw [hroute, hstem]
  decide

end Modules

theorem isEntryName_of_isIdentifier {names : List String} (hnames : ∀ name ∈ names, IsIdentifier name) :
    ∀ name ∈ names, IsEntryName name :=
  fun name hname => (hnames name hname).isEntryName

section Below

variable {kept names : List String} (hkept : ∀ name ∈ kept, IsIdentifier name)
  (hnames : ∀ name ∈ names, IsIdentifier name)

include hkept hnames

/-- Names that are read as the path of a source file below a directory lead to the module of these
names there. -/
theorem moduleNameOf_join_source (hne : names ≠ []) (hplain : names.getLast? ≠ some "__init__") :
    moduleNameOf (Path.join (joinWith "/" kept) (joinWith "/" names ++ ".py")) =
      (joinWith "." (kept ++ names), false) := by
  obtain ⟨front, last, rfl⟩ := (List.eq_nil_or_concat' names).resolve_left hne
  obtain ⟨hfront, hlast⟩ := List.forall_mem_append.mp hnames
  have hlast := hlast last List.mem_cons_self
  have hsource : ∀ name ∈ front ++ [last ++ ".py"], IsEntryName name :=
    List.forall_mem_append.mpr
      ⟨isEntryName_of_isIdentifier hfront, by simpa using hlast.isEntryName_source⟩
  have hdirectories := isEntryName_of_isIdentifier (List.forall_mem_append.mpr ⟨hkept, hfront⟩)
  rw [Text.joinWith_concat_append,
    Path.join_joinWith (isEntryName_of_isIdentifier hkept) hsource (by simp), ← List.append_assoc,
    ← List.append_assoc]
  exact moduleNameOf_source hdirectories hlast (by simpa using hplain)

/-- Read as the path of a directory they lead to the same module. -/
theorem moduleNameOf_join_package :
    moduleNameOf (Path.join (joinWith "/" kept) (joinWith "/" (names ++ ["__init__.py"]))) =
      (joinWith "." (kept ++ names), true) := by
  have hfile : ∀ name ∈ names ++ ["__init__.py"], IsEntryName name :=
    List.forall_mem_append.mpr ⟨isEntryName_of_isIdentifier hnames, by decide⟩
  have hdirectories := isEntryName_of_isIdentifier (List.forall_mem_append.mpr ⟨hkept, hnames⟩)
  rw [Path.join_joinWith (isEntryName_of_isIdentifier hkept) hfile (by simp), ← List.append_assoc,
    moduleNameOf_package hdirectories]

end Below

/-! ## Relative imports -/

theorem climbsPlainly_joinWith {directories : List String} {stem : String}
    (hdirectories : ∀ directory ∈ directories, IsIdentifier directory) (hstem : IsIdentifier stem)
    (level : Nat) : ClimbsPlainly (joinWith "/" (directories ++ [stem ++ ".py"])) level := by
  have hroute := route_joinWith (isEntryName_of_isIdentifier hdirectories) hstem.isEntryName_source
  refine ⟨?_, ?_, fun directory hdirectory => ?_⟩
  · rw [hroute, stemOf_source]
    exact hstem.ne_empty
  · rw [hroute, stemOf_source]
    exact hstem.no_dot
  · rw [hroute] at hdirectory
    exact (hdirectories directory (List.mem_of_mem_drop hdirectory)).no_dot

/-- An import that leaves some directories behind names a module in what is kept of the path. -/
theorem absoluteModule_joinWith {kept climbed : List String} {stem : String}
    (hdirectories : ∀ directory ∈ kept ++ climbed, IsIdentifier directory) (hstem : IsIdentifier stem)
    (source : Option String) :
    let path := joinWith "/" (kept ++ climbed ++ [stem ++ ".py"])
    absoluteModule (moduleNameOf path).1 (moduleNameOf path).2 source (climbed.length + 1) =
      joinWith "." (kept ++ (source.map (splitOn '.')).getD []) := by
  intro path
  have hroute := route_joinWith (isEntryName_of_isIdentifier hdirectories) hstem.isEntryName_source
  exact absoluteModule_eq (.relative source (by rw [hroute]))
    (.inr (climbsPlainly_joinWith hdirectories hstem _))

/-- Let the directories and the stem on the path of a source file be identifiers, and let no more dots
stand in a relative import than lead to the root.  Go up from the path once for each dot.  Then the
module that the import names is that of the source file which the imported name, read as a path, leads
to from there, and that of the file which stands for the directory of this name; an import without a
name names the directory itself. -/
theorem relative_imports_follow_paths {directories : List String} {stem : String} {level : Nat}
    (hdirectories : ∀ directory ∈ directories, IsIdentifier directory) (hstem : IsIdentifier stem)
    (hlevel : 1 ≤ level) (hroot : level ≤ directories.length + 1) :
    let path := joinWith "/" (directories ++ [stem ++ ".py"])
    let package := Path.parent^[level] path
    let imported := fun source =>
      absoluteModule (moduleNameOf path).1 (moduleNameOf path).2 source level
    (∀ names, names ≠ [] → (∀ name ∈ names, IsIdentifier name) → names.getLast? ≠ some "__init__" →
      moduleNameOf (Path.join package (joinWith "/" names ++ ".py")) =
        (imported (some (joinWith "." names)), false) ∧
      moduleNameOf (Path.join package (joinWith "/" names ++ "/__init__.py")) =
        (imported (some (joinWith "." names)), true)) ∧
    moduleNameOf (Path.join package "__init__.py") = (imported none, true) := by
  intro path package imported
  -- the directories that the import keeps, and those that it leaves behind
  obtain ⟨kept, climbed, rfl, rfl⟩ :
      ∃ kept climbed, directories = kept ++ climbed ∧ level = climbed.length + 1 := by
    refine ⟨_, _, (List.take_append_drop (directories.length + 1 - level) directories).symm, ?_⟩
    rw [List.length_drop]
    omega
  have hkept := (List.forall_mem_append.mp hdirectories).1
  have hpackage : package = joinWith "/" kept :=
    Path.iterate_parent_joinWith (isEntryName_of_isIdentifier hdirectories)
      hstem.isEntryName_source.no_slash
  rw [hpackage]
  refine ⟨fun names hne hnames hplain => ?_, ?_⟩
  · have himported : imported (some (joinWith "." names)) = joinWith "." (kept ++ names) := by
      have hparts := Text.splitOn_joinWith_of_not_mem dot_toList hne
        fun name hname => (hnames name hname).no_dot
      exact (absoluteModule_joinWith hdirectories hstem _).trans (by simp [hparts])
    have hfile : joinWith "/" names ++ "/__init__.py" = joinWith "/" (names ++ ["__init__.py"]) := by
      rw [Text.joinWith_append "/" hne (List.cons_ne_nil _ _), String.append_assoc]
      rfl
    rw [himported, hfile]
    exact ⟨moduleNameOf_join_source hkept hnames hne hplain, moduleNameOf_join_package hkept hnames⟩
  · have himported : imported none = joinWith "." (kept ++ []) :=
      (absoluteModule_joinWith hdirectories hstem none).trans (by simp)
    have hfile : "__init__.py" = joinWith "/" ([] ++ ["__init__.py"]) := rfl
    rw [himported, hfile]
    exact moduleNameOf_join_package hkept nofun

/-- Three dots in a package lead out of its two directories to the root. -/
theorem relative_imports_follow_paths_to_root :
    absoluteModule "pkg.sub" true (some "util.io") 3 = "util.io" ∧
      moduleNameOf "util/io.py" = (absoluteModule "pkg.sub" true (some "util.io") 3, false) ∧
      moduleNameOf "util/io/__init__.py" = (absoluteModule "pkg.sub" true (some "util.io") 3, true) ∧
      moduleNameOf "__init__.py" = (absoluteModule "pkg.sub" true none 3, true) := by
  obtain ⟨hnamed, hbare⟩ := @relative_imports_follow_paths ["pkg", "sub"] "__init__" 3
    (by decide) (by decide) (by decide) (by decide)
  obtain ⟨hsource, hpackage⟩ := hnamed ["util", "io"] (by decide) (by decide) (by decide)
  exact ⟨by decide, hsource, hpackage, hbare⟩

end CallChain
