import CallChain.Index
import CallChain.Proofs.Words

/-!
# Names of modules and ways to files

A path leads through directories to a file.  The name of the module in the file is the way to it,
joined with dots; the file that stands for its directory has the name of the directory
(`moduleNameOf_eq`).

An import names a place by its way from the root: an absolute import gives the whole way, a relative
one begins in the directory of the file and goes up one directory for each dot but the first.
`Houses` says which file is at a place.  Both are read off paths, not off names of modules, and
`absoluteModule_eq` compares them with the names: the module that an import is taken to name is the
one at the place it points to, provided that what is left behind on the way up has no dots in its
name.
-/

namespace CallChain

open Text (splitOn joinWith)

/-! ## Ways to files -/

/-- Whether a step on a way leads to another directory. -/
def isStep (step : String) : Bool := step != "" && step != "."

/-- The directories on the way to a file, and the name of the file in the last of them. -/
def route (path : String) : List String × String :=
  ((splitOn '/' path).dropLast.filter isStep, (splitOn '/' path).getLast?.getD "")

/-- The name of a file without the ending of source files. -/
def stemOf (file : String) : String := if Text.endsWith file ".py" then Text.dropLast 3 file else file

theorem slash_toList : ("/" : String).toList = ['/'] := by decide

theorem dot_toList : ("." : String).toList = ['.'] := by decide

theorem route_of_no_slash {file : String} (hslash : '/' ∉ file.toList) : route file = ([], file) := by
  rw [route, Text.splitOn_of_not_mem hslash]
  rfl

theorem route_append (front : String) {file : String} (hslash : '/' ∉ file.toList) :
    route (front ++ "/" ++ file) = ((splitOn '/' front).filter isStep, file) := by
  rw [route, Text.splitOn_append slash_toList, Text.splitOn_of_not_mem hslash, List.dropLast_concat,
    List.getLast?_concat]
  rfl

theorem not_mem_directories (path : String) : "" ∉ (route path).1 := by
  intro hempty
  have hstep := (List.mem_filter.mp hempty).2
  simp [isStep] at hstep

/-! ## Endings -/

theorem endsWith_iff {text tail : String} :
    Text.endsWith text tail = true ↔ tail.toList <:+ text.toList :=
  List.isSuffixOf_iff_suffix

theorem exists_front_of_endsWith {text tail : String} (hends : Text.endsWith text tail = true) :
    ∃ front, text = front ++ tail := by
  obtain ⟨front, hfront⟩ := endsWith_iff.mp hends
  refine ⟨String.ofList front, String.toList_injective ?_⟩
  rw [String.toList_append, String.toList_ofList, hfront]

/-- An ending without slashes is one of the last step already. -/
theorem endsWith_append (front : String) {file tail : String} (htail : '/' ∉ tail.toList) :
    Text.endsWith (front ++ "/" ++ file) tail = Text.endsWith file tail := by
  rw [Bool.eq_iff_iff, endsWith_iff, endsWith_iff, String.toList_append, String.toList_append,
    slash_toList, List.append_assoc, List.singleton_append]
  constructor
  · intro hsuffix
    -- of two ends of one text one is an end of the other, and only the longer one reaches the slash
    rcases List.suffix_or_suffix_of_suffix hsuffix (List.suffix_append front.toList _) with
      hshort | hlong
    · rcases List.suffix_cons_iff.mp hshort with heq | hfile
      · exact absurd (heq ▸ List.mem_cons_self) htail
      · exact hfile
    · exact absurd (hlong.subset List.mem_cons_self) htail
  · intro hsuffix
    exact (hsuffix.trans (List.suffix_cons '/' file.toList)).trans (List.suffix_append _ _)

theorem stemOf_append (front : String) (file : String) :
    stemOf (front ++ "/" ++ file) = front ++ "/" ++ stemOf file := by
  have hending : Text.endsWith (front ++ "/" ++ file) ".py" = Text.endsWith file ".py" :=
    endsWith_append front (by decide)
  rw [stemOf, stemOf, hending]
  split
  · rename_i hends
    have hlength : 3 ≤ file.toList.length := (endsWith_iff.mp hends).length_le
    have hchars : (front ++ "/" ++ file).toList = (front ++ "/").toList ++ file.toList :=
      String.toList_append
    have hcount : ((front ++ "/").toList ++ file.toList).length - 3 =
        (front ++ "/").toList.length + (file.toList.length - 3) := by
      rw [List.length_append]
      omega
    rw [Text.dropLast, Text.dropLast, hchars, hcount, List.take_length_add_append, String.ofList_append,
      String.ofList_toList]
  · rfl

theorem stemOf_source (name : String) : stemOf (name ++ ".py") = name := by
  have hends : Text.endsWith (name ++ ".py") ".py" = true := by
    rw [endsWith_iff, String.toList_append]
    exact List.suffix_append _ _
  have hpy : (".py" : String).toList.length = 3 := by decide
  rw [stemOf, if_pos hends, Text.dropLast, String.toList_append, List.length_append, hpy,
    Nat.add_sub_cancel, List.take_left, String.ofList_toList]

theorem not_mem_stemOf {mark : Char} {file : String} (hfile : mark ∉ file.toList) :
    mark ∉ (stemOf file).toList := by
  unfold stemOf
  split
  · rw [Text.dropLast, String.toList_ofList]
    exact fun hmem => hfile (List.mem_of_mem_take hmem)
  · exact hfile

/-! ## Names of modules -/

/-- The steps of a path without its ending: the directories, and the stem of the file. -/
theorem steps_stemOf (path : String) :
    (splitOn '/' (stemOf path)).filter isStep =
      (route path).1 ++ [stemOf (route path).2].filter isStep := by
  by_cases hslash : '/' ∈ path.toList
  · obtain ⟨front, file, rfl, hfile⟩ := Text.exists_last_cut slash_toList hslash
    rw [route_append front hfile, stemOf_append, Text.splitOn_append slash_toList,
      Text.splitOn_of_not_mem (not_mem_stemOf hfile), List.filter_append]
  · rw [route_of_no_slash hslash, Text.splitOn_of_not_mem (not_mem_stemOf hslash)]
    rfl

theorem moduleNameOf_steps (path : String) :
    moduleNameOf path =
      if ((splitOn '/' (stemOf path)).filter isStep).getLast? = some "__init__" then
        (joinWith "." ((splitOn '/' (stemOf path)).filter isStep).dropLast, true)
      else (joinWith "." ((splitOn '/' (stemOf path)).filter isStep), false) := rfl

/-- The name of a module is the way to its file, where a file that stands for its directory adds no
step of its own. -/
theorem moduleNameOf_eq {path : String} (hstem : isStep (stemOf (route path).2) = true) :
    moduleNameOf path =
      if stemOf (route path).2 = "__init__" then (joinWith "." (route path).1, true)
      else (joinWith "." ((route path).1 ++ [stemOf (route path).2]), false) := by
  have hsteps : (splitOn '/' (stemOf path)).filter isStep =
      (route path).1 ++ [stemOf (route path).2] := by
    rw [steps_stemOf, List.filter_cons_of_pos hstem, List.filter_nil]
  rw [moduleNameOf_steps, hsteps, List.getLast?_concat, List.dropLast_concat]
  simp only [Option.some.injEq]

/-- The name of a module holds no slash. -/
theorem slash_not_mem_moduleNameOf (path : String) : '/' ∉ (moduleNameOf path).1.toList := by
  have hjoined : ∀ steps ⊆ splitOn '/' (stemOf path), '/' ∉ (joinWith "." steps).toList := by
    intro steps hsteps hslash
    rcases Text.mem_joinWith hslash with hdot | ⟨step, hstep, hslash⟩
    · exact absurd hdot (by decide)
    · exact Text.mark_not_mem_of_mem_splitOn (hsteps hstep) hslash
  have hsteps : (splitOn '/' (stemOf path)).filter isStep ⊆ splitOn '/' (stemOf path) :=
    List.filter_subset_self _
  rw [moduleNameOf_steps]
  generalize (splitOn '/' (stemOf path)).filter isStep = steps at hsteps
  split
  · exact hjoined _ fun step hstep => hsteps (List.dropLast_subset _ hstep)
  · exact hjoined _ hsteps

/-! ## Places of modules -/

/-- The file is the one at a place below the root: it stands for the directory that the place is, or
it has the last name of the place and stands in the directory before. -/
inductive Houses (path : String) : List String → Prop
  | package {place : List String} (hroute : route path = (place, "__init__.py")) : Houses path place
  | source {directories : List String} {name : String} (hroute : route path = (directories, name ++ ".py"))
      (hname : isStep name = true) (hplain : name ≠ "__init__") : Houses path (directories ++ [name])

theorem Houses.moduleName {path : String} {place : List String} (hplace : Houses path place) :
    (moduleNameOf path).1 = joinWith "." place := by
  cases hplace with
  | package hroute =>
      have hstem : stemOf (route path).2 = "__init__" := by
        rw [hroute]
        exact stemOf_source "__init__"
      rw [moduleNameOf_eq (by rw [hstem]; decide), if_pos hstem, hroute]
  | @source directories name hroute hname hplain =>
      have hstem : stemOf (route path).2 = name := by
        rw [hroute]
        exact stemOf_source name
      rw [moduleNameOf_eq (by rw [hstem]; exact hname), hstem, if_neg hplain, hroute]

theorem Houses.not_mem {path : String} {place : List String} (hplace : Houses path place) :
    "" ∉ place := by
  have hdirectories := not_mem_directories path
  cases hplace with
  | package hroute => rwa [hroute] at hdirectories
  | source hroute hname hplain =>
      rw [hroute] at hdirectories
      intro hempty
      rcases List.mem_append.mp hempty with hmem | hmem
      · exact hdirectories hmem
      · rw [← List.mem_singleton.mp hmem] at hname
        cases hname

/-- The place that an import in a file points to: the whole way from the root, or the way that is
left from the directory of the file to the root after one step up for each dot but the first, and the
way from there. -/
inductive PointsTo (path : String) : Option String → Nat → List String → Prop
  | absolute (name : String) : PointsTo path (some name) 0 (splitOn '.' name)
  | relative {kept climbed : List String} (source : Option String)
      (hroute : (route path).1 = kept ++ climbed) :
      PointsTo path source (climbed.length + 1) (kept ++ (source.map (splitOn '.')).getD [])

/-- What a relative import leaves behind has no dots in its name: the file, and the directories that it
goes up. -/
structure ClimbsPlainly (path : String) (level : Nat) : Prop where
  stem_ne : stemOf (route path).2 ≠ ""
  stem : '.' ∉ (stemOf (route path).2).toList
  directories : ∀ directory ∈ (route path).1.drop ((route path).1.length - (level - 1)),
    '.' ∉ directory.toList

theorem ClimbsPlainly.isStep {path : String} {level : Nat} (hclimb : ClimbsPlainly path level) :
    isStep (stemOf (route path).2) = true := by
  have hdot : stemOf (route path).2 ≠ "." := fun heq => hclimb.stem (heq ▸ by decide)
  simp [CallChain.isStep, hclimb.stem_ne, hdot]

/-- The package that relative imports of a file begin in is its directory. -/
theorem package_eq {path : String} {level : Nat} (hclimb : ClimbsPlainly path level) :
    (let parts := if (moduleNameOf path).1 = "" then [] else splitOn '.' (moduleNameOf path).1
      if (moduleNameOf path).2 then parts else parts.dropLast) =
        (route path).1.flatMap (splitOn '.') := by
  have hdirectories := not_mem_directories path
  have hparts : ∀ steps : List String, "" ∉ steps →
      (if joinWith "." steps = "" then [] else splitOn '.' (joinWith "." steps)) =
        steps.flatMap (splitOn '.') := by
    intro steps hsteps
    by_cases hne : steps = []
    · subst hne
      rfl
    · rw [if_neg fun hempty => hne ((Text.joinWith_eq_empty_iff "." hsteps).mp hempty),
        Text.splitOn_joinWith dot_toList hne]
  rw [moduleNameOf_eq hclimb.isStep]
  split
  -- a file that stands for its directory has the parts of the directory, any other its stem in addition
  · exact hparts _ hdirectories
  · have hsteps : "" ∉ (route path).1 ++ [stemOf (route path).2] := by
      simpa using ⟨hdirectories, hclimb.stem_ne⟩
    dsimp only
    rw [hparts _ hsteps, List.flatMap_append, List.flatMap_singleton,
      Text.splitOn_of_not_mem hclimb.stem]
    exact List.dropLast_concat

/-- The module that an import is taken to name is the one at the place that it points to. -/
theorem absoluteModule_eq {path : String} {source : Option String} {level : Nat} {place : List String}
    (hpoints : PointsTo path source level place) (hclimb : level = 0 ∨ ClimbsPlainly path level) :
    absoluteModule (moduleNameOf path).1 (moduleNameOf path).2 source level = joinWith "." place := by
  cases hpoints with
  | absolute name => exact (Text.joinWith_splitOn dot_toList name).symm
  | @relative kept climbed source hroute =>
      have hclimb := hclimb.resolve_left (Nat.succ_ne_zero _)
      have hkept : "" ∉ kept := fun hempty =>
        not_mem_directories path (hroute ▸ List.mem_append_left climbed hempty)
      have hplain : climbed.flatMap (splitOn '.') = climbed := by
        refine Text.flatMap_splitOn_of_not_mem fun directory hdirectory => ?_
        refine hclimb.directories directory ?_
        rw [hroute, List.length_append, Nat.add_sub_cancel, Nat.add_sub_cancel, List.drop_left]
        exact hdirectory
      -- the levels are counted in parts, which are directories only as far as these have no dots
      have hpackage := package_eq hclimb
      rw [hroute, List.flatMap_append, hplain] at hpackage
      have hbase : joinWith "." ((kept.flatMap (splitOn '.') ++ climbed).take
          ((kept.flatMap (splitOn '.') ++ climbed).length - climbed.length)) = joinWith "." kept := by
        rw [List.length_append, Nat.add_sub_cancel, List.take_left,
          Text.joinWith_flatMap_splitOn dot_toList]
      rw [absoluteModule, if_neg (Nat.succ_ne_zero _)]
      dsimp only at hpackage ⊢
      rw [hpackage, Nat.add_sub_cancel, hbase]
      cases source with
      | none => simp
      | some name =>
          have hname : splitOn '.' name ≠ [] := Text.splitOn_ne_nil '.' name
          simp only [Option.map_some, Option.getD_some, Text.joinWith_eq_empty_iff "." hkept]
          split
          · rename_i hnil
            rw [hnil, List.nil_append, Text.joinWith_splitOn dot_toList]
          · rename_i hne
            rw [Text.joinWith_append "." hne hname, Text.joinWith_splitOn dot_toList]

end CallChain
