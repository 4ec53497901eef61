import CallChain.Proofs.Index.Files
import CallChain.Proofs.ModuleNames

/-!
# Where imported names lead

A name that a file imports from a module, and binds in no other way, means the function of that name
in the file of the module.  The way there has four parts: the table of imports holds the name under
the module that `absoluteModule` computes (`BindsOnly.get?_members`); this module is the one at the
place to which the import points; the first front of the full name that is tried is the name of this
module (`head?_cuts`); and the file is found by its name, whatever other files there are.

A name imported from the root itself has no front, and is not found at all.  Nor does a relative import
lead to its file from a file with dots in its name, or up from a directory with dots in its name
(`import_past_dots_is_misled`).
-/

namespace CallChain

open Python
open Text (splitOn joinWith)

/-! ## What a file imports -/

/-- A name imported from a module: the module as written, the number of dots in front of it, the name
there and the name that it is bound to. -/
structure FromImport where
  source : Option String
  level : Nat
  name : String
  bound : String
  deriving DecidableEq

/-- The names that are imported at a place. -/
def importsAt (s : Spot) : List FromImport :=
  match s.node with
  | .importFrom source names level =>
    (names.filter fun named => named.name != "*").map fun named =>
      ⟨source, level, named.name, named.asName.getD named.name⟩
  | _ => []

/-- The full name of what is imported, given the module that the import is written in. -/
def FromImport.fullName (moduleName : String) (isPackage : Bool) (i : FromImport) : String :=
  let base := absoluteModule moduleName isPackage i.source i.level
  if base = "" then i.name else base ++ "." ++ i.name

namespace ImportTable

variable (moduleName : String) (isPackage : Bool)

/-- What is recorded for the names that are imported at a place. -/
def entriesAt (s : Spot) : List (String × String) :=
  (importsAt s).map fun i => (i.bound, i.fullName moduleName isPackage)

theorem members_foldl_addModule (names : List Alias) (t : ImportTable) :
    (names.foldl addModule t).members = t.members := by
  induction names generalizing t with
  | nil => rfl
  | cons name rest ih =>
      rw [List.foldl_cons, ih, addModule]
      split <;> rfl

theorem members_foldl_addMember (source : Option String) (level : Nat) (names : List Alias)
    (t : ImportTable) :
    (names.foldl (addMember (absoluteModule moduleName isPackage source level)) t).members =
      Assoc.overlay t.members ((names.filter fun named => named.name != "*").map fun named =>
        (named.asName.getD named.name,
          FromImport.fullName moduleName isPackage
            ⟨source, level, named.name, named.asName.getD named.name⟩)) := by
  induction names generalizing t with
  | nil => rfl
  | cons name rest ih =>
      rw [List.foldl_cons, ih, addMember]
      by_cases hstar : name.name = "*"
      · simp [hstar]
      · rw [if_neg hstar, List.filter_cons_of_pos (by simpa using hstar)]
        rfl

/-- One place adds what is imported there. -/
theorem members_addStatement (t : ImportTable) (s : Spot) :
    (t.addStatement moduleName isPackage s).members =
      Assoc.overlay t.members (entriesAt moduleName isPackage s) := by
  unfold addStatement entriesAt importsAt
  cases s.node with
  | imports names => exact members_foldl_addModule names t
  | importFrom source names level =>
      dsimp only
      rw [List.map_map]
      exact members_foldl_addMember moduleName isPackage source level names t
  | _ => rfl

/-- The table holds what is imported at the places of the tree, put one after the other. -/
theorem members_ofTree (tree : Node) :
    (ofTree moduleName isPackage tree).members =
      Assoc.overlay [] ((Spot.root tree).preorder.flatMap (entriesAt moduleName isPackage)) := by
  have hfold : ∀ (spots : List Spot) (t : ImportTable),
      (spots.foldl (addStatement moduleName isPackage) t).members =
        Assoc.overlay t.members (spots.flatMap (entriesAt moduleName isPackage)) := by
    intro spots
    induction spots with
    | nil => exact fun t => rfl
    | cons s rest ih =>
        intro t
        rw [List.foldl_cons, ih, members_addStatement, List.flatMap_cons, Assoc.overlay, Assoc.overlay,
          Assoc.overlay, List.foldl_append]
  exact hfold _ {}

end ImportTable

namespace SourceModule

/-- The file imports the name somewhere. -/
def ImportsFrom (m : SourceModule) (i : FromImport) : Prop :=
  ∃ s : Spot, s.IsIn m.tree ∧ i ∈ importsAt s

/-- The file imports the name, and nothing else that it declares or imports has it: no function, no
class and no other import. -/
structure BindsOnly (m : SourceModule) (i : FromImport) : Prop where
  imported : m.ImportsFrom i
  imports : ∀ other, m.ImportsFrom other → other.bound = i.bound → other = i
  routines : ∀ r ∈ m.routines, r.name ≠ i.bound
  classes : ∀ c ∈ m.classEntries, c.qualname ≠ i.bound

variable {m : SourceModule} {i : FromImport}

/-- The table of imports has the full name of a name that is bound only by its import. -/
theorem BindsOnly.get?_members (hbinds : m.BindsOnly i)
    (himports : m.imports = ImportTable.ofTree m.name m.isPackage m.tree) :
    Assoc.get? i.bound m.imports.members = some (i.fullName m.name m.isPackage) := by
  rw [himports, ImportTable.members_ofTree]
  refine Assoc.get?_overlay_of_forall [] ?_ fun entry hentry hkey => ?_
  · obtain ⟨s, hs, hi⟩ := hbinds.imported
    exact ⟨_, List.mem_flatMap.mpr ⟨s, Spot.mem_preorder_iff.mpr hs, List.mem_map_of_mem hi⟩, rfl⟩
  · obtain ⟨s, hs, hat⟩ := List.mem_flatMap.mp hentry
    obtain ⟨other, hother, rfl⟩ := List.mem_map.mp hat
    rw [hbinds.imports other ⟨s, Spot.mem_preorder_iff.mp hs, hother⟩ hkey]

/-- A name that only its import binds is looked up by its full name. -/
theorem BindsOnly.resolveName (hbinds : m.BindsOnly i)
    (himports : m.imports = ImportTable.ofTree m.name m.isPackage m.tree) (r : Resolver)
    (functions : List Spot) (constructs : Bool) :
    r.resolveName ⟨m, functions⟩ constructs i.bound =
      r.resolveFullName constructs (i.fullName m.name m.isPackage) := by
  have hlocal : functions.findSome? (fun f => Assoc.get? i.bound (m.localFunctions f.path)) = none := by
    rw [List.findSome?_eq_none_iff]
    intro f _
    rw [Option.eq_none_iff_forall_ne_some]
    intro routine hget
    obtain ⟨hmem, hname⟩ := get?_localFunctions hget
    exact hbinds.routines routine hmem hname
  have hfunctions : Assoc.get? i.bound m.functions = none := by
    rw [Option.eq_none_iff_forall_ne_some]
    intro routine hget
    obtain ⟨hmem, hname⟩ := get?_functions hget
    exact hbinds.routines routine hmem hname
  have hclasses : Assoc.get? i.bound m.classes = none := by
    rw [Option.eq_none_iff_forall_ne_some]
    intro c hget
    obtain ⟨hmem, hname⟩ := get?_classes hget
    exact hbinds.classes c hmem hname
  unfold Resolver.resolveName
  simp only [hlocal, hfunctions, hclasses, hbinds.get?_members himports]

end SourceModule

/-! ## Full names -/

namespace FromImport

/-- The full name is the way to the place that the import points to, and the name. -/
theorem fullName_eq {path : String} {place : List String} {i : FromImport}
    (hpoints : PointsTo path i.source i.level place)
    (hclimb : i.level = 0 ∨ ClimbsPlainly path i.level) (hplace : "" ∉ place) :
    i.fullName (moduleNameOf path).1 (moduleNameOf path).2 = joinWith "." (place ++ [i.name]) := by
  rw [fullName, absoluteModule_eq hpoints hclimb]
  by_cases hnil : place = []
  · subst hnil
    rfl
  · rw [if_neg fun hempty => hnil ((Text.joinWith_eq_empty_iff "." hplace).mp hempty),
      Text.joinWith_append "." hnil (List.cons_ne_nil _ _)]
    rfl

end FromImport

namespace Resolver

/-- The first way to cut a full name in two is before the name at its end. -/
theorem head?_cuts (place : List String) {name : String} (hdot : '.' ∉ name.toList) :
    (cuts (joinWith "." (place ++ [name]))).head? =
      if place = [] then none else some (joinWith "." place, [name]) := by
  have hparts : splitOn '.' (joinWith "." (place ++ [name])) =
      place.flatMap (splitOn '.') ++ [name] := by
    rw [Text.splitOn_joinWith dot_toList (by simp), List.flatMap_append, List.flatMap_singleton,
      Text.splitOn_of_not_mem hdot]
  unfold cuts
  rw [hparts]
  by_cases hnil : place = []
  · subst hnil
    rfl
  · have hlength : (place.flatMap (splitOn '.')).length ≠ 0 := by
      rw [Ne, List.length_eq_zero_iff, List.flatMap_eq_nil_iff]
      intro hall
      obtain ⟨part, hpart⟩ := List.exists_mem_of_ne_nil _ hnil
      exact Text.splitOn_ne_nil '.' part (hall part hpart)
    -- a directory may have dots in its name, so the place can have fewer steps than the name has parts
    obtain ⟨n, hn⟩ := Nat.exists_eq_succ_of_ne_zero hlength
    have hbase : joinWith "." (place.flatMap (splitOn '.')) = joinWith "." place :=
      Text.joinWith_flatMap_splitOn dot_toList place
    rw [if_neg hnil]
    simp [List.range_succ, hn, hbase]

/-- A full name whose front is the name of a file means the function of that file. -/
theorem resolveFullName_of_function {r : Resolver} {place : List String} {name : String}
    (hdot : '.' ∉ name.toList) {m : SourceModule} (hm : r.findModule? (joinWith "." place) = some m)
    {routine : Routine} (hroutine : Assoc.get? name m.functions = some routine) (constructs : Bool) :
    r.resolveFullName constructs (joinWith "." (place ++ [name])) =
      if place = [] then [] else [routine] := by
  have hhead := head?_cuts place hdot
  unfold resolveFullName
  cases hcuts : cuts (joinWith "." (place ++ [name])) with
  | nil =>
      rw [hcuts] at hhead
      split at hhead
      · rename_i hnil
        rw [if_pos hnil]
        rfl
      · cases hhead
  | cons cut others =>
      rw [hcuts] at hhead
      split at hhead
      · cases hhead
      · rename_i hne
        cases hhead
        rw [if_neg hne, List.findSome?_cons]
        simp [hm, hroutine]

end Resolver

/-! ## Imported functions -/

/-- The name that a node calls, if it calls a plain name. -/
def calledName? : Node → Option String
  | .call _ (.name _ id _) _ _ => some id
  | _ => none

theorem Resolver.meant_of_calledName? (r : Resolver) (source : SourceModule) {s : Spot} {name : String}
    (hcalled : calledName? s.node = some name) :
    r.meant source s = r.resolveName ⟨source, enclosingFunctions s⟩ true name := by
  unfold calledName? at hcalled
  split at hcalled
  · rename_i span nameSpan id context args keywords hnode
    cases hcalled
    rw [meant, referenceAt?, hnode]
    rfl
  · cases hcalled

namespace Index

/-- Let the files of an index have different module names.  Let a file import the function of a name
from a module, with or without leading dots, and bind the imported name in no other way; let the
place that the import points to be that of a file of the index which has the function outside of any
class or function.  Then a call of the imported name means this function and nothing else, except
that it means nothing if the place is the root itself.  The names of the function and, if the import
is relative, of the file and of the directories it goes up, have to be without dots. -/
theorem imports_reach_their_files (settings : Settings) (root : Option String)
    (sources : List (String × String))
    (hnames : ((ofSources settings root sources).files.map SourceModule.name).Nodup) :
    let index := ofSources settings root sources
    ∀ p ∈ index.files, ∀ q ∈ index.files, ∀ i : FromImport, p.BindsOnly i →
      ∀ place, PointsTo p.file i.source i.level place → Houses q.file place →
      (i.level = 0 ∨ ClimbsPlainly p.file i.level) → '.' ∉ i.name.toList →
      ∀ routine, Assoc.get? i.name q.functions = some routine →
      ∀ s : Spot, s.IsIn p.tree → calledName? s.node = some i.bound →
        index.resolver.meant p s = if place = [] then [] else [routine] := by
  intro index p hp q hq i hbinds place hpoints hhouses hclimb hdot routine hroutine s _ hcalled
  have hfiled : IsFiled p := isFiled_of_mem hp
  have hname : q.name = joinWith "." place := (isFiled_of_mem hq).name.trans hhouses.moduleName
  have hfound : index.resolver.findModule? (joinWith "." place) = some q :=
    hname ▸ Resolver.findModule?_name hnames hq
  have hfull : i.fullName p.name p.isPackage = joinWith "." (place ++ [i.name]) := by
    rw [hfiled.name, hfiled.isPackage]
    exact FromImport.fullName_eq hpoints hclimb hhouses.not_mem
  rw [Resolver.meant_of_calledName? _ _ hcalled, hbinds.resolveName hfiled.imports, hfull]
  exact Resolver.resolveFullName_of_function hdot hfound hroutine true

/-- A file that declares nothing and imports one name binds the name only by the import. -/
theorem bindsOnly_of_eq {m : SourceModule} {i : FromImport}
    (himports : (Spot.root m.tree).walk.flatMap importsAt = [i]) (hroutines : m.routines.isEmpty = true)
    (hclasses : m.classEntries.isEmpty = true) : m.BindsOnly i := by
  have hiff : ∀ other, m.ImportsFrom other ↔ other = i := by
    intro other
    rw [← List.mem_singleton, ← himports, List.mem_flatMap]
    exact exists_congr fun s => and_congr_left fun _ => Spot.mem_walk_iff.symm
  rw [List.isEmpty_iff] at hroutines hclasses
  exact
    { imported := (hiff i).mpr rfl
      imports := fun other hother _ => (hiff other).mp hother
      routines := by simp [hroutines]
      classes := by simp [hclasses] }

/-- A function that is imported into a directory beside it. -/
def relativeImport : List (String × String) :=
  [("pkg/mod.py", "def f():\n    return 1\n"), ("pkg/sub/a.py", "from ..mod import f as g\n\ng()\n")]

theorem climbsPlainly_relativeImport : ClimbsPlainly "pkg/sub/a.py" 2 where
  stem_ne := by decide
  stem := by decide
  directories := by decide

theorem imports_reach_their_files_of_relative_import :
    ∃ p ∈ (ofSources {} none relativeImport).files, ∃ q ∈ (ofSources {} none relativeImport).files,
      p.BindsOnly ⟨some "mod", 2, "f", "g"⟩ ∧ q.file = "pkg/mod.py" ∧
      ∃ routine, Assoc.get? "f" q.functions = some routine ∧
      ∃ s : Spot, s.IsIn p.tree ∧ calledName? s.node = some "g" ∧
        (ofSources {} none relativeImport).resolver.meant p s = [routine] := by
  have hsorted := @ofSources_of_sorted {} none relativeImport (by decide)
  have hfacts : ((ofSources {} none relativeImport).files.map SourceModule.name).Nodup ∧
      ∃ p ∈ (ofSources {} none relativeImport).files, ∃ q ∈ (ofSources {} none relativeImport).files,
        p.file = "pkg/sub/a.py" ∧ q.file = "pkg/mod.py" ∧
        (Spot.root p.tree).walk.flatMap importsAt = [⟨some "mod", 2, "f", "g"⟩] ∧
        p.routines.isEmpty = true ∧ p.classEntries.isEmpty = true ∧
        (Assoc.get? "f" q.functions).isSome = true ∧
        ∃ s ∈ (Spot.root p.tree).walk, calledName? s.node = some "g" := by
    rw [hsorted]
    decide +kernel
  obtain ⟨hnames, p, hp, q, hq, hpfile, hqfile, himports, hroutines, hclasses, hsome, s, hs, hcalled⟩ :=
    hfacts
  obtain ⟨routine, hroutine⟩ := Option.isSome_iff_exists.mp hsome
  have hbinds := bindsOnly_of_eq himports hroutines hclasses
  have hpoints : PointsTo p.file (some "mod") 2 ["pkg", "mod"] :=
    @PointsTo.relative p.file ["pkg"] ["sub"] (some "mod") (by rw [hpfile]; decide)
  have hhouses : Houses q.file ["pkg", "mod"] :=
    @Houses.source q.file ["pkg"] "mod" (by rw [hqfile]; decide) (by decide) (by decide)
  refine ⟨p, hp, q, hq, hbinds, hqfile, routine, hroutine, s, Spot.mem_walk_iff.mp hs, hcalled, ?_⟩
  exact imports_reach_their_files {} none relativeImport hnames p hp q hq _ hbinds ["pkg", "mod"]
    hpoints hhouses (.inr (hpfile ▸ climbsPlainly_relativeImport)) (by decide) routine hroutine s
    (Spot.mem_walk_iff.mp hs) hcalled

/-- A file that imports one function and calls it, where the call does not mean what stands in the other
file: what can be read off an index, and what it says about the import. -/
theorem exists_lost_import {index : Index} {i : FromImport} {path target : String}
    (hfacts : ∃ p ∈ index.files, ∃ q ∈ index.files, p.file = path ∧ q.file = target ∧
      (Spot.root p.tree).walk.flatMap importsAt = [i] ∧ p.routines.isEmpty = true ∧
      p.classEntries.isEmpty = true ∧ (Assoc.get? i.name q.functions).map Routine.file = some target ∧
      ∃ s ∈ (Spot.root p.tree).walk, calledName? s.node = some i.bound ∧
        (index.resolver.meant p s).map Routine.file ≠ [target]) :
    ∃ p ∈ index.files, ∃ q ∈ index.files, p.file = path ∧ q.file = target ∧ p.BindsOnly i ∧
      ∃ routine, Assoc.get? i.name q.functions = some routine ∧
      ∃ s : Spot, s.IsIn p.tree ∧ calledName? s.node = some i.bound ∧
        index.resolver.meant p s ≠ [routine] := by
  obtain ⟨p, hp, q, hq, hpath, htarget, himports, hroutines, hclasses, hsome, s, hs, hcalled, hother⟩ :=
    hfacts
  obtain ⟨routine, hroutine, hfile⟩ := Option.map_eq_some_iff.mp hsome
  refine ⟨p, hp, q, hq, hpath, htarget, bindsOnly_of_eq himports hroutines hclasses, routine, hroutine, s,
    Spot.mem_walk_iff.mp hs, hcalled, fun hmeant => hother ?_⟩
  rw [hmeant, List.map_singleton, hfile]

/-- A function of the root, and a file beside it that imports and calls the function. -/
def rootImport : List (String × String) :=
  [("__init__.py", "def f():\n    return 1\n"), ("main.py", "from . import f\n\nf()\n")]

/-- What is imported from the root is lost. -/
theorem import_from_root_means_nothing :
    ((ofSources {} none rootImport).files.map SourceModule.name).Nodup ∧
    ∃ p ∈ (ofSources {} none rootImport).files, ∃ q ∈ (ofSources {} none rootImport).files,
      p.BindsOnly ⟨none, 1, "f", "f"⟩ ∧ PointsTo p.file none 1 [] ∧ Houses q.file [] ∧
      ∃ routine, Assoc.get? "f" q.functions = some routine ∧
      ∃ s : Spot, s.IsIn p.tree ∧ calledName? s.node = some "f" ∧
        (ofSources {} none rootImport).resolver.meant p s ≠ [routine] := by
  have hsorted := @ofSources_of_sorted {} none rootImport (by decide)
  obtain ⟨p, hp, q, hq, hpfile, hqfile, hbinds, hlost⟩ :=
    @exists_lost_import (ofSources {} none rootImport) ⟨none, 1, "f", "f"⟩ "main.py" "__init__.py"
      (by rw [hsorted]; decide +kernel)
  have hpoints : PointsTo p.file none 1 [] :=
    @PointsTo.relative p.file [] [] none (by rw [hpfile]; decide)
  have hhouses : Houses q.file [] := .package (by rw [hqfile]; decide)
  exact ⟨by rw [hsorted]; decide +kernel, p, hp, q, hq, hbinds, hpoints, hhouses, hlost⟩

/-- A function of a directory, a file there with a dot in its name that imports and calls the function,
and a file with the part of that name in front of the dot that has a function of the same name. -/
def dottedImport : List (String × String) :=
  [("pkg/__init__.py", "def f():\n    return 1\n"), ("pkg/a.b.py", "from . import f\n\nf()\n"),
    ("pkg/a.py", "def f():\n    return 2\n")]

/-- What is imported into a file with a dot in its name is not found either: the dots of the import are
counted in the name of the module, which has one part more than the path. -/
theorem import_past_dots_is_misled :
    ((ofSources {} none dottedImport).files.map SourceModule.name).Nodup ∧
    ∃ p ∈ (ofSources {} none dottedImport).files, ∃ q ∈ (ofSources {} none dottedImport).files,
      p.BindsOnly ⟨none, 1, "f", "f"⟩ ∧ PointsTo p.file none 1 ["pkg"] ∧ Houses q.file ["pkg"] ∧
      ¬ ClimbsPlainly p.file 1 ∧
      ∃ routine, Assoc.get? "f" q.functions = some routine ∧
      ∃ s : Spot, s.IsIn p.tree ∧ calledName? s.node = some "f" ∧
        (ofSources {} none dottedImport).resolver.meant p s ≠ [routine] := by
  have hsorted := @ofSources_of_sorted {} none dottedImport (by decide)
  obtain ⟨p, hp, q, hq, hpfile, hqfile, hbinds, hlost⟩ :=
    @exists_lost_import (ofSources {} none dottedImport) ⟨none, 1, "f", "f"⟩ "pkg/a.b.py"
      "pkg/__init__.py" (by rw [hsorted]; decide +kernel)
  have hpoints : PointsTo p.file none 1 ["pkg"] :=
    @PointsTo.relative p.file ["pkg"] [] none (by rw [hpfile]; decide)
  have hhouses : Houses q.file ["pkg"] := .package (by rw [hqfile]; decide)
  have hdotted : ¬ ClimbsPlainly p.file 1 := by
    rw [hpfile]
    exact fun hclimbs => absurd hclimbs.stem (by decide)
  exact ⟨by rw [hsorted]; decide +kernel, p, hp, q, hq, hbinds, hpoints, hhouses, hdotted, hlost⟩

end Index

end CallChain
