import CallChain.Proofs.Files.Trees
import CallChain.Proofs.ModuleNames
import Mathlib.Data.String.Basic

/-!
# Paths as lists of names

A path is text, but what it leads to depends on the names between its slashes alone.  `walk` takes
the parts of a path up one after the other, as a path is made absolute: the names that are left are
those of its place (`parts_absolute`).  A path below another adds names to those of the other
(`walk_below`), and the way from a directory to a path is what the names of the path add to those of
the directory (`relative_eq`).

Two paths below one path are in the order of the names joined by slashes (`below_lt_below_iff`).
-/

namespace CallChain.Path

open Text (splitOn joinWith)

variable {path : String} {names : List String}

/-! ## Paths below a path -/

/-- The path that some names lead to from a path. -/
def below (path : String) (names : List String) : String := names.foldl join path

/-- A path as it stands in front of a name. -/
def trunk (path : String) : String :=
  if path = "" ∨ Text.endsWith path "/" then path else path ++ "/"

theorem startsWith_iff {text head : String} :
    Text.startsWith text head = true ↔ head.toList <+: text.toList :=
  List.isPrefixOf_iff_prefix

theorem isAbsolute_of_no_slash {path : String} (hslash : '/' ∉ path.toList) :
    isAbsolute path = false := by
  rw [Bool.eq_false_iff]
  intro habsolute
  exact hslash ((startsWith_iff.mp habsolute).subset (by decide))

theorem isAbsolute_of_isEntryName {name : String} (hname : IsEntryName name) :
    isAbsolute name = false :=
  isAbsolute_of_no_slash hname.no_slash

theorem join_eq (path : String) {name : String} (hname : isAbsolute name = false) :
    join path name = trunk path ++ name := by
  rw [join, hname, trunk]
  by_cases hslash : path = "" ∨ Text.endsWith path "/" = true
  · rw [if_pos hslash, if_pos hslash, if_neg Bool.false_ne_true]
  · rw [if_neg hslash, if_neg hslash, if_neg Bool.false_ne_true]

/-- Behind a name there is no slash yet. -/
theorem trunk_join (path : String) {name : String} (hname : IsEntryName name) :
    trunk (join path name) = join path name ++ "/" := by
  rw [trunk, if_neg]
  rw [join_eq path (isAbsolute_of_isEntryName hname)]
  rintro (hempty | hslash)
  · exact hname.ne_empty (String.append_eq_empty_iff.mp hempty).2
  · obtain ⟨front, hfront⟩ := endsWith_iff.mp hslash
    have hchars : name.toList ≠ [] := by
      rw [Ne, String.toList_eq_nil_iff]
      exact hname.ne_empty
    have hlast : (trunk path ++ name).toList.getLast? = some '/' := by
      rw [← hfront, slash_toList]
      exact List.getLast?_concat
    rw [String.toList_append, List.getLast?_append_of_ne_nil _ hchars] at hlast
    exact hname.no_slash (List.mem_of_getLast? hlast)

theorem below_eq (path : String) (hnames : ∀ name ∈ names, IsEntryName name) (hne : names ≠ []) :
    below path names = trunk path ++ joinWith "/" names := by
  induction names generalizing path with
  | nil => exact absurd rfl hne
  | cons name rest ih =>
      obtain ⟨hname, hrest⟩ := List.forall_mem_cons.mp hnames
      by_cases hnil : rest = []
      · subst hnil
        exact join_eq path (isAbsolute_of_isEntryName hname)
      · have hbelow : below path (name :: rest) = below (join path name) rest := rfl
        rw [hbelow, ih (join path name) hrest hnil, trunk_join path hname,
          join_eq path (isAbsolute_of_isEntryName hname), Text.joinWith_cons "/" name hnil]
        simp only [String.append_assoc]

/-- Names are what stands between the slashes that they are joined by. -/
theorem splitOn_names (hnames : ∀ name ∈ names, IsEntryName name) (hne : names ≠ []) :
    splitOn '/' (joinWith "/" names) = names :=
  Text.splitOn_joinWith_of_not_mem slash_toList hne fun name hname => (hnames name hname).no_slash

/-- Names joined by slashes can be told apart. -/
theorem joinWith_injective {others : List String} (hnames : ∀ name ∈ names, IsEntryName name)
    (hothers : ∀ name ∈ others, IsEntryName name)
    (heq : joinWith "/" names = joinWith "/" others) : names = others := by
  have hnil : ∀ {list : List String}, (∀ name ∈ list, IsEntryName name) →
      (joinWith "/" list = "" ↔ list = []) := fun hlist =>
    Text.joinWith_eq_empty_iff "/" fun hempty => (hlist "" hempty).ne_empty rfl
  by_cases hempty : names = []
  · rw [hempty] at heq ⊢
    exact ((hnil hothers).mp heq.symm).symm
  · have hother : others ≠ [] := by
      rw [Ne, ← hnil hothers, ← heq, hnil hnames]
      exact hempty
    rw [← splitOn_names hnames hempty, heq, splitOn_names hothers hother]

theorem append_lt_append_iff (front first second : String) :
    front ++ first < front ++ second ↔ first < second := by
  rw [String.lt_iff_toList_lt, String.lt_iff_toList_lt, String.toList_append, String.toList_append]
  induction front.toList with
  | nil => rfl
  | cons c rest ih => simpa using ih

/-- Paths below a path are in the order of what is added to it. -/
theorem below_lt_below_iff (path : String) {others : List String}
    (hnames : ∀ name ∈ names, IsEntryName name) (hothers : ∀ name ∈ others, IsEntryName name)
    (hne : names ≠ []) (hne' : others ≠ []) :
    below path names < below path others ↔ joinWith "/" names < joinWith "/" others := by
  rw [below_eq path hnames hne, below_eq path hothers hne', append_lt_append_iff]

/-! ## Walking along a path -/

/-- The names that are left when the parts of a path are taken up behind some names, the innermost
name first. -/
def walk (done : List String) (path : String) : List String :=
  (splitOn '/' path).foldl (step true) done

variable (done : List String)

theorem walk_append (front back : String) :
    walk done (front ++ "/" ++ back) = walk (walk done front) back := by
  rw [walk, Text.splitOn_append slash_toList, List.foldl_append]
  rfl

theorem walk_empty : walk done "" = done := rfl

/-- A slash at the end of a path leads nowhere else. -/
theorem walk_append_slash (front : String) : walk done (front ++ "/") = walk done front := by
  have hback := walk_append done front ""
  rwa [String.append_empty, walk_empty] at hback

theorem exists_trunk_eq (hpath : path ≠ "") : ∃ front, trunk path = front ++ "/" := by
  rw [trunk]
  by_cases hslash : Text.endsWith path "/" = true
  · rw [if_pos (Or.inr hslash)]
    exact exists_front_of_endsWith hslash
  · exact ⟨path, if_neg (not_or.mpr ⟨hpath, hslash⟩)⟩

theorem walk_trunk_append {path : String} (hpath : path ≠ "") (back : String) :
    walk done (trunk path ++ back) = walk (walk done path) back := by
  rw [trunk]
  by_cases hslash : Text.endsWith path "/" = true
  · obtain ⟨front, rfl⟩ := exists_front_of_endsWith hslash
    rw [if_pos (Or.inr hslash), walk_append, walk_append_slash]
  · rw [if_neg (not_or.mpr ⟨hpath, hslash⟩), walk_append]

theorem step_of_isEntryName {name : String} (hname : IsEntryName name) :
    step true done name = name :: done := by
  unfold step
  rw [if_neg (not_or.mpr ⟨hname.ne_empty, hname.ne_dot⟩), if_pos hname.ne_dots]

theorem foldl_step (hnames : ∀ name ∈ names, IsEntryName name) :
    names.foldl (step true) done = names.reverse ++ done := by
  induction names generalizing done with
  | nil => rfl
  | cons name rest ih =>
      obtain ⟨hname, hrest⟩ := List.forall_mem_cons.mp hnames
      rw [List.foldl_cons, step_of_isEntryName done hname, ih _ hrest, List.reverse_cons,
        List.append_assoc, List.singleton_append]

theorem walk_joinWith (hnames : ∀ name ∈ names, IsEntryName name) :
    walk done (joinWith "/" names) = names.reverse ++ done := by
  by_cases hne : names = []
  · subst hne
    rfl
  · rw [walk, splitOn_names hnames hne, foldl_step done hnames]

/-- A path below a path leads on by the names that are added. -/
theorem walk_below (hpath : path ≠ "") (hnames : ∀ name ∈ names, IsEntryName name) :
    walk done (below path names) = names.reverse ++ walk done path := by
  by_cases hne : names = []
  · subst hne
    rfl
  · rw [below_eq path hnames hne, walk_trunk_append done hpath, walk_joinWith _ hnames]

/-- Taking up a part leaves names of entries. -/
theorem isEntryName_of_mem_step {done : List String} {part name : String}
    (hdone : ∀ name ∈ done, IsEntryName name) (hpart : '/' ∉ part.toList)
    (hname : name ∈ step true done part) : IsEntryName name := by
  unfold step at hname
  split at hname
  · exact hdone name hname
  rename_i hsame
  obtain ⟨hempty, hdot⟩ := not_or.mp hsame
  split at hname
  · rename_i hdots
    rcases List.mem_cons.mp hname with rfl | hmem
    · exact ⟨hempty, hdot, hdots, hpart⟩
    · exact hdone name hmem
  · cases done with
    | nil => cases hname
    | cons last rest =>
        have hlast := (hdone last List.mem_cons_self).ne_dots
        simp only [if_neg hlast] at hname
        exact hdone name (List.mem_cons_of_mem _ hname)

theorem isEntryName_of_mem_walk {done : List String} (hdone : ∀ name ∈ done, IsEntryName name)
    (path : String) : ∀ name ∈ walk done path, IsEntryName name := by
  have hparts : ∀ part ∈ splitOn '/' path, '/' ∉ part.toList := fun part hpart =>
    Text.mark_not_mem_of_mem_splitOn hpart
  rw [walk]
  generalize splitOn '/' path = parts at hparts
  induction parts generalizing done with
  | nil => exact hdone
  | cons part rest ih =>
      obtain ⟨hpart, hrest⟩ := List.forall_mem_cons.mp hparts
      exact ih (fun name hname => isEntryName_of_mem_step hdone hpart hname) hrest

/-- Without dots, the names that are left of a path are its parts. -/
theorem walk_eq (hparts : ∀ part ∈ parts path, IsEntryName part) :
    walk done path = (parts path).reverse ++ done := by
  rw [walk]
  rw [parts] at hparts ⊢
  generalize splitOn '/' path = pieces at hparts ⊢
  induction pieces generalizing done with
  | nil => rfl
  | cons piece rest ih =>
      by_cases hempty : piece = ""
      · subst hempty
        exact ih done hparts
      · have hkeep : (piece :: rest).filter (· != "") = piece :: rest.filter (· != "") :=
          List.filter_cons_of_pos (by simpa using hempty)
        rw [hkeep] at hparts ⊢
        obtain ⟨hpiece, hrest⟩ := List.forall_mem_cons.mp hparts
        rw [List.foldl_cons, step_of_isEntryName done hpiece, ih _ hrest, List.reverse_cons,
          List.append_assoc, List.singleton_append]

/-! ## Absolute paths -/

theorem ne_empty_of_isAbsolute (habsolute : isAbsolute path = true) : path ≠ "" := by
  rintro rfl
  exact absurd habsolute (by decide)

theorem parts_append (front back : String) :
    parts (front ++ "/" ++ back) = parts front ++ parts back := by
  rw [parts, Text.splitOn_append slash_toList, List.filter_append]
  rfl

theorem parts_joinWith (hnames : ∀ name ∈ names, IsEntryName name) :
    parts (joinWith "/" names) = names := by
  by_cases hne : names = []
  · subst hne
    rfl
  · rw [parts, splitOn_names hnames hne, List.filter_eq_self]
    intro name hname
    simpa using (hnames name hname).ne_empty

/-- An absolute path is spelled with one or two slashes and the names that are left of it. -/
theorem normalize_eq (habsolute : isAbsolute path = true) :
    ∃ front, (front = "" ∨ front = "/") ∧
      normalize path = front ++ "/" ++ joinWith "/" (walk [] path).reverse := by
  have hpath := ne_empty_of_isAbsolute habsolute
  have hspelled : ∀ slashes : String, (slashes != "") = true →
      slashes ++ joinWith "/" ((splitOn '/' path).foldl (step (slashes != "")) []).reverse ≠ "" ∧
        (splitOn '/' path).foldl (step (slashes != "")) [] = walk [] path := by
    intro slashes hslashes
    refine ⟨fun hempty => ?_, by rw [hslashes, walk]⟩
    exact bne_iff_ne.mp hslashes (String.append_eq_empty_iff.mp hempty).1
  rw [normalize, if_neg hpath]
  by_cases hdouble : (Text.startsWith path "//" && !Text.startsWith path "///") = true
  · obtain ⟨hne, hwalk⟩ := hspelled "//" (by decide)
    refine ⟨"/", Or.inr rfl, ?_⟩
    simp only [hdouble, if_true]
    rw [if_neg hne, hwalk]
    rfl
  · obtain ⟨hne, hwalk⟩ := hspelled "/" (by decide)
    refine ⟨"", Or.inl rfl, ?_⟩
    simp only [hdouble, if_false, habsolute, if_true, Bool.false_eq_true]
    rw [if_neg hne, hwalk]
    rfl

/-- The names of the place that a path leads to, where relative paths start at `directory`. -/
def place (directory path : String) : List String :=
  (walk (if isAbsolute path then [] else walk [] directory) path).reverse

theorem isAbsolute_append {front : String} (hfront : front ≠ "") (back : String) :
    isAbsolute (front ++ back) = isAbsolute front := by
  rw [isAbsolute, isAbsolute, Text.startsWith, Text.startsWith, String.toList_append, slash_toList]
  cases hchars : front.toList with
  | nil => exact absurd (String.toList_eq_nil_iff.mp hchars) hfront
  | cons c rest => simp [List.isPrefixOf]

theorem isAbsolute_trunk_append (hpath : path ≠ "") (back : String) :
    isAbsolute (trunk path ++ back) = isAbsolute path := by
  rw [trunk]
  split
  · exact isAbsolute_append hpath back
  · rw [String.append_assoc]
    exact isAbsolute_append hpath _

theorem isAbsolute_below (hpath : path ≠ "") (hnames : ∀ name ∈ names, IsEntryName name) :
    isAbsolute (below path names) = isAbsolute path := by
  by_cases hne : names = []
  · subst hne
    rfl
  · rw [below_eq path hnames hne]
    exact isAbsolute_trunk_append hpath _

/-- The place of a path below a path is reached by the names that are added. -/
theorem place_below (directory : String) (hpath : path ≠ "")
    (hnames : ∀ name ∈ names, IsEntryName name) :
    place directory (below path names) = place directory path ++ names := by
  rw [place, isAbsolute_below hpath hnames, walk_below _ hpath hnames, List.reverse_append,
    List.reverse_reverse]
  rfl

theorem isEntryName_of_mem_place (directory path : String) :
    ∀ name ∈ place directory path, IsEntryName name := by
  intro name hname
  have hnone : ∀ name ∈ ([] : List String), IsEntryName name := fun name hname =>
    absurd hname List.not_mem_nil
  refine isEntryName_of_mem_walk ?_ path name (List.mem_reverse.mp hname)
  split
  · exact hnone
  · exact isEntryName_of_mem_walk hnone directory

section Absolute

variable {directory : String} (hdirectory : isAbsolute directory = true)

include hdirectory

/-- A path from the root is spelled with one or two slashes and the names of its place. -/
theorem absolute_eq (path : String) :
    ∃ front, (front = "" ∨ front = "/") ∧
      absolute directory path = front ++ "/" ++ joinWith "/" (place directory path) := by
  have hne := ne_empty_of_isAbsolute hdirectory
  cases hpath : isAbsolute path with
  | true =>
      have hjoin : join directory path = path := by rw [join, if_pos hpath]
      rw [absolute, hjoin, place, if_pos hpath]
      exact normalize_eq hpath
  | false =>
      have hjoin : isAbsolute (join directory path) = true := by
        rw [join_eq directory hpath, isAbsolute_trunk_append hne, hdirectory]
      have hwalk : walk [] (join directory path) = walk (walk [] directory) path := by
        rw [join_eq directory hpath, walk_trunk_append [] hne]
      rw [absolute, place, hpath, if_neg Bool.false_ne_true, ← hwalk]
      exact normalize_eq hjoin

theorem isAbsolute_absolute (path : String) : isAbsolute (absolute directory path) = true := by
  obtain ⟨front, hfront, heq⟩ := absolute_eq hdirectory path
  rw [heq]
  rcases hfront with rfl | rfl <;> exact isAbsolute_append (by decide) _

/-- The parts of a path from the root are the names of its place. -/
theorem parts_absolute (path : String) : parts (absolute directory path) = place directory path := by
  obtain ⟨front, hfront, heq⟩ := absolute_eq hdirectory path
  rw [heq, parts_append, parts_joinWith (isEntryName_of_mem_place directory path)]
  rcases hfront with rfl | rfl <;> rfl

theorem place_absolute (path : String) :
    place directory (absolute directory path) = place directory path := by
  have hwalk : walk [] (absolute directory path) = (place directory path).reverse := by
    obtain ⟨front, hfront, heq⟩ := absolute_eq hdirectory path
    have hnone : walk [] front = [] := by rcases hfront with rfl | rfl <;> rfl
    rw [heq, walk_append, hnone, walk_joinWith [] (isEntryName_of_mem_place directory path),
      List.append_nil]
  rw [place, isAbsolute_absolute hdirectory, if_pos rfl, hwalk, List.reverse_reverse]

end Absolute

/-! ## The directory of a path -/

theorem walk_append_slashes (front : String) (count : Nat) :
    walk done (front ++ String.ofList (List.replicate count '/')) = walk done front := by
  induction count with
  | zero => exact congrArg (walk done) String.append_empty
  | succ count ih =>
      have hlast : String.ofList (List.replicate (count + 1) '/') =
          String.ofList (List.replicate count '/') ++ "/" := by
        rw [List.replicate_succ', String.ofList_append]
      rw [hlast, ← String.append_assoc, walk_append_slash, ih]

/-- What stands before the last slash of a path, less the slashes at its end, unless it has nothing
else. -/
theorem exists_parent (front : String) {last : String} (hlast : '/' ∉ last.toList) :
    ∃ count, front ++ "/" = parent (front ++ "/" ++ last) ++ String.ofList (List.replicate count '/') ∧
      parent (front ++ "/" ++ last) ≠ "" := by
  have hchars : (front ++ "/" ++ last).toList = front.toList ++ '/' :: last.toList := by
    rw [String.toList_append, String.toList_append, slash_toList, List.append_assoc]
    rfl
  rw [parent, Text.cutLast?_of_last hchars hlast]
  simp only [String.ofList_toList]
  split
  · refine ⟨0, String.append_empty.symm, fun hempty => ?_⟩
    exact absurd (String.append_eq_empty_iff.mp hempty).2 (by decide)
  · rename_i hother
    generalize hhead : front ++ "/" = head at hother ⊢
    have hslashes : ∀ c ∈ head.toList.reverse.takeWhile (· == '/'), c = '/' := by
      intro c hc
      have hmark := List.mem_takeWhile_imp (p := (· == '/')) hc
      exact beq_iff_eq.mp hmark
    refine ⟨(head.toList.reverse.takeWhile (· == '/')).length, String.toList_injective ?_, ?_⟩
    · rw [String.toList_append, String.toList_ofList, String.toList_ofList]
      calc head.toList
          = (head.toList.reverse.takeWhile (· == '/') ++
              head.toList.reverse.dropWhile (· == '/')).reverse := by
            rw [List.takeWhile_append_dropWhile, List.reverse_reverse]
        _ = (head.toList.reverse.dropWhile (· == '/')).reverse ++
              List.replicate (head.toList.reverse.takeWhile (· == '/')).length '/' := by
            rw [List.reverse_append, ← List.reverse_replicate, ← List.eq_replicate_of_mem hslashes]
    · rw [Ne, ← String.toList_eq_nil_iff, String.toList_ofList, List.reverse_eq_nil_iff,
        List.dropWhile_eq_nil_iff]
      intro hall
      exact hother (List.all_eq_true.mpr fun c hc => hall c (List.mem_reverse.mpr hc))

/-- The parent of a path from the root is the directory that holds its place. -/
theorem place_parent {directory : String} (hdirectory : isAbsolute directory = true)
    {last : String} (hplace : place directory path = names ++ [last]) :
    place directory (parent (absolute directory path)) = names := by
  have hentries := isEntryName_of_mem_place directory path
  rw [hplace] at hentries
  obtain ⟨hnames, hlast⟩ := List.forall_mem_append.mp hentries
  have hslash := (hlast last List.mem_cons_self).no_slash
  obtain ⟨front, hfront, heq⟩ := absolute_eq hdirectory path
  -- the text before the last name, and what it leads to
  obtain ⟨text, htext, hwalk, habsolute⟩ : ∃ text, absolute directory path = text ++ "/" ++ last ∧
      walk [] text = names.reverse ∧ isAbsolute (text ++ "/") = true := by
    have hnone : walk [] front = [] := by rcases hfront with rfl | rfl <;> rfl
    have hslashes : isAbsolute (front ++ "/") = true := by rcases hfront with rfl | rfl <;> rfl
    by_cases hnil : names = []
    · subst hnil
      exact ⟨front, by rw [heq, hplace]; rfl, hnone, hslashes⟩
    · refine ⟨front ++ "/" ++ joinWith "/" names, ?_, ?_, ?_⟩
      · rw [heq, hplace, Text.joinWith_append "/" hnil (List.cons_ne_nil _ _)]
        simp only [String.append_assoc]
        rfl
      · rw [walk_append, hnone, walk_joinWith [] hnames, List.append_nil]
      · have hne := ne_empty_of_isAbsolute hslashes
        rw [String.append_assoc, isAbsolute_append hne, hslashes]
  obtain ⟨count, hparent, hne⟩ := exists_parent text hslash
  rw [htext, place]
  generalize parent (text ++ "/" ++ last) = above at hparent hne ⊢
  have hrooted : isAbsolute above = true := by
    rw [← isAbsolute_append hne, ← hparent, habsolute]
  rw [hrooted, if_pos rfl, ← walk_append_slashes [] above count, ← hparent, walk_append_slash, hwalk,
    List.reverse_reverse]

/-! ## The way from a directory to a path -/

theorem sharedParts_append (first second : List String) :
    sharedParts first (first ++ second) = first.length := by
  induction first with
  | nil => cases second <;> rfl
  | cons part rest ih => simp [sharedParts, ih]

/-- The way to a path depends on its place alone. -/
theorem relative_congr {directory other : String} (hdirectory : isAbsolute directory = true)
    (base : String) (hpath : path ≠ "") (hother : other ≠ "")
    (hplace : place directory path = place directory other) :
    relative directory base path = relative directory base other := by
  rw [relative, relative, if_neg hpath, if_neg hother]
  simp only [parts_absolute hdirectory, hplace]

/-- The way to a place below a directory is what is added to the names of the directory. -/
theorem relative_eq {directory base : String} (hdirectory : isAbsolute directory = true)
    (hpath : path ≠ "") (hnames : names ≠ [])
    (hplace : place directory path = place directory base ++ names) :
    relative directory base path = joinWith "/" names := by
  rw [relative, if_neg hpath]
  simp only [parts_absolute hdirectory, hplace, sharedParts_append, Nat.sub_self, List.replicate_zero,
    List.nil_append, List.drop_left]
  rw [if_neg]
  simpa using hnames

theorem sharedParts_lt {first second : List String} (hstarts : ¬ first <+: second) :
    sharedParts first second < first.length := by
  induction first generalizing second with
  | nil => exact absurd List.nil_prefix hstarts
  | cons part rest ih =>
      cases second with
      | nil => exact Nat.succ_pos _
      | cons other others =>
          rw [sharedParts]
          split
          · rename_i heq
            refine Nat.succ_lt_succ (ih fun hrest => hstarts ?_)
            rw [heq]
            exact List.cons_prefix_cons.mpr ⟨rfl, hrest⟩
          · exact Nat.succ_pos _

/-- The way to a place that is not below a directory is a dot, or begins with two dots. -/
theorem exists_relative_eq_of_not_below {directory base : String}
    (hdirectory : isAbsolute directory = true) (hpath : path ≠ "")
    (hnot : ∀ names, names ≠ [] → place directory path ≠ place directory base ++ names) :
    ∃ first rest, (first = "." ∧ rest = [] ∨ first = "..") ∧
      (∀ name ∈ first :: rest, '/' ∉ name.toList) ∧
      relative directory base path = joinWith "/" (first :: rest) := by
  have hgoal := isEntryName_of_mem_place directory path
  rw [relative, if_neg hpath]
  simp only [parts_absolute hdirectory]
  generalize place directory base = start at hnot
  generalize place directory path = goal at hnot hgoal
  by_cases hstarts : start <+: goal
  · obtain ⟨names, rfl⟩ := hstarts
    obtain rfl : names = [] := by_contra fun hne => hnot names hne rfl
    refine ⟨".", [], Or.inl ⟨rfl, rfl⟩, by decide, ?_⟩
    rw [sharedParts_append]
    simp [joinWith]
  · obtain ⟨up, hup⟩ : ∃ up, start.length - sharedParts start goal = up + 1 :=
      ⟨start.length - sharedParts start goal - 1, by have := sharedParts_lt hstarts; omega⟩
    refine ⟨"..", List.replicate up ".." ++ goal.drop (sharedParts start goal), Or.inr rfl, ?_, ?_⟩
    · intro name hname
      rcases List.mem_cons.mp hname with rfl | hname
      · decide
      rcases List.mem_append.mp hname with hdots | hbelow
      · rw [List.eq_of_mem_replicate hdots]
        decide
      · exact (hgoal name (List.mem_of_mem_drop hbelow)).no_slash
    · rw [hup, List.replicate_succ]
      rfl

/-- A path from the root leads to the same place from everywhere. -/
theorem place_of_isAbsolute (habsolute : isAbsolute path = true) (first second : String) :
    place first path = place second path := by
  rw [place, place, if_pos habsolute, if_pos habsolute]

/-- The names of a path from the root are its place. -/
theorem place_rooted (directory : String) (hnames : ∀ name ∈ names, IsEntryName name) :
    place directory ("/" ++ joinWith "/" names) = names := by
  have habsolute : isAbsolute ("/" ++ joinWith "/" names) = true := isAbsolute_append (by decide) _
  have hwalk := walk_append [] "" (joinWith "/" names)
  rw [String.empty_append, walk_empty, walk_joinWith [] hnames, List.append_nil] at hwalk
  rw [place, if_pos habsolute, hwalk, List.reverse_reverse]

end CallChain.Path
