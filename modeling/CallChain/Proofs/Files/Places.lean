import CallChain.Files.Sources
import CallChain.Proofs.Files.Paths

/-!
# What paths lead to

On a sound disk the working directory exists and the tree is proper.  There a path that can be
followed leads to the place that its text spells (`get?_place_of_find`), so the same thing is found
when the path is made absolute (`find_absolute`), and names behind the path lead on from there
(`find_below`).  The order in which directories list their entries changes nothing of this
(`find_relisted`).
-/

namespace CallChain.Disk

open Text (splitOn joinWith)

/-- A disk whose tree is proper and whose working directory is there, known by its path from the
root. -/
structure IsSound (d : Disk) : Prop where
  proper : d.tree.IsProper
  rooted : Path.isAbsolute d.directory = true
  working : ∃ entries, d.tree.get? (Path.parts d.directory) = some (.directory entries)

variable {d : Disk} {tree found : FileTree} {here next last names : List String} {path : String}

/-! ## Following parts -/

theorem follow_append (tree : FileTree) (here first second : List String) :
    follow tree here (first ++ second) =
      (follow tree here first).bind fun next => follow tree next second := by
  induction first generalizing here with
  | nil => rfl
  | cons part rest ih =>
      rw [List.cons_append, follow, follow]
      cases step tree here part with
      | error cause => rfl
      | ok next => exact ih next

/-- From a directory a part leads on as it does in the text of a path. -/
theorem step_eq {part : String} (hhere : ∀ name ∈ here, IsEntryName name)
    (hstep : step tree here part = .ok next) : next = Path.step true here part := by
  unfold step at hstep
  split at hstep
  · cases hstep
  · cases hstep
  · cases hstep
    unfold Path.step
    by_cases hblank : part = "" ∨ part = "."
    · rw [if_pos hblank, if_pos hblank]
    · rw [if_neg hblank, if_neg hblank]
      by_cases hdots : part = ".."
      · rw [if_pos hdots, if_neg (not_not_intro hdots)]
        cases here with
        | nil => rfl
        | cons name rest => exact (if_neg (hhere name List.mem_cons_self).ne_dots).symm
      · rw [if_neg hdots, if_pos hdots]

theorem follow_eq {parts : List String} (hhere : ∀ name ∈ here, IsEntryName name)
    (hparts : ∀ part ∈ parts, '/' ∉ part.toList) (hfollow : follow tree here parts = .ok last) :
    last = parts.foldl (Path.step true) here := by
  induction parts generalizing here with
  | nil =>
      cases hfollow
      rfl
  | cons part rest ih =>
      obtain ⟨hpart, hrest⟩ := List.forall_mem_cons.mp hparts
      rw [follow] at hfollow
      split at hfollow
      · rename_i next hstep
        obtain rfl := step_eq hhere hstep
        exact ih (fun name hname => Path.isEntryName_of_mem_step hhere hpart hname) hrest hfollow
      · cases hfollow

/-- Names that lead to something can be followed. -/
theorem follow_names (hnames : ∀ name ∈ names, IsEntryName name)
    (hget : tree.get? (here.reverse ++ names) = some found) :
    follow tree here names = .ok (names.reverse ++ here) := by
  induction names generalizing here with
  | nil => rfl
  | cons name rest ih =>
      obtain ⟨hname, hrest⟩ := List.forall_mem_cons.mp hnames
      obtain ⟨place, hplace, hbelow⟩ : ∃ place, tree.get? here.reverse = some place ∧
          place.get? (name :: rest) = some found := by
        rw [FileTree.get?_append] at hget
        exact Option.bind_eq_some_iff.mp hget
      obtain ⟨entries, rfl⟩ := FileTree.exists_entries_of_get?_cons hbelow
      have hstep : step tree here name = .ok (name :: here) := by
        unfold step
        simp only [hplace]
        rw [if_neg (not_or.mpr ⟨hname.ne_empty, hname.ne_dot⟩), if_neg hname.ne_dots]
      have hget' : tree.get? ((name :: here).reverse ++ rest) = some found := by
        rw [List.reverse_cons, List.append_assoc]
        exact hget
      rw [follow, hstep]
      simp only
      rw [ih hrest hget', List.reverse_cons, List.append_assoc]
      rfl

/-- A blank part stays where it is. -/
theorem eq_of_step_blank (hstep : step tree here "" = .ok next) : next = here := by
  unfold step at hstep
  split at hstep
  · cases hstep
  · cases hstep
  · exact (Except.ok.inj hstep).symm

/-- Only a name leads to a file. -/
theorem eq_of_step_file {part : String} {content : Option Bytes} (hstep : step tree here part = .ok next)
    (hfile : tree.get? next.reverse = some (.file content)) : next = part :: here := by
  unfold step at hstep
  split at hstep
  · cases hstep
  · cases hstep
  · rename_i entries hhere
    split at hstep
    · cases hstep
      rw [hhere] at hfile
      cases hfile
    split at hstep
    · cases hstep
      cases here with
      | nil =>
          rw [List.tail_nil, hhere] at hfile
          cases hfile
      | cons name rest =>
          -- the directory above holds what was left
          rw [List.tail_cons] at hfile
          rw [List.reverse_cons, FileTree.get?_append, hfile] at hhere
          cases hhere
    · exact (Except.ok.inj hstep).symm

/-- What stands behind a path is followed from where the path leads. -/
theorem follow_trunk_append (hpath : path ≠ "")
    (hfollow : follow tree here (splitOn '/' path) = .ok last) (back : String) :
    follow tree here (splitOn '/' (Path.trunk path ++ back)) = follow tree last (splitOn '/' back) := by
  rw [Path.trunk]
  by_cases hslash : Text.endsWith path "/" = true
  · rw [if_pos (Or.inr hslash)]
    obtain ⟨front, rfl⟩ := exists_front_of_endsWith hslash
    have hsplit : splitOn '/' (front ++ "/") = splitOn '/' front ++ [""] := by
      have hempty := Text.splitOn_append slash_toList front ""
      rwa [String.append_empty] at hempty
    rw [hsplit, follow_append] at hfollow
    rw [Text.splitOn_append slash_toList, follow_append]
    cases hfront : follow tree here (splitOn '/' front) with
    | error cause =>
        rw [hfront] at hfollow
        cases hfollow
    | ok middle =>
        rw [hfront] at hfollow
        -- the slash at the end of the path has led nowhere else
        have hlast : last = middle := by
          simp only [Except.bind, follow] at hfollow
          split at hfollow
          · rename_i next hstep
            rw [← Except.ok.inj hfollow, eq_of_step_blank hstep]
          · cases hfollow
        rw [hlast]
        rfl
  · rw [if_neg (not_or.mpr ⟨hpath, hslash⟩), Text.splitOn_append slash_toList, follow_append, hfollow]
    rfl

/-! ## Finding -/

theorem find_eq_ok_iff : d.find path = .ok found ↔
    ∃ names, d.locate path = .ok names ∧ d.tree.get? names = some found := by
  unfold find
  constructor
  · intro hfind
    split at hfind
    · cases hfind
    · rename_i names hlocate
      split at hfind
      · rename_i hget
        cases hfind
        exact ⟨names, hlocate, hget⟩
      · cases hfind
  · rintro ⟨names, hlocate, hget⟩
    simp only [hlocate, hget]

theorem contains_iff : d.contains path = true ↔ ∃ found, d.find path = .ok found := by
  rw [contains, find?]
  cases d.find path with
  | error cause => simp [Except.toOption]
  | ok found => simp [Except.toOption]

theorem find?_eq_some_iff : d.find? path = some found ↔ d.find path = .ok found := by
  rw [find?]
  cases d.find path with
  | error cause => simp [Except.toOption]
  | ok other => simp [Except.toOption]

/-- What is read is there. -/
theorem find_of_read {content : Bytes} (hread : d.read path = .ok content) :
    d.find path = .ok (.file content) := by
  rw [read] at hread
  split at hread
  · rename_i own hfind
    cases hread
    exact hfind
  · cases hread
  · cases hread
  · cases hread

/-- Where relative paths start. -/
def start (d : Disk) (path : String) : List String :=
  if Path.isAbsolute path then [] else (Path.parts d.directory).reverse

theorem locate_eq_ok_iff : d.locate path = .ok names ↔
    path ≠ "" ∧ follow d.tree (d.start path) (splitOn '/' path) = .ok names.reverse := by
  rw [locate]
  by_cases hpath : path = ""
  · rw [if_pos hpath]
    exact iff_of_false nofun fun h => h.1 hpath
  · rw [if_neg hpath]
    change (follow d.tree (d.start path) (splitOn '/' path)).map List.reverse = _ ↔ _
    cases follow d.tree (d.start path) (splitOn '/' path) with
    | error cause => exact iff_of_false nofun fun h => nomatch h.2
    | ok last =>
        simp only [Except.map, Except.ok.injEq]
        exact ⟨fun h => ⟨hpath, by rw [← h, List.reverse_reverse]⟩,
          fun h => by rw [h.2, List.reverse_reverse]⟩

section Sound

variable (hd : d.IsSound)

include hd

theorem IsSound.isEntryName_of_mem_parts : ∀ name ∈ Path.parts d.directory, IsEntryName name := by
  obtain ⟨entries, hworking⟩ := hd.working
  exact (hd.proper.of_get? hworking).2

theorem IsSound.exists_entries : ∃ entries, d.tree = .directory entries := by
  obtain ⟨entries, hworking⟩ := hd.working
  cases hparts : Path.parts d.directory with
  | nil =>
      rw [hparts] at hworking
      exact ⟨entries, Option.some.inj hworking⟩
  | cons name rest =>
      rw [hparts] at hworking
      exact FileTree.exists_entries_of_get?_cons hworking

theorem IsSound.start_eq (path : String) :
    d.start path = if Path.isAbsolute path then [] else Path.walk [] d.directory := by
  rw [start, Path.walk_eq [] hd.isEntryName_of_mem_parts, List.append_nil]

theorem IsSound.isEntryName_of_mem_start (path : String) :
    ∀ name ∈ d.start path, IsEntryName name := by
  intro name hname
  rw [start] at hname
  split at hname
  · cases hname
  · exact hd.isEntryName_of_mem_parts name (List.mem_reverse.mp hname)

theorem place_of_locate (hlocate : d.locate path = .ok names) :
    Path.place d.directory path = names := by
  obtain ⟨-, hfollow⟩ := locate_eq_ok_iff.mp hlocate
  have hlast := follow_eq (hd.isEntryName_of_mem_start path)
    (fun part hpart => Text.mark_not_mem_of_mem_splitOn hpart) hfollow
  rw [hd.start_eq path] at hlast
  rw [Path.place, Path.walk, ← hlast, List.reverse_reverse]

/-- A path leads to the place that its text spells. -/
theorem get?_place_of_find (hfind : d.find path = .ok found) :
    path ≠ "" ∧ d.tree.get? (Path.place d.directory path) = some found := by
  obtain ⟨names, hlocate, hget⟩ := find_eq_ok_iff.mp hfind
  rw [place_of_locate hd hlocate]
  exact ⟨(locate_eq_ok_iff.mp hlocate).1, hget⟩

/-- A path that leads to a file ends in the name of the file. -/
theorem exists_last_of_find {content : Option Bytes} (hfind : d.find path = .ok (.file content)) :
    ∃ names last, Path.place d.directory path = names ++ [last] ∧
      (path = last ∨ ∃ front, path = front ++ "/" ++ last) := by
  obtain ⟨place, hlocate, hget⟩ := find_eq_ok_iff.mp hfind
  obtain ⟨-, hfollow⟩ := locate_eq_ok_iff.mp hlocate
  obtain ⟨others, last, hsplit, hpath⟩ : ∃ others last, splitOn '/' path = others ++ [last] ∧
      (path = last ∨ ∃ front, path = front ++ "/" ++ last) := by
    by_cases hslash : '/' ∈ path.toList
    · obtain ⟨front, back, rfl, hback⟩ := Text.exists_last_cut slash_toList hslash
      refine ⟨splitOn '/' front, back, ?_, Or.inr ⟨front, rfl⟩⟩
      rw [Text.splitOn_append slash_toList, Text.splitOn_of_not_mem hback]
    · exact ⟨[], path, Text.splitOn_of_not_mem hslash, Or.inl rfl⟩
  rw [hsplit, follow_append] at hfollow
  cases hothers : follow d.tree (d.start path) others with
  | error cause =>
      rw [hothers] at hfollow
      cases hfollow
  | ok middle =>
      rw [hothers] at hfollow
      simp only [Except.bind, follow] at hfollow
      split at hfollow
      · rename_i next hstep
        obtain rfl := Except.ok.inj hfollow
        have hlast := eq_of_step_file hstep (by rwa [List.reverse_reverse])
        refine ⟨middle.reverse, last, ?_, hpath⟩
        rw [place_of_locate hd hlocate, ← List.reverse_reverse place, hlast, List.reverse_cons]
      · cases hfollow

/-- What stands at the place of a path is found by the path from the root. -/
theorem find_absolute (hget : d.tree.get? (Path.place d.directory path) = some found) :
    d.find (d.absolute path) = .ok found := by
  obtain ⟨entries, htree⟩ := hd.exists_entries
  have hnames := Path.isEntryName_of_mem_place d.directory path
  have hblank : step d.tree [] "" = .ok [] := by rw [htree]; rfl
  have hfollow : follow d.tree [] (splitOn '/' (joinWith "/" (Path.place d.directory path))) =
      .ok (Path.place d.directory path).reverse := by
    by_cases hempty : Path.place d.directory path = []
    · have hsplit : splitOn '/' (joinWith "/" []) = [""] := rfl
      rw [hempty, hsplit, follow, hblank]
      rfl
    · have hroot : d.tree.get? (List.reverse [] ++ Path.place d.directory path) = some found := hget
      rw [Path.splitOn_names hnames hempty, follow_names hnames hroot, List.append_nil]
  have habsolute : Path.isAbsolute (d.absolute path) = true :=
    Path.isAbsolute_absolute hd.rooted path
  obtain ⟨front, hfront, heq⟩ := Path.absolute_eq hd.rooted path
  have hslashes : follow d.tree [] (splitOn '/' front) = .ok [] := by
    rcases hfront with rfl | rfl
    · have hsplit : splitOn '/' "" = [""] := rfl
      simp only [hsplit, follow, hblank]
    · have hsplit : splitOn '/' "/" = ["", ""] := rfl
      simp only [hsplit, follow, hblank]
  refine find_eq_ok_iff.mpr ⟨_, locate_eq_ok_iff.mpr ⟨Path.ne_empty_of_isAbsolute habsolute, ?_⟩, hget⟩
  rw [start, if_pos habsolute, absolute, heq, Text.splitOn_append slash_toList, follow_append, hslashes]
  simp only [Except.bind, hfollow]

/-- A path from the root leads where the path leads. -/
theorem find_absolute_of_find (hfind : d.find path = .ok found) :
    d.find (d.absolute path) = .ok found :=
  find_absolute hd (get?_place_of_find hd hfind).2

/-- Names behind a path lead on from what it leads to. -/
theorem find_below {above : FileTree} (hfind : d.find path = .ok above)
    (hget : above.get? names = some found) : d.find (Path.below path names) = .ok found := by
  by_cases hempty : names = []
  · subst hempty
    cases hget
    exact hfind
  obtain ⟨place, hlocate, hplace⟩ := find_eq_ok_iff.mp hfind
  obtain ⟨hpath, hfollow⟩ := locate_eq_ok_iff.mp hlocate
  have hnames := ((hd.proper.of_get? hplace).1.of_get? hget).2
  have hall : d.tree.get? (place ++ names) = some found := by
    rw [FileTree.get?_append, hplace]
    exact hget
  refine find_eq_ok_iff.mpr ⟨place ++ names, locate_eq_ok_iff.mpr ⟨?_, ?_⟩, hall⟩
  · have hblank : "" ∉ names := fun hmem => (hnames "" hmem).ne_empty rfl
    rw [Path.below_eq path hnames hempty, Ne, String.append_eq_empty_iff,
      Text.joinWith_eq_empty_iff "/" hblank]
    exact fun h => hempty h.2
  · rw [start, Path.isAbsolute_below hpath hnames, ← start, Path.below_eq path hnames hempty,
      follow_trunk_append hpath hfollow, Path.splitOn_names hnames hempty,
      follow_names hnames (by rwa [List.reverse_reverse]), List.reverse_append]

end Sound

/-! ## The order of entries -/

section Relisted

variable {other : FileTree} (hrelisted : tree.Relisted other) (hproper : tree.IsProper)

include hrelisted hproper

theorem step_relisted (here : List String) (part : String) :
    step other here part = step tree here part := by
  unfold step
  cases htree : tree.get? here.reverse with
  | none =>
      cases hother : other.get? here.reverse with
      | none => rfl
      | some found =>
          obtain ⟨found', hfound', -⟩ := hrelisted.symm.get? (hrelisted.isProper hproper) hother
          rw [htree] at hfound'
          cases hfound'
  | some found =>
      obtain ⟨found', hfound', hfound⟩ := hrelisted.get? hproper htree
      rw [hfound']
      have hkind := hfound.isDirectory
      cases found <;> cases found' <;> first | rfl | cases hkind

theorem follow_relisted (here parts : List String) :
    follow other here parts = follow tree here parts := by
  induction parts generalizing here with
  | nil => rfl
  | cons part rest ih =>
      rw [follow, follow, step_relisted hrelisted hproper]
      cases step tree here part with
      | error cause => rfl
      | ok next => exact ih next

end Relisted

/-- A path leads to the same files, in whatever order directories list their entries. -/
theorem find_relisted {other : FileTree} (hd : d.IsSound) (hrelisted : d.tree.Relisted other)
    (hfind : d.find path = .ok found) :
    ∃ found', ({ d with tree := other } : Disk).find path = .ok found' ∧ found.Relisted found' := by
  obtain ⟨names, hlocate, hget⟩ := find_eq_ok_iff.mp hfind
  obtain ⟨found', hget', hfound⟩ := hrelisted.get? hd.proper hget
  refine ⟨found', find_eq_ok_iff.mpr ⟨names, ?_, hget'⟩, hfound⟩
  rw [locate] at hlocate ⊢
  simp only [follow_relisted hrelisted hd.proper]
  exact hlocate

end CallChain.Disk
