import CallChain.Files.Tree
import CallChain.Proofs.Declarations

/-!
# Proper trees

In a proper tree every directory lists names that can stand between slashes, and none of them twice.
Such a tree is known by what its names lead to.  `Relisted` relates trees that differ in the order of
entries alone: a proper tree stays proper, and names lead to the same files (`Relisted.get?`).
-/

namespace CallChain

/-- A name that can stand between two slashes and means neither this directory nor the one above. -/
structure IsEntryName (name : String) : Prop where
  ne_empty : name ≠ ""
  ne_dot : name ≠ "."
  ne_dots : name ≠ ".."
  no_slash : '/' ∉ name.toList

instance (name : String) : Decidable (IsEntryName name) :=
  decidable_of_iff (name ≠ "" ∧ name ≠ "." ∧ name ≠ ".." ∧ '/' ∉ name.toList)
    ⟨fun ⟨hempty, hdot, hdots, hslash⟩ => ⟨hempty, hdot, hdots, hslash⟩,
      fun ⟨hempty, hdot, hdots, hslash⟩ => ⟨hempty, hdot, hdots, hslash⟩⟩

namespace FileTree

/-- Every directory lists names of entries, and none twice. -/
inductive IsProper : FileTree → Prop where
  | file (content : Option Bytes) : IsProper (.file content)
  | directory {entries : List (String × FileTree)} (nodup : (entries.map Prod.fst).Nodup)
      (names : ∀ entry ∈ entries, IsEntryName entry.1)
      (below : ∀ entry ∈ entries, IsProper entry.2) : IsProper (.directory entries)

variable {tree other found : FileTree} {entries : List (String × FileTree)} {name : String}
  {names rest : List String}

/-! ## Following names -/

theorem get?_append (tree : FileTree) (first second : List String) :
    tree.get? (first ++ second) = (tree.get? first).bind (get? second) := by
  induction first generalizing tree with
  | nil => rfl
  | cons name rest ih =>
      rw [List.cons_append, get?, get?, Option.bind_assoc]
      exact congrArg _ (funext ih)

/-- Only a directory leads on to something. -/
theorem exists_entries_of_get?_cons (hget : tree.get? (name :: rest) = some found) :
    ∃ entries, tree = .directory entries := by
  cases tree with
  | file content => cases hget
  | directory entries => exact ⟨entries, rfl⟩

/-- A name leads from a directory to its entry of that name. -/
theorem IsProper.get?_cons_iff (hproper : IsProper (.directory entries)) :
    (FileTree.directory entries).get? (name :: rest) = some found ↔
      ∃ entry, (name, entry) ∈ entries ∧ entry.get? rest = some found := by
  cases hproper with
  | directory hnodup _ _ =>
      rw [FileTree.get?, FileTree.entries, Option.bind_eq_some_iff]
      constructor
      · rintro ⟨entry, hentry, hrest⟩
        exact ⟨entry, Assoc.mem_of_get? hentry, hrest⟩
      · rintro ⟨entry, hentry, hrest⟩
        exact ⟨entry, Assoc.get?_of_mem hnodup hentry, hrest⟩

/-- What names lead to in a proper tree is proper, and the names are those of entries. -/
theorem IsProper.of_get? (hproper : tree.IsProper) (hget : tree.get? names = some found) :
    found.IsProper ∧ ∀ name ∈ names, IsEntryName name := by
  induction names generalizing tree with
  | nil =>
      cases hget
      exact ⟨hproper, fun name hname => absurd hname List.not_mem_nil⟩
  | cons name rest ih =>
      obtain ⟨entries, rfl⟩ := exists_entries_of_get?_cons hget
      obtain ⟨entry, hentry, hrest⟩ := hproper.get?_cons_iff.mp hget
      cases hproper with
      | directory _ hnames hbelow =>
          obtain ⟨hfound, hothers⟩ := ih (hbelow _ hentry) hrest
          exact ⟨hfound, List.forall_mem_cons.mpr ⟨hnames _ hentry, hothers⟩⟩

/-! ## The order of entries -/

/-- The same tree with the entries of some of its directories in another order. -/
inductive Relisted : FileTree → FileTree → Prop where
  | refl (tree : FileTree) : Relisted tree tree
  | perm {entries others : List (String × FileTree)} (hperm : entries.Perm others) :
      Relisted (.directory entries) (.directory others)
  | within (before after : List (String × FileTree)) (name : String) {tree other : FileTree}
      (hentry : Relisted tree other) :
      Relisted (.directory (before ++ (name, tree) :: after))
        (.directory (before ++ (name, other) :: after))
  | trans {tree middle other : FileTree} (hfirst : Relisted tree middle)
      (hsecond : Relisted middle other) : Relisted tree other

/-- A directory stays a directory. -/
theorem Relisted.isDirectory (hrelisted : tree.Relisted other) :
    other.isDirectory = tree.isDirectory := by
  induction hrelisted with
  | refl tree => rfl
  | perm hperm => rfl
  | within before after name hentry ih => rfl
  | trans hfirst hsecond ihfirst ihsecond => exact ihsecond.trans ihfirst

/-- A file has no order of its own. -/
theorem Relisted.eq_of_isFile (hrelisted : tree.Relisted other) (hfile : tree.isDirectory = false) :
    other = tree := by
  induction hrelisted with
  | refl tree => rfl
  | perm hperm => cases hfile
  | within before after name hentry ih => cases hfile
  | trans hfirst hsecond ihfirst ihsecond =>
      rw [ihsecond (hfirst.isDirectory.trans hfile), ihfirst hfile]

theorem Relisted.isProper (hrelisted : tree.Relisted other) (hproper : tree.IsProper) :
    other.IsProper := by
  induction hrelisted with
  | refl tree => exact hproper
  | perm hperm =>
      cases hproper with
      | directory hnodup hnames hbelow =>
          refine .directory ((hperm.map Prod.fst).nodup_iff.mp hnodup) (fun entry hentry => ?_)
            fun entry hentry => ?_
          · exact hnames entry (hperm.mem_iff.mpr hentry)
          · exact hbelow entry (hperm.mem_iff.mpr hentry)
  | within before after name hentry ih =>
      cases hproper with
      | directory hnodup hnames hproper =>
          simp only [List.forall_mem_append, List.forall_mem_cons] at hnames hproper
          obtain ⟨hbefore, hself, hafter⟩ := hproper
          refine .directory (by simpa using hnodup) ?_ ?_
          all_goals simp only [List.forall_mem_append, List.forall_mem_cons]
          · exact hnames
          · exact ⟨hbefore, ih hself, hafter⟩
  | trans hfirst hsecond ihfirst ihsecond => exact ihsecond (ihfirst hproper)

theorem Relisted.symm (hrelisted : tree.Relisted other) : other.Relisted tree := by
  induction hrelisted with
  | refl tree => exact .refl tree
  | perm hperm => exact .perm hperm.symm
  | within before after name hentry ih => exact .within before after name ih
  | trans hfirst hsecond ihfirst ihsecond => exact .trans ihsecond ihfirst

/-- Where names lead to something in a proper tree, they do so in the other. -/
theorem Relisted.get? (hrelisted : tree.Relisted other) (hproper : tree.IsProper)
    (hget : tree.get? names = some found) :
    ∃ found', other.get? names = some found' ∧ found.Relisted found' := by
  have hother := hrelisted.isProper hproper
  induction hrelisted generalizing names found with
  | refl tree => exact ⟨found, hget, .refl found⟩
  | perm hperm =>
      cases names with
      | nil =>
          cases hget
          exact ⟨_, rfl, .perm hperm⟩
      | cons name rest =>
          obtain ⟨entry, hentry, hrest⟩ := hproper.get?_cons_iff.mp hget
          exact ⟨found, hother.get?_cons_iff.mpr ⟨entry, hperm.mem_iff.mp hentry, hrest⟩, .refl found⟩
  | within before after name hbelow ih =>
      cases names with
      | nil =>
          cases hget
          exact ⟨_, rfl, .within before after name hbelow⟩
      | cons first rest =>
          obtain ⟨entry, hentry, hrest⟩ := hproper.get?_cons_iff.mp hget
          rw [List.mem_append, List.mem_cons] at hentry
          -- all entries but one are the same in both directories
          rcases hentry with hbefore | heq | hafter
          · refine ⟨found, hother.get?_cons_iff.mpr ⟨entry, ?_, hrest⟩, .refl found⟩
            exact List.mem_append_left _ hbefore
          · cases heq
            cases hproper with
            | directory _ _ hproper =>
                have hentry := hproper _ (List.mem_append_right before List.mem_cons_self)
                obtain ⟨found', hfound', hrelisted⟩ := ih hentry hrest (hbelow.isProper hentry)
                refine ⟨found', hother.get?_cons_iff.mpr ⟨_, ?_, hfound'⟩, hrelisted⟩
                exact List.mem_append_right before List.mem_cons_self
          · refine ⟨found, hother.get?_cons_iff.mpr ⟨entry, ?_, hrest⟩, .refl found⟩
            exact List.mem_append_right before (List.mem_cons_of_mem _ hafter)
  | trans hfirst hsecond ihfirst ihsecond =>
      have hmiddle := hfirst.isProper hproper
      obtain ⟨middle, hget, hrelisted⟩ := ihfirst hproper hget hmiddle
      obtain ⟨last, hget, hrelisted'⟩ := ihsecond hmiddle hget hother
      exact ⟨last, hget, hrelisted.trans hrelisted'⟩

end FileTree

end CallChain
