import CallChain.Proofs.Index.Specifiers
import Mathlib

/-!
# The order and the identity of routines

The files of an index stand in the order of their paths.  A tree that was parsed declares its
functions on increasing lines, so the routines of the index stand in the order of file and line, and
no two of them have both in common.

A routine is identified by its key, the file, the line and the qualified name with colons in between.
A file can be called anything, also `a:1`.  But a line is a number and a name that was parsed consists
of identifiers, so neither contains a colon, and a key is taken apart from its end: `eq_of_key_eq`.
-/

namespace CallChain

open Python

namespace Routine

/-- The routine is declared in an earlier file than the other, or on an earlier line of its file. -/
def Precedes (a b : Routine) : Prop := a.file < b.file ∨ a.file = b.file ∧ a.line < b.line

theorem Precedes.before {a b : Routine} (hab : a.Precedes b) :
    a.before b = true ∧ b.before a = false := by
  unfold Routine.before
  rcases hab with hfile | ⟨hfile, hline⟩
  · rw [if_pos hfile.ne, if_pos hfile.ne']
    exact ⟨decide_eq_true hfile, decide_eq_false hfile.asymm⟩
  · rw [if_neg (not_not.mpr hfile), if_neg (not_not.mpr hfile.symm), if_pos hline.ne,
      if_pos hline.ne']
    exact ⟨decide_eq_true hline, decide_eq_false hline.asymm⟩

theorem before_self (a : Routine) : a.before a = false := by
  simp [Routine.before]

theorem colon_not_mem_repr (n : Nat) : ':' ∉ n.repr.toList := by
  intro hcolon
  rw [Nat.toList_repr] at hcolon
  have hdigit := Nat.isDigit_of_mem_toDigits (by omega) (by omega) hcolon
  revert hdigit
  decide

/-- A line is written in digits, perhaps behind a sign. -/
theorem colon_not_mem_line (line : Int) : ':' ∉ (toString line).toList := by
  cases line with
  | ofNat n => exact colon_not_mem_repr n
  | negSucc n =>
      change ':' ∉ ("-" ++ n.succ.repr).toList
      rw [String.toList_append, List.mem_append, not_or]
      exact ⟨by decide, colon_not_mem_repr _⟩

/-- A key can be read from its end: first the qualified name, then the line, and all that is left is
the file, whatever it contains. -/
theorem eq_of_key_eq {a b : Routine} (ha : ':' ∉ a.qualname.toList) (hb : ':' ∉ b.qualname.toList)
    (hkey : a.key = b.key) : a.file = b.file ∧ a.line = b.line ∧ a.qualname = b.qualname := by
  have hcut : ∀ r : Routine, ':' ∉ r.qualname.toList →
      Text.cutLast? ':' r.key = some (r.file ++ ":" ++ toString r.line, r.qualname) :=
    fun r hr => Index.cutLast?_specifier _ hr
  have hplace : a.file ++ ":" ++ toString a.line = b.file ++ ":" ++ toString b.line ∧
      a.qualname = b.qualname := by
    have hcuts := hcut a ha
    rw [hkey, hcut b hb] at hcuts
    exact (Prod.mk.inj (Option.some.inj hcuts)).imp Eq.symm Eq.symm
  have hline := Index.cutLast?_specifier a.file (colon_not_mem_line a.line)
  rw [hplace.1, Index.cutLast?_specifier b.file (colon_not_mem_line b.line)] at hline
  obtain ⟨hfile, htext⟩ := Prod.mk.inj (Option.some.inj hline)
  exact ⟨hfile.symm, (Int.repr_injective htext).symm, hplace.2⟩

end Routine

theorem SourceModule.IsParsed.pairwise_lines {m : SourceModule} (hm : m.IsParsed) :
    m.routines.Pairwise fun a b => a.line < b.line := by
  obtain ⟨name, text, tree, htree, rfl⟩ := hm
  exact pairwise_line_routines htree

namespace Index

variable {index : Index}

/-- What a specifier finds is picked from the routines of the index, in their order. -/
theorem findRoutines_sublist (index : Index) (spec : String) :
    (index.findRoutines spec).Sublist index.routines := by
  unfold findRoutines
  dsimp only
  split
  · exact List.nil_sublist _
  split
  · exact List.filter_sublist
  split
  · exact List.filter_sublist
  split
  · exact List.filter_sublist
  · exact List.filter_sublist

/-- The routines stand in the order of their files and, in a file, of their lines. -/
theorem Regular.pairwise_routines (hindex : index.Regular)
    (hfiles : index.files.Pairwise fun a b => a.file < b.file) :
    index.routines.Pairwise Routine.Precedes := by
  rw [routines, List.pairwise_flatMap]
  constructor
  · intro m hm
    have hparsed := hindex.resolver.parsed m hm
    refine hparsed.pairwise_lines.imp_of_mem ?_
    intro a b ha hb hline
    exact Or.inr ⟨(hparsed.file_eq ha).trans (hparsed.file_eq hb).symm, hline⟩
  · refine hfiles.imp_of_mem ?_
    intro m m' hm hm' hlt a ha b hb
    apply Or.inl
    rw [(hindex.resolver.parsed m hm).file_eq ha, (hindex.resolver.parsed m' hm').file_eq hb]
    exact hlt

theorem Regular.colon_not_mem_qualname (hindex : index.Regular) {r : Routine}
    (hr : r ∈ index.routines) : ':' ∉ r.qualname.toList := by
  obtain ⟨m, hm, hr⟩ := List.mem_flatMap.mp hr
  exact ((hindex.resolver.parsed m hm).dotted_qualname hr).not_mem (by decide) (by decide)

/-- Routines in order have different keys. -/
theorem Regular.pairwise_keys (hindex : index.Regular)
    (hordered : index.routines.Pairwise Routine.Precedes) :
    index.routines.Pairwise fun a b => a.key ≠ b.key := by
  refine hordered.imp_of_mem ?_
  intro a b ha hb hab hkey
  obtain ⟨hfile, hline, -⟩ := Routine.eq_of_key_eq (hindex.colon_not_mem_qualname ha)
    (hindex.colon_not_mem_qualname hb) hkey
  rcases hab with hlt | ⟨-, hlt⟩
  · exact hlt.ne hfile
  · exact hlt.ne hline

/-- Of two routines that stand in order at two positions, the one at the earlier position is before
the other. -/
theorem before_iff_lt {routines : List Routine} (hroutines : routines.Pairwise Routine.Precedes)
    {i j : Nat} (hi : i < routines.length) (hj : j < routines.length) :
    routines[i].before routines[j] = true ↔ i < j := by
  have hordered := List.pairwise_iff_getElem.mp hroutines
  rcases Nat.lt_trichotomy i j with hlt | rfl | hgt
  · exact iff_of_true (hordered i j hi hj hlt).before.1 hlt
  · exact iff_of_false (by simp [Routine.before_self]) (Nat.lt_irrefl i)
  · exact iff_of_false (by simp [(hordered j i hj hi hgt).before.2]) hgt.asymm

/-- For every set of sources, no path of which is given twice: the routines of the index increase
strictly in file and line, so that no two have the same key, and `before` is the order of the index.
Whatever one looks for, what is found is a part of the index, in that order and without
repetitions. -/
theorem routines_in_order (settings : Settings) (root : Option String)
    {sources : List (String × String)} (hpaths : (sources.map Prod.fst).Nodup) :
    let index := ofSources settings root sources
    index.routines.Pairwise Routine.Precedes ∧
      index.routines.Pairwise (fun a b => a.key ≠ b.key) ∧
      (∀ (i j : Nat) (hi : i < index.routines.length) (hj : j < index.routines.length),
        index.routines[i].before index.routines[j] = true ↔ i < j) ∧
      ∀ spec, (index.findRoutines spec).Sublist index.routines ∧
        (index.findRoutines spec).Pairwise Routine.Precedes ∧
        (index.findRoutines spec).Pairwise fun a b => a.key ≠ b.key := by
  intro index
  have hindex : index.Regular := regular_ofSources settings root hpaths
  have hordered := hindex.pairwise_routines (pairwise_files settings root hpaths)
  have hkeys := hindex.pairwise_keys hordered
  refine ⟨hordered, hkeys, fun i j hi hj => before_iff_lt hordered hi hj, fun spec => ?_⟩
  have hfound := index.findRoutines_sublist spec
  exact ⟨hfound, hordered.sublist hfound, hkeys.sublist hfound⟩

/-- Two files the second of which is called like the first with a line. -/
def colonsInNames : List (String × String) :=
  [("a", "def f(): pass\n"), ("a:1", "\ndef f(): pass\n")]

theorem routines_in_order_of_colons :
    (colonsInNames.map Prod.fst).Nodup ∧
      (ofSources {} none colonsInNames).routines.map Routine.key = ["a:1:f", "a:1:2:f"] ∧
      (ofSources {} none colonsInNames).routines.Pairwise Routine.Precedes ∧
      ∀ spec, ((ofSources {} none colonsInNames).findRoutines spec).Pairwise fun a b =>
        a.key ≠ b.key := by
  have hpaths : (colonsInNames.map Prod.fst).Nodup := by decide
  have hkeys : (ofSources {} none colonsInNames).routines.map Routine.key = ["a:1:f", "a:1:2:f"] := by
    rw [ofSources_of_sorted {} none (by decide)]
    decide +kernel
  obtain ⟨hordered, -, -, hfound⟩ := routines_in_order {} none hpaths
  exact ⟨hpaths, hkeys, hordered, fun spec => (hfound spec).2.2⟩

end Index

end CallChain
