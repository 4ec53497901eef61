import CallChain.Proofs.Index.Files
import CallChain.Proofs.Index.Receivers
import CallChain.Proofs.Resolver.Inheritance
import CallChain.Proofs.Nesting
import Mathlib.Data.Finset.Card

/-!
# Calls through `super()`

A call `super().m()` in a method of a class looks for `m` on the bases of the class, from left to
right, each with everything that it inherits.  The class that supplies the method is the first on
this way that has one: `Supplies`.

The bases are names, and what they mean is looked up in the file of the class, where the classes that
the file declares itself come first: `ReadsAs`.  So a class that extends an imported class of its own
name is taken for its own base, and so is a class that extends an earlier one of its name.  As long as
each base is read as a class that comes before (`BasesComeFirst`), the bases never lead back to the
class, and the call never means a method of the class that it is written in.  The bases come before if
each is imported or declared further up, under a name that the file gives to no other class
(`BasesAreNamed`), and the files do not take classes from each other in a circle.
-/

namespace CallChain

open Python

/-! ## Methods and the classes that declare them -/

namespace Resolver

variable {r : Resolver}

/-- Some file records the routine as a method of the class. -/
def DeclaresMethod (r : Resolver) (c : ClassEntry) (routine : Routine) : Prop :=
  ∃ m ∈ r.files, c ∈ m.classEntries ∧
    ∃ f ∈ m.functionDeclarations, f.routine = routine ∧ isClassAt c.path f.scope = true

theorem declaresMethod_of_get? (hr : r.Regular) {c : ClassEntry} (hc : r.Knows c) {name : String}
    {routine : Routine} (hget : Assoc.get? name c.methods = some routine) :
    r.DeclaresMethod c routine := by
  obtain ⟨m, hm, hmem⟩ := hc
  refine ⟨m, hm, hmem, ?_⟩
  obtain ⟨id, text, tree, -, rfl⟩ := hr.parsed m hm
  obtain ⟨s, -, declared, -, rfl⟩ := SourceModule.mem_classEntries_iff.mp hmem
  obtain ⟨f, hf, -, hroutine⟩ := Assoc.get?_foldl_put hget
  obtain ⟨hdeclared, hscope⟩ := List.mem_filter.mp hf
  exact ⟨f, hdeclared, hroutine, hscope⟩

/-- A routine is a method of one class only. -/
theorem DeclaresMethod.unique (hr : r.Regular) {c d : ClassEntry} {routine : Routine}
    (hc : r.DeclaresMethod c routine) (hd : r.DeclaresMethod d routine) : c = d := by
  obtain ⟨m, hm, hcm, f, hf, rfl, hfscope⟩ := hc
  obtain ⟨m', hm', hdm, g, hg, hroutine, hgscope⟩ := hd
  have hparsed := hr.parsed m hm
  have hfile : m.file = m'.file := by
    rw [← hparsed.file_eq (List.mem_map_of_mem hf), ← hroutine,
      (hr.parsed m' hm').file_eq (List.mem_map_of_mem hg)]
  obtain rfl := hr.eq_of_file_eq hm hm' hfile
  -- the functions of a file are told apart by their routines
  obtain rfl : g = f := List.inj_on_of_nodup_map hparsed.nodup_routines hg hf hroutine
  refine hparsed.class_eq_of_path_eq hcm hdm ?_
  cases hscope : g.scope with
  | none =>
      rw [hscope] at hfscope
      cases hfscope
  | some scope =>
      rw [hscope, isClassAt, Bool.and_eq_true, beq_iff_eq] at hfscope hgscope
      exact hfscope.2.symm.trans hgscope.2

/-! ## What a look-up on the bases finds -/

theorem lookupMethod?_eq_none_iff (hr : r.Distinct) {c : ClassEntry} (hc : r.Knows c)
    {name : String} :
    r.lookupMethod? c name = none ↔ ∀ d, r.Inherits c d → Assoc.get? name d.methods = none := by
  obtain ⟨order, horder, hsearch⟩ := exists_order hr hc
  rw [lookupMethod?, hsearch _ _ (Nat.le_refl _)]
  exact horder.findSome?_eq_none_iff _

/-- Going from a class depth first through its bases, `supplier` is the first class that has a method
of the name. -/
def ComesFirst (r : Resolver) (c : ClassEntry) (name : String) (supplier : ClassEntry) : Prop :=
  ∃ front back, r.Preorder [] [c] (front ++ supplier :: back) ∧
    (∀ d ∈ front, Assoc.get? name d.methods = none) ∧ (Assoc.get? name supplier.methods).isSome = true

theorem lookupMethod?_eq_some_iff (hr : r.Distinct) {c : ClassEntry} (hc : r.Knows c)
    {name : String} {routine : Routine} :
    r.lookupMethod? c name = some routine ↔
      ∃ supplier, r.ComesFirst c name supplier ∧ Assoc.get? name supplier.methods = some routine := by
  obtain ⟨order, horder, hsearch⟩ := exists_order hr hc
  rw [lookupMethod?, hsearch _ _ (Nat.le_refl _), List.findSome?_eq_some_iff]
  constructor
  · intro hfound
    obtain ⟨front, supplier, back, rfl, hget, hfront⟩ := hfound
    exact ⟨supplier, ⟨front, back, horder, hfront, by rw [hget]; rfl⟩, hget⟩
  · intro hsupplied
    obtain ⟨supplier, ⟨front, back, hother, hfront, -⟩, hget⟩ := hsupplied
    exact ⟨front, supplier, back, horder.unique hother, hget, hfront⟩

/-- Of the bases of a class, each looked through for itself, `supplier` is the first class that has a
method of the name. -/
def Supplies (r : Resolver) (owner : ClassEntry) (name : String) (supplier : ClassEntry) : Prop :=
  ∃ before base after, r.bases owner = before ++ base :: after ∧
    (∀ d ∈ before, ∀ e, r.Inherits d e → Assoc.get? name e.methods = none) ∧
    r.ComesFirst base name supplier

theorem Inherits.knows {c d : ClassEntry} (hinherits : r.Inherits c d) (hc : r.Knows c) :
    r.Knows d := by
  rcases Relation.ReflTransGen.cases_tail hinherits with rfl | ⟨e, -, hbase⟩
  · exact hc
  · exact knows_of_mem_bases hbase

theorem Supplies.exists_inherits {owner supplier : ClassEntry} {name : String}
    (hsupplies : r.Supplies owner name supplier) : ∃ base ∈ r.bases owner, r.Inherits base supplier := by
  obtain ⟨before, base, after, hbases, -, front, back, horder, -⟩ := hsupplies
  refine ⟨base, by simp [hbases], horder.mem_iff.mp ?_⟩
  simp

theorem Supplies.knows {owner supplier : ClassEntry} {name : String}
    (hsupplies : r.Supplies owner name supplier) : r.Knows supplier := by
  obtain ⟨base, hbase, hinherits⟩ := hsupplies.exists_inherits
  exact hinherits.knows (knows_of_mem_bases hbase)

theorem Supplies.exists_get? {owner supplier : ClassEntry} {name : String}
    (hsupplies : r.Supplies owner name supplier) :
    ∃ routine, Assoc.get? name supplier.methods = some routine := by
  obtain ⟨-, -, -, -, -, -, -, -, -, hsome⟩ := hsupplies
  exact Option.isSome_iff_exists.mp hsome

theorem findSome?_bases_eq_some_iff (hr : r.Distinct) {owner : ClassEntry} {name : String}
    {routine : Routine} :
    ((r.bases owner).findSome? fun base => r.lookupMethod? base name) = some routine ↔
      ∃ supplier, r.Supplies owner name supplier ∧
        Assoc.get? name supplier.methods = some routine := by
  have hknown : ∀ base ∈ r.bases owner, r.Knows base := fun base hbase => knows_of_mem_bases hbase
  rw [List.findSome?_eq_some_iff]
  constructor
  · intro hlookup
    obtain ⟨before, base, after, hbases, hfound, hbefore⟩ := hlookup
    obtain ⟨supplier, hfirst, hget⟩ :=
      (lookupMethod?_eq_some_iff hr (hknown base (by simp [hbases]))).mp hfound
    refine ⟨supplier, ⟨before, base, after, hbases, fun d hd => ?_, hfirst⟩, hget⟩
    exact (lookupMethod?_eq_none_iff hr (hknown d (by simp [hbases, hd]))).mp (hbefore d hd)
  · intro hsupplied
    obtain ⟨supplier, ⟨before, base, after, hbases, hbefore, hfirst⟩, hget⟩ := hsupplied
    refine ⟨before, base, after, hbases, ?_, fun d hd => ?_⟩
    · exact (lookupMethod?_eq_some_iff hr (hknown base (by simp [hbases]))).mpr ⟨supplier, hfirst, hget⟩
    · exact (lookupMethod?_eq_none_iff hr (hknown d (by simp [hbases, hd]))).mpr (hbefore d hd)

end Resolver

/-- The attribute of `super()` that a node calls, if it calls one. -/
def superCalled? : Node → Option String
  | .call _ (.member _ (.call _ (.name _ "super" _) _ _) attr _) _ _ => some attr
  | _ => none

/-! ## How bases are read -/

namespace SourceModule

variable {m : SourceModule}

/-- The class is the last one of the file with its qualified name. -/
def IsLastClass (m : SourceModule) (c : ClassEntry) : Prop :=
  ∃ before after, m.classEntries = before ++ c :: after ∧ ∀ d ∈ after, d.qualname ≠ c.qualname

theorem IsLastClass.mem {c : ClassEntry} (hlast : m.IsLastClass c) : c ∈ m.classEntries := by
  obtain ⟨before, after, hentries, -⟩ := hlast
  simp [hentries]

theorem get?_classes_eq (m : SourceModule) (qualname : String) :
    Assoc.get? qualname m.classes = m.classEntries.reverse.find? fun c => c.qualname == qualname := by
  rw [classes, Assoc.get?_foldl_put_eq, Option.map_id']

theorem get?_classes_eq_some_iff {qualname : String} {c : ClassEntry} :
    Assoc.get? qualname m.classes = some c ↔ c.qualname = qualname ∧ m.IsLastClass c := by
  rw [get?_classes_eq, find?_reverse_eq_some_iff fun d _ => beq_iff_eq]
  constructor
  · rintro ⟨before, after, hentries, rfl, hlast⟩
    exact ⟨rfl, before, after, hentries, hlast⟩
  · rintro ⟨rfl, before, after, hentries, hlast⟩
    exact ⟨before, after, hentries, rfl, hlast⟩

theorem get?_classes_eq_none_iff {qualname : String} :
    Assoc.get? qualname m.classes = none ↔ ∀ c ∈ m.classEntries, c.qualname ≠ qualname := by
  rw [get?_classes_eq]
  simp

end SourceModule

namespace Resolver

variable {r : Resolver}

/-- The class that a name means in a file.  A class that the file declares comes first, even if the
name is imported as well. -/
inductive ReadsAs (r : Resolver) (m : SourceModule) (written : String) (c : ClassEntry) : Prop
  | declared (hname : c.qualname = written) (hlast : m.IsLastClass c)
  | imported (hundeclared : ∀ d ∈ m.classEntries, d.qualname ≠ written)
      (himport : (m.imports.resolve? (Text.firstPart written)).isSome = true)
      (hclass : r.classByFullName? (m.imports.expand written) = some c)
  | alone (hundeclared : ∀ d ∈ m.classEntries, d.qualname ≠ written)
      (himport : m.imports.resolve? (Text.firstPart written) = none)
      (honly : (r.allClasses.filter fun d => d.name == Text.lastPart written) = [c])

theorem resolveClass?_eq_some_iff {m : SourceModule} {written : String} {c : ClassEntry} :
    r.resolveClass? written m = some c ↔ r.ReadsAs m written c := by
  unfold resolveClass?
  constructor
  · intro hfound
    split at hfound
    · rename_i d hget
      cases hfound
      obtain ⟨hname, hlast⟩ := SourceModule.get?_classes_eq_some_iff.mp hget
      exact .declared hname hlast
    rename_i hget
    have hundeclared := SourceModule.get?_classes_eq_none_iff.mp hget
    split at hfound
    · rename_i full himport
      exact .imported hundeclared (by rw [himport]; rfl) hfound
    rename_i himport
    split at hfound
    · rename_i one honly
      cases hfound
      exact .alone hundeclared himport honly
    · cases hfound
  · intro hreads
    cases hreads with
    | declared hname hlast => rw [SourceModule.get?_classes_eq_some_iff.mpr ⟨hname, hlast⟩]
    | imported hundeclared himport hclass =>
        obtain ⟨full, hfull⟩ := Option.isSome_iff_exists.mp himport
        rw [SourceModule.get?_classes_eq_none_iff.mpr hundeclared]
        simp only [hfull, hclass]
    | alone hundeclared himport honly =>
        rw [SourceModule.get?_classes_eq_none_iff.mpr hundeclared]
        simp only [himport, honly]

theorem homeOf?_eq (hr : r.Regular) {m : SourceModule} (hm : m ∈ r.files) {c : ClassEntry}
    (hc : c ∈ m.classEntries) : r.homeOf? c = some m := by
  have hfile := (hr.parsed m hm).file_of_mem_classEntries hc
  refine find?_eq_some_of_unique hm (beq_iff_eq.mpr hfile.symm) fun home hhome hsame => ?_
  exact hr.eq_of_file_eq hhome hm ((eq_of_beq hsame).trans hfile)

theorem bases_eq (hr : r.Regular) {m : SourceModule} (hm : m ∈ r.files) {c : ClassEntry}
    (hc : c ∈ m.classEntries) : r.bases c = c.bases.filterMap fun base => r.resolveClass? base m := by
  rw [bases, homeOf?_eq hr hm hc]

theorem mem_bases_iff (hr : r.Regular) {m : SourceModule} (hm : m ∈ r.files) {c base : ClassEntry}
    (hc : c ∈ m.classEntries) :
    base ∈ r.bases c ↔ ∃ written ∈ c.bases, r.ReadsAs m written base := by
  rw [bases_eq hr hm hc, List.mem_filterMap]
  simp only [resolveClass?_eq_some_iff]

end Resolver

/-! ## Bases that come first -/

/-- The class `d` is declared further up in the file than `c`. -/
def SourceModule.StandsBefore (m : SourceModule) (d c : ClassEntry) : Prop :=
  ∃ before after, m.classEntries = before ++ c :: after ∧ c ∉ before ∧ d ∈ before

namespace SourceModule.StandsBefore

variable {m : SourceModule} {c d e : ClassEntry}

theorem mem (hdc : m.StandsBefore d c) : d ∈ m.classEntries ∧ c ∈ m.classEntries := by
  obtain ⟨before, after, hentries, -, hd⟩ := hdc
  simp [hentries, hd]

theorem irrefl : ¬ m.StandsBefore c c := by
  intro hcc
  obtain ⟨before, after, -, hfirst, hc⟩ := hcc
  exact hfirst hc

theorem trans (hed : m.StandsBefore e d) (hdc : m.StandsBefore d c) : m.StandsBefore e c := by
  obtain ⟨before, after, hentries, hfirst, hd⟩ := hdc
  obtain ⟨before', after', hentries', hfirst', he⟩ := hed
  refine ⟨before, after, hentries, hfirst, ?_⟩
  -- `d` is in front of `c`, so what is in front of `d` is in front of `c`
  rcases List.append_eq_append_iff.mp (hentries'.symm.trans hentries) with
    ⟨between, hlong, -⟩ | ⟨between, hlong, -⟩
  · rw [hlong]
    exact List.mem_append_left _ he
  · exact absurd (hlong ▸ List.mem_append_left between hd) hfirst'

end SourceModule.StandsBefore

namespace Resolver

variable {r : Resolver}

/-- The class `d` comes before `c`, in a file of lower rank or further up in the same file. -/
def Earlier (r : Resolver) (rank : String → Nat) (d c : ClassEntry) : Prop :=
  rank d.file < rank c.file ∨ ∃ m ∈ r.files, m.StandsBefore d c

theorem Earlier.irrefl {rank : String → Nat} {c : ClassEntry} : ¬ r.Earlier rank c c := by
  intro hearlier
  rcases hearlier with hrank | ⟨m, -, hbefore⟩
  · exact Nat.lt_irrefl _ hrank
  · exact hbefore.irrefl

theorem Earlier.trans (hr : r.Regular) {rank : String → Nat} {c d e : ClassEntry}
    (hed : r.Earlier rank e d) (hdc : r.Earlier rank d c) : r.Earlier rank e c := by
  have hfile : ∀ m ∈ r.files, ∀ x ∈ m.classEntries, x.file = m.file :=
    fun m hm x hx => (hr.parsed m hm).file_of_mem_classEntries hx
  rcases hdc with hrank | ⟨m, hm, hbefore⟩
  · rcases hed with hlower | ⟨m, hm, hbefore⟩
    · exact .inl (hlower.trans hrank)
    · have hsame : e.file = d.file := by
        rw [hfile m hm e hbefore.mem.1, hfile m hm d hbefore.mem.2]
      exact .inl (hsame ▸ hrank)
  · obtain ⟨hd, hc⟩ := hbefore.mem
    rcases hed with hlower | ⟨m', hm', hbefore'⟩
    · exact .inl (by rwa [hfile m hm c hc, ← hfile m hm d hd])
    · have hsame : m.file = m'.file := by
        rw [← hfile m hm d hd, hfile m' hm' d hbefore'.mem.2]
      obtain rfl := hr.eq_of_file_eq hm hm' hsame
      exact .inr ⟨m, hm, hbefore'.trans hbefore⟩

/-- Each base, as it is read, is a class that comes before. -/
def BasesComeFirst (r : Resolver) (rank : String → Nat) : Prop :=
  ∀ c, r.Knows c → ∀ base ∈ r.bases c, r.Earlier rank base c

/-- Then whatever the bases lead to comes before. -/
theorem BasesComeFirst.earlier_of_inherits (hr : r.Regular) {rank : String → Nat}
    (hfirst : r.BasesComeFirst rank) {c base d : ClassEntry} (hbase : r.Earlier rank base c)
    (hinherits : r.Inherits base d) (hknown : r.Knows base) : r.Earlier rank d c := by
  induction hinherits with
  | refl => exact hbase
  | tail hreach hnext ih =>
      rename_i e d
      exact (hfirst e (Inherits.knows hreach hknown) d hnext).trans hr ih

/-- Each base of each class is written with a name that means one class of the file at most.  It is
imported and no class of the file has it, or one class further up has it and no other. -/
def BasesAreNamed (r : Resolver) : Prop :=
  ∀ m ∈ r.files, ∀ c ∈ m.classEntries, ∀ written ∈ c.bases,
    ((m.imports.resolve? (Text.firstPart written)).isSome = true ∧
      ∀ d ∈ m.classEntries, d.qualname ≠ written) ∨
    ∃ d, m.StandsBefore d c ∧ d.qualname = written ∧
      ∀ e ∈ m.classEntries, e.qualname = written → e = d

/-- A name that is imported into the first file means a class of the second. -/
def TakesFrom (r : Resolver) (file other : String) : Prop :=
  ∃ m ∈ r.files, m.file = file ∧ ∃ written c,
    (m.imports.resolve? (Text.firstPart written)).isSome = true ∧
    r.classByFullName? (m.imports.expand written) = some c ∧ c.file = other

theorem TakesFrom.mem (hr : r.Regular) {file other : String} (htakes : r.TakesFrom file other) :
    other ∈ r.files.map SourceModule.file := by
  obtain ⟨importer, -, -, written, c, -, hclass, rfl⟩ := htakes
  obtain ⟨m, hm, hc⟩ := knows_of_classByFullName? hclass
  rw [(hr.parsed m hm).file_of_mem_classEntries hc]
  exact List.mem_map_of_mem hm

/-- If no file takes from itself, not even through others, the files have a rank: the number of files
that one takes from. -/
theorem exists_rank_of_takesFrom (hr : r.Regular)
    (hacyclic : ∀ file, ¬ Relation.TransGen r.TakesFrom file file) :
    ∃ rank : String → Nat, ∀ file other, r.TakesFrom file other → rank other < rank file := by
  classical
  let below : String → Finset String := fun file =>
    (r.files.map SourceModule.file).toFinset.filter fun other => Relation.TransGen r.TakesFrom file other
  refine ⟨fun file => (below file).card, fun file other htakes => Finset.card_lt_card ?_⟩
  refine ⟨fun far hfar => ?_, fun hback => ?_⟩
  · obtain ⟨hmem, hreach⟩ := Finset.mem_filter.mp hfar
    exact Finset.mem_filter.mpr ⟨hmem, .head htakes hreach⟩
  · have hother : other ∈ below file :=
      Finset.mem_filter.mpr ⟨List.mem_toFinset.mpr (htakes.mem hr), .single htakes⟩
    exact hacyclic other (Finset.mem_filter.mp (hback hother)).2

/-- If no name of a base is declared twice or hidden by a class of the file, and no file takes classes
from itself, not even through others, then the bases come first. -/
theorem BasesAreNamed.exists_comeFirst (hr : r.Regular) (hnamed : r.BasesAreNamed)
    (hacyclic : ∀ file, ¬ Relation.TransGen r.TakesFrom file file) :
    ∃ rank, r.BasesComeFirst rank := by
  obtain ⟨rank, hrank⟩ := exists_rank_of_takesFrom hr hacyclic
  refine ⟨rank, fun c hknown base hbase => ?_⟩
  obtain ⟨m, hm, hc⟩ := hknown
  obtain ⟨written, hwritten, hreads⟩ := (mem_bases_iff hr hm hc).mp hbase
  have hfile : c.file = m.file := (hr.parsed m hm).file_of_mem_classEntries hc
  rcases hnamed m hm c hc written hwritten with ⟨himported, hfree⟩ | ⟨d, hbefore, hname, honly⟩
  · cases hreads with
    | declared hname hlast => exact absurd hname (hfree base hlast.mem)
    | imported _ himport hclass =>
        exact .inl (hrank _ _ ⟨m, hm, hfile.symm, written, base, himport, hclass, rfl⟩)
    | alone _ hnone _ => simp [hnone] at himported
  · have hundeclared : ¬ ∀ e ∈ m.classEntries, e.qualname ≠ written :=
      fun hfree => hfree d hbefore.mem.1 hname
    cases hreads with
    | declared hbaseName hlast =>
        rw [honly base hlast.mem hbaseName]
        exact .inr ⟨m, hm, hbefore⟩
    | imported hfree _ _ => exact absurd hfree hundeclared
    | alone hfree _ _ => exact absurd hfree hundeclared

/-! ## What a call through `super()` means -/

theorem meant_of_superCalled? {source : SourceModule} {s : Spot} {attr : String}
    (hcalled : superCalled? s.node = some attr) {owner : ClassEntry}
    (howner : Surroundings.methodClass? ⟨source, enclosingFunctions s⟩ = some owner) :
    r.meant source s = ((r.bases owner).findSome? fun base => r.lookupMethod? base attr).toList := by
  unfold superCalled? at hcalled
  split at hcalled
  · rename_i hnode
    cases hcalled
    simp only [meant, referenceAt?, hnode, targets, resolveCall, r.resolve_member_of_super howner]
  · cases hcalled

theorem mem_classEntries_of_methodClass? {here : Surroundings} {owner : ClassEntry}
    (howner : here.methodClass? = some owner) : owner ∈ here.source.classEntries := by
  obtain ⟨function, -, hfound⟩ := List.exists_of_findSome?_eq_some howner
  unfold Surroundings.ownerOf? at hfound
  split at hfound
  · split at hfound
    · exact SourceModule.mem_classEntries_of_classAt? hfound
    · cases hfound
  · cases hfound

/-- A call through `super()` reaches the class that supplies the method, and no other. -/
theorem exists_mem_meant_iff (hr : r.Regular) {source : SourceModule} {s : Spot} {attr : String}
    (hcalled : superCalled? s.node = some attr) {owner c : ClassEntry}
    (howner : Surroundings.methodClass? ⟨source, enclosingFunctions s⟩ = some owner) :
    (∃ routine ∈ r.meant source s, r.DeclaresMethod c routine) ↔ r.Supplies owner attr c := by
  rw [meant_of_superCalled? hcalled howner]
  constructor
  · intro hreached
    obtain ⟨routine, hroutine, hdeclares⟩ := hreached
    obtain ⟨supplier, hsupplies, hget⟩ :=
      (findSome?_bases_eq_some_iff hr.distinct_classes).mp (Option.mem_toList.mp hroutine)
    have hsupplier := declaresMethod_of_get? hr hsupplies.knows hget
    rwa [hdeclares.unique hr hsupplier]
  · intro hsupplies
    obtain ⟨routine, hget⟩ := hsupplies.exists_get?
    refine ⟨routine, Option.mem_toList.mpr ?_, declaresMethod_of_get? hr hsupplies.knows hget⟩
    exact (findSome?_bases_eq_some_iff hr.distinct_classes).mpr ⟨c, hsupplies, hget⟩

/-- Where the bases come first, a call through `super()` leaves the class. -/
theorem BasesComeFirst.not_declaresMethod (hr : r.Regular) {rank : String → Nat}
    (hfirst : r.BasesComeFirst rank) {source : SourceModule} (hsource : source ∈ r.files) {s : Spot}
    {attr : String} (hcalled : superCalled? s.node = some attr) {owner : ClassEntry}
    (howner : Surroundings.methodClass? ⟨source, enclosingFunctions s⟩ = some owner)
    {routine : Routine} (hroutine : routine ∈ r.meant source s) : ¬ r.DeclaresMethod owner routine := by
  intro hdeclares
  have hsupplies := (exists_mem_meant_iff hr hcalled howner).mp ⟨routine, hroutine, hdeclares⟩
  obtain ⟨base, hbase, hinherits⟩ := hsupplies.exists_inherits
  have hknown : r.Knows owner := ⟨source, hsource, mem_classEntries_of_methodClass? howner⟩
  have hearlier := hfirst owner hknown base hbase
  exact Earlier.irrefl (hfirst.earlier_of_inherits hr hearlier hinherits (knows_of_mem_bases hbase))

/-- So it does if each base is imported or declared further up, with a name that the file gives to no
other class, and the files do not take classes from each other in a circle. -/
theorem BasesAreNamed.not_declaresMethod (hr : r.Regular) (hnamed : r.BasesAreNamed)
    (hacyclic : ∀ file, ¬ Relation.TransGen r.TakesFrom file file) {source : SourceModule}
    (hsource : source ∈ r.files) {s : Spot} {attr : String}
    (hcalled : superCalled? s.node = some attr) {owner : ClassEntry}
    (howner : Surroundings.methodClass? ⟨source, enclosingFunctions s⟩ = some owner)
    {routine : Routine} (hroutine : routine ∈ r.meant source s) : ¬ r.DeclaresMethod owner routine := by
  obtain ⟨rank, hfirst⟩ := hnamed.exists_comeFirst hr hacyclic
  exact hfirst.not_declaresMethod hr hsource hcalled howner hroutine

/-- A class whose first base is read as the class itself is searched first. -/
theorem findSome?_bases_of_own_base (hr : r.Regular) {m : SourceModule} (hm : m ∈ r.files)
    {owner : ClassEntry} (howner : owner ∈ m.classEntries)
    (hown : ∃ written, owner.bases.head? = some written ∧ r.ReadsAs m written owner)
    {attr : String} {routine : Routine} (hget : Assoc.get? attr owner.methods = some routine) :
    ((r.bases owner).findSome? fun base => r.lookupMethod? base attr) = some routine := by
  obtain ⟨written, hhead, hreads⟩ := hown
  obtain ⟨rest, hbases⟩ := List.head?_eq_some_iff.mp hhead
  have hknown : r.Knows owner := ⟨m, hm, howner⟩
  obtain ⟨order, horder, hsearch⟩ := exists_order hr.distinct_classes hknown
  have hfound : r.lookupMethod? owner attr = some routine := by
    cases horder with
    | again hseen _ => cases hseen
    | enter hnew hbelow hrest =>
        rw [lookupMethod?, hsearch _ _ (Nat.le_refl _), List.findSome?_cons, hget]
  rw [bases_eq hr hm howner, hbases, List.filterMap_cons, resolveClass?_eq_some_iff.mpr hreads,
    List.findSome?_cons, hfound]

end Resolver

namespace Index

/-- Let a call `super().attr()` be written in a method of a class.  It means at most one routine, and
that is a method of the class that supplies `attr` to the bases.  The bases are the classes that
their names are read as.  If each base of each class is read as a class that comes before, then the
routine is not a method of the class itself.  But if the first base has the name of the class, then
the class is its own base, and the routine is its own method. -/
theorem super_calls_go_to_bases (settings : Settings) (root : Option String)
    {sources : List (String × String)} (hpaths : (sources.map Prod.fst).Nodup) {m : SourceModule}
    (hm : m ∈ (ofSources settings root sources).files) {s : Spot} {attr : String}
    (hcalled : superCalled? s.node = some attr) {owner : ClassEntry}
    (howner : Surroundings.methodClass? ⟨m, enclosingFunctions s⟩ = some owner) :
    let r := (ofSources settings root sources).resolver
    (r.meant m s).length ≤ 1 ∧
      (∀ c, (∃ routine ∈ r.meant m s, r.DeclaresMethod c routine) ↔ r.Supplies owner attr c) ∧
      (∀ base, base ∈ r.bases owner ↔ ∃ written ∈ owner.bases, r.ReadsAs m written base) ∧
      (∀ rank, r.BasesComeFirst rank →
        ∀ routine ∈ r.meant m s, ¬ r.DeclaresMethod owner routine) ∧
      (owner.bases.head? = some owner.qualname → m.IsLastClass owner →
        ∀ routine, Assoc.get? attr owner.methods = some routine →
          r.meant m s = [routine] ∧ r.DeclaresMethod owner routine) := by
  intro r
  have hr : r.Regular := (regular_ofSources settings root hpaths).resolver
  have hentry := Resolver.mem_classEntries_of_methodClass? howner
  have hmeant : r.meant m s =
      ((r.bases owner).findSome? fun base => r.lookupMethod? base attr).toList :=
    Resolver.meant_of_superCalled? hcalled howner
  have hreaches := fun c => Resolver.exists_mem_meant_iff hr hcalled howner (c := c)
  refine ⟨hmeant ▸ Resolver.length_toList_le _, hreaches, fun base => Resolver.mem_bases_iff hr hm hentry,
    ?_, ?_⟩
  · exact fun rank hfirst routine => hfirst.not_declaresMethod hr hm hcalled howner
  · intro hhead hlast routine hget
    have hown := Resolver.findSome?_bases_of_own_base hr hm hentry ⟨_, hhead, .declared rfl hlast⟩ hget
    rw [hmeant, hown]
    exact ⟨rfl, Resolver.declaresMethod_of_get? hr ⟨m, hm, hentry⟩ hget⟩

/-- A class that extends an imported one and calls the method that it overrides. -/
def importedBase : List (String × String) :=
  [("base.py", "class B:\n    def m(self):\n        return 1\n"),
    ("main.py", "from base import B\n\nclass C(B):\n    def m(self):\n        return super().m()\n")]

/-- The file that is imported comes first. -/
def baseFirst (file : String) : Nat := if file = "base.py" then 0 else 1

theorem super_calls_go_to_bases_of_imported_base :
    ∃ m ∈ (ofSources {} none importedBase).files, ∃ s owner, s.IsIn m.tree ∧
      superCalled? s.node = some "m" ∧
      Surroundings.methodClass? ⟨m, enclosingFunctions s⟩ = some owner ∧ owner.qualname = "C" ∧
      (ofSources {} none importedBase).resolver.BasesComeFirst baseFirst ∧
      (ofSources {} none importedBase).resolver.meant m s ≠ [] ∧
      ∀ routine ∈ (ofSources {} none importedBase).resolver.meant m s,
        ¬ (ofSources {} none importedBase).resolver.DeclaresMethod owner routine := by
  have hfacts : (∀ c ∈ (ofSources {} none importedBase).resolver.entries,
        ∀ base ∈ (ofSources {} none importedBase).resolver.bases c,
          baseFirst base.file < baseFirst c.file) ∧
      ∃ m ∈ (ofSources {} none importedBase).files, ∃ s ∈ (Spot.root m.tree).walk,
        superCalled? s.node = some "m" ∧
        ∃ owner ∈ (Surroundings.methodClass? ⟨m, enclosingFunctions s⟩).toList,
          owner.qualname = "C" ∧
          ((ofSources {} none importedBase).resolver.meant m s).isEmpty = false := by
    rw [@ofSources_of_sorted {} none importedBase (by decide)]
    decide +kernel
  obtain ⟨hbases, m, hm, s, hs, hcalled, owner, howner, hname, hmeant⟩ := hfacts
  rw [Option.mem_toList] at howner
  have hfirst : (ofSources {} none importedBase).resolver.BasesComeFirst baseFirst :=
    fun c hc base hbase => .inl (hbases c (Resolver.mem_entries_iff.mpr hc) base hbase)
  refine ⟨m, hm, s, owner, Spot.mem_walk_iff.mp hs, hcalled, howner, hname, hfirst, ?_, ?_⟩
  · intro hnone
    rw [hnone] at hmeant
    cases hmeant
  · exact (super_calls_go_to_bases {} none (by decide) hm hcalled howner).2.2.2.1 _ hfirst

/-- A class that extends an imported one of its own name. -/
def homonymousBase : List (String × String) :=
  [("base.py", "class C:\n    def m(self):\n        return 1\n"),
    ("main.py", "from base import C\n\nclass C(C):\n    def m(self):\n        return super().m()\n")]

/-- All bases are imported, and the imported class has the method, but the call goes back to the class
that it is written in. -/
theorem homonymous_base_is_taken_for_itself :
    (∀ m ∈ (ofSources {} none homonymousBase).files, ∀ c ∈ m.classEntries, ∀ written ∈ c.bases,
      (m.imports.resolve? written).isSome = true) ∧
    ∃ m ∈ (ofSources {} none homonymousBase).files, ∃ s owner imported routine, s.IsIn m.tree ∧
      superCalled? s.node = some "m" ∧
      Surroundings.methodClass? ⟨m, enclosingFunctions s⟩ = some owner ∧ owner.bases = ["C"] ∧
      (ofSources {} none homonymousBase).resolver.classByFullName? (m.imports.expand "C") =
        some imported ∧
      imported.file = "base.py" ∧ (Assoc.get? "m" imported.methods).isSome = true ∧
      (ofSources {} none homonymousBase).resolver.meant m s = [routine] ∧
      (ofSources {} none homonymousBase).resolver.DeclaresMethod owner routine := by
  have hfacts : (∀ m ∈ (ofSources {} none homonymousBase).files, ∀ c ∈ m.classEntries,
        ∀ written ∈ c.bases, (m.imports.resolve? written).isSome = true) ∧
      ∃ m ∈ (ofSources {} none homonymousBase).files, ∃ s ∈ (Spot.root m.tree).walk,
      superCalled? s.node = some "m" ∧
      ∃ owner ∈ (Surroundings.methodClass? ⟨m, enclosingFunctions s⟩).toList,
        owner.bases = ["C"] ∧ owner.qualname = "C" ∧ m.classEntries.length = 1 ∧
        (Assoc.get? "m" owner.methods).isSome = true ∧
        ∃ imported ∈ ((ofSources {} none homonymousBase).resolver.classByFullName?
            (m.imports.expand "C")).toList,
          imported.file = "base.py" ∧ (Assoc.get? "m" imported.methods).isSome = true := by
    rw [@ofSources_of_sorted {} none homonymousBase (by decide)]
    decide +kernel
  obtain ⟨himports, m, hm, s, hs, hcalled, owner, howner, hbases, hname, hlength, hsome, imported,
    himported, hfile, hmethod⟩ := hfacts
  rw [Option.mem_toList] at howner himported
  obtain ⟨routine, hget⟩ := Option.isSome_iff_exists.mp hsome
  have hr : (ofSources {} none homonymousBase).resolver.Regular :=
    (@regular_ofSources {} none homonymousBase (by decide)).resolver
  have hentry := Resolver.mem_classEntries_of_methodClass? howner
  obtain ⟨only, honly⟩ := List.length_eq_one_iff.mp hlength
  obtain rfl : owner = only := List.mem_singleton.mp (honly ▸ hentry)
  have hown := Resolver.findSome?_bases_of_own_base hr hm hentry
    ⟨"C", by rw [hbases]; rfl, .declared hname ⟨[], [], honly, by simp⟩⟩ hget
  refine ⟨himports, m, hm, s, owner, imported, routine, Spot.mem_walk_iff.mp hs, hcalled, howner, hbases,
    himported, hfile, hmethod, ?_, Resolver.declaresMethod_of_get? hr ⟨m, hm, hentry⟩ hget⟩
  rw [Resolver.meant_of_superCalled? hcalled howner, hown]
  rfl

end Index

end CallChain
