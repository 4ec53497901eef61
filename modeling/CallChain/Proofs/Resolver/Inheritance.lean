import CallChain.Proofs.Index.Mentions
import CallChain.Proofs.Scopes
import Mathlib.Logic.Relation

/-!
# Looking something up on a class and its bases

`Preorder` says in which order classes are entered: depth first, the bases of a class from left to
right, and none that has been entered before.  Every look-up goes through the classes in this order
and stops at the first that has what is looked for (`searchBases_of_preorder`).  So the bound on its
steps is never met, however the bases lead around: a class that is entered uses up its own bases and
no other class can use them again.

The classes entered are those that can be reached through bases, each once (`Preorder.mem_iff`).  One
list of seen classes is shared by all branches, so a class may be passed over in one branch because
another has entered it.  Nothing is lost by that, since whatever has been entered comes with its
bases: `Preorder.closed`.
-/

namespace CallChain

namespace Resolver

variable {r : Resolver}

/-! ## The order of classes -/

/-- The classes that are entered, in order, where some have been seen before and the classes of a
list remain.  What has been entered last stands first among the seen. -/
inductive Preorder (r : Resolver) : List ClassEntry → List ClassEntry → List ClassEntry → Prop
  | done {seen : List ClassEntry} : Preorder r seen [] []
  | again {seen : List ClassEntry} {c : ClassEntry} {rest order : List ClassEntry}
      (hseen : c ∈ seen) (hrest : Preorder r seen rest order) : Preorder r seen (c :: rest) order
  | enter {seen : List ClassEntry} {c : ClassEntry} {rest below after : List ClassEntry}
      (hnew : c ∉ seen) (hbelow : Preorder r (c :: seen) (r.bases c) below)
      (hrest : Preorder r (below.reverse ++ c :: seen) rest after) :
      Preorder r seen (c :: rest) (c :: (below ++ after))

/-- A class is the other one, or a base of it, or a base of a base, and so on. -/
def Inherits (r : Resolver) (c d : ClassEntry) : Prop :=
  Relation.ReflTransGen (fun c base => base ∈ r.bases c) c d

namespace Preorder

variable {seen classes order : List ClassEntry}

/-- There is only one order. -/
theorem unique (horder : r.Preorder seen classes order) {other : List ClassEntry}
    (hother : r.Preorder seen classes other) : order = other := by
  induction horder generalizing other with
  | done =>
      cases hother
      rfl
  | again hseen _ ih =>
      cases hother with
      | again _ hrest => exact ih hrest
      | enter hnew _ _ => exact absurd hseen hnew
  | enter hnew _ _ ihbelow ihrest =>
      cases hother with
      | again hseen _ => exact absurd hseen hnew
      | enter _ hbelow hrest =>
          obtain rfl := ihbelow hbelow
          rw [ihrest hrest]

theorem not_mem_seen (horder : r.Preorder seen classes order) : ∀ c ∈ order, c ∉ seen := by
  induction horder with
  | done => simp
  | again _ _ ih => exact ih
  | enter hnew _ _ ihbelow ihrest =>
      intro d hd
      rcases List.mem_cons.mp hd with rfl | hd
      · exact hnew
      rcases List.mem_append.mp hd with hbelow | hafter
      · exact fun hseen => ihbelow d hbelow (List.mem_cons_of_mem _ hseen)
      · intro hseen
        exact ihrest d hafter (List.mem_append_right _ (List.mem_cons_of_mem _ hseen))

theorem nodup (horder : r.Preorder seen classes order) : order.Nodup := by
  induction horder with
  | done => exact List.nodup_nil
  | again _ _ ih => exact ih
  | @enter seen c rest below after hnew hbelow hrest ihbelow ihrest =>
      have hc : c ∉ below := fun hmem => hbelow.not_mem_seen c hmem List.mem_cons_self
      have hlater : ∀ d ∈ after, d ∉ below ∧ d ≠ c := by
        intro d hd
        have hunseen := hrest.not_mem_seen d hd
        simp only [List.mem_append, List.mem_reverse, List.mem_cons, not_or] at hunseen
        exact ⟨hunseen.1, hunseen.2.1⟩
      refine List.nodup_cons.mpr ⟨?_, ihbelow.append ihrest fun d hd hd' => (hlater d hd').1 hd⟩
      rw [List.mem_append, not_or]
      exact ⟨hc, fun hmem => (hlater c hmem).2 rfl⟩

/-- Whatever is entered can be reached from a class of the list. -/
theorem exists_inherits (horder : r.Preorder seen classes order) :
    ∀ d ∈ order, ∃ c ∈ classes, r.Inherits c d := by
  induction horder with
  | done => simp
  | again _ _ ih =>
      intro d hd
      obtain ⟨c, hc, hreach⟩ := ih d hd
      exact ⟨c, List.mem_cons_of_mem _ hc, hreach⟩
  | @enter seen c rest below after hnew hbelow hrest ihbelow ihrest =>
      intro d hd
      rcases List.mem_cons.mp hd with rfl | hd
      · exact ⟨d, List.mem_cons_self, .refl⟩
      rcases List.mem_append.mp hd with hd | hd
      · obtain ⟨base, hbase, hreach⟩ := ihbelow d hd
        exact ⟨c, List.mem_cons_self, .head hbase hreach⟩
      · obtain ⟨other, hother, hreach⟩ := ihrest d hd
        exact ⟨other, List.mem_cons_of_mem _ hother, hreach⟩

/-- Every class of the list has been seen or is entered. -/
theorem mem_of_mem_classes (horder : r.Preorder seen classes order) :
    ∀ c ∈ classes, c ∈ seen ∨ c ∈ order := by
  induction horder with
  | done => simp
  | again hseen _ ih =>
      intro d hd
      rcases List.mem_cons.mp hd with rfl | hd
      · exact .inl hseen
      · exact ih d hd
  | @enter seen c rest below after hnew hbelow hrest ihbelow ihrest =>
      intro d hd
      rcases List.mem_cons.mp hd with rfl | hd
      · exact .inr List.mem_cons_self
      · have hd := ihrest d hd
        simp only [List.mem_append, List.mem_reverse, List.mem_cons] at hd ⊢
        tauto

/-- The bases of a class that is entered have been seen or are entered themselves. -/
theorem closed (horder : r.Preorder seen classes order) :
    ∀ c ∈ order, ∀ base ∈ r.bases c, base ∈ seen ∨ base ∈ order := by
  induction horder with
  | done => simp
  | again _ _ ih => exact ih
  | @enter seen c rest below after hnew hbelow hrest ihbelow ihrest =>
      intro d hd base hbase
      have hseen : base ∈ c :: seen ∨ base ∈ below ∨ base ∈ after := by
        rcases List.mem_cons.mp hd with rfl | hd
        · exact (hbelow.mem_of_mem_classes base hbase).imp_right .inl
        rcases List.mem_append.mp hd with hd | hd
        · exact (ihbelow d hd base hbase).imp_right .inl
        · have hlater := ihrest d hd base hbase
          rw [List.mem_append, List.mem_reverse] at hlater
          tauto
      simp only [List.mem_cons, List.mem_append] at hseen ⊢
      tauto

/-- From nothing seen, the classes entered are those that can be reached. -/
theorem mem_iff {c : ClassEntry} (horder : r.Preorder [] [c] order) {d : ClassEntry} :
    d ∈ order ↔ r.Inherits c d := by
  constructor
  · intro hd
    obtain ⟨first, hfirst, hreach⟩ := horder.exists_inherits d hd
    obtain rfl := List.mem_singleton.mp hfirst
    exact hreach
  · intro hreach
    induction hreach with
    | refl => simpa using horder.mem_of_mem_classes c List.mem_cons_self
    | tail _ hbase ih => simpa using horder.closed _ ih _ hbase

end Preorder

/-! ## There is an order -/

/-- All classes of all files. -/
def entries (r : Resolver) : List ClassEntry := r.files.flatMap SourceModule.classEntries

theorem mem_entries_iff {c : ClassEntry} : c ∈ r.entries ↔ r.Knows c := List.mem_flatMap

/-- How many classes a list holds, together with the bases that are written for them. -/
def load (classes : List ClassEntry) : Nat :=
  (classes.flatMap ClassEntry.bases).length + classes.length

theorem load_append (front back : List ClassEntry) : load (front ++ back) = load front + load back := by
  simp only [load, List.flatMap_append, List.length_append]
  omega

theorem load_cons (c : ClassEntry) (rest : List ClassEntry) :
    load (c :: rest) = c.bases.length + 1 + load rest := by
  simp only [load, List.flatMap_cons, List.length_append, List.length_cons]
  omega

theorem load_le_of_sublist {few many : List ClassEntry} (hfew : few.Sublist many) :
    load few ≤ load many := by
  induction hfew with
  | slnil => exact Nat.le_refl _
  | cons c _ ih =>
      rw [load_cons]
      omega
  | cons_cons c _ ih =>
      rw [load_cons, load_cons]
      omega

open scoped Classical in
/-- The load of the classes that have not been seen. -/
noncomputable def unseenLoad (r : Resolver) (seen : List ClassEntry) : Nat :=
  load (r.entries.filter fun c => c ∉ seen)

theorem unseenLoad_append_le (r : Resolver) (more seen : List ClassEntry) :
    r.unseenLoad (more ++ seen) ≤ r.unseenLoad seen := by
  classical
  refine load_le_of_sublist (List.monotone_filter_right _ fun c hc => ?_)
  simp only [List.mem_append, not_or, decide_eq_true_eq] at hc ⊢
  exact hc.2

theorem length_bases_le (r : Resolver) (c : ClassEntry) : (r.bases c).length ≤ c.bases.length := by
  unfold bases
  split
  · exact List.length_filterMap_le _ _
  · exact Nat.zero_le _

/-- To enter a class takes as much as its bases and itself off the load. -/
theorem unseenLoad_cons {c : ClassEntry} {seen : List ClassEntry} (hc : r.Knows c)
    (hnew : c ∉ seen) :
    (r.bases c).length + 1 + r.unseenLoad (c :: seen) ≤ r.unseenLoad seen := by
  classical
  have hmem : c ∈ r.entries.filter fun d => d ∉ seen :=
    List.mem_filter.mpr ⟨mem_entries_iff.mpr hc, by simpa using hnew⟩
  obtain ⟨front, back, hsplit⟩ := List.append_of_mem hmem
  have hless : (r.entries.filter fun d => d ∉ c :: seen) =
      (front ++ back).filter fun d => d ≠ c := by
    have htwice : (r.entries.filter fun d => d ∉ c :: seen) =
        (r.entries.filter fun d => d ∉ seen).filter fun d => d ≠ c := by
      rw [List.filter_filter]
      refine List.filter_congr fun d _ => ?_
      simp [List.mem_cons, not_or]
    rw [htwice, hsplit]
    simp
  have hbound : load ((front ++ back).filter fun d => d ≠ c) ≤ load front + load back := by
    rw [← load_append]
    exact load_le_of_sublist List.filter_sublist
  have hbases := r.length_bases_le c
  rw [unseenLoad, unseenLoad, hless, hsplit, load_append, load_cons]
  omega

/-- From known classes there is an order, whatever has been seen. -/
theorem exists_preorder (seen : List ClassEntry) {classes : List ClassEntry}
    (hclasses : ∀ c ∈ classes, r.Knows c) :
    ∃ order, r.Preorder seen classes order := by
  -- by induction on a number above what remains to be looked at
  suffices hbounded : ∀ bound seen classes, (∀ c ∈ classes, r.Knows c) →
      classes.length + r.unseenLoad seen ≤ bound → ∃ order, r.Preorder seen classes order from
    hbounded _ seen classes hclasses (Nat.le_refl _)
  intro bound
  induction bound with
  | zero =>
      intro seen classes _ hbound
      obtain rfl : classes = [] := List.eq_nil_of_length_eq_zero (by omega)
      exact ⟨[], .done⟩
  | succ bound ih =>
      intro seen classes hclasses hbound
      cases classes with
      | nil => exact ⟨[], .done⟩
      | cons c rest =>
          rw [List.length_cons] at hbound
          have hrest : ∀ d ∈ rest, r.Knows d := fun d hd => hclasses d (List.mem_cons_of_mem _ hd)
          by_cases hseen : c ∈ seen
          · obtain ⟨order, horder⟩ := ih seen rest hrest (by omega)
            exact ⟨order, .again hseen horder⟩
          · have hless := unseenLoad_cons (hclasses c List.mem_cons_self) hseen
            obtain ⟨below, hbelow⟩ :=
              ih (c :: seen) (r.bases c) (fun base hbase => knows_of_mem_bases hbase) (by omega)
            have hmore := r.unseenLoad_append_le below.reverse (c :: seen)
            obtain ⟨after, hafter⟩ := ih (below.reverse ++ c :: seen) rest hrest (by omega)
            exact ⟨_, .enter hseen hbelow hafter⟩

/-! ## A look-up follows the order -/

/-- No two classes have the same identity. -/
def Distinct (r : Resolver) : Prop := ∀ c d, r.Knows c → r.Knows d → classId c = classId d → c = d

/-- The classes of parsed files are told apart by their files and their places in them. -/
theorem Regular.distinct_classes (hr : r.Regular) : r.Distinct := by
  rintro c d ⟨m, hm, hc⟩ ⟨m', hm', hd⟩ hid
  obtain ⟨hfile, hpath⟩ := Prod.mk.inj hid
  rw [(hr.parsed m hm).file_of_mem_classEntries hc,
    (hr.parsed m' hm').file_of_mem_classEntries hd] at hfile
  obtain rfl := hr.eq_of_file_eq hm hm' hfile
  exact (hr.parsed m hm).class_eq_of_path_eq hc hd hpath

theorem Distinct.contains_iff (hr : r.Distinct) {seen : List ClassEntry}
    (hseen : ∀ d ∈ seen, r.Knows d) {c : ClassEntry} (hc : r.Knows c) :
    (seen.map classId).contains (classId c) = true ↔ c ∈ seen := by
  rw [List.contains_iff_mem, List.mem_map]
  constructor
  · rintro ⟨d, hd, hid⟩
    rwa [← hr d c (hseen d hd) hc hid]
  · exact fun hmem => ⟨c, hmem, rfl⟩

theorem Preorder.knows {seen classes order : List ClassEntry} (horder : r.Preorder seen classes order)
    (hclasses : ∀ c ∈ classes, r.Knows c) : ∀ c ∈ order, r.Knows c := by
  intro d hd
  obtain ⟨c, hc, hreach⟩ := horder.exists_inherits d hd
  rcases Relation.ReflTransGen.cases_tail hreach with rfl | ⟨_, _, hbase⟩
  · exact hclasses _ hc
  · exact knows_of_mem_bases hbase

/-- A look-up that enters a class in vain goes on with the bases of the class, and then with the other
classes. -/
theorem searchBases_enter {α : Type} {look : ClassEntry → Option α} {c : ClassEntry}
    {ids : List (String × List Nat)} (hnew : ids.contains (classId c) = false)
    (hlook : look c = none) (fuel : Nat) (rest : List ClassEntry) :
    r.searchBases look (fuel + 1) (c :: rest) ids =
      if (r.searchBases look fuel (r.bases c) (classId c :: ids)).1.isSome then
        r.searchBases look fuel (r.bases c) (classId c :: ids)
      else r.searchBases look fuel rest (r.searchBases look fuel (r.bases c) (classId c :: ids)).2 := by
  rw [searchBases, hnew]
  simp only [Bool.false_eq_true, if_false, hlook]
  cases r.searchBases look fuel (r.bases c) (classId c :: ids) with
  | mk found ids => cases found <;> rfl

/-- A look-up finds what the first class in order has, and if there is none it has seen the classes of
the order in addition. -/
theorem searchBases_of_preorder (hr : r.Distinct) {α : Type} (look : ClassEntry → Option α)
    {seen classes order : List ClassEntry} (horder : r.Preorder seen classes order)
    (hseen : ∀ c ∈ seen, r.Knows c) (hclasses : ∀ c ∈ classes, r.Knows c) {fuel : Nat}
    (hfuel : classes.length + r.unseenLoad seen ≤ fuel) :
    (r.searchBases look fuel classes (seen.map classId)).1 = order.findSome? look ∧
      (order.findSome? look = none →
        (r.searchBases look fuel classes (seen.map classId)).2 = (order.reverse ++ seen).map classId) := by
  induction horder generalizing fuel with
  | done => cases fuel <;> exact ⟨rfl, fun _ => rfl⟩
  | @again seen c rest order hmem _ ih =>
      rw [List.length_cons] at hfuel
      obtain ⟨fuel, rfl⟩ : ∃ n, fuel = n + 1 := ⟨fuel - 1, by omega⟩
      rw [searchBases, if_pos ((hr.contains_iff hseen (hclasses c List.mem_cons_self)).mpr hmem)]
      exact ih hseen (fun d hd => hclasses d (List.mem_cons_of_mem _ hd)) (by omega)
  | @enter seen c rest below after hnew hbelow hrest ihbelow ihrest =>
      have hc : r.Knows c := hclasses c List.mem_cons_self
      have hbases : ∀ base ∈ r.bases c, r.Knows base := fun base hbase => knows_of_mem_bases hbase
      have hentered : ∀ d ∈ c :: seen, r.Knows d := List.forall_mem_cons.mpr ⟨hc, hseen⟩
      have hbehind : ∀ d ∈ below.reverse ++ c :: seen, r.Knows d := by
        intro d hd
        rcases List.mem_append.mp hd with hd | hd
        · exact hbelow.knows hbases d (List.mem_reverse.mp hd)
        · exact hentered d hd
      have hless := unseenLoad_cons hc hnew
      have hmore := r.unseenLoad_append_le below.reverse (c :: seen)
      rw [List.length_cons] at hfuel
      obtain ⟨fuel, rfl⟩ : ∃ n, fuel = n + 1 := ⟨fuel - 1, by omega⟩
      have hfresh : (seen.map classId).contains (classId c) = false := by
        rw [← Bool.not_eq_true]
        exact fun hcontains => hnew ((hr.contains_iff hseen hc).mp hcontains)
      rw [List.findSome?_cons, List.findSome?_append]
      cases hlook : look c with
      | some found =>
          rw [searchBases, hfresh]
          simp [hlook]
      | none =>
          obtain ⟨hfound, hlist⟩ := @ihbelow hentered hbases fuel (by omega)
          obtain ⟨hfound', hlist'⟩ :=
            @ihrest hbehind (fun d hd => hclasses d (List.mem_cons_of_mem _ hd)) fuel (by omega)
          rw [List.map_cons] at hfound hlist
          rw [searchBases_enter hfresh hlook, hfound]
          -- what is found on the bases is found before anything on the classes behind
          cases hbases : below.findSome? look with
          | some found => simpa using hfound.trans hbases
          | none =>
              rw [hlist hbases]
              refine ⟨hfound', fun hnone => (hlist' hnone).trans ?_⟩
              simp

theorem load_entries_le (r : Resolver) : 1 + r.unseenLoad [] ≤ r.classBound := by
  have hall : r.unseenLoad [] = load r.entries := by
    rw [unseenLoad, List.filter_eq_self.mpr]
    simp
  rw [hall, load, classBound, entries]
  omega

/-- What a look-up from a class gives, with the bound on its steps or any larger one. -/
theorem exists_order (hr : r.Distinct) {c : ClassEntry} (hc : r.Knows c) :
    ∃ order, r.Preorder [] [c] order ∧ ∀ {α : Type} (look : ClassEntry → Option α) (steps : Nat),
      r.classBound ≤ steps → (r.searchBases look steps [c] []).1 = order.findSome? look := by
  have hone : ∀ d ∈ [c], r.Knows d := by simpa using hc
  obtain ⟨order, horder⟩ := exists_preorder [] hone
  refine ⟨order, horder, fun look steps hsteps => ?_⟩
  have hload := r.load_entries_le
  exact (searchBases_of_preorder hr look horder (by simp) hone (by simpa using hload.trans hsteps)).1

theorem Preorder.findSome?_eq_none_iff {c : ClassEntry} {order : List ClassEntry}
    (horder : r.Preorder [] [c] order) {α : Type} (look : ClassEntry → Option α) :
    order.findSome? look = none ↔ ∀ d, r.Inherits c d → look d = none := by
  rw [List.findSome?_eq_none_iff]
  exact forall_congr' fun d => imp_congr_left horder.mem_iff

/-- From a class its bases are gone through in one order only: depth first, from left to right, each
class that can be reached once.  A look-up with the bound on its steps, or with any larger one, gives
what the first class in this order has.  So it is with the methods of a class and with the types of
its attributes: nothing is found exactly if no class that can be reached has it. -/
theorem lookups_take_the_first (r : Resolver) (hr : r.Distinct) (c : ClassEntry) (hc : r.Knows c) :
    ∃ order, (∀ other, r.Preorder [] [c] other ↔ other = order) ∧ order.Nodup ∧
      (∀ d, d ∈ order ↔ r.Inherits c d) ∧
      (∀ {α : Type} (look : ClassEntry → Option α) (steps : Nat), r.classBound ≤ steps →
        (r.searchBases look steps [c] []).1 = order.findSome? look) ∧
      (∀ name, r.lookupMethod? c name = order.findSome? fun d => Assoc.get? name d.methods) ∧
      (∀ name, r.lookupMethod? c name = none ↔
        ∀ d, r.Inherits c d → Assoc.get? name d.methods = none) ∧
      (∀ attr, r.attributeType? c attr = order.findSome? fun d => Assoc.get? attr d.attributeTypes) ∧
      ∀ attr, r.attributeType? c attr = none ↔
        ∀ d, r.Inherits c d → Assoc.get? attr d.attributeTypes = none := by
  obtain ⟨order, horder, hsearch⟩ := exists_order hr hc
  have hmethod : ∀ name, r.lookupMethod? c name =
      order.findSome? fun d => Assoc.get? name d.methods :=
    fun name => hsearch _ _ (Nat.le_refl _)
  have htype : ∀ attr, r.attributeType? c attr =
      order.findSome? fun d => Assoc.get? attr d.attributeTypes :=
    fun attr => hsearch _ _ (Nat.le_refl _)
  refine ⟨order, fun other => ⟨fun hother => hother.unique horder, fun heq => heq ▸ horder⟩,
    horder.nodup, fun d => horder.mem_iff, hsearch, hmethod, fun name => ?_, htype, fun attr => ?_⟩
  · rw [hmethod]
    exact horder.findSome?_eq_none_iff _
  · rw [htype]
    exact horder.findSome?_eq_none_iff _

/-- Two ways lead from `A` to the class `D`, and `D` leads back to `A`. -/
def windingBases : List (String × String) :=
  [("m.py", "class A(B, C): pass\nclass B(D): pass\nclass C(D):\n def f(self): self.x = B()\n" ++
    "class D(A, Elsewhere):\n def f(self): self.y: B = 1\n")]

theorem lookups_take_the_first_of_winding_bases :
    ∃ c, (Index.ofSources {} none windingBases).resolver.Knows c ∧ c.name = "A" ∧
      ((Index.ofSources {} none windingBases).resolver.lookupMethod? c "f").map Routine.className =
        some (some "D") ∧
      (Index.ofSources {} none windingBases).resolver.attributeType? c "x" = some "B" ∧
      ∃ order : List ClassEntry, order.Nodup ∧
        (∀ d, d ∈ order ↔ (Index.ofSources {} none windingBases).resolver.Inherits c d) ∧
        (Index.ofSources {} none windingBases).resolver.lookupMethod? c "f" =
          order.findSome? fun d => Assoc.get? "f" d.methods := by
  have hfacts : ∃ m ∈ (Index.ofSources {} none windingBases).resolver.files, ∃ c ∈ m.classEntries,
      c.name = "A" ∧
      ((Index.ofSources {} none windingBases).resolver.lookupMethod? c "f").map Routine.className =
        some (some "D") ∧
      (Index.ofSources {} none windingBases).resolver.attributeType? c "x" = some "B" := by
    decide +kernel
  obtain ⟨m, hm, c, hc, hname, hmethod, htype⟩ := hfacts
  have hdistinct : (Index.ofSources {} none windingBases).resolver.Distinct :=
    (Index.regular_ofSources {} none (by decide)).resolver.distinct_classes
  obtain ⟨order, -, hnodup, hmem, -, hfirst, -⟩ :=
    lookups_take_the_first _ hdistinct c ⟨m, hm, hc⟩
  exact ⟨c, ⟨m, hm, hc⟩, hname, hmethod, htype, order, hnodup, hmem, hfirst "f"⟩

end Resolver

end CallChain
