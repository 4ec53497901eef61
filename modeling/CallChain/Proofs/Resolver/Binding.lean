import CallChain.Proofs.Declarations
import CallChain.Proofs.Words
import CallChain.Resolver

/-!
# What references are bound to

Whichever way a reference is bound, it is bound to a routine that some file declares.  A class found
on the way is one that some file declares, and a method found on a class or its bases has the name
that was looked up.

So the name of the routine is the one that is written, or the routine is the constructor of a class
so named: `NamedAs` says this.  A name bound by `from … import` stands for the last part of what is
imported.  The one exception is `Oversteps`: where more than one part follows the name of a class in
an imported name, the part right behind the class is looked up and the parts behind it are not
looked at.
-/

namespace CallChain

open Python

namespace Resolver

theorem getLast?_of_mem_cuts {full front : String} {rest : List String}
    (hcut : (front, rest) ∈ cuts full) : rest.getLast? = some (Text.lastPart full) := by
  obtain ⟨n, hn, heq⟩ := List.mem_map.mp hcut
  obtain ⟨k, hk, rfl⟩ := List.mem_map.mp hn
  have hlt : k + 1 < (Text.splitOn '.' full).length := by
    have := List.mem_range.mp (List.mem_reverse.mp hk)
    omega
  obtain ⟨-, rfl⟩ := Prod.mk.inj heq
  rw [List.getLast?_drop, if_neg (by omega), Text.getLast?_splitOn]

/-! ## Known files, classes and routines -/

variable {r : Resolver}

/-- Some file declares the routine. -/
def Declares (r : Resolver) (routine : Routine) : Prop := ∃ m ∈ r.files, routine ∈ m.routines

/-- Some file declares the class. -/
def Knows (r : Resolver) (c : ClassEntry) : Prop := ∃ m ∈ r.files, c ∈ m.classEntries

/-- The tables of all files are in order. -/
def Coherent (r : Resolver) : Prop := ∀ m ∈ r.files, m.Coherent

theorem mem_files_of_mem_modules {entry : String × SourceModule} (hentry : entry ∈ r.modules) :
    entry.2 ∈ r.files := by
  rcases Assoc.exists_of_mem_foldl_put (g := id) hentry with hnil | ⟨m, hm, rfl⟩
  · cases hnil
  · exact hm

theorem name_of_mem_modules {entry : String × SourceModule} (hentry : entry ∈ r.modules) :
    entry.1 = entry.2.name := by
  rcases Assoc.exists_of_mem_foldl_put (g := id) hentry with hnil | ⟨m, -, rfl⟩
  · cases hnil
  · rfl

theorem mem_files_of_mem_sortedModules {entry : String × SourceModule}
    (hentry : entry ∈ r.sortedModules) : entry.2 ∈ r.files :=
  mem_files_of_mem_modules (List.mem_mergeSort.mp hentry)

theorem mem_files_of_findModule? {dotted : String} {m : SourceModule}
    (hfound : r.findModule? dotted = some m) : m ∈ r.files := by
  unfold findModule? at hfound
  rw [Option.orElse_eq_orElse, Option.orElse_eq_or, Option.or_eq_some_iff] at hfound
  rcases hfound with hget | ⟨-, hfind⟩
  · exact mem_files_of_mem_modules (Assoc.mem_of_get? hget)
  · obtain ⟨entry, hentry, rfl⟩ := Option.map_eq_some_iff.mp hfind
    exact mem_files_of_mem_sortedModules (List.mem_of_find?_eq_some hentry)

theorem knows_of_mem_allClasses {c : ClassEntry} (hc : c ∈ r.allClasses) : r.Knows c := by
  obtain ⟨entry, hentry, hmem⟩ := List.mem_flatMap.mp hc
  obtain ⟨named, hnamed, rfl⟩ := List.mem_map.mp hmem
  exact ⟨entry.2, mem_files_of_mem_sortedModules hentry,
    SourceModule.mem_classEntries_of_mem_classes hnamed⟩

theorem knows_of_get?_classes {m : SourceModule} {qualname : String} {c : ClassEntry}
    (hm : m ∈ r.files) (hget : Assoc.get? qualname m.classes = some c) : r.Knows c :=
  ⟨m, hm, (SourceModule.get?_classes hget).1⟩

theorem knows_of_classByFullName? {full : String} {c : ClassEntry}
    (hfound : r.classByFullName? full = some c) : r.Knows c := by
  obtain ⟨⟨front, rest⟩, -, hcut⟩ := List.exists_of_findSome?_eq_some hfound
  obtain ⟨m, hm, hget⟩ := Option.bind_eq_some_iff.mp hcut
  exact knows_of_get?_classes (mem_files_of_findModule? hm) hget

theorem knows_of_resolveClass? {dotted : String} {source : SourceModule} {c : ClassEntry}
    (hsource : source ∈ r.files) (hfound : r.resolveClass? dotted source = some c) : r.Knows c := by
  unfold resolveClass? at hfound
  split at hfound
  · rename_i hget
    cases hfound
    exact knows_of_get?_classes hsource hget
  split at hfound
  · exact knows_of_classByFullName? hfound
  split at hfound
  · rename_i one hone
    cases hfound
    have hmem : c ∈ r.allClasses.filter fun c => c.name == Text.lastPart dotted := by
      rw [hone]
      exact List.mem_singleton_self c
    exact knows_of_mem_allClasses (List.mem_filter.mp hmem).1
  · cases hfound

theorem mem_files_of_homeOf? {c : ClassEntry} {home : SourceModule}
    (hhome : r.homeOf? c = some home) : home ∈ r.files :=
  List.mem_of_find?_eq_some hhome

theorem knows_of_mem_bases {c base : ClassEntry} (hbase : base ∈ r.bases c) : r.Knows base := by
  unfold bases at hbase
  split at hbase
  · rename_i home hhome
    obtain ⟨written, -, hfound⟩ := List.mem_filterMap.mp hbase
    exact knows_of_resolveClass? (mem_files_of_homeOf? hhome) hfound
  · cases hbase

/-- What a look-up through the bases finds was found on a known class. -/
theorem exists_of_searchBases {α : Type} {look : ClassEntry → Option α} {found : α} {fuel : Nat}
    {classes : List ClassEntry} {seen : List (String × List Nat)}
    (hclasses : ∀ c ∈ classes, r.Knows c)
    (hfound : (r.searchBases look fuel classes seen).1 = some found) :
    ∃ c, r.Knows c ∧ look c = some found := by
  induction fuel generalizing classes seen with
  | zero => cases hfound
  | succ fuel ih =>
      cases classes with
      | nil => cases hfound
      | cons c rest =>
          have hrest : ∀ c ∈ rest, r.Knows c := fun c hc => hclasses c (List.mem_cons_of_mem _ hc)
          rw [searchBases] at hfound
          split at hfound
          · exact ih hrest hfound
          split at hfound
          · rename_i hlook
            cases hfound
            exact ⟨c, hclasses c List.mem_cons_self, hlook⟩
          dsimp only at hfound
          split at hfound
          · rename_i hbases
            cases hfound
            exact ih (fun base hbase => knows_of_mem_bases hbase) (congrArg Prod.fst hbases)
          · exact ih hrest hfound

/-- A method found on a class or its bases is declared, and has the name looked up. -/
theorem declares_of_lookupMethod? (hr : r.Coherent) {c : ClassEntry} {name : String}
    {routine : Routine} (hc : r.Knows c) (hfound : r.lookupMethod? c name = some routine) :
    r.Declares routine ∧ routine.name = name := by
  obtain ⟨owner, ⟨m, hm, howner⟩, hget⟩ :=
    exists_of_searchBases (by simpa using hc) hfound
  obtain ⟨hroutine, hname⟩ := hr m hm owner howner name routine hget
  exact ⟨⟨m, hm, hroutine⟩, hname⟩

/-! ## Names of bindings -/

/-- The routine has the name that is written, or constructing the class of that name calls it. -/
inductive NamedAs (r : Resolver) (constructs : Bool) (written : String) (routine : Routine) : Prop
  | named (hname : routine.name = written)
  | constructed (hconstructs : constructs = true) (c : ClassEntry) (hknown : r.Knows c)
      (hclass : c.qualname = written) (hfound : r.lookupMethod? c "__init__" = some routine)
      (hname : routine.name = "__init__")

/-- Of an imported name more than one part follows the name of a class, and the routine is the method
of the part right behind the class. -/
def Oversteps (r : Resolver) (full : String) (routine : Routine) : Prop :=
  ∃ front first second third more m c,
    (front, first :: second :: third :: more) ∈ cuts full ∧ r.findModule? front = some m ∧
      Assoc.get? first m.classes = some c ∧ r.lookupMethod? c second = some routine ∧
      routine.name = second

theorem declares_of_mem_constructor (hr : r.Coherent) {c : ClassEntry} {routine : Routine}
    (hc : r.Knows c) (hroutine : routine ∈ r.constructor c) :
    r.Declares routine ∧ r.NamedAs true c.qualname routine := by
  have hfound : r.lookupMethod? c "__init__" = some routine := Option.mem_toList.mp hroutine
  obtain ⟨hdeclared, hname⟩ := declares_of_lookupMethod? hr hc hfound
  exact ⟨hdeclared, .constructed rfl c hc rfl hfound hname⟩

/-- What the construction of a known class is bound to, where constructions count. -/
theorem declares_of_mem_construction (hr : r.Coherent) {constructs : Bool} {c : ClassEntry}
    {written : String} {routine : Routine} (hc : r.Knows c) (hwritten : c.qualname = written)
    (hroutine : routine ∈ if constructs then r.constructor c else []) :
    r.Declares routine ∧ r.NamedAs constructs written routine := by
  cases constructs with
  | true => exact hwritten ▸ declares_of_mem_constructor hr hc hroutine
  | false => cases hroutine

theorem exists_of_mem_getD {α : Type} {found? : Option (List α)} {a : α} (ha : a ∈ found?.getD []) :
    ∃ found, found? = some found ∧ a ∈ found := by
  cases found? with
  | none => cases ha
  | some found => exact ⟨found, rfl, ha⟩

/-- What a full name means is declared, and named as the last part says or as the part right behind
a class says. -/
theorem declares_of_mem_resolveFullName (hr : r.Coherent) {constructs : Bool} {full : String}
    {routine : Routine} (hroutine : routine ∈ r.resolveFullName constructs full) :
    r.Declares routine ∧
      (r.NamedAs constructs (Text.lastPart full) routine ∨ r.Oversteps full routine) := by
  obtain ⟨found, hfound, hmem⟩ := exists_of_mem_getD hroutine
  obtain ⟨⟨front, rest⟩, hcut, hstep⟩ := List.exists_of_findSome?_eq_some hfound
  obtain ⟨m, hm, hrest⟩ := Option.bind_eq_some_iff.mp hstep
  have hfile := mem_files_of_findModule? hm
  have hlast := getLast?_of_mem_cuts hcut
  split at hrest
  · cases hrest
  · rename_i one
    obtain rfl : one = Text.lastPart full := Option.some.inj hlast
    split at hrest
    · rename_i f hget
      cases hrest
      obtain rfl := List.mem_singleton.mp hmem
      obtain ⟨hdeclared, hname⟩ := SourceModule.get?_functions hget
      exact ⟨⟨m, hfile, hdeclared⟩, .inl (.named hname)⟩
    · obtain ⟨c, hget, hresult⟩ := Option.bind_eq_some_iff.mp hrest
      cases hresult
      exact (declares_of_mem_construction hr (knows_of_get?_classes hfile hget)
        (SourceModule.get?_classes hget).2 hmem).imp_right .inl
  · rename_i first second more
    obtain ⟨c, hget, hresult⟩ := Option.bind_eq_some_iff.mp hrest
    cases hresult
    have hmethod : r.lookupMethod? c second = some routine := Option.mem_toList.mp hmem
    obtain ⟨hdeclared, hname⟩ :=
      declares_of_lookupMethod? hr (knows_of_get?_classes hfile hget) hmethod
    refine ⟨hdeclared, ?_⟩
    -- the part behind the class is the last one only if nothing follows it
    cases more with
    | nil =>
        obtain rfl : second = Text.lastPart full := Option.some.inj hlast
        exact .inl (.named hname)
    | cons third more =>
        exact .inr ⟨front, first, second, third, more, m, c, hcut, hm, hget, hmethod, hname⟩

/-! ## Plain names -/

/-- How a routine may be named that a plain name is bound to. -/
def NamedBy (r : Resolver) (source : SourceModule) (constructs : Bool) (name : String)
    (routine : Routine) : Prop :=
  r.NamedAs constructs name routine ∨
    ∃ full, Assoc.get? name source.imports.members = some full ∧
      (r.NamedAs constructs (Text.lastPart full) routine ∨ r.Oversteps full routine)

theorem declares_of_mem_resolveName (hr : r.Coherent) {here : Surroundings}
    (hsource : here.source ∈ r.files) {constructs : Bool} {name : String} {routine : Routine}
    (hroutine : routine ∈ r.resolveName here constructs name) :
    r.Declares routine ∧ r.NamedBy here.source constructs name routine := by
  unfold resolveName at hroutine
  split at hroutine
  · rename_i f hlocal
    obtain rfl := List.mem_singleton.mp hroutine
    obtain ⟨function, -, hget⟩ := List.exists_of_findSome?_eq_some hlocal
    obtain ⟨hdeclared, hname⟩ := SourceModule.get?_localFunctions hget
    exact ⟨⟨here.source, hsource, hdeclared⟩, .inl (.named hname)⟩
  split at hroutine
  · rename_i f hget
    obtain rfl := List.mem_singleton.mp hroutine
    obtain ⟨hdeclared, hname⟩ := SourceModule.get?_functions hget
    exact ⟨⟨here.source, hsource, hdeclared⟩, .inl (.named hname)⟩
  split at hroutine
  · rename_i c hget
    exact (declares_of_mem_construction hr (knows_of_get?_classes hsource hget)
      (SourceModule.get?_classes hget).2 hroutine).imp_right .inl
  split at hroutine
  · rename_i full hmember
    obtain ⟨hdeclared, hnamed⟩ := declares_of_mem_resolveFullName hr hroutine
    exact ⟨hdeclared, .inr ⟨full, hmember, hnamed⟩⟩
  · cases hroutine

/-! ## Attributes -/

theorem knows_of_ownerOf? {here : Surroundings} (hsource : here.source ∈ r.files) {function : Spot}
    {c : ClassEntry} (howner : here.ownerOf? function = some c) : r.Knows c := by
  unfold Surroundings.ownerOf? at howner
  split at howner
  · split at howner
    · exact ⟨here.source, hsource, SourceModule.mem_classEntries_of_classAt? howner⟩
    · cases howner
  · cases howner

theorem knows_of_bound_receiver {here : Surroundings} (hsource : here.source ∈ r.files)
    {name : String} {c : ClassEntry} (hclass : here.receiverClass? name = some c) : r.Knows c := by
  obtain ⟨function, -, hentry⟩ := List.mem_filterMap.mp (Assoc.mem_of_get? hclass)
  split at hentry
  · rename_i howner _ _
    cases hentry
    exact knows_of_ownerOf? hsource howner
  · cases hentry

theorem knows_of_receiverClass? {here : Surroundings} (hsource : here.source ∈ r.files)
    {receiver : Node} {c : ClassEntry} (hclass : r.receiverClass? here receiver = some c) :
    r.Knows c := by
  unfold receiverClass? at hclass
  split at hclass
  · split at hclass
    · rename_i hbound
      cases hclass
      exact knows_of_bound_receiver hsource hbound
    split at hclass
    · exact knows_of_resolveClass? hsource hclass
    split at hclass
    · exact knows_of_resolveClass? hsource hclass
    · cases hclass
  · split at hclass
    · split at hclass
      · cases hclass
      · exact knows_of_resolveClass? hsource hclass
    · cases hclass
  · split at hclass
    · obtain ⟨type, -, hrest⟩ := Option.bind_eq_some_iff.mp hclass
      obtain ⟨home, hhome, hfound⟩ := Option.bind_eq_some_iff.mp hrest
      exact knows_of_resolveClass? (mem_files_of_homeOf? hhome) hfound
    · cases hclass
  · cases hclass

theorem mem_files_of_receiverModule? {source m : SourceModule} {receiver : Node}
    (hmodule : r.receiverModule? source receiver = some m) : m ∈ r.files := by
  obtain ⟨dotted, -, hrest⟩ := Option.bind_eq_some_iff.mp hmodule
  obtain ⟨bound, -, hfound⟩ := Option.bind_eq_some_iff.mp hrest
  exact mem_files_of_findModule? hfound

theorem declares_of_mem_methodsNamed {name : String} {routine : Routine}
    (hroutine : routine ∈ r.methodsNamed name) : r.Declares routine ∧ routine.name = name := by
  obtain ⟨entry, hentry, hmem⟩ := List.mem_flatMap.mp hroutine
  obtain ⟨hdeclared, hnamed⟩ := List.mem_filter.mp hmem
  rw [Bool.and_eq_true, beq_iff_eq] at hnamed
  exact ⟨⟨entry.2, mem_files_of_mem_sortedModules hentry, hdeclared⟩, hnamed.2⟩

theorem mem_methodsNamed_of_mem_byMethodName {attr : String} {routine : Routine}
    (hroutine : routine ∈ r.byMethodName attr) : routine ∈ r.methodsNamed attr := by
  unfold byMethodName at hroutine
  dsimp only at hroutine
  split at hroutine
  · exact hroutine
  · split at hroutine
    · exact hroutine
    · cases hroutine
  · cases hroutine

theorem declares_of_mem_resolveMember (hr : r.Coherent) {here : Surroundings}
    (hsource : here.source ∈ r.files) {constructs byName : Bool} {receiver : Node} {attr : String}
    {routine : Routine} (hroutine : routine ∈ r.resolveMember here constructs byName receiver attr) :
    r.Declares routine ∧ r.NamedAs constructs attr routine := by
  unfold resolveMember at hroutine
  split at hroutine
  · split at hroutine
    · obtain ⟨base, hbase, hfound⟩ :=
        List.exists_of_findSome?_eq_some (Option.mem_toList.mp hroutine)
      exact (declares_of_lookupMethod? hr (knows_of_mem_bases hbase) hfound).imp_right .named
    · cases hroutine
  split at hroutine
  · rename_i c hclass
    have hfound : r.lookupMethod? c attr = some routine := Option.mem_toList.mp hroutine
    exact (declares_of_lookupMethod? hr (knows_of_receiverClass? hsource hclass) hfound).imp_right
      .named
  split at hroutine
  · rename_i m hmodule
    have hfile := mem_files_of_receiverModule? hmodule
    split at hroutine
    · rename_i f hget
      obtain rfl := List.mem_singleton.mp hroutine
      obtain ⟨hdeclared, hname⟩ := SourceModule.get?_functions hget
      exact ⟨⟨m, hfile, hdeclared⟩, .named hname⟩
    split at hroutine
    · rename_i c hget
      exact declares_of_mem_construction hr (knows_of_get?_classes hfile hget)
        (SourceModule.get?_classes hget).2 hroutine
    · cases hroutine
  split at hroutine
  · exact (declares_of_mem_methodsNamed (mem_methodsNamed_of_mem_byMethodName hroutine)).imp_right
      .named
  · cases hroutine

/-! ## Expressions -/

/-- How a routine may be named that an expression is bound to. -/
def BoundBy (r : Resolver) (source : SourceModule) (constructs : Bool) (expression : Node)
    (routine : Routine) : Prop :=
  match expression with
  | .name _ id _ => r.NamedBy source constructs id routine
  | .member _ _ attr _ => r.NamedAs constructs attr routine
  | _ => False

/-- Whatever an expression is bound to is declared by some file and named as written. -/
theorem declares_of_mem_resolve (hr : r.Coherent) {here : Surroundings}
    (hsource : here.source ∈ r.files) {constructs byName : Bool} {expression : Node}
    {routine : Routine} (hroutine : routine ∈ r.resolve here constructs byName expression) :
    r.Declares routine ∧ r.BoundBy here.source constructs expression routine := by
  cases expression with
  | name span id context => exact declares_of_mem_resolveName hr hsource hroutine
  | member span receiver attr context => exact declares_of_mem_resolveMember hr hsource hroutine
  | _ => cases hroutine

/-! ## No routine is meant twice -/

/-- The files are different ones, each the tables of a parsed text. -/
structure Regular (r : Resolver) : Prop where
  distinct : (r.files.map SourceModule.file).Nodup
  parsed : ∀ m ∈ r.files, m.IsParsed

theorem Regular.coherent (hr : r.Regular) : r.Coherent := fun m hm => (hr.parsed m hm).coherent

/-- Two of the files with the same path are the same. -/
theorem Regular.eq_of_file_eq (hr : r.Regular) {m m' : SourceModule} (hm : m ∈ r.files)
    (hm' : m' ∈ r.files) (hfile : m.file = m'.file) : m = m' :=
  List.inj_on_of_nodup_map hr.distinct hm hm' hfile

theorem pairwise_ne_sortedModules : r.sortedModules.Pairwise fun a b => a.2 ≠ b.2 := by
  have hnamed : ∀ entry ∈ r.sortedModules, entry.1 = entry.2.name := fun entry hentry =>
    name_of_mem_modules (List.mem_mergeSort.mp hentry)
  have hkeys : (r.sortedModules.map Prod.fst).Nodup :=
    ((List.mergeSort_perm r.modules _).map Prod.fst).nodup_iff.mpr
      (Assoc.nodup_keys_foldl_put r.files List.nodup_nil)
  rw [List.nodup_iff_pairwise_ne, List.pairwise_map] at hkeys
  refine hkeys.imp_of_mem fun {a b} ha hb hne heq => hne ?_
  rw [hnamed a ha, hnamed b hb, heq]

theorem Regular.nodup_methodsNamed (hr : r.Regular) (name : String) : (r.methodsNamed name).Nodup := by
  -- a routine is declared once in its own file and not at all in another one
  refine List.nodup_flatMap.mpr ⟨fun entry hentry => ?_, ?_⟩
  · exact ((hr.parsed _ (mem_files_of_mem_sortedModules hentry)).nodup_routines).filter _
  · refine pairwise_ne_sortedModules.imp_of_mem fun {a b} ha hb hne routine hroutine hroutine' => hne ?_
    have hfile := (hr.parsed _ (mem_files_of_mem_sortedModules ha)).file_eq (List.mem_filter.mp hroutine).1
    have hfile' := (hr.parsed _ (mem_files_of_mem_sortedModules hb)).file_eq (List.mem_filter.mp hroutine').1
    exact hr.eq_of_file_eq (mem_files_of_mem_sortedModules ha) (mem_files_of_mem_sortedModules hb)
      (hfile.symm.trans hfile')

/-! ### One routine at most, unless by the name of a method -/

theorem length_toList_le {α : Type} (found? : Option α) : found?.toList.length ≤ 1 := by
  cases found? <;> simp

theorem length_construction_le (constructs : Bool) (c : ClassEntry) :
    (if constructs then r.constructor c else []).length ≤ 1 := by
  split
  · exact length_toList_le _
  · exact Nat.zero_le 1

theorem length_resolveFullName_le (constructs : Bool) (full : String) :
    (r.resolveFullName constructs full).length ≤ 1 := by
  unfold resolveFullName
  cases hfound : (cuts full).findSome? _ with
  | none => exact Nat.zero_le 1
  | some found =>
      obtain ⟨⟨front, rest⟩, -, hstep⟩ := List.exists_of_findSome?_eq_some hfound
      obtain ⟨m, -, hrest⟩ := Option.bind_eq_some_iff.mp hstep
      change found.length ≤ 1
      split at hrest
      · cases hrest
      · split at hrest
        · cases hrest
          exact Nat.le_refl 1
        · obtain ⟨c, -, hresult⟩ := Option.bind_eq_some_iff.mp hrest
          cases hresult
          exact length_construction_le constructs c
      · obtain ⟨c, -, hresult⟩ := Option.bind_eq_some_iff.mp hrest
        cases hresult
        exact length_toList_le _

theorem length_resolveName_le (here : Surroundings) (constructs : Bool) (name : String) :
    (r.resolveName here constructs name).length ≤ 1 := by
  unfold resolveName
  split
  · exact Nat.le_refl 1
  split
  · exact Nat.le_refl 1
  split
  · exact length_construction_le _ _
  split
  · exact length_resolveFullName_le _ _
  · exact Nat.zero_le 1

/-- The receiver is not `super()`, is of no known class and is no imported module. -/
def isUnknown (r : Resolver) (here : Surroundings) (receiver : Node) : Bool :=
  !isSuper receiver && (r.receiverClass? here receiver).isNone &&
    (r.receiverModule? here.source receiver).isNone

/-- A method is looked up by its name alone only if the receiver is unknown, and then nothing else
can be bound. -/
theorem resolveMember_eq (r : Resolver) (here : Surroundings) (constructs byName : Bool)
    (receiver : Node) (attr : String) :
    r.resolveMember here constructs byName receiver attr =
      if r.isUnknown here receiver then (if byName then r.byMethodName attr else [])
      else r.resolveMember here constructs false receiver attr := by
  unfold isUnknown resolveMember
  by_cases hsuper : isSuper receiver = true
  · simp [hsuper]
  cases hclass : r.receiverClass? here receiver with
  | some c => simp [hsuper]
  | none =>
      cases hmodule : r.receiverModule? here.source receiver with
      | some m => simp [hsuper]
      | none => simp [hsuper]

theorem length_resolveMember_le (here : Surroundings) (constructs : Bool) (receiver : Node)
    (attr : String) : (r.resolveMember here constructs false receiver attr).length ≤ 1 := by
  unfold resolveMember
  split
  · split
    · exact length_toList_le _
    · exact Nat.zero_le 1
  split
  · exact length_toList_le _
  split
  · split
    · exact Nat.le_refl 1
    split
    · exact length_construction_le _ _
    · exact Nat.zero_le 1
  · exact Nat.zero_le 1

/-- An expression is bound to one routine at most, or to what a method name is bound to. -/
theorem resolve_cases (here : Surroundings) (constructs byName : Bool) (expression : Node) :
    (r.resolve here constructs byName expression).length ≤ 1 ∨
      ∃ attr, r.resolve here constructs byName expression = r.byMethodName attr := by
  unfold resolve
  split
  · exact .inl (length_resolveName_le _ _ _)
  · rename_i receiver attr _
    rw [resolveMember_eq]
    split
    · split
      · exact .inr ⟨attr, rfl⟩
      · exact .inl (Nat.zero_le 1)
    · exact .inl (length_resolveMember_le _ _ _ _)
  · exact .inl (Nat.zero_le 1)

theorem Regular.nodup_byMethodName (hr : r.Regular) (attr : String) : (r.byMethodName attr).Nodup := by
  unfold byMethodName
  dsimp only
  split
  · exact hr.nodup_methodsNamed attr
  · split
    · exact hr.nodup_methodsNamed attr
    · exact List.nodup_nil
  · exact List.nodup_nil

/-- No expression is bound to a routine twice. -/
theorem Regular.nodup_resolve (hr : r.Regular) (here : Surroundings) (constructs byName : Bool)
    (expression : Node) : (r.resolve here constructs byName expression).Nodup := by
  rcases resolve_cases (r := r) here constructs byName expression with hlength | ⟨attr, heq⟩
  · match r.resolve here constructs byName expression, hlength with
    | [], _ => exact List.nodup_nil
    | [routine], _ => exact List.nodup_singleton routine
  · rw [heq]
    exact hr.nodup_byMethodName attr

end Resolver

end CallChain
