import CallChain.Index.Build
import CallChain.Proofs.Index.Files
import CallChain.Proofs.Index.Sites
import CallChain.Proofs.Search.Inclusion
import Mathlib.Data.List.Flatten

/-!
# Binding by the name of a method alone

A method call whose receiver says nothing is bound by the name of the method, if the settings allow
it.  Nothing else depends on how the settings treat such receivers (`resolve_sublist`), so the three
treatments are ordered.  A broader one keeps every site of a narrower one in its place, and where
hand-offs are passed over a search finds every chain that it finds with a narrower one.  The sites that
it adds are printed as well, though, and if one of them cannot be printed there is no index any more;
so the comparison is one of indexes that were finished.

The treatment `unique` looks at the files by the names of their modules.  Of two files with one name
only the later is among them, the earlier one is `Shadowed`.  So the method that is bound is the only
one of its name exactly if no shadowed file has one.
-/

namespace CallChain

open Python

/-! ## How unknown receivers are treated -/

namespace Resolver

variable {r : Resolver}

/-- The same files with another way to treat unknown receivers. -/
def treating (r : Resolver) (ambiguity : Ambiguity) : Resolver := { r with ambiguity }

section Treating

variable (r) (a : Ambiguity)

@[simp] theorem bases_treating (c : ClassEntry) : (r.treating a).bases c = r.bases c := rfl

@[simp] theorem findModule?_treating (dotted : String) :
    (r.treating a).findModule? dotted = r.findModule? dotted := rfl

@[simp] theorem methodsNamed_treating (name : String) :
    (r.treating a).methodsNamed name = r.methodsNamed name := rfl

@[simp] theorem searchBases_treating {α : Type} (look : ClassEntry → Option α) (fuel : Nat)
    (classes : List ClassEntry) (seen : List (String × List Nat)) :
    (r.treating a).searchBases look fuel classes seen = r.searchBases look fuel classes seen := by
  -- the look-up hands the resolver down, so only an induction sees that its files are all it reads
  induction fuel generalizing classes seen with
  | zero => rfl
  | succ fuel ih =>
      cases classes with
      | nil => rfl
      | cons c rest => simp only [searchBases, bases_treating, ih]

@[simp] theorem lookupMethod?_treating (c : ClassEntry) (name : String) :
    (r.treating a).lookupMethod? c name = r.lookupMethod? c name := by
  rw [lookupMethod?, searchBases_treating]
  rfl

@[simp] theorem attributeType?_treating (c : ClassEntry) (attr : String) :
    (r.treating a).attributeType? c attr = r.attributeType? c attr := by
  rw [attributeType?, searchBases_treating]
  rfl

@[simp] theorem resolveName_treating (here : Surroundings) (constructs : Bool) (name : String) :
    (r.treating a).resolveName here constructs name = r.resolveName here constructs name := by
  simp only [resolveName, resolveFullName, constructor, lookupMethod?_treating, findModule?_treating]

@[simp] theorem receiverClass?_treating (here : Surroundings) (receiver : Node) :
    (r.treating a).receiverClass? here receiver = r.receiverClass? here receiver := by
  unfold receiverClass?
  simp only [attributeType?_treating]
  rfl

@[simp] theorem isUnknown_treating (here : Surroundings) (receiver : Node) :
    (r.treating a).isUnknown here receiver = r.isUnknown here receiver := by
  rw [isUnknown, receiverClass?_treating]
  rfl

/-- Where methods are not looked up by their names, it does not matter how they would be. -/
@[simp] theorem resolveMember_treating (here : Surroundings) (constructs : Bool) (receiver : Node)
    (attr : String) :
    (r.treating a).resolveMember here constructs false receiver attr =
      r.resolveMember here constructs false receiver attr := by
  simp only [resolveMember, constructor, lookupMethod?_treating, receiverClass?_treating,
    bases_treating]
  rfl

end Treating

/-- The first treatment binds methods by their names to no more than the second one. -/
def Narrower (r : Resolver) (a b : Ambiguity) : Prop :=
  ∀ attr, ((r.treating a).byMethodName attr).Sublist ((r.treating b).byMethodName attr)

theorem narrower_none (r : Resolver) (a : Ambiguity) : r.Narrower .none a := fun _ =>
  List.nil_sublist _

theorem narrower_all (r : Resolver) (a : Ambiguity) : r.Narrower a .all := by
  intro attr
  change List.Sublist _ (r.methodsNamed attr)
  unfold byMethodName
  rw [methodsNamed_treating]
  cases a with
  | none => exact List.nil_sublist _
  | all => exact List.Sublist.refl _
  | unique =>
      simp only [treating]
      split
      · exact List.Sublist.refl _
      · exact List.nil_sublist _

variable {a b : Ambiguity}

/-- The treatment of unknown receivers decides only what method names are bound to. -/
theorem resolve_sublist (hnarrower : r.Narrower a b) (here : Surroundings) (constructs byName : Bool)
    (expression : Node) :
    ((r.treating a).resolve here constructs byName expression).Sublist
      ((r.treating b).resolve here constructs byName expression) := by
  unfold resolve
  split
  · rw [resolveName_treating, resolveName_treating]
  · rename_i receiver attr _
    -- both resolvers take the same branch, and differ only where the receiver is unknown
    rw [resolveMember_eq (r.treating a), resolveMember_eq (r.treating b)]
    simp only [isUnknown_treating, resolveMember_treating]
    split
    · split
      · exact hnarrower attr
      · exact List.Sublist.refl _
    · exact List.Sublist.refl _
  · exact List.Sublist.refl _

theorem meant_sublist (hnarrower : r.Narrower a b) (source : SourceModule) (s : Spot) :
    ((r.treating a).meant source s).Sublist ((r.treating b).meant source s) := by
  rcases meant_cases source s with hnone | ⟨constructs, byName, expression, hmeant⟩
  · rw [hnone]
    exact List.nil_sublist _
  · rw [hmeant, hmeant]
    exact resolve_sublist hnarrower _ constructs byName expression

/-- Unless unknown receivers may be bound to every method of a name, one routine at most is meant. -/
theorem length_meant_le (hambiguity : r.ambiguity ≠ .all) (source : SourceModule) (s : Spot) :
    (r.meant source s).length ≤ 1 := by
  have hbyName : ∀ attr, (r.byMethodName attr).length ≤ 1 := by
    intro attr
    unfold byMethodName
    dsimp only
    split
    · rename_i hall
      exact absurd hall hambiguity
    · split
      · rename_i hone
        exact Nat.le_of_eq hone
      · exact Nat.zero_le 1
    · exact Nat.zero_le 1
  rcases meant_cases source s with hnone | ⟨constructs, byName, expression, hmeant⟩
  · rw [hnone]
    exact Nat.zero_le 1
  · rw [hmeant]
    rcases resolve_cases (r := r) ⟨source, enclosingFunctions s⟩ constructs byName expression with
      hlength | ⟨attr, heq⟩
    · exact hlength
    · exact heq ▸ hbyName attr

/-- At a place there is one site for each routine that is meant there, however receivers are
treated. -/
theorem exists_sitesAt_eq_map (names : HandOffNames) (source : SourceModule) (s : Spot) :
    ∃ site : Routine → CallSite, ∀ r : Resolver,
      r.sitesAt names source s = (r.meant source s).map site := by
  unfold sitesAt meant
  cases referenceAt? s with
  | none => exact ⟨default, fun r => rfl⟩
  | some ref =>
      let functions := enclosingFunctions s
      refine ⟨fun callee =>
        { callee, caller := functions.head?.bind fun f => source.routineAt? f.path
          file := source.file, line := ref.span.line, column := ref.span.column, kind := ref.kind
          expression := ref.expression.source
          handedOff := names.covers (some source.imports) (functions.head?.map Spot.path) s },
        fun r => ?_⟩
      dsimp only
      cases r.targets ⟨source, functions⟩ ref with
      | nil => rfl
      | cons callee others => rfl

theorem sitesAt_sublist (hnarrower : r.Narrower a b) (names : HandOffNames) (source : SourceModule)
    (s : Spot) :
    ((r.treating a).sitesAt names source s).Sublist ((r.treating b).sitesAt names source s) := by
  obtain ⟨site, hsites⟩ := exists_sitesAt_eq_map names source s
  rw [hsites, hsites]
  exact (meant_sublist hnarrower source s).map site

theorem length_sitesAt_le (hambiguity : r.ambiguity ≠ .all) (names : HandOffNames)
    (source : SourceModule) (s : Spot) : (r.sitesAt names source s).length ≤ 1 := by
  obtain ⟨site, hsites⟩ := exists_sitesAt_eq_map names source s
  rw [hsites r, List.length_map]
  exact length_meant_le hambiguity source s

end Resolver

/-! ## Selections of sites -/

namespace CallSite

/-- A site that was in front comes behind the sites that are before it and before all others. -/
theorem sort_cons (site : CallSite) (sites : List CallSite) :
    sort (site :: sites) = (sort sites).filter (fun other => !site.notAfter other) ++
      site :: (sort sites).filter fun other => site.notAfter other := by
  obtain ⟨before, after, hsorted, hrest, hbefore⟩ :=
    List.mergeSort_cons notAfter_trans notAfter_total site sites
  have hafter : ∀ other ∈ after, site.notAfter other = true := by
    have hpairwise := List.pairwise_mergeSort notAfter_trans notAfter_total (site :: sites)
    rw [hsorted, List.pairwise_append, List.pairwise_cons] at hpairwise
    exact hpairwise.2.1.1
  have hbefore : ∀ other ∈ before, site.notAfter other = false := fun other hother => by
    simpa using hbefore other hother
  have hfront : (before ++ after).filter (fun other => !site.notAfter other) = before := by
    rw [List.filter_append, List.filter_eq_self.mpr fun other hother => by simp [hbefore other hother],
      List.filter_eq_nil_iff.mpr fun other hother => by simp [hafter other hother], List.append_nil]
  have hback : (before ++ after).filter (fun other => site.notAfter other) = after := by
    rw [List.filter_append, List.filter_eq_nil_iff.mpr fun other hother => by simp [hbefore other hother],
      List.filter_eq_self.mpr hafter, List.nil_append]
  rw [sort, sort, hsorted, hrest, hfront, hback]

/-- To put sites in order keeps a selection of them a selection. -/
theorem sort_sublist {sites more : List CallSite} (hsites : sites.Sublist more) :
    (sort sites).Sublist (sort more) := by
  induction hsites with
  | slnil => exact List.Sublist.refl _
  | @cons sites more site _ ih =>
      -- the site that is left out stands somewhere in the longer list, and the others around it
      obtain ⟨before, after, hsorted, hrest, -⟩ :=
        List.mergeSort_cons notAfter_trans notAfter_total site more
      rw [sort, sort, hrest] at ih
      rw [sort, sort, hsorted]
      exact ih.trans ((List.sublist_cons_self site after).append_left before)
  | @cons_cons sites more site _ ih =>
      rw [sort_cons, sort_cons]
      exact (ih.filter _).append ((ih.filter _).cons_cons site)

end CallSite

namespace Index

/-- The index of sources in which unknown receivers are treated in a given way. -/
def treatedBy (settings : Settings) (root : Option String) (sources : List (String × String))
    (ambiguity : Ambiguity) : Index :=
  ofSources { settings with ambiguity } root sources

section Treatment

variable {settings : Settings} {root : Option String} {sources : List (String × String)}
  {a b : Ambiguity}

/-- The files do not depend on the treatment, so the sites are found file by file and place by place
in the same order. -/
theorem sites_sublist (hnarrower : ∀ r : Resolver, r.Narrower a b) :
    (treatedBy settings root sources a).sites.Sublist (treatedBy settings root sources b).sites := by
  refine List.Sublist.flatMap_right _ fun source _ => List.Sublist.flatMap_right _ fun s _ => ?_
  exact Resolver.sitesAt_sublist (r := (treatedBy settings root sources a).resolver) (hnarrower _)
    settings.handOffNames source s

theorem sitesOf_sublist (hnarrower : ∀ r : Resolver, r.Narrower a b) (routine : Routine) :
    ((treatedBy settings root sources a).sitesOf routine).Sublist
      ((treatedBy settings root sources b).sitesOf routine) :=
  (CallSite.sort_sublist (sites_sublist hnarrower)).filter _

theorem within_of_narrower (hnarrower : ∀ r : Resolver, r.Narrower a b) :
    (treatedBy settings root sources a).graph.Within (treatedBy settings root sources b).graph .skip :=
  fun callee => (HandOffPolicy.callers_sublist_of_sublist (sitesOf_sublist hnarrower callee)).subset

/-- The three treatments, each with the next broader one. -/
theorem narrower_of_mem (hmem : (a, b) ∈ [(Ambiguity.none, .unique), (.unique, .all)])
    (r : Resolver) : r.Narrower a b := by
  simp only [List.mem_cons, Prod.mk.injEq, List.not_mem_nil, or_false] at hmem
  rcases hmem with ⟨rfl, rfl⟩ | ⟨rfl, rfl⟩
  · exact r.narrower_none .unique
  · exact r.narrower_all .unique

/-- A treatment gives an index exactly if all sites that it finds can be printed. -/
theorem fromSources_eq_ok_iff {index : Index} :
    fromSources { settings with ambiguity := a } sources = .ok index ↔
      (∀ site ∈ (treatedBy settings none sources a).sites, ∃ text, site.expression = .ok text) ∧
        treatedBy settings none sources a = index := by
  rw [fromSources, finished_eq_ok_iff, fault?_eq_none_iff]
  rfl

/-- With a narrower treatment there is less to be printed. -/
theorem fromSources_of_narrower (hnarrower : ∀ r : Resolver, r.Narrower a b) {index : Index}
    (hindex : fromSources { settings with ambiguity := b } sources = .ok index) :
    fromSources { settings with ambiguity := a } sources = .ok (treatedBy settings none sources a) := by
  obtain ⟨hprinted, -⟩ := fromSources_eq_ok_iff.mp hindex
  refine fromSources_eq_ok_iff.mpr ⟨fun site hsite => ?_, rfl⟩
  exact hprinted site ((sites_sublist hnarrower).subset hsite)

end Treatment

/-- Let three settings differ only in how a method call on an unknown receiver is bound.  Each gives an
index exactly if every site that it finds can be printed.  So if `unique` gives an index then `none` does,
and if `all` does then so does `unique`.  The sites of a routine with the narrower of the two are a
selection of those with the broader one, in the same order, and where a search passes over hand-offs, the
chains that it finds with the narrower one are among those with the broader one.  With `none` and with
`unique` every place of a file has at most one site. -/
theorem broader_treatment_binds_more (settings : Settings) (sources : List (String × String)) :
    let build (a : Ambiguity) := fromSources { settings with ambiguity := a } sources
    (∀ a, (∃ index, build a = .ok index) ↔
      ∀ site ∈ (treatedBy settings none sources a).sites, ∃ text, site.expression = .ok text) ∧
    (∀ a b, (a, b) ∈ [(Ambiguity.none, .unique), (.unique, .all)] →
      ∀ broader, build b = .ok broader → ∃ narrower, build a = .ok narrower ∧
        (∀ r, (narrower.sitesOf r).Sublist (broader.sitesOf r)) ∧
        ∀ start target, ∃ fewer found,
          (Search.chains narrower.graph start .skip target {}).1 = some fewer ∧
          (Search.chains broader.graph start .skip target {}).1 = some found ∧
          ∀ chain ∈ fewer, found.contains chain = true) ∧
    ∀ a ∈ [Ambiguity.none, .unique], ∀ index, build a = .ok index →
      index.sites = index.files.flatMap (fun source =>
        (Spot.root source.tree).walk.flatMap (index.resolver.sitesAt settings.handOffNames source)) ∧
      ∀ source s, (index.resolver.sitesAt settings.handOffNames source s).length ≤ 1 := by
  intro build
  refine ⟨fun a => ?_, fun a b hmem broader hbroader => ?_, fun a ha index hindex => ?_⟩
  · constructor
    · rintro ⟨index, hindex⟩
      exact (fromSources_eq_ok_iff.mp hindex).1
    · exact fun hprinted => ⟨_, fromSources_eq_ok_iff.mpr ⟨hprinted, rfl⟩⟩
  · have hnarrower := narrower_of_mem hmem
    obtain ⟨-, rfl⟩ := fromSources_eq_ok_iff.mp hbroader
    refine ⟨_, fromSources_of_narrower hnarrower hbroader, sitesOf_sublist hnarrower,
      fun start target => ?_⟩
    refine ⟨_, _, Search.chains_of_token_none rfl, Search.chains_of_token_none rfl,
      fun chain hchain => ?_⟩
    exact Search.foundChains_of_within (within_of_narrower hnarrower) hchain
  · obtain ⟨-, rfl⟩ := fromSources_eq_ok_iff.mp hindex
    refine ⟨rfl, fun source s => Resolver.length_sitesAt_le ?_ _ source s⟩
    rintro (rfl : a = .all)
    simp at ha

/-- A class with a method, and a call of that method on a parameter without a type. -/
def oneMethod : List (String × String) :=
  [("a.py", "class A:\n    def m(self):\n        return 1\n\ndef f(x):\n    x.m()\n")]

/-- The call is bound with `unique`, and not with `none`. -/
theorem broader_treatment_binds_more_of_one_method :
    ∃ narrower broader, fromSources { ambiguity := .none } oneMethod = .ok narrower ∧
      fromSources { ambiguity := .unique } oneMethod = .ok broader ∧
      narrower.sites.length = 0 ∧ broader.sites.length = 1 ∧
      ∀ r, (narrower.sitesOf r).Sublist (broader.sitesOf r) := by
  have hfacts : (treatedBy {} none oneMethod .unique).fault? = none ∧
      (treatedBy {} none oneMethod .none).sites.length = 0 ∧
      (treatedBy {} none oneMethod .unique).sites.length = 1 := by
    decide +kernel
  obtain ⟨hfault, hnone, hone⟩ := hfacts
  have hbroader : fromSources { ambiguity := .unique } oneMethod =
      .ok (treatedBy {} none oneMethod .unique) := finished_eq_ok_iff.mpr ⟨hfault, rfl⟩
  obtain ⟨narrower, hnarrower, hsites, -⟩ :=
    (broader_treatment_binds_more {} oneMethod).2.1 .none .unique (by decide) _ hbroader
  obtain ⟨-, rfl⟩ := finished_eq_ok_iff.mp hnarrower
  exact ⟨_, _, hnarrower, hbroader, hnone, hone, hsites⟩

/-- A class with a method, and a call of that method on a text with a replacement field that holds a
control character. -/
def unprintableReceiver : List (String × String) :=
  [("m.py", "class A:\n    def m(self):\n        return 1\n\ndef f(d):\n    f\"\x7bd['\x01']\x7d\".m()\n")]

/-- The receiver needs a backslash and cannot be printed.  The treatment that leaves the call unbound
gives an index, the two that bind it give none. -/
theorem unprintable_receiver_prevents_index :
    (∃ index, fromSources { ambiguity := .none } unprintableReceiver = .ok index) ∧
      ∀ a ∈ [Ambiguity.unique, .all],
        fromSources { ambiguity := a } unprintableReceiver = .error (.unprintable .backslash) := by
  have hfacts : (treatedBy {} none unprintableReceiver .none).fault? = none ∧
      (treatedBy {} none unprintableReceiver .unique).fault? = some .backslash ∧
      (treatedBy {} none unprintableReceiver .all).fault? = some .backslash := by
    decide +kernel
  obtain ⟨hnone, hunique, hall⟩ := hfacts
  refine ⟨⟨_, finished_eq_ok_iff.mpr ⟨hnone, rfl⟩⟩, fun a ha => finished_eq_error_iff.mpr ⟨_, ?_, rfl⟩⟩
  simp only [List.mem_cons, List.not_mem_nil, or_false] at ha
  rcases ha with rfl | rfl
  · exact hunique
  · exact hall

end Index

/-! ## The only method of its name -/

/-- A routine of that name that belongs to a class with a name. -/
def Routine.IsMethodNamed (r : Routine) (name : String) : Prop :=
  (∃ owner, r.className = some owner ∧ owner ≠ "") ∧ r.name = name

namespace Resolver

variable {r : Resolver}

theorem mem_methodsNamed_iff {name : String} {routine : Routine} :
    routine ∈ r.methodsNamed name ↔
      ∃ entry ∈ r.modules, routine ∈ entry.2.routines ∧ routine.IsMethodNamed name := by
  have hnamed : (routine.className.any (· != "") && routine.name == name) = true ↔
      routine.IsMethodNamed name := by
    unfold Routine.IsMethodNamed
    cases routine.className <;> simp
  simp only [methodsNamed, List.mem_flatMap, List.mem_filter, hnamed, sortedModules,
    List.mem_mergeSort]

/-- What a method call at a place is bound to by the name of the method alone, with that name: the
call would be bound to nothing if methods were not looked up by their names. -/
def fallbackAt (r : Resolver) (source : SourceModule) (s : Spot) : List (String × Routine) :=
  match s.node with
  | .call _ (.member span receiver attr context) _ _ =>
    let here : Surroundings := ⟨source, enclosingFunctions s⟩
    let callee := Node.member span receiver attr context
    if (r.resolve here true false callee).isEmpty then (r.resolveCall here callee).map (attr, ·) else []
  | _ => []

theorem mem_byMethodName_of_mem_fallbackAt {source : SourceModule} {s : Spot} {attr : String}
    {routine : Routine} (hbound : (attr, routine) ∈ r.fallbackAt source s) :
    routine ∈ r.byMethodName attr := by
  unfold fallbackAt at hbound
  split at hbound
  · rename_i span receiver attr' context _ _ _
    dsimp only at hbound
    split at hbound
    · rename_i hempty
      obtain ⟨found, hfound, heq⟩ := List.mem_map.mp hbound
      cases heq
      have hnone : r.resolveMember ⟨source, enclosingFunctions s⟩ true false receiver attr = [] :=
        List.isEmpty_iff.mp hempty
      change routine ∈ r.resolveMember ⟨source, enclosingFunctions s⟩ true true receiver attr at hfound
      rw [resolveMember_eq, hnone] at hfound
      split at hfound
      · exact hfound
      · cases hfound
    · cases hbound
  · cases hbound

/-- Only a method that is alone among those of its name is bound by it. -/
theorem methodsNamed_of_mem_byMethodName (hunique : r.ambiguity = .unique) {attr : String}
    {routine : Routine} (hroutine : routine ∈ r.byMethodName attr) :
    r.methodsNamed attr = [routine] := by
  unfold byMethodName at hroutine
  simp only [hunique] at hroutine
  split at hroutine
  · rename_i hone
    obtain ⟨only, honly⟩ := List.length_eq_one_iff.mp hone
    rw [honly] at hroutine ⊢
    rw [List.mem_singleton.mp hroutine]
  · cases hroutine

end Resolver

namespace Index

variable {index : Index}

theorem Regular.unique_method_iff (hindex : index.Regular)
    (hsorted : index.files.Pairwise fun a b => a.file < b.file) {attr : String} {routine : Routine}
    (honly : index.resolver.methodsNamed attr = [routine]) :
    (∀ other ∈ index.routines, other.IsMethodNamed attr → other = routine) ↔
      ∀ m ∈ index.files, index.Shadowed m → ∀ other ∈ m.routines, ¬ other.IsMethodNamed attr := by
  have hroutine : routine ∈ index.resolver.methodsNamed attr := honly ▸ List.mem_singleton_self routine
  constructor
  · -- a routine of a shadowed file is not among the methods that are looked up
    intro hunique m hm hshadowed other hother hnamed
    obtain rfl : other = routine := hunique other (List.mem_flatMap.mpr ⟨m, hm, hother⟩) hnamed
    obtain ⟨entry, hentry, hdeclared, -⟩ := Resolver.mem_methodsNamed_iff.mp hroutine
    have hfile := Resolver.mem_files_of_mem_modules hentry
    obtain rfl : m = entry.2 := hindex.resolver.eq_of_file_eq hm hfile <|
      ((hindex.resolver.parsed m hm).file_eq hother).symm.trans
        ((hindex.resolver.parsed _ hfile).file_eq hdeclared)
    have hname : entry.1 = entry.2.name := Resolver.name_of_mem_modules hentry
    refine (mem_modules_iff_not_shadowed hsorted hm).mp ?_ hshadowed
    rw [← hname]
    exact hentry
  · intro hnone other hother hnamed
    obtain ⟨m, hm, hdeclared⟩ := List.mem_flatMap.mp hother
    have hlisted : ¬ index.Shadowed m := fun hshadowed => hnone m hm hshadowed other hdeclared hnamed
    have hmem : other ∈ index.resolver.methodsNamed attr := Resolver.mem_methodsNamed_iff.mpr
      ⟨_, (mem_modules_iff_not_shadowed hsorted hm).mpr hlisted, hdeclared, hnamed⟩
    rw [honly] at hmem
    exact List.mem_singleton.mp hmem

/-- Let unknown receivers be bound only to the one method of a name, and let a method call be bound
by the name alone.  What it is bound to is a routine of the index, a method of that name.  It is the
only one of the index exactly if no file with such a method is shadowed by a later file of the same
module name. -/
theorem fallback_is_unique_iff (settings : Settings) (root : Option String)
    (sources : List (String × String)) (hpaths : (sources.map Prod.fst).Nodup)
    (hunique : settings.ambiguity = .unique) :
    let index := ofSources settings root sources
    ∀ source ∈ index.files, ∀ s : Spot, s.IsIn source.tree → ∀ attr routine,
      (attr, routine) ∈ index.resolver.fallbackAt source s →
        routine ∈ index.routines ∧ routine.IsMethodNamed attr ∧
        ((∀ other ∈ index.routines, other.IsMethodNamed attr → other = routine) ↔
          ∀ m ∈ index.files, index.Shadowed m → ∀ other ∈ m.routines, ¬ other.IsMethodNamed attr) := by
  intro index source _ s _ attr routine hbound
  have hindex : index.Regular := regular_ofSources settings root hpaths
  have hmethods : index.resolver.methodsNamed attr = [routine] :=
    Resolver.methodsNamed_of_mem_byMethodName hunique
      (Resolver.mem_byMethodName_of_mem_fallbackAt hbound)
  have hroutine : routine ∈ index.resolver.methodsNamed attr :=
    hmethods ▸ List.mem_singleton_self routine
  obtain ⟨entry, hentry, hdeclared, hnamed⟩ := Resolver.mem_methodsNamed_iff.mp hroutine
  have hfile := Resolver.mem_files_of_mem_modules hentry
  exact ⟨List.mem_flatMap.mpr ⟨entry.2, hfile, hdeclared⟩, hnamed,
    hindex.unique_method_iff (pairwise_files settings root hpaths) hmethods⟩

/-- Every method call of the index that is bound by the name alone. -/
def fallbacks (index : Index) : List (String × Routine) :=
  index.files.flatMap fun source =>
    (Spot.root source.tree).walk.flatMap (index.resolver.fallbackAt source)

theorem exists_of_mem_fallbacks {bound : String × Routine} (hbound : bound ∈ index.fallbacks) :
    ∃ source ∈ index.files, ∃ s : Spot, s.IsIn source.tree ∧
      bound ∈ index.resolver.fallbackAt source s := by
  obtain ⟨source, hsource, hin⟩ := List.mem_flatMap.mp hbound
  obtain ⟨s, hs, hat⟩ := List.mem_flatMap.mp hin
  exact ⟨source, hsource, s, Spot.mem_walk_iff.mp hs, hat⟩

theorem fallback_is_unique_iff_of_one_method :
    ∃ routine, ("m", routine) ∈ (ofSources {} none oneMethod).fallbacks ∧
      routine.IsMethodNamed "m" ∧
      ∀ other ∈ (ofSources {} none oneMethod).routines, other.IsMethodNamed "m" → other = routine := by
  have hfacts : (ofSources {} none oneMethod).fallbacks.map Prod.fst = ["m"] ∧
      ((ofSources {} none oneMethod).files.map SourceModule.name).Nodup := by
    decide +kernel
  obtain ⟨hbound, hnames⟩ := hfacts
  have hfirst : "m" ∈ (ofSources {} none oneMethod).fallbacks.map Prod.fst :=
    hbound ▸ List.mem_singleton_self "m"
  obtain ⟨⟨attr, routine⟩, hmem, rfl⟩ := List.mem_map.mp hfirst
  obtain ⟨source, hsource, s, hs, hat⟩ := exists_of_mem_fallbacks hmem
  obtain ⟨-, hnamed, hiff⟩ :=
    fallback_is_unique_iff {} none oneMethod (by decide) rfl source hsource s hs _ routine hat
  refine ⟨routine, hmem, hnamed, hiff.mpr ?_⟩
  rintro m hm ⟨other, hother, hname, hlt⟩
  obtain rfl : other = m := List.inj_on_of_nodup_map hnames hother hm hname
  exact absurd hlt (lt_irrefl _)

/-- Two files of the same module name that have a method of the same name each, and a call of it. -/
def homonymousModules : List (String × String) :=
  [("a.py", "class A:\n    def m(self):\n        return 1\n\ndef f(x):\n    x.m()\n"),
    ("a/__init__.py", "class B:\n    def m(self):\n        return 2\n")]

/-- The call is bound to one of the two methods of its name. -/
theorem fallback_overlooks_shadowed_method :
    ∃ routine, ("m", routine) ∈ (ofSources {} none homonymousModules).fallbacks ∧
      ∃ other ∈ (ofSources {} none homonymousModules).routines,
        other.IsMethodNamed "m" ∧ other ≠ routine := by
  rw [ofSources_of_sorted {} none (by decide)]
  have hfacts : (ofSorted {} none homonymousModules).fallbacks.map
        (fun bound => (bound.1, bound.2.className)) = [("m", some "B")] ∧
      (ofSorted {} none homonymousModules).routines.map
        (fun r => (r.className, r.name)) = [(some "A", "m"), (none, "f"), (some "B", "m")] := by
    decide +kernel
  obtain ⟨hbound, hroutines⟩ := hfacts
  have hfirst : ("m", some "B") ∈ (ofSorted {} none homonymousModules).fallbacks.map
      fun bound => (bound.1, bound.2.className) := hbound ▸ List.mem_singleton_self _
  obtain ⟨⟨attr, routine⟩, hmem, heq⟩ := List.mem_map.mp hfirst
  obtain ⟨rfl, hclass⟩ := Prod.mk.inj heq
  have hother : (some "A", "m") ∈ (ofSorted {} none homonymousModules).routines.map
      fun r => (r.className, r.name) := hroutines ▸ List.mem_cons_self
  obtain ⟨other, hdeclared, hcopy⟩ := List.mem_map.mp hother
  obtain ⟨howner, hname⟩ := Prod.mk.inj hcopy
  refine ⟨routine, hmem, other, hdeclared, ⟨⟨"A", howner, by decide⟩, hname⟩, fun hsame => ?_⟩
  have howners : some "A" = some "B" := howner.symm.trans ((congrArg Routine.className hsame).trans hclass)
  exact absurd howners (by decide)

end Index

end CallChain
