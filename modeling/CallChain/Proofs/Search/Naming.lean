import CallChain.Proofs.Search.Enumeration

/-!
# When names tell routines apart

A search gives its chains by name.  A routine is called by its qualified name unless another routine
of the chains has the same one; then it is said to share it, and is called by its full name.

`byQualname_eq` and `nameTable_eq` give the two tables behind this in closed form: the groups are
the first occurrences of the routines with a qualified name, and the names are those of their
members, put one after the other.  As routines with equal keys count as one but need not agree in
their names, what a routine is called is the own name of its namesake, the last member with the same
key.

Full names are not always enough.  They may agree for two routines that share a qualified name (one
is declared twice in a module, or two files have one module name), and a full name may be the
qualified name of a third routine (`m.f` is the function `f` of the module `m`, but also the method
`f` of a class `m`).  `names_distinguish_iff` says that nothing else can go wrong.
-/

namespace CallChain.Search

/-! ## The routines of a qualified name -/

/-- The routines of a qualified name, each at its first occurrence. -/
def bearers (routines : List Routine) (qualname : String) : List Routine :=
  firstOccurrences (routines.filter fun r => r.qualname == qualname)

/-- The routines by qualified name, in order of first occurrence. -/
def groupsOf (routines : List Routine) : List (String × List Routine) :=
  (firstOccurrences (routines.map Routine.qualname)).map fun q => (q, bearers routines q)

theorem bearers_concat (routines : List Routine) (r : Routine) (qualname : String) :
    bearers (routines ++ [r]) qualname =
      if qualname == r.qualname then
        if (bearers routines qualname).contains r then bearers routines qualname
        else bearers routines qualname ++ [r]
      else bearers routines qualname := by
  unfold bearers
  rw [List.filter_append, contains_firstOccurrences]
  by_cases hname : (qualname == r.qualname) = true
  · rw [if_pos hname, List.filter_singleton, BEq.comm, hname, cond_true, firstOccurrences_concat]
  · rw [if_neg hname, List.filter_singleton, BEq.comm, Bool.eq_false_iff.mpr hname, cond_false,
      List.append_nil]

/-- A routine adds itself to the group of its qualified name. -/
theorem groupsOf_concat (routines : List Routine) (r : Routine) :
    groupsOf (routines ++ [r]) =
      Assoc.put r.qualname
        (if ((Assoc.get? r.qualname (groupsOf routines)).getD []).contains r then
          (Assoc.get? r.qualname (groupsOf routines)).getD []
        else (Assoc.get? r.qualname (groupsOf routines)).getD [] ++ [r])
        (groupsOf routines) := by
  have hgroup : (Assoc.get? r.qualname (groupsOf routines)).getD [] =
      bearers routines r.qualname := by
    rw [groupsOf, Assoc.get?_map, contains_firstOccurrences]
    split
    · rfl
    · rename_i hnew
      have hnone : (routines.filter fun s => s.qualname == r.qualname) = [] := by
        rw [List.filter_eq_nil_iff]
        intro s hs hname
        rw [beq_iff_eq] at hname
        exact hnew (List.contains_iff_mem.mpr (List.mem_map.mpr ⟨s, hs, hname⟩))
      simp [bearers, hnone, firstOccurrences, occurrencesAfter]
  rw [hgroup, groupsOf, groupsOf, Assoc.put_map _ (firstOccurrences_pairwise _), List.map_append,
    List.map_singleton, firstOccurrences_concat, contains_firstOccurrences]
  refine List.map_congr_left fun q _ => ?_
  rw [bearers_concat]
  split
  · rename_i hname
    rw [eq_of_beq hname]
  · rfl

theorem byQualname_eq (chains : List Chain) : byQualname chains = groupsOf chains.flatten := by
  unfold byQualname
  induction chains.flatten using List.reverseRecOn with
  | nil => rfl
  | append_singleton routines r ih => rw [List.foldl_concat, ih, groupsOf_concat]

/-! ## What a routine is called -/

/-- Another routine of the chains has the same qualified name. -/
def Shared (chains : List Chain) (r : Routine) : Prop :=
  ∃ s ∈ chains.flatten, s.qualname = r.qualname ∧ (s == r) = false

instance (chains : List Chain) (r : Routine) : Decidable (Shared chains r) :=
  inferInstanceAs (Decidable (∃ s ∈ chains.flatten, s.qualname = r.qualname ∧ (s == r) = false))

/-- The name that a routine has on its own account. -/
def ownName (chains : List Chain) (r : Routine) : String :=
  if Shared chains r then r.fullName else r.qualname

/-- The routines that are named, one after the other. -/
def members (chains : List Chain) : List Routine := (groupsOf chains.flatten).flatMap Prod.snd

/-- The routine after which `r` is named. -/
def namesake (chains : List Chain) (r : Routine) : Routine :=
  ((members chains).reverse.find? (· == r)).getD r

/-- What a routine of chains is called. -/
def nameOf (chains : List Chain) (r : Routine) : String :=
  (Assoc.get? r.key (nameTable chains)).getD r.qualname

theorem mem_bearers {routines : List Routine} {qualname : String} {r : Routine}
    (hr : r ∈ bearers routines qualname) : r ∈ routines ∧ r.qualname = qualname := by
  have hfilter := (firstOccurrences_sublist _).subset hr
  rwa [List.mem_filter, beq_iff_eq] at hfilter

theorem exists_mem_bearers {routines : List Routine} {r : Routine} (hr : r ∈ routines) :
    ∃ s ∈ bearers routines r.qualname, (s == r) = true :=
  exists_mem_firstOccurrences (List.mem_filter.mpr ⟨hr, BEq.rfl⟩)

/-- A group has one member exactly if its routine shares the qualified name with no other. -/
theorem length_bearers_eq_one_iff {chains : List Chain} {r : Routine} (hr : r ∈ chains.flatten) :
    (bearers chains.flatten r.qualname).length = 1 ↔ ¬ Shared chains r := by
  obtain ⟨first, hfirst, hequal⟩ := exists_mem_bearers hr
  constructor
  · rintro hlength ⟨s, hs, hname, hother⟩
    obtain ⟨only, honly⟩ := List.length_eq_one_iff.mp hlength
    obtain ⟨second, hsecond, hsame⟩ := exists_mem_bearers hs
    rw [hname] at hsecond
    rw [honly, List.mem_singleton] at hfirst hsecond
    rw [hsecond, ← hfirst] at hsame
    rw [BEq.trans (BEq.symm hsame) hequal] at hother
    cases hother
  · intro hunshared
    have halike : ∀ s ∈ bearers chains.flatten r.qualname, (s == r) = true := by
      intro s hs
      obtain ⟨hmem, hname⟩ := mem_bearers hs
      rw [← Bool.not_eq_false]
      exact fun hother => hunshared ⟨s, hmem, hname, hother⟩
    have hdistinct : (bearers chains.flatten r.qualname).Pairwise fun a b => (a == b) = false :=
      firstOccurrences_pairwise _
    cases hgroup : bearers chains.flatten r.qualname with
    | nil => simp [hgroup] at hfirst
    | cons a rest =>
        cases rest with
        | nil => rfl
        | cons b others =>
            rw [hgroup] at halike hdistinct
            have hother := (List.pairwise_cons.mp hdistinct).1 b (by simp)
            rw [BEq.trans (halike a (by simp)) (BEq.symm (halike b (by simp)))] at hother
            cases hother

theorem mem_members {chains : List Chain} {r : Routine} (hr : r ∈ members chains) :
    r ∈ chains.flatten := by
  obtain ⟨group, hgroup, hr⟩ := List.mem_flatMap.mp hr
  obtain ⟨q, _, rfl⟩ := List.mem_map.mp hgroup
  exact (mem_bearers hr).1

theorem exists_mem_members {chains : List Chain} {r : Routine} (hr : r ∈ chains.flatten) :
    ∃ s ∈ members chains, (s == r) = true := by
  obtain ⟨s, hs, hequal⟩ := exists_mem_bearers hr
  have hname : r.qualname ∈ firstOccurrences (chains.flatten.map Routine.qualname) := by
    rw [← List.contains_iff_mem, contains_firstOccurrences, List.contains_iff_mem]
    exact List.mem_map_of_mem hr
  exact ⟨s, List.mem_flatMap.mpr ⟨_, List.mem_map_of_mem hname, hs⟩, hequal⟩

/-- Every member is named by its own name, one after the other. -/
theorem nameTable_eq (chains : List Chain) :
    nameTable chains =
      Assoc.overlay [] ((members chains).map fun r => (r.key, ownName chains r)) := by
  rw [nameTable, byQualname_eq, Assoc.overlay, List.foldl_map, members, List.foldl_flatMap]
  refine List.foldl_ext _ _ _ fun names group hgroup => ?_
  obtain ⟨q, _, rfl⟩ := List.mem_map.mp hgroup
  refine List.foldl_ext _ _ _ fun names r hr => ?_
  obtain ⟨hmem, rfl⟩ := mem_bearers hr
  by_cases hshared : Shared chains r <;> simp [ownName, length_bearers_eq_one_iff hmem, hshared]

/-- A routine of chains is called by the own name of its namesake. -/
theorem nameOf_eq {chains : List Chain} {r : Routine} (hr : r ∈ chains.flatten) :
    namesake chains r ∈ chains.flatten ∧ (namesake chains r == r) = true ∧
      nameOf chains r = ownName chains (namesake chains r) := by
  obtain ⟨s, hs, hequal⟩ := exists_mem_members hr
  have hsome : ((members chains).reverse.find? (· == r)).isSome :=
    List.find?_isSome.mpr ⟨s, List.mem_reverse.mpr hs, hequal⟩
  obtain ⟨last, hlast⟩ := Option.isSome_iff_exists.mp hsome
  have hnamesake : namesake chains r = last := by rw [namesake, hlast, Option.getD_some]
  have hmem : last ∈ members chains := List.mem_reverse.mp (List.mem_of_find?_eq_some hlast)
  have hsame := List.find?_some hlast
  rw [hnamesake]
  refine ⟨mem_members hmem, hsame, ?_⟩
  rw [nameOf, nameTable_eq, Assoc.get?_overlay, ← List.map_reverse, List.find?_map]
  change ((((members chains).reverse.find? (· == r)).map _).map _ |>.or none).getD _ = _
  rw [hlast]
  rfl

/-! ## Distinguishable chains -/

/-- Different routines of the chains are called differently, different chains are different by name,
and no chain has a name twice. -/
structure Distinguishable (chains : List Chain) : Prop where
  names : ∀ a ∈ chains.flatten, ∀ b ∈ chains.flatten,
    nameOf chains a = nameOf chains b → (a == b) = true
  chains_nodup : (nameChains chains).Nodup
  names_nodup : ∀ names ∈ nameChains chains, names.Nodup

/-- A routine is to be called by its full name, but another one is called so already. -/
def Clash (chains : List Chain) (a b : Routine) : Prop :=
  Shared chains a ∧ a.fullName = ownName chains b

/-- Chains whose routines are called alike, one by one, are equal if the names are those of one
routine each. -/
theorem beq_of_map_name_eq (name : Routine → String) {c d : Chain}
    (hnames : ∀ a ∈ c, ∀ b ∈ d, name a = name b → (a == b) = true)
    (hmap : c.map name = d.map name) : (c == d) = true := by
  induction c generalizing d with
  | nil =>
      rw [List.map_nil, eq_comm, List.map_eq_nil_iff] at hmap
      rw [hmap]
      rfl
  | cons a rest ih =>
      cases d with
      | nil => simp at hmap
      | cons b others =>
          rw [List.map_cons, List.map_cons, List.cons.injEq] at hmap
          rw [List.cons_beq_cons, Bool.and_eq_true]
          refine ⟨hnames a (by simp) b (by simp) hmap.1, ih ?_ hmap.2⟩
          intro s hs t ht
          exact hnames s (List.mem_cons_of_mem a hs) t (List.mem_cons_of_mem b ht)

/-- Where names tell routines apart, they tell different chains apart, and a chain without
repetition has no name twice. -/
theorem Distinguishable.of_names {chains : List Chain}
    (hchains : chains.Pairwise fun c d => (c == d) = false)
    (hsimple : ∀ chain ∈ chains, chain.Pairwise fun a b => (a == b) = false)
    (hnames : ∀ a ∈ chains.flatten, ∀ b ∈ chains.flatten,
      nameOf chains a = nameOf chains b → (a == b) = true) : Distinguishable chains := by
  refine ⟨hnames, ?_, ?_⟩
  · rw [List.Nodup, nameChains, List.pairwise_map]
    refine hchains.imp_of_mem fun {c d} hc hd hother hmap => ?_
    have hequal : (c == d) = true := beq_of_map_name_eq (nameOf chains)
      (fun a ha b hb => hnames a (List.mem_flatten_of_mem hc ha) b (List.mem_flatten_of_mem hd hb))
      hmap
    rw [hequal] at hother
    cases hother
  · intro names hmem
    obtain ⟨chain, hchain, rfl⟩ := List.mem_map.mp hmem
    rw [List.Nodup, List.pairwise_map]
    refine (hsimple chain hchain).imp_of_mem fun {a b} ha hb hother hname => ?_
    rw [hnames a (List.mem_flatten_of_mem hchain ha) b (List.mem_flatten_of_mem hchain hb) hname]
      at hother
    cases hother

/-- Names tell routines apart exactly if no two of their namesakes clash. -/
theorem names_injective_iff {chains : List Chain} :
    (∀ a ∈ chains.flatten, ∀ b ∈ chains.flatten,
      nameOf chains a = nameOf chains b → (a == b) = true) ↔
    ∀ a ∈ chains.flatten, ∀ b ∈ chains.flatten, (a == b) = false →
      ¬ Clash chains (namesake chains a) (namesake chains b) := by
  constructor
  · rintro hnames a ha b hb hother ⟨hshared, hfull⟩
    obtain ⟨_, _, hcalled⟩ := nameOf_eq ha
    obtain ⟨_, _, hcalled'⟩ := nameOf_eq hb
    rw [ownName, if_pos hshared, hfull, ← hcalled'] at hcalled
    rw [hnames a ha b hb hcalled] at hother
    cases hother
  · intro hclash a ha b hb hname
    obtain ⟨hmem, hequal, hcalled⟩ := nameOf_eq ha
    obtain ⟨hmem', hequal', hcalled'⟩ := nameOf_eq hb
    rw [hcalled, hcalled'] at hname
    rw [← Bool.not_eq_false]
    intro hother
    by_cases hshared : Shared chains (namesake chains a)
    · rw [ownName, if_pos hshared] at hname
      exact hclash a ha b hb hother ⟨hshared, hname⟩
    by_cases hshared' : Shared chains (namesake chains b)
    · refine hclash b hb a ha (BEq.comm.trans hother) ⟨hshared', ?_⟩
      rw [hname, ownName, if_pos hshared']
    -- with one qualified name, each of the two would make the other share it
    rw [ownName, ownName, if_neg hshared, if_neg hshared'] at hname
    refine hshared ⟨_, hmem', hname.symm, ?_⟩
    rw [Routine.beq_false_iff] at hother ⊢
    rw [Routine.beq_iff] at hequal hequal'
    rw [hequal, hequal']
    exact hother.symm

/-- Unless a poll stops it, a search returns one path for each of the different chains that it
keeps, and the paths are distinguishable exactly if no full name in use is the name of another
routine as well. -/
theorem names_distinguish_iff (graph : CallGraph) (start target : Routine) (policy : HandOffPolicy)
    (run : Run) (hquiet : ¬ Run.SeesCancelled (courseTo graph start policy target) run) :
    ∃ kept, (chains graph start policy target run).1 = some kept ∧
      (kept.Pairwise fun c d => (c == d) = false) ∧
      (paths graph start policy target run).1 =
        some (kept.map fun chain => chain.map (nameOf kept)) ∧
      (Distinguishable kept ↔
        ∀ a ∈ kept.flatten, ∀ b ∈ kept.flatten, (a == b) = false →
          ¬ Clash kept (namesake kept a) (namesake kept b)) := by
  have hkept : (chains graph start policy target run).1 =
      some (firstOccurrences (arrivals (courseTo graph start policy target))) :=
    chains_eq_some_iff.mpr ⟨hquiet, rfl⟩
  refine ⟨_, hkept, firstOccurrences_pairwise _, by rw [paths_fst, hkept]; rfl, ?_⟩
  rw [← names_injective_iff]
  refine ⟨Distinguishable.names, Distinguishable.of_names (firstOccurrences_pairwise _) ?_⟩
  intro chain hchain
  have hsimple := mem_arrivals_courseTo.mp ((firstOccurrences_sublist _).subset hchain)
  have hdistinct := (List.pairwise_cons.mp hsimple.distinct).2
  rw [List.pairwise_reverse] at hdistinct
  exact hdistinct.imp fun hother => BEq.comm.trans hother

/-! ### A function and a method of one name -/

/-- A routine on the first line of a module. -/
def moduleRoutine (moduleName qualname name : String) : Routine :=
  { name, qualname, moduleName, file := moduleName ++ ".py", line := 1, endLine := 1 }

/-- `main` calls the functions `f` of the modules `m` and `n` and the method `f` of a class `m` in
the module `x`, and each of these calls `work`. -/
def homonymGraph : CallGraph :=
  let main := moduleRoutine "main" "main" "main"
  let work := moduleRoutine "t" "work" "work"
  let homonyms :=
    [moduleRoutine "m" "f" "f", moduleRoutine "n" "f" "f", moduleRoutine "x" "m.f" "f"]
  { routines := main :: work :: homonyms
    sites := homonyms.flatMap fun r => [sampleSite work r false, sampleSite r main false] }

theorem names_distinguish_iff_of_homonyms :
    ∃ kept,
      (chains homonymGraph (moduleRoutine "main" "main" "main") .sever
        (moduleRoutine "t" "work" "work") {}).1 = some kept ∧
      (kept.Pairwise fun c d => (c == d) = false) ∧
      (paths homonymGraph (moduleRoutine "main" "main" "main") .sever
        (moduleRoutine "t" "work" "work") {}).1 =
          some (kept.map fun chain => chain.map (nameOf kept)) ∧
      (Distinguishable kept ↔
        ∀ a ∈ kept.flatten, ∀ b ∈ kept.flatten, (a == b) = false →
          ¬ Clash kept (namesake kept a) (namesake kept b)) :=
  names_distinguish_iff homonymGraph (moduleRoutine "main" "main" "main")
    (moduleRoutine "t" "work" "work") .sever {} (not_seesCancelled_of_token_none _ rfl)

/-- Two functions share the name `f`, so one is called `m.f`, and so is the method. -/
theorem paths_of_homonyms_repeat :
    ∃ found, (paths homonymGraph (moduleRoutine "main" "main" "main") .sever
        (moduleRoutine "t" "work" "work") {}).1 = some found ∧
      ¬ found.Nodup :=
  ⟨[["main", "m.f"], ["main", "n.f"], ["main", "m.f"]], by decide +kernel, by decide⟩

end CallChain.Search
