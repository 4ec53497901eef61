import CallChain.Proofs.Index.Mentions
import CallChain.Proofs.Python.Formation

/-!
# Hand-offs stay in their statement

A place is covered if a call at or above it hands off.  Calls are expressions, and in a tree that was
read there are no statements below an expression: so such a call is inside the innermost statement
around the place, and between the two there is no other routine.  Where the climb is told to stop,
as long as it is at a function of the tree, makes no difference: all functions are further up than
the calls.
-/

namespace CallChain

open Python

/-! ## Calls that hand off -/

namespace HandOffNames

variable {names : HandOffNames} {imports : Option ImportTable}

/-- A dotted name with its alias expanded, where the imports are known. -/
def expanded (imports : Option ImportTable) (dotted : String) : String :=
  match imports with
  | some table => table.expand dotted
  | none => dotted

/-- The node is a call of a scheduling method, or of a dotted name that ends, aliases expanded, like
a thread constructor or an executor type. -/
inductive HandsOff (names : HandOffNames) (imports : Option ImportTable) : Node → Prop
  | method {span place : Span} {receiver : Node} {attr : String} {context : Context}
      {args keywords : List Node} (hattr : attr ∈ names.executorMethods) :
      HandsOff names imports (.call span (.member place receiver attr context) args keywords)
  | construction {span : Span} {callee : Node} {args keywords : List Node} {dotted : String}
      (hdotted : callee.dotted? = some dotted)
      (hlast : Text.lastPart (expanded imports dotted) ∈
        names.threadConstructors ++ names.executorTypes) :
      HandsOff names imports (.call span callee args keywords)

theorem matchesCallee_iff {callee : Node} :
    names.matchesCallee imports callee = true ↔
      (∃ place receiver attr context, callee = .member place receiver attr context ∧
        attr ∈ names.executorMethods) ∨
      ∃ dotted, callee.dotted? = some dotted ∧
        Text.lastPart (expanded imports dotted) ∈
          names.threadConstructors ++ names.executorTypes := by
  cases callee with
  | member place receiver attr context =>
      by_cases hattr : attr ∈ names.executorMethods <;> cases hdotted : receiver.dotted? <;>
        cases imports <;> simp [matchesCallee, Node.dotted?, expanded, hdotted, hattr]
  | _ => cases imports <;> simp [matchesCallee, Node.dotted?, expanded]

theorem isHandOff_iff {node : Node} :
    names.isHandOff imports node = true ↔ names.HandsOff imports node := by
  constructor
  · intro hmatches
    cases node with
    | call span callee args keywords =>
        rcases matchesCallee_iff.mp hmatches with ⟨_, _, _, _, rfl, hattr⟩ | ⟨dotted, hdotted, hlast⟩
        · exact .method hattr
        · exact .construction hdotted hlast
    | _ => cases hmatches
  · intro hhands
    cases hhands with
    | method hattr => exact matchesCallee_iff.mpr (Or.inl ⟨_, _, _, _, rfl, hattr⟩)
    | construction hdotted hlast => exact matchesCallee_iff.mpr (Or.inr ⟨_, hdotted, hlast⟩)

theorem HandsOff.not_isStatement {node : Node} (hhands : names.HandsOff imports node) :
    node.isStatement = false := by
  cases hhands <;> rfl

end HandOffNames

/-! ## Places above each other -/

namespace Python.Spot

variable {tree : Node} {accepts : String → Prop}

/-- Of two places on the way up one is above the other, unless they are the same. -/
theorem above_trichotomy {s u v : Spot} (hu : u ∈ s :: s.above) (hv : v ∈ s :: s.above) :
    u = v ∨ u ∈ v.above ∨ v ∈ u.above := by
  induction s with
  | root node =>
      obtain rfl := List.mem_singleton.mp hu
      exact Or.inl (List.mem_singleton.mp hv).symm
  | child parent role index node ih =>
      rcases List.mem_cons.mp hu with rfl | hu
      · rcases List.mem_cons.mp hv with rfl | hv
        · exact Or.inl rfl
        · exact Or.inr (Or.inr hv)
      · rcases List.mem_cons.mp hv with rfl | hv
        · exact Or.inr (Or.inl hu)
        · exact ih hu hv

theorem above_trans {s u v : Spot} (hu : u ∈ s.above) (hv : v ∈ u.above) : v ∈ s.above := by
  induction s with
  | root node => cases hu
  | child parent role index node ih =>
      rcases List.mem_cons.mp hu with rfl | hu
      · exact List.mem_cons_of_mem _ hv
      · exact List.mem_cons_of_mem _ (ih hu)

theorem not_mem_above_self (s : Spot) : s ∉ s.above :=
  fun hmem => Nat.lt_irrefl _ (length_path_of_mem_above hmem)

theorem IsIn.of_mem_cons_above {s u : Spot} (hs : s.IsIn tree) (hu : u ∈ s :: s.above) :
    u.IsIn tree := by
  rcases List.mem_cons.mp hu with rfl | habove
  · exact hs
  · exact hs.of_mem_above habove

/-- Above a statement there are only statements. -/
theorem IsIn.isStatement_above {s : Spot} (hs : s.IsIn tree) (hformed : tree.Formed accepts)
    (hkind : s.node.isStatement = true) : ∀ t ∈ s.above, t.node.isStatement = true := by
  induction s with
  | root node => simp [above]
  | child parent role index node ih =>
      have hparent := (hformed.of_isIn hs.1).isStatement_of_child (List.mem_of_getElem? hs.2) hkind
      exact List.forall_mem_cons.mpr ⟨hparent, ih hs.1 hparent⟩

/-- From a place up to an expression above it there are only expressions. -/
theorem IsIn.not_isStatement_below {s u v : Spot} (hs : s.IsIn tree) (hformed : tree.Formed accepts)
    (hu : u ∈ s :: s.above) (hv : v = u ∨ v ∈ u.above) (hkind : v.node.isStatement = false) :
    u.node.isStatement = false := by
  rcases hv with rfl | habove
  · exact hkind
  · by_contra hstatement
    rw [Bool.not_eq_false] at hstatement
    have := (hs.of_mem_cons_above hu).isStatement_above hformed hstatement v habove
    simp [hkind] at this

/-! ## The statement around a place -/

/-- `t` is the innermost statement around `s`. -/
structure InStatement (t s : Spot) : Prop where
  above : t ∈ s.above
  kind : t.node.isStatement = true
  inner : ∀ u ∈ s.above, t ∈ u.above → u.node.isStatement = false

theorem exists_inStatement {s : Spot} (hs : s.IsIn tree) (htree : tree.isStatement = true)
    (hkind : s.node.isStatement = false) : ∃ t, InStatement t s := by
  induction s with
  | root node =>
      obtain rfl : node = tree := hs
      exact absurd htree (Bool.eq_false_iff.mp hkind)
  | child parent role index node ih =>
      by_cases hparent : parent.node.isStatement = true
      · refine ⟨parent, List.mem_cons_self, hparent, fun u hu habove => ?_⟩
        rcases List.mem_cons.mp hu with rfl | hu
        · exact absurd habove (not_mem_above_self _)
        · exact absurd (above_trans hu habove) (not_mem_above_self _)
      · rw [Bool.not_eq_true] at hparent
        obtain ⟨t, ht⟩ := ih hs.1 hparent
        refine ⟨t, List.mem_cons_of_mem _ ht.above, ht.kind, ?_⟩
        exact List.forall_mem_cons.mpr ⟨fun _ => hparent, ht.inner⟩

/-- An expression at or above a place is below the statement around the place. -/
theorem InStatement.below {s t u : Spot} (ht : InStatement t s) (hs : s.IsIn tree)
    (hformed : tree.Formed accepts) (hu : u ∈ s :: s.above) (hkind : u.node.isStatement = false) :
    t ∈ u.above := by
  have htop : t ∈ s :: s.above := List.mem_cons_of_mem _ ht.above
  rcases above_trichotomy hu htop with rfl | habove | hbelow
  · simp [ht.kind] at hkind
  · have := (hs.of_mem_cons_above htop).isStatement_above hformed ht.kind u habove
    simp [hkind] at this
  · exact hbelow

/-- From a place up to an expression the routine does not change. -/
theorem IsIn.enclosingFunctions_eq {s u : Spot} (hs : s.IsIn tree) (hformed : tree.Formed accepts)
    (hu : u ∈ s :: s.above) (hkind : u.node.isStatement = false) :
    enclosingFunctions u = enclosingFunctions s := by
  induction s with
  | root node => rw [List.mem_singleton.mp hu]
  | child parent role index node ih =>
      rcases List.mem_cons.mp hu with rfl | hu
      · rfl
      have hparent : parent.node.isStatement = false := by
        refine hs.1.not_isStatement_below hformed List.mem_cons_self ?_ hkind
        exact List.mem_cons.mp hu
      have hfunction : parent.isFunction = false := by
        unfold isFunction
        split
        · rename_i heq
          simp [heq, Node.isStatement] at hparent
        · rfl
      simpa [enclosingFunctions, hfunction] using ih hs.1 hu

end Python.Spot

/-! ## Coverage -/

namespace HandOffNames

variable {names : HandOffNames} {imports : Option ImportTable} {tree : Node}
  {accepts : String → Prop}

/-- The climb comes to a hand-off if it is not stopped before. -/
theorem covers_iff {stop : Option (List Nat)} {s : Spot} :
    names.covers imports stop s = true ↔
      ∃ call ∈ s :: s.above, names.HandsOff imports call.node ∧
        ∀ u ∈ s :: s.above, u = call ∨ call ∈ u.above → stop ≠ some u.path := by
  induction s with
  | root node =>
      simp [covers, isHandOff_iff, Spot.above, Spot.node, Spot.path, and_comm]
  | child parent role index node ih =>
      rw [covers]
      generalize hs : Spot.child parent role index node = s at *
      have habove : s.above = parent :: parent.above := by rw [← hs]; rfl
      have hnode : s.node = node := by rw [← hs]; rfl
      by_cases hstop : stop = some s.path
      · simp only [hstop, beq_self_eq_true, if_true, Bool.false_eq_true, false_iff]
        rintro ⟨call, hcall, -, hfree⟩
        have hbelow : s = call ∨ call ∈ s.above := (List.mem_cons.mp hcall).imp_left Eq.symm
        exact hfree s List.mem_cons_self hbelow rfl
      · rw [if_neg (by simpa using hstop), Bool.or_eq_true, isHandOff_iff, ih, ← hnode, habove]
        constructor
        · rintro (hhands | ⟨call, hcall, hhands, hfree⟩)
          · refine ⟨s, List.mem_cons_self, hhands, fun u hu hbelow => ?_⟩
            rcases hbelow with rfl | hbelow
            · exact hstop
            · rcases List.mem_cons.mp hu with rfl | hu
              · exact hstop
              · exact absurd (Spot.above_trans (habove ▸ hu) hbelow) (Spot.not_mem_above_self s)
          · refine ⟨call, List.mem_cons_of_mem _ hcall, hhands, ?_⟩
            exact List.forall_mem_cons.mpr ⟨fun _ => hstop, hfree⟩
        · rintro ⟨call, hcall, hhands, hfree⟩
          rcases List.mem_cons.mp hcall with rfl | hcall
          · exact Or.inl hhands
          · exact Or.inr ⟨call, hcall, hhands, (List.forall_mem_cons.mp hfree).2⟩

/-- Nothing stops the climb, or a function of the tree does. -/
def StopsAtFunction (tree : Node) (stop : Option (List Nat)) : Prop :=
  ∀ path ∈ stop, ∃ function : Spot, function.IsIn tree ∧ function.isFunction = true ∧
    function.path = path

theorem covers_iff_of_stopsAtFunction (hformed : tree.Formed accepts) {s : Spot} (hs : s.IsIn tree)
    {stop : Option (List Nat)} (hstop : StopsAtFunction tree stop) :
    names.covers imports stop s = true ↔
      ∃ call ∈ s :: s.above, names.HandsOff imports call.node := by
  rw [covers_iff]
  refine exists_congr fun call => and_congr_right fun _ => and_iff_left_of_imp fun hhands => ?_
  intro u hu hbelow hpath
  -- on the way up to the call there are only expressions, and a function is none
  have hkind := hs.not_isStatement_below hformed hu (hbelow.imp_left Eq.symm) hhands.not_isStatement
  obtain ⟨function, hin, hfunction, heq⟩ := hstop u.path hpath
  obtain rfl := hin.eq_of_path_eq (hs.of_mem_cons_above hu) heq
  unfold Spot.isFunction at hfunction
  split at hfunction
  · rename_i hnode
    simp [hnode, Node.isStatement] at hkind
  · cases hfunction

theorem stopsAtFunction_none (tree : Node) : StopsAtFunction tree none := by
  simp [StopsAtFunction]

theorem stopsAtFunction_nearest {s : Spot} (hs : s.IsIn tree) :
    StopsAtFunction tree ((enclosingFunctions s).head?.map Spot.path) := by
  intro path hpath
  obtain ⟨function, hnearest, rfl⟩ := Option.map_eq_some_iff.mp hpath
  have hbody := mem_enclosingFunctions.mp (List.mem_of_mem_head? hnearest)
  exact ⟨function, hbody.isIn hs, hbody.1, rfl⟩

end HandOffNames

theorem handedOff_of_mem_sitesAt {r : Resolver} {names : HandOffNames} {source : SourceModule}
    {s : Spot} {site : CallSite} (hsite : site ∈ r.sitesAt names source s) :
    site.handedOff =
      names.covers (some source.imports) ((enclosingFunctions s).head?.map Spot.path) s := by
  unfold Resolver.sitesAt at hsite
  split at hsite
  · cases hsite
  · dsimp only at hsite
    split at hsite
    · cases hsite
    · obtain ⟨callee, -, rfl⟩ := List.mem_map.mp hsite
      rfl

/-- Whether an expression of a parsed file is covered is decided inside the innermost statement around
it: a call at or above the expression hands off there.  So it does not matter which function the climb
stops at, the call and the expression are in the same routine, and all that stands in a covered
expression is covered, as are the sites there. -/
theorem covers_in_statement {text : String} {tree : Node} (htree : parse? text = some tree)
    (names : HandOffNames) (imports : Option ImportTable) {s : Spot} (hs : s.IsIn tree)
    (hkind : s.node.isStatement = false) :
    (∃ t, Spot.InStatement t s) ∧
    (∀ t stop, Spot.InStatement t s → HandOffNames.StopsAtFunction tree stop →
      (names.covers imports stop s = true ↔
        ∃ call ∈ s :: s.above, t ∈ call.above ∧ names.HandsOff imports call.node)) ∧
    (∀ stop stop', HandOffNames.StopsAtFunction tree stop →
      HandOffNames.StopsAtFunction tree stop' →
      names.covers imports stop s = names.covers imports stop' s) ∧
    (∀ call ∈ s :: s.above, names.HandsOff imports call.node →
      enclosingFunctions call = enclosingFunctions s) ∧
    (names.covers imports none s = true → ∀ inner : Spot, inner.IsIn tree → s ∈ inner :: inner.above →
      (∀ stop, HandOffNames.StopsAtFunction tree stop → names.covers imports stop inner = true) ∧
      ∀ (r : Resolver) (source : SourceModule), source.tree = tree → imports = some source.imports →
        ∀ site ∈ r.sitesAt names source inner, site.handedOff = true) := by
  obtain ⟨hstatement, tokens, -, hformed⟩ := exists_formed_of_parse? htree
  refine ⟨Spot.exists_inStatement hs hstatement hkind, ?_, ?_, ?_, ?_⟩
  · intro t stop ht hstop
    rw [HandOffNames.covers_iff_of_stopsAtFunction hformed hs hstop]
    refine exists_congr fun call => and_congr_right fun hcall => ?_
    exact (and_iff_right_of_imp fun hhands => ht.below hs hformed hcall hhands.not_isStatement).symm
  · intro stop stop' hstop hstop'
    rw [Bool.eq_iff_iff, HandOffNames.covers_iff_of_stopsAtFunction hformed hs hstop,
      HandOffNames.covers_iff_of_stopsAtFunction hformed hs hstop']
  · intro call hcall hhands
    exact hs.enclosingFunctions_eq hformed hcall hhands.not_isStatement
  · intro hcovered inner hinner hbelow
    obtain ⟨call, hcall, hhands⟩ := (HandOffNames.covers_iff_of_stopsAtFunction hformed hs
      (HandOffNames.stopsAtFunction_none tree)).mp hcovered
    have hcall' : call ∈ inner :: inner.above := by
      rcases List.mem_cons.mp hbelow with rfl | hbelow
      · exact hcall
      · rcases List.mem_cons.mp hcall with rfl | hcall
        · exact List.mem_cons_of_mem _ hbelow
        · exact List.mem_cons_of_mem _ (Spot.above_trans hbelow hcall)
    have hcovers : ∀ stop, HandOffNames.StopsAtFunction tree stop →
        names.covers imports stop inner = true := fun stop hstop =>
      (HandOffNames.covers_iff_of_stopsAtFunction hformed hinner hstop).mpr ⟨call, hcall', hhands⟩
    refine ⟨hcovers, ?_⟩
    rintro r source rfl rfl site hsite
    rw [handedOff_of_mem_sitesAt hsite]
    exact hcovers _ (HandOffNames.stopsAtFunction_nearest hinner)

/-- A call inside a function that is handed to an executor. -/
def deferredCall : String := "def g():\n    pool.submit(lambda: f(x))\n"

theorem covers_in_statement_of_deferred_call :
    ∃ tree s, parse? deferredCall = some tree ∧ s.IsIn tree ∧ s.node.isStatement = false ∧
      s.node.dotted? = some "x" ∧
      ∃ t, Spot.InStatement t s ∧ ∃ call ∈ s :: s.above, t ∈ call.above ∧
        HandOffNames.HandsOff ⟨[], [], ["submit"]⟩ none call.node ∧
        enclosingFunctions call = enclosingFunctions s := by
  have hfacts : ∃ tree ∈ (parse? deferredCall).toList, ∃ s ∈ (Spot.root tree).walk,
      s.node.isStatement = false ∧ s.node.dotted? = some "x" ∧
        HandOffNames.covers ⟨[], [], ["submit"]⟩ none none s = true := by
    decide +kernel
  obtain ⟨tree, htree, s, hs, hkind, hdotted, hcovered⟩ := hfacts
  have htree : parse? deferredCall = some tree := Option.mem_toList.mp htree
  have hin : s.IsIn tree := Spot.mem_walk_iff.mp hs
  obtain ⟨⟨t, ht⟩, hiff, -, hroutine, -⟩ :=
    covers_in_statement htree ⟨[], [], ["submit"]⟩ none hin hkind
  obtain ⟨call, hcall, habove, hhands⟩ :=
    (hiff t none ht (HandOffNames.stopsAtFunction_none tree)).mp hcovered
  exact ⟨tree, s, htree, hin, hkind, hdotted, t, ht, call, hcall, habove, hhands,
    hroutine call hcall hhands⟩

end CallChain
