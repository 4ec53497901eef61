import CallChain.Python.Spot
import Mathlib.Data.List.Nodup

/-!
# The places of a tree

`IsIn` says of a spot that it is a place of a tree: every step from the root down to it takes a
child in the role it has there.  A walk level by level comes to every place of the tree, to nothing
else, and to none of them twice, and so does one depth first.
-/

namespace CallChain.Python.Spot

/-- The spot is a place of the tree. -/
def IsIn (tree : Node) : Spot → Prop
  | .root node => node = tree
  | .child parent role index node =>
    parent.IsIn tree ∧ parent.node.children[index]? = some (role, node)

theorem isIn_root (tree : Node) : (root tree).IsIn tree := rfl

theorem mem_children {s c : Spot} :
    c ∈ s.children ↔ ∃ role index node,
      c = .child s role index node ∧ s.node.children[index]? = some (role, node) := by
  rw [children, List.mem_mapIdx]
  constructor
  · rintro ⟨index, hindex, rfl⟩
    exact ⟨_, index, _, rfl, by simp [List.getElem?_eq_getElem hindex]⟩
  · rintro ⟨role, index, node, rfl, hchild⟩
    obtain ⟨hindex, heq⟩ := List.getElem?_eq_some_iff.mp hchild
    exact ⟨index, hindex, by rw [heq]⟩

/-- Where a place counts only by its role and its node, one may run through the node's children. -/
theorem map_children {α : Type} {s : Spot} {f : Spot → α} {g : Role × Node → α}
    (hchild : ∀ role index node, f (.child s role index node) = g (role, node)) :
    s.children.map f = s.node.children.map g := by
  refine List.ext_getElem (by simp [children]) fun i hi hj => ?_
  simp [children, hchild]

theorem map_node_children (s : Spot) : s.children.map node = s.node.children.map Prod.snd :=
  map_children fun _ _ _ => rfl

theorem flatMap_children {α : Type} {s : Spot} {f : Spot → List α} {g : Role × Node → List α}
    (hchild : ∀ role index node, f (.child s role index node) = g (role, node)) :
    s.children.flatMap f = s.node.children.flatMap g := by
  rw [List.flatMap_def, List.flatMap_def, map_children hchild]

theorem IsIn.of_mem_children {tree : Node} {s c : Spot} (hs : s.IsIn tree) (hc : c ∈ s.children) :
    c.IsIn tree := by
  obtain ⟨role, index, node, rfl, hchild⟩ := mem_children.mp hc
  exact ⟨hs, hchild⟩

theorem IsIn.of_mem_above {tree : Node} {s t : Spot} (hs : s.IsIn tree) (ht : t ∈ s.above) :
    t.IsIn tree := by
  induction s with
  | root node => cases ht
  | child parent role index node ih =>
      rcases List.mem_cons.mp ht with rfl | habove
      · exact hs.1
      · exact ih hs.1 habove

theorem length_path_of_mem_above {s t : Spot} (ht : t ∈ s.above) :
    t.path.length < s.path.length := by
  induction s with
  | root node => cases ht
  | child parent role index node ih =>
      rcases List.mem_cons.mp ht with rfl | habove
      · exact Nat.lt_succ_self _
      · exact Nat.lt_succ_of_lt (ih habove)

/-- What holds of a spot whenever it holds of its children holds everywhere. -/
theorem induction_children {P : Spot → Prop} (hstep : ∀ s, (∀ c ∈ s.children, P c) → P s) (s : Spot) :
    P s :=
  hstep s fun c _ => induction_children hstep c
termination_by sizeOf s.node
decreasing_by exact sizeOf_node_lt_of_mem_children ‹_›

/-- Two places of one tree with the same path are the same. -/
theorem IsIn.eq_of_path_eq {tree : Node} {s t : Spot} (hs : s.IsIn tree) (ht : t.IsIn tree)
    (hpath : s.path = t.path) : s = t := by
  induction s generalizing t with
  | root node =>
      cases t with
      | root other => exact congrArg Spot.root (hs.trans ht.symm)
      | child => cases hpath
  | child parent role index node ih =>
      cases t with
      | root => cases hpath
      | child parent' role' index' node' =>
          obtain ⟨rfl, habove⟩ := List.cons.inj hpath
          obtain rfl := ih hs.1 ht.1 habove
          obtain ⟨rfl, rfl⟩ := Prod.mk.inj (Option.some.inj (hs.2.symm.trans ht.2))
          rfl

/-! ## The walk -/

theorem levels_nil : levels [] = [] := by
  rw [levels, dif_pos rfl]

theorem levels_of_ne_nil {level : List Spot} (hne : level ≠ []) :
    levels level = level ++ levels (level.flatMap children) := by
  rw [levels, dif_neg hne]

/-- What holds of a level whenever it holds of the level below it holds of every level. -/
theorem levels_induction {P : List Spot → Prop} (nil : P [])
    (next : ∀ level, level ≠ [] → P (level.flatMap children) → P level) (level : List Spot) :
    P level := by
  induction level using levels.induct with
  | case1 => exact nil
  | case2 level hne ih =>
      have hchildren : (level.attach.flatMap fun ⟨s, _⟩ => s.children) = level.flatMap children := by
        rw [List.flatMap_subtype (g := children) fun _ _ => rfl, List.unattach_attach]
      exact next level hne (hchildren ▸ ih)

theorem IsIn.of_mem_levels {tree : Node} {level : List Spot} (hlevel : ∀ t ∈ level, t.IsIn tree) :
    ∀ s ∈ levels level, s.IsIn tree := by
  induction level using levels_induction with
  | nil => simp [levels_nil]
  | next level hne ih =>
      intro s hs
      rw [levels_of_ne_nil hne, List.mem_append] at hs
      rcases hs with hhere | hbelow
      · exact hlevel s hhere
      · refine ih (fun c hc => ?_) s hbelow
        obtain ⟨t, ht, hct⟩ := List.mem_flatMap.mp hc
        exact (hlevel t ht).of_mem_children hct

theorem subset_levels (level : List Spot) : level ⊆ levels level := by
  intro s hs
  rw [levels_of_ne_nil (List.ne_nil_of_mem hs)]
  exact List.mem_append_left _ hs

theorem children_mem_levels {level : List Spot} {s c : Spot} (hs : s ∈ levels level)
    (hc : c ∈ s.children) : c ∈ levels level := by
  induction level using levels_induction with
  | nil => simp [levels_nil] at hs
  | next level hne ih =>
      rw [levels_of_ne_nil hne, List.mem_append] at hs ⊢
      rcases hs with hhere | hbelow
      · exact Or.inr (subset_levels _ (List.mem_flatMap.mpr ⟨s, hhere, hc⟩))
      · exact Or.inr (ih hbelow)

/-- The walk comes to the places of the tree and to nothing else. -/
theorem mem_walk_iff {tree : Node} {s : Spot} : s ∈ (root tree).walk ↔ s.IsIn tree := by
  constructor
  · intro hs
    refine IsIn.of_mem_levels (fun t ht => ?_) s hs
    cases List.mem_singleton.mp ht
    exact isIn_root tree
  · intro hs
    induction s with
    | root node =>
        obtain rfl : node = tree := hs
        exact subset_levels _ (List.mem_singleton_self _)
    | child parent role index node ih =>
        exact children_mem_levels (ih hs.1) (mem_children.mpr ⟨role, index, node, rfl, hs.2⟩)

theorem nodup_children (s : Spot) : s.children.Nodup := by
  rw [List.nodup_iff_pairwise_ne, List.pairwise_iff_getElem]
  intro i j hi hj hlt heq
  simp only [children, List.getElem_mapIdx, child.injEq] at heq
  exact absurd heq.2.2.1 (Nat.ne_of_lt hlt)

theorem parent_of_mem_children {s c : Spot} (hc : c ∈ s.children) : c.parent? = some s := by
  obtain ⟨role, index, node, rfl, -⟩ := mem_children.mp hc
  rfl

theorem length_path_of_mem_children {s c : Spot} (hc : c ∈ s.children) :
    c.path.length = s.path.length + 1 := by
  obtain ⟨role, index, node, rfl, -⟩ := mem_children.mp hc
  rfl

/-- From a level without repetitions no place is listed twice: what comes later is deeper. -/
theorem nodup_levels {level : List Spot} {depth : Nat} (hnodup : level.Nodup)
    (hdepth : ∀ s ∈ level, s.path.length = depth) :
    (levels level).Nodup ∧ ∀ s ∈ levels level, depth ≤ s.path.length := by
  induction level using levels_induction generalizing depth with
  | nil => simp [levels_nil]
  | next level hne ih =>
      have hnext : (level.flatMap children).Nodup := by
        refine List.nodup_flatMap.mpr ⟨fun s _ => nodup_children s, ?_⟩
        refine (List.nodup_iff_pairwise_ne.mp hnodup).imp fun {s t} hst c hcs hct => hst ?_
        exact Option.some.inj ((parent_of_mem_children hcs).symm.trans (parent_of_mem_children hct))
      have hdeeper : ∀ c ∈ level.flatMap children, c.path.length = depth + 1 := by
        intro c hc
        obtain ⟨s, hs, hcs⟩ := List.mem_flatMap.mp hc
        rw [length_path_of_mem_children hcs, hdepth s hs]
      obtain ⟨hbelow, hlower⟩ := ih hnext hdeeper
      rw [levels_of_ne_nil hne]
      constructor
      · refine hnodup.append hbelow fun s hhere hlater => ?_
        have := hdepth s hhere
        have := hlower s hlater
        omega
      · intro s hs
        rcases List.mem_append.mp hs with hhere | hlater
        · exact Nat.le_of_eq (hdepth s hhere).symm
        · exact Nat.le_of_succ_le (hlower s hlater)

/-- The walk comes to no place twice. -/
theorem nodup_walk (tree : Node) : (root tree).walk.Nodup := by
  refine (nodup_levels (List.nodup_singleton _) fun s hs => (?_ : s.path.length = 0)).1
  cases List.mem_singleton.mp hs
  rfl

/-! ## Depth first -/

theorem preorder_eq (s : Spot) : s.preorder = s :: s.children.flatMap preorder := by
  rw [preorder, List.flatMap_subtype (g := preorder) fun _ _ => rfl, List.unattach_attach]

theorem IsIn.of_mem_preorder {tree : Node} {s t : Spot} (hs : s.IsIn tree) (ht : t ∈ s.preorder) :
    t.IsIn tree := by
  induction s using induction_children with
  | hstep s ih =>
      rw [preorder_eq] at ht
      rcases List.mem_cons.mp ht with rfl | hbelow
      · exact hs
      · obtain ⟨c, hc, htc⟩ := List.mem_flatMap.mp hbelow
        exact ih c hc (hs.of_mem_children hc) htc

theorem children_mem_preorder {s t c : Spot} (ht : t ∈ s.preorder) (hc : c ∈ t.children) :
    c ∈ s.preorder := by
  induction s using induction_children with
  | hstep s ih =>
      rw [preorder_eq] at ht ⊢
      refine List.mem_cons_of_mem _ (List.mem_flatMap.mpr ?_)
      rcases List.mem_cons.mp ht with rfl | hbelow
      · refine ⟨c, hc, ?_⟩
        rw [preorder_eq]
        exact List.mem_cons_self
      · obtain ⟨d, hd, htd⟩ := List.mem_flatMap.mp hbelow
        exact ⟨d, hd, ih d hd htd⟩

/-- Depth first, too, one comes to the places of the tree and to nothing else. -/
theorem mem_preorder_iff {tree : Node} {s : Spot} : s ∈ (root tree).preorder ↔ s.IsIn tree := by
  constructor
  · exact fun hs => (isIn_root tree).of_mem_preorder hs
  · intro hs
    induction s with
    | root node =>
        obtain rfl : node = tree := hs
        rw [preorder_eq]
        exact List.mem_cons_self
    | child parent role index node ih =>
        exact children_mem_preorder (ih hs.1) (mem_children.mpr ⟨role, index, node, rfl, hs.2⟩)

theorem path_suffix_of_mem_preorder {s t : Spot} (ht : t ∈ s.preorder) : s.path <:+ t.path := by
  induction s using induction_children with
  | hstep s ih =>
      rw [preorder_eq] at ht
      rcases List.mem_cons.mp ht with rfl | hbelow
      · exact List.suffix_rfl
      · obtain ⟨c, hc, htc⟩ := List.mem_flatMap.mp hbelow
        obtain ⟨role, index, node, rfl, -⟩ := mem_children.mp hc
        exact (List.suffix_cons index s.path).trans (ih _ hc htc)

/-- Depth first, too, one comes to no place twice. -/
theorem nodup_preorder (s : Spot) : s.preorder.Nodup := by
  induction s using induction_children with
  | hstep s ih =>
      have hfresh : s ∉ s.children.flatMap preorder := by
        intro hmem
        obtain ⟨c, hc, hsc⟩ := List.mem_flatMap.mp hmem
        have hlength := (path_suffix_of_mem_preorder hsc).length_le
        rw [length_path_of_mem_children hc] at hlength
        omega
      rw [preorder_eq, List.nodup_cons, List.nodup_flatMap]
      refine ⟨hfresh, ih, ?_⟩
      refine (List.nodup_iff_pairwise_ne.mp (nodup_children s)).imp_of_mem ?_
      intro c d hc hd hne t htc htd
      apply hne
      obtain ⟨role, i, node, rfl, hi⟩ := mem_children.mp hc
      obtain ⟨role', j, node', rfl, hj⟩ := mem_children.mp hd
      -- both children are on the way to `t`, at the same depth
      have hpaths : i :: s.path = j :: s.path :=
        (List.suffix_of_suffix_length_le (path_suffix_of_mem_preorder htc)
          (path_suffix_of_mem_preorder htd) (Nat.le_refl _)).eq_of_length rfl
      obtain rfl : i = j := (List.cons.inj hpaths).1
      cases hi.symm.trans hj
      rfl

end CallChain.Python.Spot
