import CallChain.Proofs.Python.Spots
import Mathlib.Data.List.Lex

/-!
# The order of places in a tree

The address of a place is the way to it, as the numbers of the children from the root down.  The two
ways to go through a tree differ in what they compare first.  Depth first, places come in the
lexicographic order of their addresses (`pairwise_preorder`).  Level by level, a shorter address comes
before a longer one, and the lexicographic order decides between addresses of one length
(`pairwise_walk`).

Both rest on the same fact: where two addresses of one length are in order, so are all that go on from
them.
-/

namespace CallChain.Python.Spot

/-- The numbers of the children on the way from the root. -/
def address (s : Spot) : List Nat := s.path.reverse

theorem length_address (s : Spot) : s.address.length = s.path.length := List.length_reverse

theorem address_child (parent : Spot) (role : Role) (index : Nat) (node : Node) :
    (child parent role index node).address = parent.address ++ [index] := List.reverse_cons

theorem append_lt_append_of_length_eq {front other : List Nat} (hlength : front.length = other.length)
    (hlt : front < other) (rest rest' : List Nat) : front ++ rest < other ++ rest' := by
  induction front generalizing other with
  | nil =>
      obtain rfl := List.eq_nil_of_length_eq_zero hlength.symm
      exact absurd hlt (List.not_lt_nil _)
  | cons i front ih =>
      cases other with
      | nil => cases hlength
      | cons j other =>
          rw [List.cons_append, List.cons_append, List.cons_lt_cons_iff]
          rcases List.cons_lt_cons_iff.mp hlt with hfirst | ⟨hsame, hrest⟩
          · exact Or.inl hfirst
          · exact Or.inr ⟨hsame, ih (Nat.succ.inj hlength) hrest⟩

theorem pairwise_children (s : Spot) : s.children.Pairwise fun c d => c.address < d.address := by
  rw [List.pairwise_iff_getElem]
  intro i j hi hj hlt
  simp only [children, List.getElem_mapIdx, address_child]
  exact List.append_left_lt (List.cons_lt_cons_iff.mpr (Or.inl hlt))

/-! ## Depth first -/

/-- The address of a place goes on from that of any place above it. -/
theorem exists_address_of_mem_preorder {s t : Spot} (ht : t ∈ s.preorder) :
    ∃ rest, t.address = s.address ++ rest := by
  obtain ⟨front, hfront⟩ := path_suffix_of_mem_preorder ht
  exact ⟨front.reverse, by rw [address, ← hfront, List.reverse_append, address]⟩

theorem pairwise_preorder (s : Spot) : s.preorder.Pairwise fun t u => t.address < u.address := by
  induction s using induction_children with
  | hstep s ih =>
      rw [preorder_eq, List.pairwise_cons, List.pairwise_flatMap]
      refine ⟨fun t ht => ?_, ih, ?_⟩
      · obtain ⟨c, hc, htc⟩ := List.mem_flatMap.mp ht
        obtain ⟨role, index, node, rfl, -⟩ := mem_children.mp hc
        obtain ⟨rest, hrest⟩ := exists_address_of_mem_preorder htc
        have haddress : t.address = s.address ++ index :: rest := by
          rw [hrest, address_child, List.append_assoc, List.singleton_append]
        have hlonger : s.address ++ [] < s.address ++ index :: rest :=
          List.append_left_lt (List.nil_lt_cons ..)
        rwa [List.append_nil, ← haddress] at hlonger
      · refine (pairwise_children s).imp_of_mem fun {c d} hc hd hlt t ht u hu => ?_
        obtain ⟨rest, hrest⟩ := exists_address_of_mem_preorder ht
        obtain ⟨rest', hrest'⟩ := exists_address_of_mem_preorder hu
        rw [hrest, hrest']
        refine append_lt_append_of_length_eq ?_ hlt rest rest'
        rw [length_address, length_address, length_path_of_mem_children hc,
          length_path_of_mem_children hd]

/-! ## Level by level -/

/-- The place is on a higher level than the other, or before it on the same level. -/
def Sooner (s t : Spot) : Prop :=
  s.address.length < t.address.length ∨ s.address.length = t.address.length ∧ s.address < t.address

theorem pairwise_levels {level : List Spot} {depth : Nat}
    (hordered : level.Pairwise fun s t => s.address < t.address)
    (hdepth : ∀ s ∈ level, s.path.length = depth) : (levels level).Pairwise Sooner := by
  induction level using levels_induction generalizing depth with
  | nil =>
      rw [levels_nil]
      exact List.Pairwise.nil
  | next level hne ih =>
      have hnext : (level.flatMap children).Pairwise fun s t => s.address < t.address := by
        rw [List.pairwise_flatMap]
        refine ⟨fun s _ => pairwise_children s, ?_⟩
        refine hordered.imp_of_mem fun {s t} hs ht hlt c hc d hd => ?_
        obtain ⟨_, i, _, rfl, -⟩ := mem_children.mp hc
        obtain ⟨_, j, _, rfl, -⟩ := mem_children.mp hd
        rw [address_child, address_child]
        refine append_lt_append_of_length_eq ?_ hlt [i] [j]
        rw [length_address, length_address, hdepth s hs, hdepth t ht]
      have hdeeper : ∀ c ∈ level.flatMap children, c.path.length = depth + 1 := by
        intro c hc
        obtain ⟨s, hs, hcs⟩ := List.mem_flatMap.mp hc
        rw [length_path_of_mem_children hcs, hdepth s hs]
      have hlower := (nodup_levels (hnext.imp fun hlt => ne_of_apply_ne address hlt.ne) hdeeper).2
      rw [levels_of_ne_nil hne, List.pairwise_append]
      refine ⟨hordered.imp_of_mem fun {s t} hs ht hlt => ?_, ih hnext hdeeper, fun s hs t ht => ?_⟩
      · exact Or.inr ⟨by rw [length_address, length_address, hdepth s hs, hdepth t ht], hlt⟩
      · refine Or.inl ?_
        rw [length_address, length_address, hdepth s hs]
        exact hlower t ht

theorem pairwise_walk (s : Spot) : s.walk.Pairwise Sooner := by
  refine pairwise_levels (List.pairwise_singleton _ s) fun t ht => (?_ : _ = s.path.length)
  rw [List.mem_singleton.mp ht]

end CallChain.Python.Spot
