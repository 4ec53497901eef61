import CallChain.Assoc
import CallChain.Search

/-!
# Equal routines, first occurrences and tables

Routines are compared by their keys, so `==` on routines and on chains is an equivalence that is
coarser than equality.  `firstOccurrences` keeps one item of every class of equal ones: it drops
items but adds none and moves none, what it keeps is pairwise different, and every item of the
list is equal to exactly one that is kept.  In a list that is put together, repetitions may be
dropped in the parts first: `firstOccurrences_append` and `firstOccurrences_flatMap`.

A table with different keys is the list of its keys with the graph of a function on them; `put_map`
says that to put a value is to change the function.  Where a table comes from putting one entry
after the other, `get?_overlay` looks a key up from the end.
-/

namespace CallChain

/-! ## Equality of routines and chains -/

theorem Routine.beq_iff {a b : Routine} : (a == b) = true ↔ a.key = b.key := by
  change (a.key == b.key) = true ↔ _
  exact beq_iff_eq

theorem Routine.beq_false_iff {a b : Routine} : (a == b) = false ↔ a.key ≠ b.key := by
  rw [← Bool.not_eq_true, Routine.beq_iff]

instance : EquivBEq Routine where
  rfl := Routine.beq_iff.mpr rfl
  symm h := Routine.beq_iff.mpr (Routine.beq_iff.mp h).symm
  trans h₁ h₂ := Routine.beq_iff.mpr ((Routine.beq_iff.mp h₁).trans (Routine.beq_iff.mp h₂))

/-- Chains are equal if their routines have the same keys in the same order. -/
theorem Chain.beq_iff {c d : Chain} : (c == d) = true ↔ c.map Routine.key = d.map Routine.key := by
  induction c generalizing d with
  | nil => cases d <;> simp
  | cons r rest ih =>
      cases d with
      | nil => simp
      | cons s others =>
          rw [List.cons_beq_cons, Bool.and_eq_true, Routine.beq_iff, ih]
          simp

instance : EquivBEq Chain where
  rfl := Chain.beq_iff.mpr rfl
  symm h := Chain.beq_iff.mpr (Chain.beq_iff.mp h).symm
  trans h₁ h₂ := Chain.beq_iff.mpr ((Chain.beq_iff.mp h₁).trans (Chain.beq_iff.mp h₂))

/-! ## First occurrences -/

section FirstOccurrences

variable {α : Type} [BEq α]

private theorem occurrencesAfter_sublist (seen items : List α) :
    (occurrencesAfter seen items).Sublist items := by
  induction items generalizing seen with
  | nil => exact List.Sublist.refl _
  | cons a rest ih =>
      rw [occurrencesAfter]
      split
      · exact (ih seen).cons a
      · exact (ih (a :: seen)).cons_cons a

theorem firstOccurrences_sublist (items : List α) : (firstOccurrences items).Sublist items :=
  occurrencesAfter_sublist [] items

private theorem contains_of_mem_occurrencesAfter [EquivBEq α] {seen items : List α} {a : α}
    (ha : a ∈ occurrencesAfter seen items) : seen.contains a = false := by
  induction items generalizing seen with
  | nil => simp [occurrencesAfter] at ha
  | cons b rest ih =>
      rw [occurrencesAfter] at ha
      split at ha
      · exact ih ha
      · rename_i hnew
        rcases List.mem_cons.mp ha with rfl | ha
        · simpa using hnew
        · have hlater := ih ha
          rw [List.contains_cons, Bool.or_eq_false_iff] at hlater
          exact hlater.2

private theorem occurrencesAfter_pairwise [EquivBEq α] (seen items : List α) :
    (occurrencesAfter seen items).Pairwise fun a b => (a == b) = false := by
  induction items generalizing seen with
  | nil => exact List.Pairwise.nil
  | cons a rest ih =>
      rw [occurrencesAfter]
      split
      · exact ih seen
      · refine List.pairwise_cons.mpr ⟨?_, ih (a :: seen)⟩
        intro b hb
        have hlater := contains_of_mem_occurrencesAfter hb
        rw [List.contains_cons, Bool.or_eq_false_iff] at hlater
        rw [BEq.comm]
        exact hlater.1

theorem firstOccurrences_pairwise [EquivBEq α] (items : List α) :
    (firstOccurrences items).Pairwise fun a b => (a == b) = false :=
  occurrencesAfter_pairwise [] items

private theorem exists_mem_occurrencesAfter [EquivBEq α] {seen items : List α} {a : α}
    (ha : a ∈ items) (hseen : seen.contains a = false) :
    ∃ b ∈ occurrencesAfter seen items, (b == a) = true := by
  induction items generalizing seen with
  | nil => simp at ha
  | cons c rest ih =>
      rw [occurrencesAfter]
      by_cases hca : (c == a) = true
      · -- this is the first item equal to `a`, so it is kept
        have hc : seen.contains c = false := by rw [List.contains_congr hca, hseen]
        rw [hc]
        exact ⟨c, List.mem_cons_self .., hca⟩
      · have ha' : a ∈ rest := by
          rcases List.mem_cons.mp ha with rfl | ha
          · exact absurd BEq.rfl hca
          · exact ha
        split
        · exact ih ha' hseen
        · have hseen' : (c :: seen).contains a = false := by
            rw [List.contains_cons, hseen, BEq.comm, Bool.or_false]
            simpa using hca
          obtain ⟨b, hb, hba⟩ := ih ha' hseen'
          exact ⟨b, List.mem_cons_of_mem _ hb, hba⟩

theorem exists_mem_firstOccurrences [EquivBEq α] {items : List α} {a : α} (ha : a ∈ items) :
    ∃ b ∈ firstOccurrences items, (b == a) = true :=
  exists_mem_occurrencesAfter ha rfl

/-- In a list of pairwise different items at most one is equal to a given one. -/
private theorem countP_le_one [EquivBEq α] {items : List α}
    (hdistinct : items.Pairwise fun a b => (a == b) = false) (a : α) :
    items.countP (· == a) ≤ 1 := by
  induction items with
  | nil => simp
  | cons b rest ih =>
      rw [List.pairwise_cons] at hdistinct
      rw [List.countP_cons]
      by_cases hba : (b == a) = true
      · have hrest : rest.countP (· == a) = 0 := by
          rw [List.countP_eq_zero]
          intro c hc hca
          have hbc : (b == c) = true := BEq.trans hba (BEq.symm hca)
          simp [hdistinct.1 c hc] at hbc
        simp [hba, hrest]
      · simpa [hba] using ih hdistinct.2

/-- Every item of a list is equal to exactly one of the first occurrences. -/
theorem countP_firstOccurrences [EquivBEq α] {items : List α} {a : α} (ha : a ∈ items) :
    (firstOccurrences items).countP (· == a) = 1 := by
  obtain ⟨b, hb, hba⟩ := exists_mem_firstOccurrences ha
  have hpos : 0 < (firstOccurrences items).countP (· == a) :=
    List.countP_pos_iff.mpr ⟨b, hb, hba⟩
  have hle := countP_le_one (firstOccurrences_pairwise items) a
  omega

/-! ### One more item -/

private theorem occurrencesAfter_concat [EquivBEq α] (seen items : List α) (a : α) :
    occurrencesAfter seen (items ++ [a]) =
      occurrencesAfter seen items ++ if seen.contains a || items.contains a then [] else [a] := by
  induction items generalizing seen with
  | nil => simp [occurrencesAfter]
  | cons b rest ih =>
      rw [List.cons_append, occurrencesAfter, occurrencesAfter, List.contains_cons]
      split
      · rename_i hb
        by_cases hab : (a == b) = true
        · have ha : seen.contains a = true := by rw [List.contains_congr hab, hb]
          rw [ih, ha]
          rfl
        · rw [ih, Bool.eq_false_iff.mpr hab, Bool.false_or]
      · rw [ih, List.contains_cons, List.cons_append, Bool.or_assoc, Bool.or_left_comm]

/-- A new last item is kept unless an equal one was there before. -/
theorem firstOccurrences_concat [EquivBEq α] (items : List α) (a : α) :
    firstOccurrences (items ++ [a]) =
      if items.contains a then firstOccurrences items else firstOccurrences items ++ [a] := by
  rw [firstOccurrences, occurrencesAfter_concat]
  cases items.contains a <;> simp [firstOccurrences]

theorem contains_firstOccurrences [EquivBEq α] (items : List α) (a : α) :
    (firstOccurrences items).contains a = items.contains a := by
  rw [Bool.eq_iff_iff, List.contains_iff_exists_mem_beq, List.contains_iff_exists_mem_beq]
  constructor
  · rintro ⟨b, hb, hab⟩
    exact ⟨b, (firstOccurrences_sublist items).subset hb, hab⟩
  · rintro ⟨b, hb, hab⟩
    obtain ⟨c, hc, hcb⟩ := exists_mem_firstOccurrences hb
    exact ⟨c, hc, BEq.trans hab (BEq.symm hcb)⟩

/-! ### Lists put together -/

private theorem occurrencesAfter_eq_filter [EquivBEq α] (seen items : List α) :
    occurrencesAfter seen items = (firstOccurrences items).filter fun a => !seen.contains a := by
  induction items generalizing seen with
  | nil => rfl
  | cons a rest ih =>
      have hfirst : firstOccurrences (a :: rest) =
          a :: (firstOccurrences rest).filter fun b => !([a].contains b) := by
        rw [← ih [a]]
        rfl
      rw [occurrencesAfter, hfirst, List.filter_cons, List.filter_filter, ih seen, ih (a :: seen)]
      cases ha : seen.contains a with
      | true =>
          -- what equals `a` is seen, so it does not matter that it is dropped before
          refine List.filter_congr fun b _ => ?_
          by_cases hb : (b == a) = true
          · rw [List.contains_congr hb, ha]
            rfl
          · simp [hb]
      | false =>
          refine congrArg (a :: ·) (List.filter_congr fun b _ => ?_)
          simp [Bool.and_comm]

theorem firstOccurrences_cons [EquivBEq α] (a : α) (rest : List α) :
    firstOccurrences (a :: rest) = a :: (firstOccurrences rest).filter fun b => !(b == a) := by
  have hrest := occurrencesAfter_eq_filter [a] rest
  simp only [List.contains_cons, List.contains_nil, Bool.or_false] at hrest
  rw [← hrest]
  rfl

/-- Of a list behind another what is new is kept. -/
theorem firstOccurrences_append [EquivBEq α] (items others : List α) :
    firstOccurrences (items ++ others) =
      firstOccurrences items ++ (firstOccurrences others).filter fun a => !items.contains a := by
  induction items with
  | nil => exact (List.filter_eq_self.mpr fun a _ => rfl).symm
  | cons a rest ih =>
      rw [List.cons_append, firstOccurrences_cons, firstOccurrences_cons, ih, List.filter_append,
        List.filter_filter, List.cons_append]
      simp only [List.contains_cons, Bool.not_or]

theorem firstOccurrences_prefix [EquivBEq α] {front items : List α} (hfront : front <+: items) :
    firstOccurrences front <+: firstOccurrences items := by
  obtain ⟨rest, rfl⟩ := hfront
  rw [firstOccurrences_append]
  exact List.prefix_append ..

omit [BEq α] in
private theorem flatMap_filter {β : Type} (keep : α → Bool) (f : α → List β) (items : List α) :
    (items.filter keep).flatMap f = items.flatMap fun a => if keep a then f a else [] := by
  induction items with
  | nil => rfl
  | cons a rest ih => cases ha : keep a <;> simp [ha, ih]

/-- Let equal items stand for the same things and different ones for different things.  Then it does
not matter whether repetitions are dropped among the things at the end, or before that among the
items and among the things of each item. -/
theorem firstOccurrences_flatMap {β : Type} [BEq β] [EquivBEq α] [EquivBEq β] {f : α → List β}
    (hsame : ∀ a b, (a == b) = true → ∀ x ∈ f a, (f b).contains x = true)
    (hother : ∀ a b, (a == b) = false → ∀ x ∈ f a, (f b).contains x = false) (items : List α) :
    firstOccurrences (items.flatMap f) =
      (firstOccurrences items).flatMap fun a => firstOccurrences (f a) := by
  induction items with
  | nil => rfl
  | cons a rest ih =>
      -- of the things of another item all or none are those of `a`
      have hdropped : ∀ b, (firstOccurrences (f b)).filter (fun x => !(f a).contains x) =
          if !(b == a) then firstOccurrences (f b) else [] := by
        intro b
        have hmem : ∀ x ∈ firstOccurrences (f b), x ∈ f b :=
          fun x hx => (firstOccurrences_sublist (f b)).subset hx
        cases hb : b == a with
        | true =>
            refine List.filter_eq_nil_iff.mpr fun x hx => ?_
            simp [hsame b a hb x (hmem x hx)]
        | false =>
            refine List.filter_eq_self.mpr fun x hx => ?_
            simp [hother b a hb x (hmem x hx)]
      rw [List.flatMap_cons, firstOccurrences_append, ih, firstOccurrences_cons, List.flatMap_cons,
        List.filter_flatMap, flatMap_filter]
      simp only [hdropped]

end FirstOccurrences

/-- A list of items of which only one adds something. -/
theorem flatMap_eq_of_unique {α β : Type} {items : List α} {f : α → List β} {a : α}
    (hnodup : items.Nodup) (ha : a ∈ items) (hothers : ∀ b ∈ items, b ≠ a → f b = []) :
    items.flatMap f = f a := by
  induction items with
  | nil => cases ha
  | cons b rest ih =>
      obtain ⟨hfresh, hrest⟩ := List.nodup_cons.mp hnodup
      rw [List.flatMap_cons]
      by_cases heq : b = a
      · subst heq
        have hnone : rest.flatMap f = [] := by
          rw [List.flatMap_eq_nil_iff]
          exact fun c hc => hothers c (List.mem_cons_of_mem _ hc) fun h => hfresh (h ▸ hc)
        rw [hnone, List.append_nil]
      · have hmem : a ∈ rest := (List.mem_cons.mp ha).resolve_left fun h => heq h.symm
        rw [hothers b List.mem_cons_self heq, List.nil_append]
        exact ih hrest hmem fun c hc => hothers c (List.mem_cons_of_mem _ hc)

/-- One finds the only item of a kind. -/
theorem find?_eq_some_of_unique {α : Type} {items : List α} {keep : α → Bool} {a : α} (ha : a ∈ items)
    (hkeep : keep a = true) (hunique : ∀ b ∈ items, keep b = true → b = a) :
    items.find? keep = some a := by
  have hsome : (items.find? keep).isSome = true := List.find?_isSome.mpr ⟨a, ha, hkeep⟩
  obtain ⟨found, hfound⟩ := Option.isSome_iff_exists.mp hsome
  rw [hfound, hunique found (List.mem_of_find?_eq_some hfound) (List.find?_some hfound)]

/-! ## Tables -/

namespace Assoc

variable {α β : Type} [BEq α] [LawfulBEq α]

theorem get?_put (key other : α) (value : β) (entries : List (α × β)) :
    get? other (put key value entries) =
      if key == other then some value else get? other entries := by
  induction entries with
  | nil => rfl
  | cons entry rest ih =>
      rw [put, get?]
      by_cases hkey : (entry.1 == key) = true
      · rw [if_pos hkey, eq_of_beq hkey, get?]
        split <;> rfl
      · rw [if_neg hkey, get?, ih]
        by_cases hother : (entry.1 == other) = true
        · rw [if_pos hother, if_pos hother, if_neg]
          rwa [← eq_of_beq hother, BEq.comm]
        · rw [if_neg hother, if_neg hother]

omit [LawfulBEq α] in
theorem get?_append (key : α) (first second : List (α × β)) :
    get? key (first ++ second) = (get? key first).or (get? key second) := by
  induction first with
  | nil => rfl
  | cons entry rest ih =>
      rw [List.cons_append, get?, get?, ih]
      split <;> rfl

/-- What a key maps to already is kept. -/
theorem get?_putNew (key other : α) (value : β) (entries : List (α × β)) :
    get? other (putNew key value entries) =
      (get? other entries).or (if key == other then some value else none) := by
  rw [putNew]
  split
  · rename_i found hfound
    by_cases hkey : (key == other) = true
    · rw [← eq_of_beq hkey, hfound, Option.some_or]
    · rw [if_neg hkey, Option.or_none]
  · rw [get?_append, get?, get?]

/-- Among entries put one after the other the last for a key counts. -/
theorem get?_overlay (key : α) (entries upper : List (α × β)) :
    get? key (overlay entries upper) =
      ((upper.reverse.find? fun entry => entry.1 == key).map Prod.snd).or (get? key entries) := by
  induction upper generalizing entries with
  | nil => rfl
  | cons entry rest ih =>
      change get? key (overlay (put entry.1 entry.2 entries) rest) = _
      rw [ih, get?_put, List.reverse_cons, List.find?_append]
      cases hlater : rest.reverse.find? fun entry => entry.1 == key with
      | some found => rfl
      | none => by_cases hkey : (entry.1 == key) = true <;> simp [hkey]

/-- In a table into which items are put, a key is mapped to the last item for it. -/
theorem get?_foldl_put_eq {γ : Type} (f : γ → α) (g : γ → β) (items : List γ) (key : α) :
    get? key (items.foldl (fun table x => put (f x) (g x) table) []) =
      (items.reverse.find? fun x => f x == key).map g := by
  have hoverlay : items.foldl (fun table x => put (f x) (g x) table) [] =
      overlay [] (items.map fun x => (f x, g x)) := by
    rw [overlay, List.foldl_map]
  rw [hoverlay, get?_overlay, ← List.map_reverse, List.find?_map]
  simp [Function.comp_def, get?]

/-- A key is mapped to what all entries for it say. -/
theorem get?_overlay_of_forall {key : α} {value : β} (entries : List (α × β)) {upper : List (α × β)}
    (hsome : ∃ entry ∈ upper, entry.1 = key)
    (hall : ∀ entry ∈ upper, entry.1 = key → entry.2 = value) :
    get? key (overlay entries upper) = some value := by
  obtain ⟨entry, hentry, hkey⟩ := hsome
  have hfound : (upper.reverse.find? fun entry => entry.1 == key).isSome = true :=
    List.find?_isSome.mpr ⟨entry, List.mem_reverse.mpr hentry, beq_iff_eq.mpr hkey⟩
  obtain ⟨last, hlast⟩ := Option.isSome_iff_exists.mp hfound
  have hmem : last ∈ upper := List.mem_reverse.mp (List.mem_of_find?_eq_some hlast)
  have hlastKey : last.1 = key := by simpa using List.find?_some hlast
  rw [get?_overlay, hlast, Option.map_some, hall last hmem hlastKey]
  rfl

/-! ### Tables of a function -/

theorem get?_map (values : α → β) (keys : List α) (key : α) :
    get? key (keys.map fun k => (k, values k)) =
      if keys.contains key then some (values key) else none := by
  induction keys with
  | nil => rfl
  | cons k rest ih =>
      rw [List.map_cons, get?, List.contains_cons, ih]
      by_cases hkey : (k == key) = true
      · rw [if_pos hkey, eq_of_beq hkey, BEq.rfl]
        rfl
      · rw [if_neg hkey, BEq.comm, Bool.eq_false_iff.mpr hkey, Bool.false_or]

/-- To put a value for a key is to change the function at the key. -/
theorem put_map (values : α → β) {keys : List α}
    (hdistinct : keys.Pairwise fun a b => (a == b) = false) (key : α) (value : β) :
    put key value (keys.map fun k => (k, values k)) =
      (if keys.contains key then keys else keys ++ [key]).map fun k =>
        (k, if k == key then value else values k) := by
  induction keys with
  | nil => simp [put]
  | cons k rest ih =>
      rw [List.pairwise_cons] at hdistinct
      rw [List.map_cons, put, List.contains_cons]
      by_cases hkey : (k == key) = true
      · obtain rfl := eq_of_beq hkey
        -- no later key is this one, so the rest of the table stays
        have hrest : (rest.map fun a => (a, if a == k then value else values a)) =
            rest.map fun a => (a, values a) := by
          refine List.map_congr_left fun a ha => ?_
          rw [BEq.comm, hdistinct.1 a ha]
          rfl
        simp [hrest]
      · rw [if_neg hkey, ih hdistinct.2, BEq.comm, Bool.eq_false_iff.mpr hkey, Bool.false_or]
        split <;> simp [hkey]

end Assoc

end CallChain
