import CallChain.Text.Words
import Mathlib.Data.List.TakeWhile
import Mathlib.Data.String.Basic

/-!
# Cutting and joining texts

To cut a text at a mark and to join the pieces with the mark gives the text back; to join texts and to
cut what comes out gives the pieces of the texts, one after the other.  So dotted names can be
reasoned about as lists of their parts, as long as one keeps in mind that a part may hold dots of its
own.

Entries that are put in the order of a text of theirs are known by what they are: there is one list
of them in this order (`eq_of_pairwise_lt`).
-/

namespace CallChain.Text

/-! ## Pieces -/

theorem pieces_ne_nil (mark : Char) (cs : List Char) : pieces mark cs ≠ [] := by
  cases cs with
  | nil => simp [pieces]
  | cons c rest =>
      rw [pieces]
      split
      · exact List.cons_ne_nil _ _
      · split <;> exact List.cons_ne_nil _ _

theorem pieces_of_not_mem {mark : Char} {cs : List Char} (hmark : mark ∉ cs) :
    pieces mark cs = [cs] := by
  induction cs with
  | nil => rfl
  | cons c rest ih =>
      have hne : c ≠ mark := fun heq => hmark (heq ▸ List.mem_cons_self)
      rw [pieces, if_neg hne, ih fun hrest => hmark (List.mem_cons_of_mem _ hrest)]

/-- A mark in a text divides its pieces. -/
theorem pieces_append (mark : Char) (front back : List Char) :
    pieces mark (front ++ mark :: back) = pieces mark front ++ pieces mark back := by
  induction front with
  | nil =>
      rw [List.nil_append]
      exact if_pos rfl
  | cons c rest ih =>
      rw [List.cons_append, pieces, pieces, ih]
      split
      · rfl
      · cases hpieces : pieces mark rest with
        | nil => exact absurd hpieces (pieces_ne_nil mark rest)
        | cons first others => rfl

theorem mark_not_mem_of_mem_pieces {mark : Char} {cs piece : List Char}
    (hpiece : piece ∈ pieces mark cs) : mark ∉ piece := by
  induction cs generalizing piece with
  | nil =>
      cases List.mem_singleton.mp hpiece
      exact List.not_mem_nil
  | cons c rest ih =>
      rw [pieces] at hpiece
      split at hpiece
      · rcases List.mem_cons.mp hpiece with rfl | hrest
        · exact List.not_mem_nil
        · exact ih hrest
      · rename_i hne
        cases hpieces : pieces mark rest with
        | nil => exact absurd hpieces (pieces_ne_nil mark rest)
        | cons first others =>
            rw [hpieces] at hpiece ih
            rcases List.mem_cons.mp hpiece with rfl | hothers
            · exact List.not_mem_cons_of_ne_of_not_mem (Ne.symm hne) (ih List.mem_cons_self)
            · exact ih (List.mem_cons_of_mem _ hothers)

theorem exists_last_mark {mark : Char} {cs : List Char} (hmark : mark ∈ cs) :
    ∃ before after, cs = before ++ mark :: after ∧ mark ∉ after := by
  induction cs with
  | nil => cases hmark
  | cons c rest ih =>
      by_cases hrest : mark ∈ rest
      · obtain ⟨before, after, rfl, hafter⟩ := ih hrest
        exact ⟨c :: before, after, rfl, hafter⟩
      · obtain rfl := (List.mem_cons.mp hmark).resolve_right hrest
        exact ⟨[], rest, rfl, hrest⟩

/-! ## Cutting and joining -/

section Joining

variable {mark : Char} {sep : String} (hsep : sep.toList = [mark])

theorem splitOn_ne_nil (mark : Char) (text : String) : splitOn mark text ≠ [] := by
  rw [splitOn, Ne, List.map_eq_nil_iff]
  exact pieces_ne_nil mark _

theorem splitOn_of_not_mem {text : String} (hmark : mark ∉ text.toList) :
    splitOn mark text = [text] := by
  rw [splitOn, pieces_of_not_mem hmark, List.map_singleton, String.ofList_toList]

theorem mark_not_mem_of_mem_splitOn {text part : String} (hpart : part ∈ splitOn mark text) :
    mark ∉ part.toList := by
  obtain ⟨piece, hpiece, rfl⟩ := List.mem_map.mp hpart
  rw [String.toList_ofList]
  exact mark_not_mem_of_mem_pieces hpiece

include hsep

/-- The parts of two texts with a mark between them. -/
theorem splitOn_append (front back : String) :
    splitOn mark (front ++ sep ++ back) = splitOn mark front ++ splitOn mark back := by
  have hchars : (front ++ sep ++ back).toList = front.toList ++ mark :: back.toList := by
    rw [String.toList_append, String.toList_append, hsep, List.append_assoc]
    rfl
  rw [splitOn, hchars, pieces_append, List.map_append]
  rfl

/-- A text that holds the mark is cut in two at the last one. -/
theorem exists_last_cut {text : String} (hmark : mark ∈ text.toList) :
    ∃ front back : String, text = front ++ sep ++ back ∧ mark ∉ back.toList := by
  obtain ⟨before, after, hchars, hafter⟩ := exists_last_mark hmark
  refine ⟨String.ofList before, String.ofList after, String.toList_injective ?_, ?_⟩
  · rw [String.toList_append, String.toList_append, String.toList_ofList, String.toList_ofList, hsep,
      hchars, List.append_assoc]
    rfl
  · rwa [String.toList_ofList]

omit hsep in
theorem joinWith_cons (sep first : String) {rest : List String} (hrest : rest ≠ []) :
    joinWith sep (first :: rest) = first ++ sep ++ joinWith sep rest := by
  cases rest with
  | nil => exact absurd rfl hrest
  | cons next others => rfl

omit hsep in
theorem joinWith_append (sep : String) {first second : List String} (hfirst : first ≠ [])
    (hsecond : second ≠ []) :
    joinWith sep (first ++ second) = joinWith sep first ++ sep ++ joinWith sep second := by
  induction first with
  | nil => exact absurd rfl hfirst
  | cons part rest ih =>
      by_cases hrest : rest = []
      · subst hrest
        exact joinWith_cons sep part hsecond
      · have hboth : rest ++ second ≠ [] := List.append_ne_nil_of_left_ne_nil hrest second
        rw [List.cons_append, joinWith_cons sep part hboth, joinWith_cons sep part hrest, ih hrest]
        simp only [String.append_assoc]

omit hsep in
theorem mem_joinWith {sep : String} {texts : List String} {c : Char}
    (hc : c ∈ (joinWith sep texts).toList) : c ∈ sep.toList ∨ ∃ text ∈ texts, c ∈ text.toList := by
  induction texts with
  | nil => cases hc
  | cons text rest ih =>
      by_cases hrest : rest = []
      · subst hrest
        exact Or.inr ⟨text, List.mem_cons_self, hc⟩
      · rw [joinWith_cons sep text hrest, String.toList_append, String.toList_append] at hc
        rcases List.mem_append.mp hc with hfront | hback
        · rcases List.mem_append.mp hfront with htext | hmark
          · exact Or.inr ⟨text, List.mem_cons_self, htext⟩
          · exact Or.inl hmark
        · obtain hmark | ⟨other, hother, hmem⟩ := ih hback
          · exact Or.inl hmark
          · exact Or.inr ⟨other, List.mem_cons_of_mem _ hother, hmem⟩

/-- To join the parts of a text gives the text. -/
theorem joinWith_splitOn (text : String) : joinWith sep (splitOn mark text) = text := by
  by_cases hmark : mark ∈ text.toList
  · obtain ⟨front, back, htext, hback⟩ := exists_last_cut hsep hmark
    have hshorter : front.toList.length < text.toList.length := by
      rw [htext, String.toList_append, String.toList_append, hsep]
      simp only [List.length_append, List.length_singleton]
      omega
    have hfront : joinWith sep (splitOn mark front) = front := joinWith_splitOn front
    rw [htext, splitOn_append hsep,
      joinWith_append sep (splitOn_ne_nil mark front) (splitOn_ne_nil mark back), hfront,
      splitOn_of_not_mem hback]
    rfl
  · rw [splitOn_of_not_mem hmark]
    rfl
termination_by text.toList.length

/-- The parts of joined texts are the parts of the texts. -/
theorem splitOn_joinWith {texts : List String} (hne : texts ≠ []) :
    splitOn mark (joinWith sep texts) = texts.flatMap (splitOn mark) := by
  induction texts with
  | nil => exact absurd rfl hne
  | cons text rest ih =>
      by_cases hrest : rest = []
      · subst hrest
        simp [joinWith]
      · rw [joinWith_cons sep text hrest, splitOn_append hsep, ih hrest, List.flatMap_cons]

theorem joinWith_flatMap_splitOn (texts : List String) :
    joinWith sep (texts.flatMap (splitOn mark)) = joinWith sep texts := by
  by_cases hne : texts = []
  · subst hne
    rfl
  · rw [← splitOn_joinWith hsep hne, joinWith_splitOn hsep]

omit hsep in
theorem flatMap_splitOn_of_not_mem {texts : List String}
    (htexts : ∀ text ∈ texts, mark ∉ text.toList) : texts.flatMap (splitOn mark) = texts := by
  induction texts with
  | nil => rfl
  | cons text rest ih =>
      rw [List.flatMap_cons, splitOn_of_not_mem (htexts text List.mem_cons_self),
        ih fun other hother => htexts other (List.mem_cons_of_mem _ hother)]
      rfl

/-- Texts without the mark are the parts of what is joined from them. -/
theorem splitOn_joinWith_of_not_mem {texts : List String} (hne : texts ≠ [])
    (htexts : ∀ text ∈ texts, mark ∉ text.toList) : splitOn mark (joinWith sep texts) = texts := by
  rw [splitOn_joinWith hsep hne, flatMap_splitOn_of_not_mem htexts]

omit hsep in
/-- Texts that are not empty do not vanish when they are joined. -/
theorem joinWith_eq_empty_iff (sep : String) {texts : List String} (htexts : "" ∉ texts) :
    joinWith sep texts = "" ↔ texts = [] := by
  constructor
  · intro hempty
    cases texts with
    | nil => rfl
    | cons text rest =>
        have htext : text ≠ "" := fun heq => htexts (heq ▸ List.mem_cons_self)
        by_cases hrest : rest = []
        · subst hrest
          exact absurd hempty htext
        · rw [joinWith_cons sep text hrest, String.append_assoc, String.append_eq_empty_iff] at hempty
          exact absurd hempty.1 htext
  · rintro rfl
    rfl

end Joining

/-! ## Cutting at the last mark -/

theorem cutLast?_of_last {mark : Char} {text : String} {before after : List Char}
    (htext : text.toList = before ++ mark :: after) (hafter : mark ∉ after) :
    cutLast? mark text = some (String.ofList before, String.ofList after) := by
  have hall : ∀ c ∈ after.reverse, (c != mark) = true := by
    intro c hc
    rw [bne_iff_ne]
    rintro rfl
    exact hafter (List.mem_reverse.mp hc)
  have hreverse : text.toList.reverse = after.reverse ++ mark :: before.reverse := by
    rw [htext]
    simp
  rw [cutLast?, hreverse, List.dropWhile_append_of_pos hall, List.takeWhile_append_of_pos hall]
  simp

theorem lastPart_of_last {text : String} {before after : List Char}
    (htext : text.toList = before ++ '.' :: after) (hafter : '.' ∉ after) :
    lastPart text = String.ofList after := by
  rw [lastPart, cutLast?_of_last htext hafter]
  rfl

theorem lastPart_of_no_dot {text : String} (hdot : '.' ∉ text.toList) : lastPart text = text := by
  have hall : ∀ c ∈ text.toList.reverse, (c != '.') = true := by
    intro c hc
    rw [bne_iff_ne]
    rintro rfl
    exact hdot (List.mem_reverse.mp hc)
  have hcut : cutLast? '.' text = none := by
    rw [cutLast?, List.dropWhile_eq_nil_iff.mpr hall]
  rw [lastPart, hcut]
  rfl

/-- The last of the parts between dots is what stands behind the last dot. -/
theorem getLast?_splitOn (text : String) : (splitOn '.' text).getLast? = some (lastPart text) := by
  by_cases hdot : '.' ∈ text.toList
  · obtain ⟨before, after, htext, hafter⟩ := exists_last_mark hdot
    rw [splitOn, htext, pieces_append, pieces_of_not_mem hafter, lastPart_of_last htext hafter,
      List.map_append]
    exact List.getLast?_concat
  · rw [splitOn_of_not_mem hdot, lastPart_of_no_dot hdot]
    rfl

/-! ## The order of texts -/

section Order

variable {α : Type} (key : α → String)

/-- Entries with different texts, put in order, stand one strictly before the other. -/
theorem pairwise_lt_mergeSort {entries : List α} (hkeys : (entries.map key).Nodup) :
    (entries.mergeSort fun a b => !(key b < key a : Bool)).Pairwise fun a b => key a < key b := by
  have hle : (entries.mergeSort fun a b => !(key b < key a : Bool)).Pairwise
      fun a b => key a ≤ key b := by
    refine (List.pairwise_mergeSort (fun a b c hab hbc => ?_) (fun a b => ?_) _).imp fun {a b} hab => ?_
    · simp only [Bool.not_eq_true', decide_eq_false_iff_not, not_lt] at hab hbc ⊢
      exact hab.trans hbc
    · simp only [Bool.or_eq_true, Bool.not_eq_true', decide_eq_false_iff_not, not_lt]
      exact le_total (key a) (key b)
    · simpa only [Bool.not_eq_true', decide_eq_false_iff_not, not_lt] using hab
  have hne := (((List.mergeSort_perm entries fun a b => !(key b < key a : Bool)).map key).nodup_iff).mpr
    hkeys
  rw [List.nodup_iff_pairwise_ne, List.pairwise_map] at hne
  exact hle.imp₂ (fun a b hle hne => lt_of_le_of_ne hle hne) hne

/-- Two lists of the same entries in strict order are equal. -/
theorem eq_of_pairwise_lt {first second : List α} (hfirst : first.Pairwise fun a b => key a < key b)
    (hsecond : second.Pairwise fun a b => key a < key b) (hmem : ∀ a, a ∈ first ↔ a ∈ second) :
    first = second := by
  have hnodup : ∀ {list : List α}, list.Pairwise (fun a b => key a < key b) → list.Nodup :=
    fun hlist => List.nodup_iff_pairwise_ne.mpr
      (hlist.imp fun {a b} hlt heq => hlt.ne (congrArg key heq))
  have hperm : first.Perm second :=
    (List.perm_ext_iff_of_nodup (hnodup hfirst) (hnodup hsecond)).mpr hmem
  exact hperm.eq_of_pairwise (fun a b _ _ hab hba => absurd hba hab.asymm) hfirst hsecond

end Order

end CallChain.Text
