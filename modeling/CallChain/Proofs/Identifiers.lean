import CallChain.Proofs.Words
import CallChain.Text.Blank
import CallChain.Text.Compatibility
import CallChain.Text.Identifier

/-!
# Identifiers hold no dividers

Dots, slashes and colons divide dotted names, paths and specifiers, and blanks are trimmed from the
ends of what users type.  None of them occurs in an identifier, and none comes in when an identifier
is brought into its one spelling.  Both rest on the tables: the numbers of a table are read once from
the text that they are written down in, line after line, and each is compared with the dividers.  Nor is
an identifier lost in its one spelling: `compatible_ne_nil`.
-/

namespace CallChain.Text

/-- Whether a code point is a dot, a slash, a colon or a blank. -/
def isDivider (point : Nat) : Bool := point = 46 ∨ point = 47 ∨ point = 58 ∨ isBlank point

/-- None of the code points is a divider. -/
def Clear (points : List Nat) : Prop := ∀ point ∈ points, isDivider point = false

@[simp] theorem clear_nil : Clear [] := by simp [Clear]

@[simp] theorem clear_cons {point : Nat} {points : List Nat} :
    Clear (point :: points) ↔ isDivider point = false ∧ Clear points := by
  simp [Clear]

@[simp] theorem clear_append {first second : List Nat} :
    Clear (first ++ second) ↔ Clear first ∧ Clear second :=
  List.forall_mem_append

@[simp] theorem clear_reverse {points : List Nat} : Clear points.reverse ↔ Clear points := by
  simp [Clear]

/-! ## Texts of tables -/

theorem join_eq_nil : String.join [] = String.ofList [] := rfl

/-- The characters of a table are those of its lines. -/
theorem join_eq_append {line rest : List Char} {lines : List String}
    (hlines : String.join lines = String.ofList rest) :
    String.join (String.ofList line :: lines) = String.ofList (line ++ rest) := by
  rw [String.join_cons, hlines, String.ofList_append]

/-! ## Rows -/

/-- Whether the rows of a text are clear behind their first numbers.  `first` tells that the number
being read is the first of its row, and `n` is what has been read of it. -/
def rowsClear : List Char → Bool → Nat → Bool
  | [], first, n => first || !isDivider n
  | c :: rest, first, n =>
    if c = ' ' then (first || !isDivider n) && rowsClear rest true 0
    else if c = '-' then (first || !isDivider n) && rowsClear rest false 0
    else rowsClear rest first (n * 36 + Ranges.digit c)

/-- The numbers of a row that count, where the next is its first or a later one. -/
def counted (first : Bool) (numbers : List Nat) : List Nat := if first then numbers.tail else numbers

theorem clear_counted {first : Bool} {n : Nat} {rest : List Nat}
    (hn : (first || !isDivider n) = true) (hrest : Clear rest) : Clear (counted first (n :: rest)) := by
  cases first with
  | true => exact hrest
  | false => exact clear_cons.mpr ⟨by simpa using hn, hrest⟩

theorem clear_of_rowsClear {cs piece : List Char} {others : List (List Char)} {first : Bool} {n : Nat}
    (hclear : rowsClear cs first n = true) (hpieces : pieces ' ' cs = piece :: others) :
    Clear (counted first (rowNumbers piece n)) ∧
      ∀ other ∈ others, Clear (rowNumbers other 0).tail := by
  induction cs generalizing piece others first n with
  | nil =>
      obtain ⟨rfl, rfl⟩ := List.cons.inj hpieces
      exact ⟨clear_counted hclear clear_nil, by simp⟩
  | cons c rest ih =>
      rw [rowsClear] at hclear
      obtain ⟨next, later, hrest⟩ := List.exists_cons_of_ne_nil (pieces_ne_nil ' ' rest)
      by_cases hblank : c = ' '
      · rw [if_pos hblank, Bool.and_eq_true] at hclear
        rw [pieces, if_pos hblank, hrest] at hpieces
        obtain ⟨rfl, rfl⟩ := List.cons.inj hpieces
        obtain ⟨hnext, hlater⟩ := ih hclear.2 hrest
        exact ⟨clear_counted hclear.1 clear_nil, List.forall_mem_cons.mpr ⟨hnext, hlater⟩⟩
      · rw [if_neg hblank] at hclear
        rw [pieces, if_neg hblank, hrest] at hpieces
        obtain ⟨rfl, rfl⟩ := List.cons.inj hpieces
        by_cases hhyphen : c = '-'
        · rw [if_pos hhyphen, Bool.and_eq_true] at hclear
          obtain ⟨hnext, hlater⟩ := ih hclear.2 hrest
          rw [hhyphen, rowNumbers]
          exact ⟨clear_counted hclear.1 hnext, hlater⟩
        · rw [if_neg hhyphen] at hclear
          have hnumbers : rowNumbers (c :: next) n = rowNumbers next (n * 36 + Ranges.digit c) := by
            simp [rowNumbers]
          rw [hnumbers]
          exact ih hclear hrest

theorem toList_rowTexts {cs row piece : List Char} {others : List (List Char)}
    {out : Array (List Char)} (hpieces : pieces ' ' cs = piece :: others) :
    (rowTexts cs row out).toList = out.toList ++ (row.reverse ++ piece) :: others := by
  induction cs generalizing row out piece others with
  | nil =>
      obtain ⟨rfl, rfl⟩ := List.cons.inj hpieces
      simp [rowTexts]
  | cons c rest ih =>
      obtain ⟨next, later, hrest⟩ := List.exists_cons_of_ne_nil (pieces_ne_nil ' ' rest)
      by_cases hblank : c = ' '
      · rw [pieces, if_pos hblank, hrest] at hpieces
        obtain ⟨rfl, rfl⟩ := List.cons.inj hpieces
        rw [hblank, rowTexts, ih hrest]
        simp
      · rw [pieces, if_neg hblank, hrest] at hpieces
        obtain ⟨rfl, rfl⟩ := List.cons.inj hpieces
        have hstep : rowTexts (c :: rest) row out = rowTexts rest (c :: row) out := by
          simp [rowTexts]
        rw [hstep, ih hrest]
        simp

/-- What holds of each row that a step adds holds of all rows in the end. -/
theorem mem_or_exists_of_mem_foldl {step : Rows × Nat → List Char → Rows × Nat} {row : List Nat}
    {P : List Char → Prop} (hstep : ∀ acc text, row ∈ (step acc text).1 → row ∈ acc.1 ∨ P text)
    (texts : List (List Char)) (acc : Rows × Nat) (hrow : row ∈ (texts.foldl step acc).1) :
    row ∈ acc.1 ∨ ∃ text ∈ texts, P text := by
  induction texts generalizing acc with
  | nil => exact Or.inl hrow
  | cons text rest ih =>
      rcases ih _ hrow with hadded | ⟨later, hlater, hholds⟩
      · exact (hstep acc text hadded).imp_right fun hholds => ⟨text, List.mem_cons_self, hholds⟩
      · exact Or.inr ⟨later, List.mem_cons_of_mem _ hlater, hholds⟩

/-- Behind its first number a row is as it is written down. -/
theorem exists_piece_of_mem_rowsOfGaps {text : String} {row : List Nat}
    (hrow : row ∈ rowsOfGaps text) :
    ∃ piece ∈ pieces ' ' text.toList, row.tail = (rowNumbers piece 0).tail := by
  have htexts : (rowTexts text.toList [] #[]).toList = pieces ' ' text.toList := by
    obtain ⟨piece, others, hpieces⟩ := List.exists_cons_of_ne_nil (pieces_ne_nil ' ' text.toList)
    rw [toList_rowTexts hpieces, hpieces]
    rfl
  rw [rowsOfGaps, ← Array.foldl_toList, htexts] at hrow
  refine (mem_or_exists_of_mem_foldl ?_ _ _ hrow).resolve_left (by simp)
  intro acc piece hadded
  split at hadded
  · rename_i gap others hnumbers
    rcases Array.mem_push.mp hadded with hearlier | rfl
    · exact Or.inl hearlier
    · exact Or.inr (by rw [hnumbers]; rfl)
  · exact Or.inl hadded

/-- What holds of the numbers behind the first in each piece of a text holds of the rows of the table. -/
theorem forall_rowsOfGaps {lines : List String} {text : List Char} {P : List Nat → Prop}
    (hlines : String.join lines = String.ofList text)
    (hpieces : ∀ piece ∈ pieces ' ' text, P (rowNumbers piece 0).tail) :
    ∀ row ∈ rowsOfGaps (String.join lines), P row.tail := by
  intro row hrow
  obtain ⟨piece, hpiece, htail⟩ := exists_piece_of_mem_rowsOfGaps hrow
  rw [hlines, String.toList_ofList] at hpiece
  rw [htail]
  exact hpieces piece hpiece

/-- The rows of a table are clear behind their first numbers if its text is found to be so. -/
theorem clear_rowsOfGaps {lines : List String} {text : List Char}
    (hlines : String.join lines = String.ofList text) (hclear : rowsClear text true 0 = true) :
    ∀ row ∈ rowsOfGaps (String.join lines), Clear row.tail := by
  refine forall_rowsOfGaps hlines fun piece hpiece => ?_
  obtain ⟨first, others, hpieces⟩ := List.exists_cons_of_ne_nil (pieces_ne_nil ' ' text)
  obtain ⟨hfirst, hothers⟩ := clear_of_rowsClear hclear hpieces
  rcases List.mem_cons.mp (hpieces ▸ hpiece) with rfl | hmem
  · exact hfirst
  · exact hothers piece hmem

/-- Whether each row of a text has a hyphen; `seen` tells that the row being read has one. -/
def rowsSpelled : List Char → Bool → Bool
  | [], seen => seen
  | c :: rest, seen => if c = ' ' then seen && rowsSpelled rest false else rowsSpelled rest (seen || c = '-')

theorem mem_of_rowsSpelled {cs piece : List Char} {others : List (List Char)} {seen : Bool}
    (hspelled : rowsSpelled cs seen = true) (hpieces : pieces ' ' cs = piece :: others) :
    (seen = true ∨ '-' ∈ piece) ∧ ∀ other ∈ others, '-' ∈ other := by
  induction cs generalizing piece others seen with
  | nil =>
      obtain ⟨rfl, rfl⟩ := List.cons.inj hpieces
      exact ⟨Or.inl hspelled, by simp⟩
  | cons c rest ih =>
      rw [rowsSpelled] at hspelled
      obtain ⟨next, later, hrest⟩ := List.exists_cons_of_ne_nil (pieces_ne_nil ' ' rest)
      by_cases hblank : c = ' '
      · rw [if_pos hblank, Bool.and_eq_true] at hspelled
        rw [pieces, if_pos hblank, hrest] at hpieces
        obtain ⟨rfl, rfl⟩ := List.cons.inj hpieces
        obtain ⟨hnext, hlater⟩ := ih hspelled.2 hrest
        exact ⟨Or.inl hspelled.1, List.forall_mem_cons.mpr ⟨hnext.resolve_left Bool.false_ne_true, hlater⟩⟩
      · rw [if_neg hblank] at hspelled
        rw [pieces, if_neg hblank, hrest] at hpieces
        obtain ⟨rfl, rfl⟩ := List.cons.inj hpieces
        obtain ⟨hnext, hlater⟩ := ih hspelled hrest
        refine ⟨?_, hlater⟩
        simp only [Bool.or_eq_true, decide_eq_true_eq] at hnext
        rcases hnext with (hseen | hhyphen) | hmem
        · exact Or.inl hseen
        · exact Or.inr (hhyphen ▸ List.mem_cons_self)
        · exact Or.inr (List.mem_cons_of_mem _ hmem)

theorem rowNumbers_ne_nil (cs : List Char) (n : Nat) : rowNumbers cs n ≠ [] := by
  fun_induction rowNumbers cs n with
  | case1 n => exact List.cons_ne_nil _ _
  | case2 rest n ih => exact List.cons_ne_nil _ _
  | case3 c rest n hhyphen ih => exact ih

theorem tail_rowNumbers_ne_nil {cs : List Char} (hmem : '-' ∈ cs) (n : Nat) :
    (rowNumbers cs n).tail ≠ [] := by
  fun_induction rowNumbers cs n with
  | case1 n => cases hmem
  | case2 rest n ih => exact rowNumbers_ne_nil rest 0
  | case3 c rest n hhyphen ih => exact ih ((List.mem_cons.mp hmem).resolve_left fun heq => hhyphen heq.symm)

/-- The rows of a table have something behind their first numbers if its text is found to be so. -/
theorem tail_rowsOfGaps_ne_nil {lines : List String} {text : List Char}
    (hlines : String.join lines = String.ofList text) (hspelled : rowsSpelled text false = true) :
    ∀ row ∈ rowsOfGaps (String.join lines), row.tail ≠ [] := by
  refine forall_rowsOfGaps (P := (· ≠ [])) hlines fun piece hpiece => tail_rowNumbers_ne_nil ?_ 0
  obtain ⟨first, others, hpieces⟩ := List.exists_cons_of_ne_nil (pieces_ne_nil ' ' text)
  obtain ⟨hfirst, hothers⟩ := mem_of_rowsSpelled hspelled hpieces
  rcases List.mem_cons.mp (hpieces ▸ hpiece) with rfl | hmem
  · exact hfirst.resolve_left Bool.false_ne_true
  · exact hothers piece hmem

/-- Every character of the table has a spelling. -/
theorem tail_plainSpellings_ne_nil : ∀ row ∈ plainSpellings, row.tail ≠ [] := by
  unfold plainSpellings
  dsimp only
  apply tail_rowsOfGaps_ne_nil
  case hlines =>
    repeat apply join_eq_append
    exact join_eq_nil
  case hspelled => decide +kernel

/-- Characters have no dividers in their plainest spelling. -/
theorem clear_plainSpellings : ∀ row ∈ plainSpellings, Clear row.tail := by
  unfold plainSpellings
  dsimp only
  apply clear_rowsOfGaps
  case hlines =>
    repeat apply join_eq_append
    exact join_eq_nil
  case hclear => decide +kernel

/-- Two characters are not joined to a divider. -/
theorem clear_joinedPairs : ∀ row ∈ joinedPairs, Clear row.tail := by
  unfold joinedPairs
  dsimp only
  apply clear_rowsOfGaps
  case hlines =>
    repeat apply join_eq_append
    exact join_eq_nil
  case hclear => decide +kernel

/-! ## The one spelling of a word -/

theorem isDivider_of_between {point : Nat} (hlow : 0x1100 ≤ point) (hhigh : point < 0x1680) :
    isDivider point = false := by
  simp only [isDivider, isBlank, decide_eq_true_eq, decide_eq_false_iff_not]
  omega

theorem isDivider_of_lt {point : Nat} (hlt : 0x3000 < point) : isDivider point = false := by
  simp only [isDivider, isBlank, decide_eq_true_eq, decide_eq_false_iff_not]
  omega

theorem mem_of_rowBelow? {rows : Rows} {key : Nat} {row : List Nat}
    (hrow : rowBelow? rows key = some row) : row ∈ rows := by
  unfold rowBelow? at hrow
  split at hrow
  · cases hrow
  · exact Array.mem_of_getElem? hrow

theorem clear_plain {point : Nat} (hpoint : isDivider point = false) : Clear (plain point) := by
  unfold plain
  split
  · -- a syllable is taken apart into letters of its script
    rename_i hsyllable
    have hhead : isDivider (0x1100 + (point - 0xAC00) / 588) = false :=
      isDivider_of_between (by omega) (by omega)
    have hvowel : isDivider (0x1161 + (point - 0xAC00) % 588 / 28) = false :=
      isDivider_of_between (by omega) (by omega)
    have hlast : isDivider (0x11A7 + (point - 0xAC00) % 28) = false :=
      isDivider_of_between (by omega) (by omega)
    dsimp only
    split <;> simp [hhead, hvowel, hlast]
  · split
    · rename_i p spelling hrow
      split
      · exact clear_plainSpellings _ (mem_of_rowBelow? hrow)
      · simpa using hpoint
    · simpa using hpoint

theorem clear_insertMark {mark : Nat} {points : List Nat} (hmark : isDivider mark = false)
    (hpoints : Clear points) : Clear (insertMark mark points) := by
  induction points with
  | nil => simpa [insertMark] using hmark
  | cons last rest ih =>
      obtain ⟨hlast, hrest⟩ := clear_cons.mp hpoints
      rw [insertMark]
      split
      · exact clear_cons.mpr ⟨hlast, ih hrest⟩
      · exact clear_cons.mpr ⟨hmark, hpoints⟩

theorem clear_orderMarks {points : List Nat} (hpoints : Clear points) : Clear (orderMarks points) := by
  have hfold : ∀ {done : List Nat}, Clear done → Clear (points.foldl
      (fun done p => if markRank p = 0 then p :: done else insertMark p done) done) := by
    induction points with
    | nil => exact fun hdone => hdone
    | cons p rest ih =>
        obtain ⟨hp, hrest⟩ := clear_cons.mp hpoints
        intro done hdone
        refine ih hrest ?_
        dsimp only
        split
        · exact clear_cons.mpr ⟨hp, hdone⟩
        · exact clear_insertMark hp hdone
  exact clear_reverse.mpr (hfold clear_nil)

theorem isDivider_of_join? {first second both : Nat} (hjoin : join? first second = some both) :
    isDivider both = false := by
  unfold join? at hjoin
  split at hjoin
  · rw [← Option.some.inj hjoin]
    exact isDivider_of_lt (by omega)
  split at hjoin
  · rw [← Option.some.inj hjoin]
    exact isDivider_of_lt (by omega)
  · obtain ⟨row, hrow, hboth⟩ := Option.bind_eq_some_iff.mp hjoin
    have hmem : row ∈ joinedPairs := by
      have hfound := List.mem_of_find?_eq_some hrow
      rw [Array.toList_extract, List.extract_eq_take_drop] at hfound
      exact Array.mem_toList_iff.mp (List.mem_of_mem_drop (List.mem_of_mem_take hfound))
    have htail : both ∈ row.tail := by
      refine List.mem_of_getElem? (i := 1) ?_
      rw [List.getElem?_tail]
      exact hboth
    exact clear_joinedPairs row hmem both htail

theorem clear_joinAll {points : List Nat} {letter : Option Nat} {marks : List Nat} {rank : Nat}
    (hpoints : Clear points) (hletter : Clear letter.toList) (hmarks : Clear marks) :
    Clear (joinAll points letter marks rank) := by
  fun_induction joinAll points letter marks rank with
  | case1 letter marks rank => simp [hletter, hmarks]
  | case2 p rest letter marks rank own joined both hjoined ih =>
      have hboth : isDivider both = false := by
        unfold joined at hjoined
        split at hjoined
        · split at hjoined
          · exact isDivider_of_join? hjoined
          · cases hjoined
        · cases hjoined
      exact ih (clear_cons.mp hpoints).2 (by simpa using hboth) hmarks
  | case3 p rest letter marks rank own joined hjoined hown ih =>
      obtain ⟨hp, hrest⟩ := clear_cons.mp hpoints
      refine clear_append.mpr ⟨?_, ih hrest (by simpa using hp) clear_nil⟩
      exact clear_append.mpr ⟨hletter, clear_reverse.mpr hmarks⟩
  | case4 p rest letter marks rank own joined hjoined hown ih =>
      obtain ⟨hp, hrest⟩ := clear_cons.mp hpoints
      exact ih hrest hletter (clear_cons.mpr ⟨hp, hmarks⟩)

/-- What is no character becomes the null character. -/
theorem toNat_ofNat_eq (point : Nat) :
    (Char.ofNat point).toNat = point ∨ (Char.ofNat point).toNat = 0 := by
  by_cases hvalid : point.isValidChar
  · exact Or.inl (by rw [Char.ofNat, dif_pos hvalid]; rfl)
  · exact Or.inr (by rw [Char.ofNat, dif_neg hvalid]; rfl)

/-- A word without dividers has none in its one spelling. -/
theorem clear_compatible {word : List Char} (hword : Clear (word.map Char.toNat)) :
    Clear ((compatible word).map Char.toNat) := by
  have hpoints : Clear (joinAll (orderMarks (word.flatMap fun c => plain c.toNat)) none [] 0) := by
    refine clear_joinAll (clear_orderMarks ?_) clear_nil clear_nil
    intro point hpoint
    obtain ⟨c, hc, hplain⟩ := List.mem_flatMap.mp hpoint
    exact clear_plain (hword c.toNat (List.mem_map_of_mem hc)) point hplain
  intro point hpoint
  rw [compatible, List.map_map] at hpoint
  obtain ⟨p, hp, rfl⟩ := List.mem_map.mp hpoint
  rcases toNat_ofNat_eq p with heq | heq
  · rw [Function.comp_apply, heq]
    exact hpoints p hp
  · rw [Function.comp_apply, heq]
    rfl

theorem plain_ne_nil (point : Nat) : plain point ≠ [] := by
  unfold plain
  split
  · dsimp only
    split <;> exact List.cons_ne_nil _ _
  · split
    · rename_i p spelling hrow
      split
      · exact tail_plainSpellings_ne_nil _ (mem_of_rowBelow? hrow)
      · exact List.cons_ne_nil _ _
    · exact List.cons_ne_nil _ _

theorem insertMark_ne_nil (mark : Nat) (points : List Nat) : insertMark mark points ≠ [] := by
  cases points with
  | nil => exact List.cons_ne_nil _ _
  | cons last rest =>
      rw [insertMark]
      split <;> exact List.cons_ne_nil _ _

theorem orderMarks_ne_nil {points : List Nat} (hpoints : points ≠ []) : orderMarks points ≠ [] := by
  have hfold : ∀ {done : List Nat}, points ≠ [] ∨ done ≠ [] → points.foldl
      (fun done p => if markRank p = 0 then p :: done else insertMark p done) done ≠ [] := by
    clear hpoints
    induction points with
    | nil => exact fun hdone => hdone.resolve_left (not_not.mpr rfl)
    | cons p rest ih =>
        intro done _
        refine ih (Or.inr ?_)
        dsimp only
        split
        · exact List.cons_ne_nil _ _
        · exact insertMark_ne_nil p done
  exact mt List.reverse_eq_nil_iff.mp (hfold (Or.inl hpoints))

/-- While letters and marks are joined, something stays. -/
theorem joinAll_ne_nil {points : List Nat} {letter : Option Nat} {marks : List Nat} {rank : Nat}
    (hsome : points ≠ [] ∨ letter ≠ none ∨ marks ≠ []) : joinAll points letter marks rank ≠ [] := by
  fun_induction joinAll points letter marks rank with
  | case1 letter marks rank =>
      cases letter with
      | none => simpa using hsome
      | some l => simp
  | case2 p rest letter marks rank own joined both hjoined ih => exact ih (Or.inr (Or.inl nofun))
  | case3 p rest letter marks rank own joined hjoined hown ih =>
      exact mt List.append_eq_nil_iff.mp fun hnil => ih (Or.inr (Or.inl nofun)) hnil.2
  | case4 p rest letter marks rank own joined hjoined hown ih =>
      exact ih (Or.inr (Or.inr (List.cons_ne_nil _ _)))

/-- The one spelling of a word has characters if the word has. -/
theorem compatible_ne_nil {word : List Char} (hword : word ≠ []) : compatible word ≠ [] := by
  have hplain : (word.flatMap fun c => plain c.toNat) ≠ [] := by
    obtain ⟨c, rest, rfl⟩ := List.exists_cons_of_ne_nil hword
    exact mt List.append_eq_nil_iff.mp fun hnil => plain_ne_nil c.toNat hnil.1
  exact mt List.map_eq_nil_iff.mp (joinAll_ne_nil (Or.inl (orderMarks_ne_nil hplain)))

/-! ## Ranges -/

/-- The blanks beyond ASCII. -/
def wideBlanks : List Nat :=
  [0x85, 0xA0, 0x1680, 0x2000, 0x2001, 0x2002, 0x2003, 0x2004, 0x2005, 0x2006, 0x2007, 0x2008, 0x2009,
    0x200A, 0x2028, 0x2029, 0x202F, 0x205F, 0x3000]

theorem mem_wideBlanks {point : Nat} (hdivider : isDivider point = true) (hwide : 128 ≤ point) :
    point ∈ wideBlanks := by
  simp only [isDivider, isBlank, decide_eq_true_eq] at hdivider
  simp only [wideBlanks, List.mem_cons, List.not_mem_nil, or_false]
  omega

namespace Ranges

/-- The bounds of a table of gaps, as a list. -/
def boundsOf : List Char → Nat → Nat → List Nat
  | [], gap, total => [total + gap]
  | ' ' :: rest, gap, total => (total + gap) :: boundsOf rest 0 (total + gap)
  | c :: rest, gap, total => boundsOf rest (gap * 36 + digit c) total

theorem toList_sums (cs : List Char) (gap total : Nat) (out : Array Nat) :
    (sums cs gap total out).toList = out.toList ++ boundsOf cs gap total := by
  fun_induction sums cs gap total out with
  | case1 => simp [boundsOf]
  | case2 rest gap total out ih => simp [boundsOf, ih]
  | case3 gap total out c rest hblank ih => rw [ih, boundsOf]; exact hblank

/-- Whether the bounds come in pairs and no blank beyond ASCII is between two of a pair. -/
def pairsClear : List Nat → Bool
  | [] => true
  | [_] => false
  | low :: high :: rest => (wideBlanks.all fun blank => blank < low || high ≤ blank) && pairsClear rest

theorem exists_high_of_pairsClear {bounds : List Nat} (hclear : pairsClear bounds = true) {i low : Nat}
    (heven : i % 2 = 0) (hlow : bounds[i]? = some low) :
    ∃ high, bounds[i + 1]? = some high ∧ ∀ blank ∈ wideBlanks, low ≤ blank → high ≤ blank := by
  fun_induction pairsClear bounds generalizing i with
  | case1 => cases hlow
  | case2 => cases hclear
  | case3 first second rest ih =>
      rw [Bool.and_eq_true, List.all_eq_true] at hclear
      match i with
      | 0 =>
          obtain rfl : first = low := by simpa using hlow
          refine ⟨second, rfl, fun blank hblank hle => ?_⟩
          have := hclear.1 blank hblank
          simp only [Bool.or_eq_true, decide_eq_true_eq] at this
          omega
      | 1 => cases heven
      | i + 2 => exact ih hclear.2 (by omega) (by simpa using hlow)

/-- The search ends behind a bound that is at most the point and before one that is greater, if there
are such bounds. -/
theorem rank_spec (r : Ranges) (point : Nat) {low high : Nat} (hle : low ≤ high)
    (hlow : low = 0 ∨ r.bounds[low - 1]?.getD 0 ≤ point)
    (hhigh : high = r.bounds.size ∨ point < r.bounds[high]?.getD 0) :
    (r.rank point low high = 0 ∨ r.bounds[r.rank point low high - 1]?.getD 0 ≤ point) ∧
      (r.rank point low high = r.bounds.size ∨ point < r.bounds[r.rank point low high]?.getD 0) := by
  fun_induction rank r point low high with
  | case1 low high hlt middle hmiddle ih =>
      exact ih (by omega) (Or.inr (by simpa using hmiddle)) hhigh
  | case2 low high hlt middle hmiddle ih =>
      exact ih (by omega) hlow (Or.inr (by omega))
  | case3 low high hge =>
      obtain rfl : low = high := by omega
      exact ⟨hlow, hhigh⟩

theorem rank_le {r : Ranges} {point low high : Nat} (hle : low ≤ high) :
    r.rank point low high ≤ high := by
  fun_induction rank r point low high with
  | case1 low high hlt middle hmiddle ih => exact ih (by omega)
  | case2 low high hlt middle hmiddle ih => exact (ih (by omega)).trans (by omega)
  | case3 low high hge => exact hle

/-- A set whose text is found to be clear of the wide blanks contains none of them. -/
theorem contains_eq_false {lines : List String} {text : List Char}
    (hlines : String.join lines = String.ofList text)
    (hclear : pairsClear (boundsOf text 0 0) = true) {blank : Nat} (hblank : blank ∈ wideBlanks) :
    (ofGaps (String.join lines)).contains blank = false := by
  generalize hr : ofGaps (String.join lines) = r
  have hbounds : r.bounds.toList = boundsOf text 0 0 := by
    rw [← hr, hlines, ofGaps, String.toList_ofList, toList_sums]
    rfl
  rw [contains, beq_eq_false_iff_ne]
  intro hodd
  have hsize : r.rank blank 0 r.bounds.size ≤ r.bounds.size := rank_le (Nat.zero_le _)
  obtain ⟨hlow, hhigh⟩ := rank_spec r blank (Nat.zero_le r.bounds.size) (Or.inl rfl) (Or.inl rfl)
  generalize r.rank blank 0 r.bounds.size = rank at hodd hsize hlow hhigh
  obtain ⟨i, rfl⟩ : ∃ i, rank = i + 1 := ⟨rank - 1, by omega⟩
  -- the bound below the blank opens a pair, so the bound above the blank closes it
  have hopen : r.bounds[i]? = some (r.bounds[i]) := Array.getElem?_eq_getElem hsize
  obtain ⟨high, hclose, hblanks⟩ := exists_high_of_pairsClear (hbounds ▸ hclear) (i := i)
    (by omega) (by rw [Array.getElem?_toList]; exact hopen)
  have hclose : r.bounds[i + 1]? = some high := by simpa using hclose
  have hge : high ≤ blank := hblanks blank hblank (by simpa [hopen] using hlow)
  rcases hhigh with hend | hlt
  · simp [hend] at hclose
  · rw [hclose, Option.getD_some] at hlt
    omega

end Ranges

theorem not_contains_identifierStart {blank : Nat} (hblank : blank ∈ wideBlanks) :
    identifierStart.contains blank = false := by
  unfold identifierStart
  dsimp only
  apply Ranges.contains_eq_false
  case hlines =>
    repeat apply join_eq_append
    exact join_eq_nil
  case hclear => decide +kernel
  case hblank => exact hblank

theorem not_contains_identifierPart {blank : Nat} (hblank : blank ∈ wideBlanks) :
    identifierPart.contains blank = false := by
  unfold identifierPart
  dsimp only
  apply Ranges.contains_eq_false
  case hlines =>
    repeat apply join_eq_append
    exact join_eq_nil
  case hclear => decide +kernel
  case hblank => exact hblank

/-- A point of a set that contains none of the wide blanks is no divider, unless it is ASCII. -/
theorem isDivider_of_contains {r : Ranges} (hr : ∀ blank ∈ wideBlanks, r.contains blank = false)
    {point : Nat} (hwide : 128 ≤ point) (hpoint : r.contains point = true) :
    isDivider point = false := by
  rw [Bool.eq_false_iff]
  intro hdivider
  rw [hr point (mem_wideBlanks hdivider hwide)] at hpoint
  cases hpoint

theorem isDivider_of_isIdentifierStart {point : Nat} (hpoint : isIdentifierStart point = true) :
    isDivider point = false := by
  rw [isIdentifierStart] at hpoint
  split at hpoint
  · simp only [decide_eq_true_eq] at hpoint
    simp only [isDivider, isBlank, decide_eq_true_eq, decide_eq_false_iff_not]
    omega
  · exact isDivider_of_contains (fun _ => not_contains_identifierStart) (by omega) hpoint

theorem isDivider_of_isIdentifierPart {point : Nat} (hpoint : isIdentifierPart point = true) :
    isDivider point = false := by
  rw [isIdentifierPart] at hpoint
  split at hpoint
  · simp only [decide_eq_true_eq] at hpoint
    simp only [isDivider, isBlank, decide_eq_true_eq, decide_eq_false_iff_not]
    omega
  · exact isDivider_of_contains (fun _ => not_contains_identifierPart) (by omega) hpoint

/-- An identifier holds no divider. -/
theorem clear_of_isIdentifier {cs : List Char} (hcs : isIdentifier cs = true) :
    Clear (cs.map Char.toNat) := by
  cases cs with
  | nil => cases hcs
  | cons c rest =>
      rw [isIdentifier, Bool.and_eq_true, List.all_eq_true] at hcs
      rw [List.map_cons, clear_cons]
      refine ⟨isDivider_of_isIdentifierStart hcs.1, fun point hpoint => ?_⟩
      obtain ⟨d, hd, rfl⟩ := List.mem_map.mp hpoint
      exact isDivider_of_isIdentifierPart (hcs.2 d hd)

end CallChain.Text
