import CallChain.Proofs.Identifiers
import CallChain.Python.Lexer
import Mathlib.Data.List.TakeWhile

/-!
# What the lexer adds

Reading a lexeme moves the lexer forward and may add tokens.  `Grows` says once what can happen on
the way: the lexer moves without a token, or adds one that begins where it stands; behind the end of
a line it is on a later line, and names are spelled as names are.  What the steps of the lexer keep,
and so what holds of all tokens, follows from these two cases.
-/

namespace CallChain.Python

theorem Place.line_le_after (place : Place) (cs : List Char) : place.line ≤ (place.after cs).line := by
  induction cs generalizing place with
  | nil => exact Nat.le_refl _
  | cons c rest ih =>
      rw [Place.after, List.foldl_cons]
      refine Nat.le_trans ?_ (ih _)
      split
      · exact Nat.le_succ _
      · exact Nat.le_refl _

/-- How names are spelled: in ASCII as they are written, and otherwise in the one spelling of an
identifier. -/
inductive IsName : String → Prop
  | ascii {cs : List Char} (hne : cs ≠ []) (hword : ∀ c ∈ cs, isWordChar c = true)
      (hascii : ∀ c ∈ cs, c.toNat < 128) : IsName (String.ofList cs)
  | wide {cs : List Char} (hidentifier : Text.isIdentifier cs = true) :
      IsName (String.ofList (Text.compatible cs))

theorem IsName.ne_empty {id : String} (hname : IsName id) : id ≠ "" := by
  cases hname with
  | ascii hne => exact mt String.ofList_eq_empty_iff.mp hne
  | @wide cs hidentifier =>
      refine mt String.ofList_eq_empty_iff.mp (Text.compatible_ne_nil ?_)
      rintro rfl
      cases hidentifier

namespace Lexer

/-- The lexer has moved forward, adding tokens where it stood. -/
inductive Grows : Lexer → Lexer → Prop
  | forward {lx lx' : Lexer} (htokens : lx'.tokens = lx.tokens)
      (hle : lx.place.line ≤ lx'.place.line) : Grows lx lx'
  | emit {lx : Lexer} {kind : TokenKind} {stop : Place} (rest : List Char)
      (hle : lx.place.line ≤ stop.line) (hnewline : kind = .newline → lx.place.line < stop.line)
      (hname : ∀ id, kind = .name id → IsName id) : Grows lx (lx.emit kind stop rest)
  | trans {lx lx' lx'' : Lexer} (hfirst : Grows lx lx') (hsecond : Grows lx' lx'') : Grows lx lx''

theorem Grows.refl (lx : Lexer) : Grows lx lx := .forward rfl (Nat.le_refl _)

theorem Grows.emit_after (lx : Lexer) {kind : TokenKind} (cs rest : List Char) (hkind : kind ≠ .newline)
    (hname : ∀ id, kind = .name id → IsName id) :
    Grows lx (lx.emit kind (lx.place.after cs) rest) :=
  .emit rest (lx.place.line_le_after cs) (fun hnewline => absurd hnewline hkind) hname

theorem Grows.mark (lx : Lexer) (kind : TokenKind) (hkind : kind ≠ .newline)
    (hname : ∀ id, kind = .name id → IsName id) : Grows lx (lx.mark kind) :=
  .emit lx.rest (Nat.le_refl _) (fun hnewline => absurd hnewline hkind) hname

/-! ## Lines and blocks -/

theorem measureMargin_line_le {cs : List Char} {m : Margin} {held : Option Nat} {p : Place}
    {margin : Margin} {rest : List Char} {place : Place}
    (hmeasure : measureMargin cs m held p = some (margin, rest, place)) : p.line ≤ place.line := by
  fun_induction measureMargin cs m held p with
  | case1 rest m held p ih => exact Nat.le_trans (p.line_le_after _) (ih hmeasure)
  | case2 rest m held p ih => exact Nat.le_trans (p.line_le_after _) (ih hmeasure)
  | case3 m rest held p ih => exact Nat.le_trans (p.line_le_after _) (ih hmeasure)
  | case4 m held p rest => cases hmeasure
  | case5 rest m held p hmore ih => exact Nat.le_trans (p.line_le_after _) (ih hmeasure)
  | case6 => cases hmeasure
  | case7 =>
      cases hmeasure
      exact Nat.le_refl _

theorem grows_closeBlocks {margin : Margin} {margins : List Margin} {lx lx' : Lexer}
    (hclose : Lexer.closeBlocks margin margins lx = some lx') : Grows lx lx' := by
  fun_induction Lexer.closeBlocks margin margins lx with
  | case1 => cases hclose
  | case2 top outer lx hwide ih =>
      refine (Grows.mark lx .dedent nofun nofun).trans (Grows.trans ?_ (ih hclose))
      exact .forward rfl (Nat.le_refl _)
  | case3 =>
      cases hclose
      exact .refl _
  | case4 => cases hclose

theorem grows_layout {lx lx' : Lexer} {margin : Margin} (hlayout : lx.layout margin = some lx') :
    Grows lx lx' := by
  unfold Lexer.layout at hlayout
  split at hlayout
  · cases hlayout
  split at hlayout
  · split at hlayout
    · cases hlayout
      exact .refl _
    · cases hlayout
  split at hlayout
  · split at hlayout
    · cases hlayout
      exact (Grows.mark lx .indent nofun nofun).trans (.forward rfl (Nat.le_refl _))
    · cases hlayout
  · exact grows_closeBlocks hlayout

theorem grows_startLine {lx lx' : Lexer} (hstart : lx.startLine = some lx') : Grows lx lx' := by
  obtain ⟨⟨margin, rest, place⟩, hmeasure, hrest⟩ := Option.bind_eq_some_iff.mp hstart
  have hline : ∀ blank, (if blank || !lx.brackets.isEmpty then some { lx with rest, place, blank }
      else ({ lx with rest, place, blank } : Lexer).layout margin) = some lx' → Grows lx lx' := by
    intro blank hnext
    have hforward : Grows lx { lx with rest, place, blank } :=
      .forward rfl (measureMargin_line_le hmeasure)
    split at hnext
    · cases hnext
      exact hforward
    · exact hforward.trans (grows_layout hnext)
  exact hline _ hrest

/-! ## Lexemes -/

theorem grows_textLiteral {lx lx' : Lexer} {letters quoted : List Char}
    (htext : lx.textLiteral letters quoted = some lx') : Grows lx lx' := by
  unfold Lexer.textLiteral at htext
  split at htext
  · obtain ⟨⟨body, after⟩, -, hemit⟩ := Option.bind_eq_some_iff.mp htext
    cases hemit
    refine .emit _ ?_ nofun nofun
    exact Nat.le_trans (Place.line_le_after ..)
      (Nat.le_trans (Place.line_le_after ..) (Place.line_le_after ..))
  · cases htext

theorem grows_word {lx lx' : Lexer} {c : Char} {rest : List Char} (hrest : lx.rest = c :: rest)
    (hc : isWordChar c = true) (hword : lx.word = some lx') : Grows lx lx' := by
  unfold Lexer.word at hword
  extract_lets cs after spelled opensText at hword
  have hne : cs ≠ [] := by
    unfold cs
    rw [hrest, List.takeWhile_cons_of_pos hc]
    exact List.cons_ne_nil _ _
  split at hword
  · exact grows_textLiteral hword
  split at hword
  · cases hword
    exact .emit_after lx cs _ nofun nofun
  split at hword
  · rename_i hascii
    cases hword
    refine .emit_after lx cs _ nofun ?_
    rintro _ ⟨⟩
    refine .ascii hne (fun c hc => List.mem_takeWhile_imp hc) fun c hc => ?_
    simpa using List.all_eq_true.mp hascii c hc
  split at hword
  · rename_i hidentifier
    cases hword
    refine .emit_after lx cs _ nofun ?_
    rintro _ ⟨⟩
    exact .wide hidentifier
  · cases hword

theorem grows_operator {lx lx' : Lexer} (hoperator : lx.operator = some lx') : Grows lx lx' := by
  obtain ⟨spelled, -, hrest⟩ := Option.bind_eq_some_iff.mp hoperator
  have hemit : Grows lx (lx.emit (.op spelled) (lx.place.after spelled.toList)
      (lx.rest.drop spelled.toList.length)) :=
    .emit_after lx _ _ nofun nofun
  dsimp only at hrest
  repeat' split at hrest
  all_goals cases hrest
  all_goals exact hemit.trans (.forward rfl (Nat.le_refl _))

theorem grows_step {lx lx' : Lexer} (hstep : lx.step = some lx') : Grows lx lx' := by
  unfold Lexer.step at hstep
  split at hstep
  · cases hstep
    exact .refl _
  rename_i c rest hrest
  split at hstep
  · cases hstep
    exact .forward rfl (Place.line_le_after ..)
  split at hstep
  · cases hstep
    exact .forward rfl (Place.line_le_after ..)
  split at hstep
  · -- only here a line ends, and the token that says so is followed by a later line
    refine Grows.trans ?_ (grows_startLine hstep)
    split
    · exact .forward rfl (Place.line_le_after ..)
    · exact .emit _ (Place.line_le_after ..) (fun _ => Nat.lt_succ_self _) nofun
  split at hstep
  · split at hstep
    · split at hstep
      · cases hstep
      · cases hstep
        exact .forward rfl (Place.line_le_after ..)
    · cases hstep
  split at hstep
  · obtain ⟨⟨value, after⟩, -, hemit⟩ := Option.bind_eq_some_iff.mp hstep
    cases hemit
    exact .emit_after lx _ _ nofun nofun
  split at hstep
  · exact grows_textLiteral hstep
  split at hstep
  · rename_i hword
    exact grows_word hrest hword hstep
  · exact grows_operator hstep

theorem grows_run {fuel : Nat} {lx lx' : Lexer} (hrun : Lexer.run fuel lx = some lx') :
    Grows lx lx' := by
  induction fuel generalizing lx with
  | zero =>
      cases hrun
      exact .refl _
  | succ fuel ih =>
      rw [Lexer.run] at hrun
      split at hrun
      · cases hrun
        exact .refl _
      · obtain ⟨next, hstep, hrest⟩ := Option.bind_eq_some_iff.mp hrun
        exact (grows_step hstep).trans (ih hrest)

theorem grows_finish (lx : Lexer) : ∃ lx', Grows lx lx' ∧ lx'.tokens = lx.finish := by
  have hclosed : ∀ (margins : List Margin) (lx : Lexer),
      Grows lx (margins.foldl (fun l _ => l.mark .dedent) lx) := by
    intro margins
    induction margins with
    | nil => exact fun lx => .refl lx
    | cons margin rest ih => exact fun lx => (Grows.mark lx .dedent nofun nofun).trans (ih _)
  exact ⟨_, (hclosed _ lx).trans (.mark _ .endOfSource nofun nofun), rfl⟩

end Lexer

/-- The tokens of a source are what the lexer adds, beginning with none. -/
theorem exists_grows_of_tokenize {place : Place} {source : List Char} {tokens : Array Token}
    (htokens : tokenize place source = some tokens) :
    ∃ lx lx' : Lexer, lx.tokens = #[] ∧ lx.Grows lx' ∧ lx'.tokens = tokens := by
  obtain ⟨started, hstart, hrest⟩ := Option.bind_eq_some_iff.mp htokens
  obtain ⟨lx, hrun, hfinish⟩ := Option.bind_eq_some_iff.mp hrest
  cases hfinish
  obtain ⟨last, hlast, heq⟩ := lx.grows_finish
  exact ⟨_, last, rfl, ((Lexer.grows_startLine hstart).trans (Lexer.grows_run hrun)).trans hlast, heq⟩

/-! ## Name tokens -/

/-- One of the tokens is this name. -/
def Spelled (tokens : Array Token) (id : String) : Prop := ∃ token ∈ tokens, token.kind = .name id

/-- If all name tokens are names, those that the lexer adds are names as well. -/
theorem Lexer.Grows.isName {lx lx' : Lexer} (hgrows : lx.Grows lx')
    (hnames : ∀ id, Spelled lx.tokens id → IsName id) : ∀ id, Spelled lx'.tokens id → IsName id := by
  induction hgrows with
  | forward htokens => rwa [htokens]
  | emit rest hle hnewline hname =>
      rintro id ⟨token, htoken, hkind⟩
      rcases Array.mem_push.mp htoken with hearlier | rfl
      · exact hnames id ⟨token, hearlier, hkind⟩
      · exact hname id hkind
  | trans hfirst hsecond ihFirst ihSecond => exact ihSecond (ihFirst hnames)

theorem isName_of_spelled {place : Place} {source : List Char} {tokens : Array Token}
    (htokens : tokenize place source = some tokens) {id : String} (hid : Spelled tokens id) :
    IsName id := by
  obtain ⟨lx, lx', hempty, hgrows, rfl⟩ := exists_grows_of_tokenize htokens
  refine hgrows.isName (fun id hid => ?_) id hid
  obtain ⟨token, htoken, -⟩ := hid
  simp [hempty] at htoken

theorem not_spelled_empty {place : Place} {source : List Char} {tokens : Array Token}
    (htokens : tokenize place source = some tokens) : ¬ Spelled tokens "" :=
  fun hempty => (isName_of_spelled htokens hempty).ne_empty rfl

end CallChain.Python
