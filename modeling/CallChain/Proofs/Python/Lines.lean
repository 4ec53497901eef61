import CallChain.Proofs.Python.Lexing
import CallChain.Proofs.Python.Statements

/-!
# Tokens come in the order of their lines

The lexer never goes back, and behind the end of a line it is on a later line.  So no two functions
of a parsed source begin on the same line, and in document order their lines increase.
-/

namespace CallChain.Python

/-! ## The lexer goes forward -/

/-- The token begins on the line or before it, and if it ends a line then before it. -/
def Token.Precedes (t : Token) (line : Nat) : Prop :=
  t.span.line ≤ line ∧ (t.kind = .newline → t.span.line < line)

theorem Token.Precedes.mono {t : Token} {line line' : Nat} (ht : t.Precedes line)
    (hle : line ≤ line') : t.Precedes line' :=
  ⟨Nat.le_trans ht.1 hle, fun hkind => Nat.lt_of_lt_of_le (ht.2 hkind) hle⟩

/-- Of two tokens the earlier one precedes the line of the other. -/
def Ordered (tokens : Array Token) : Prop :=
  tokens.toList.Pairwise fun s t => s.Precedes t.span.line

namespace Lexer

/-- The tokens found are in order, and all of them precede the line reached. -/
structure Orderly (lx : Lexer) : Prop where
  ordered : Ordered lx.tokens
  passed : ∀ t ∈ lx.tokens.toList, t.Precedes lx.place.line

/-- Going forward without a token changes nothing. -/
theorem Orderly.forward {lx lx' : Lexer} (hlx : lx.Orderly) (htokens : lx'.tokens = lx.tokens)
    (hle : lx.place.line ≤ lx'.place.line) : lx'.Orderly where
  ordered := htokens ▸ hlx.ordered
  passed t ht := (hlx.passed t (htokens ▸ ht)).mono hle

theorem Orderly.emit {lx : Lexer} {kind : TokenKind} {stop : Place} (rest : List Char)
    (hlx : lx.Orderly) (hle : lx.place.line ≤ stop.line)
    (hnewline : kind = .newline → lx.place.line < stop.line) : (lx.emit kind stop rest).Orderly := by
  constructor
  · rw [Ordered, Lexer.emit, Array.toList_push, List.pairwise_append]
    refine ⟨hlx.ordered, List.pairwise_singleton .., ?_⟩
    intro s hs t ht
    cases List.mem_singleton.mp ht
    exact hlx.passed s hs
  · intro t ht
    rw [Lexer.emit, Array.toList_push, List.mem_append, List.mem_singleton] at ht
    rcases ht with hearlier | rfl
    · exact (hlx.passed t hearlier).mono hle
    · exact ⟨hle, hnewline⟩

theorem Orderly.grows {lx lx' : Lexer} (hlx : lx.Orderly) (hgrows : lx.Grows lx') : lx'.Orderly := by
  induction hgrows with
  | forward htokens hle => exact hlx.forward htokens hle
  | emit rest hle hnewline _ => exact hlx.emit rest hle hnewline
  | trans _ _ ihfirst ihsecond => exact ihsecond (ihfirst hlx)

end Lexer

theorem ordered_of_tokenize {place : Place} {source : List Char} {tokens : Array Token}
    (htokens : tokenize place source = some tokens) : Ordered tokens := by
  obtain ⟨lx, lx', hnone, hgrows, rfl⟩ := exists_grows_of_tokenize htokens
  have hstart : lx.Orderly := ⟨by simp [Ordered, hnone], by simp [hnone]⟩
  exact (hstart.grows hgrows).ordered

/-! ## Functions in the order of their lines -/

theorem Ordered.precedes {tokens : Array Token} (hordered : Ordered tokens) {i j : Nat} (hlt : i < j)
    {s t : Token} (hs : tokens[i]? = some s) (ht : tokens[j]? = some t) : s.Precedes t.span.line := by
  obtain ⟨hi, rfl⟩ := Array.getElem?_eq_some_iff.mp hs
  obtain ⟨hj, rfl⟩ := Array.getElem?_eq_some_iff.mp ht
  exact List.pairwise_iff_getElem.mp hordered i j hi hj hlt

/-- A token that begins before the end of a line is on an earlier line than one behind it. -/
theorem Ordered.lineAt_lt {tokens : Array Token} (hordered : Ordered tokens) {start stop later : Nat}
    (hle : start ≤ stop) (hends : EndsLine tokens stop) (hlt : stop < later)
    (hlater : later < tokens.size) : lineAt tokens start < lineAt tokens later := by
  obtain ⟨t, ht, hkind⟩ := Option.map_eq_some_iff.mp hends
  have hstop : stop < tokens.size := (Array.getElem?_eq_some_iff.mp ht).1
  have hstartLine : lineAt tokens start ≤ t.span.line := by
    rcases Nat.eq_or_lt_of_le hle with rfl | hbefore
    · simp [lineAt, ht]
    · have hs := Array.getElem?_eq_getElem (Nat.lt_trans hbefore hstop)
      simpa [lineAt, hs] using (hordered.precedes hbefore hs ht).1
  have hlaterLine : t.span.line < lineAt tokens later := by
    have hl := Array.getElem?_eq_getElem hlater
    simpa [lineAt, hl] using (hordered.precedes hlt ht hl).2 hkind
  exact Nat.lt_of_le_of_lt hstartLine hlaterLine

theorem Laid.pairwise_lt {tokens : Array Token} (hordered : Ordered tokens) {lines : List Nat}
    {position : Nat} (hlaid : Laid tokens lines position) :
    lines.Pairwise (· < ·) ∧
      ∀ later, position ≤ later → later < tokens.size → ∀ line ∈ lines, line < lineAt tokens later := by
  induction hlaid with
  | nil => simp
  | @snoc lines start stop position hlines hle hends hlt ih =>
      -- the end of line at `stop` divides the last function from all that is read later
      have hstop : stop < tokens.size := by
        obtain ⟨t, ht, -⟩ := Option.map_eq_some_iff.mp hends
        exact (Array.getElem?_eq_some_iff.mp ht).1
      have hearlier := ih.2 start (Nat.le_refl _) (Nat.lt_of_le_of_lt hle hstop)
      refine ⟨List.pairwise_append.mpr ⟨ih.1, List.pairwise_singleton .., ?_⟩, ?_⟩
      · intro line hline _ hlast
        rw [List.mem_singleton.mp hlast]
        exact hearlier line hline
      · intro later hposition hlater line hline
        have hlast := hordered.lineAt_lt hle hends (Nat.lt_of_lt_of_le hlt hposition) hlater
        rcases List.mem_append.mp hline with hmem | hmem
        · exact Nat.lt_trans (hearlier line hmem) hlast
        · rw [List.mem_singleton.mp hmem]
          exact hlast

/-- The functions of a parsed source begin on different lines, in the order of the document. -/
theorem pairwise_definitionLines {source : String} {tree : Node} (htree : parse? source = some tree) :
    tree.definitionLines.Pairwise (· < ·) := by
  obtain ⟨tokens, statements, stop, htokens, hrun, rfl⟩ := exists_run_of_parse? htree
  have hlaid : Laid tokens (Node.linesOf statements) stop :=
    leads_wholeSource (grammar_statements _) (not_spelled_empty htokens) 0 statements stop .nil hrun
  have hlines : (Node.moduleBody statements).definitionLines = Node.linesOf statements := by
    simp [Node.definitionLines_eq (.moduleBody _), Node.ownLine, Node.children, Node.flatMap_parts]
  rw [hlines]
  exact (hlaid.pairwise_lt (ordered_of_tokenize htokens)).1

end CallChain.Python
