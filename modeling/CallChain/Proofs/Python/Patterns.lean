import CallChain.Proofs.Python.Expressions
import CallChain.Python.Grammar.Patterns

/-!
# Patterns hold no statements

What stands behind `case` is plain like an expression, rule by rule.
-/

namespace CallChain.Python

open Reader

open Node (AllPlain)

variable {g : Grammar}

theorem gives_numberLiteral (imaginary : Bool) : (numberLiteral imaginary).Gives Node.Plain := by
  refine advances_peek.bind fun next => ?_
  split
  · exact .ite (advances_skip.bind fun _ => .pure (plain_literal _)) .failure
  · exact .failure

theorem gives_signedNumber : signedNumber.Gives Node.Plain := by
  refine (advances_takeOp _).bind fun negative => advances_peek.bind fun next => ?_
  refine (gives_numberLiteral _).bind fun size hsize => advances_peek.bind fun next => ?_
  have hvalue : (if negative then Node.unaryOp .minus size else size).Plain := by
    split
    · exact plain_unaryOp _ hsize
    · exact hsize
  refine .ite (.unless (advances_skip.bind fun _ => ?_)) (.pure hvalue)
  exact (gives_numberLiteral _).bind fun imaginary himaginary =>
    .pure (plain_binOp _ hvalue himaginary)

theorem gives_literalValue (hg : g.Expressions) : (literalValue g).Gives Node.Plain := by
  refine advances_peek.bind fun next => ?_
  split
  · exact gives_texts hg
  · exact gives_signedNumber

theorem gives_dottedName : dottedName.Gives fun result => result.1.Plain := by
  refine advances_position.bind fun start => gives_takeName.bind fun id hid => ?_
  refine (advances_spanFrom _).bind fun span => ?_
  refine .iterate (P := fun result : Node × Bool => result.1.Plain) (plain_name span _ hid) ?_
  rintro ⟨value, dotted⟩ hvalue
  refine (advances_takeOp _).bind fun more => .ite ?_ (.pure (by simp))
  refine advances_takeName.bind fun name => (advances_spanFrom _).bind fun span => .pure ?_
  simpa using plain_member _ _ _ hvalue

theorem advances_captureName : captureName.Advances :=
  advances_takeName.bind fun _ => advances_peek.bind fun _ => .unless (.pure trivial)

theorem plain_matchStar (name : Option String) : (Node.matchStar name).Plain :=
  .of rfl (by simp [Node.children])

theorem gives_starPattern : starPattern.Gives Node.Plain := by
  refine (advances_expectOp _).bind fun _ => advances_peek.bind fun next => ?_
  split
  · exact advances_skip.bind fun _ => .pure (plain_matchStar _)
  · exact advances_captureName.bind fun name => .pure (plain_matchStar _)

theorem gives_maybeStarPattern (hg : g.Expressions) : (maybeStarPattern g).Gives Node.Plain :=
  advances_peek.bind fun _ => .ite gives_starPattern hg.pattern

theorem plain_matchSequence {patterns : List Node} (hpatterns : AllPlain patterns) :
    (Node.matchSequence patterns).Plain :=
  .of rfl (by simpa [Node.children] using hpatterns)

theorem plain_matchValue {value : Node} (hvalue : value.Plain) : (Node.matchValue value).Plain :=
  .of rfl (by simpa [Node.children] using hvalue)

theorem plain_matchAs {inner : Option Node} (name : Option String) (hinner : AllPlain inner.toList) :
    (Node.matchAs inner name).Plain :=
  .of rfl (by simpa [Node.children] using hinner)

/-- The patterns of a class read so far are plain, the positional and the keyword ones. -/
structure PlainEntries (entries : List Node × List (String × Node)) : Prop where
  positional : AllPlain entries.1
  named : ∀ entry ∈ entries.2, entry.2.Plain

theorem gives_classPattern (hg : g.Expressions) {type : Node} (htype : type.Plain) :
    (classPattern g type).Gives Node.Plain := by
  unfold classPattern
  extract_lets entry
  have hentry : ∀ entries, PlainEntries entries → (entry entries).Gives PlainEntries := by
    intro entries hentries
    refine advances_peek.bind fun next => advances_peekSecond.bind fun second => ?_
    split
    · refine .unless (advances_skip.bind fun _ => advances_skip.bind fun _ => ?_)
      refine hg.pattern.bind fun value hvalue => .pure ⟨hentries.positional, ?_⟩
      exact List.forall_mem_append.mpr ⟨hentries.named, by simpa using hvalue⟩
    · refine .unless (hg.pattern.bind fun value hvalue => .pure ⟨?_, hentries.named⟩)
      simp [hentries.positional, hvalue]
  have hempty : PlainEntries ([], []) := ⟨by simp, by simp⟩
  refine (advances_expectOp _).bind fun _ => (advances_takeOp _).bind fun closed => ?_
  refine .ite (.pure (.of rfl (by simpa [Node.children] using htype))) ?_
  refine (hentry _ hempty).bind fun first hfirst => (gives_entries ")" hfirst hentry).bind ?_
  rintro ⟨all, more⟩ hall
  refine (advances_expectOp _).bind fun _ => .pure (.of rfl ?_)
  have hnamed : AllPlain (all.2.map Prod.snd) := allPlain_map hall.named fun _ hentry => hentry
  simp [Node.children, htype, hall.positional, hnamed]

theorem gives_mappingEntry (hg : g.Expressions) :
    (mappingEntry g).Gives fun entry => entry.1.Plain ∧ entry.2.Plain := by
  have hrest : ∀ key : Node, key.Plain → (do
      expectOp ":"
      return (key, ← g.pattern) : Reader (Node × Node)).Gives
        fun entry => entry.1.Plain ∧ entry.2.Plain := by
    intro key hkey
    refine (advances_expectOp _).bind fun _ => hg.pattern.bind fun value hvalue => ?_
    exact .pure ⟨hkey, hvalue⟩
  refine advances_peek.bind fun next => ?_
  split
  · refine gives_dottedName.bind ?_
    rintro ⟨value, dotted⟩ hvalue
    exact .ite (hrest value hvalue) .failure_bind
  · split
    · exact advances_skip.bind fun _ => hrest _ (plain_literal _)
    · exact (gives_literalValue hg).bind hrest

theorem gives_mappingPattern (hg : g.Expressions) : (mappingPattern g).Gives Node.Plain := by
  refine (advances_expectOp _).bind fun _ => ?_
  refine (Gives.iterate (P := fun state : List (Node × Node) × Option String × Bool =>
    ∀ entry ∈ state.1, entry.1.Plain ∧ entry.2.Plain) (by simp) ?_).bind ?_
  · rintro ⟨entries, rest, more⟩ hentries
    refine advances_peek.bind fun next => .ite (.pure (by simp)) ?_
    refine (advances_takeOp _).bind fun unpacked => .ite ?_ ?_
    · refine advances_captureName.bind fun name => (advances_takeOp _).bind fun comma => .pure ?_
      rintro _ ⟨⟩
      exact hentries
    · refine (gives_mappingEntry hg).bind fun entry hentry => (advances_takeOp _).bind fun comma => .pure ?_
      rintro _ ⟨⟩
      exact List.forall_mem_append.mpr ⟨hentries, by simpa using hentry⟩
  · rintro ⟨entries, rest, more⟩ hentries
    refine (advances_expectOp _).bind fun _ => .pure (.of rfl ?_)
    have hkeys : AllPlain (entries.map Prod.fst) := allPlain_map hentries fun _ hentry => hentry.1
    have hvalues : AllPlain (entries.map Prod.snd) := allPlain_map hentries fun _ hentry => hentry.2
    simp [Node.children, hkeys, hvalues]

theorem gives_patternsUntil (hg : g.Expressions) (stop : String) :
    (patternsUntil g stop).Gives fun result => AllPlain result.1 := by
  refine (advances_takeOp _).bind fun closed => .ite (.pure (by simp)) ?_
  refine (gives_maybeStarPattern hg).commaSeparated.bind ?_
  rintro ⟨patterns, trailing⟩ hpatterns
  exact (advances_expectOp _).bind fun _ => .pure hpatterns

theorem gives_closedPattern (hg : g.Expressions) : (closedPattern g).Gives Node.Plain := by
  refine advances_peek.bind fun next => ?_
  split
  · exact advances_skip.bind fun _ => .pure (.of rfl (by simp [Node.children]))
  split
  · exact gives_signedNumber.map fun _ => plain_matchValue
  · exact gives_signedNumber.map fun _ => plain_matchValue
  · exact (gives_texts hg).map fun _ => plain_matchValue
  · refine advances_skip.bind fun _ => (gives_patternsUntil hg _).bind ?_
    rintro ⟨patterns, comma⟩ hpatterns
    exact .pure (plain_matchSequence hpatterns)
  · refine advances_skip.bind fun _ => (gives_patternsUntil hg _).bind ?_
    rintro ⟨patterns, comma⟩ hpatterns
    dsimp only
    split
    · refine .ite (.pure (plain_matchSequence hpatterns)) (.unless (.pure ?_))
      simpa using hpatterns
    · exact .pure (plain_matchSequence hpatterns)
  · exact gives_mappingPattern hg
  · exact advances_skip.bind fun _ => .pure (plain_matchAs _ (by simp))
  · refine gives_dottedName.bind ?_
    rintro ⟨value, dotted⟩ hvalue
    refine advances_peek.bind fun next => ?_
    refine .ite (gives_classPattern hg hvalue) (.ite .failure (.ite ?_ ?_))
    · exact .pure (plain_matchValue hvalue)
    · exact .pure (plain_matchAs _ (by simp))
  · exact .failure

theorem gives_pattern (hg : g.Expressions) : (pattern g).Gives Node.Plain := by
  refine (gives_closedPattern hg).bind fun first hfirst => ?_
  refine (Gives.iterate (P := AllPlain) (by simp) fun others hothers => ?_).bind fun others hothers => ?_
  · refine (advances_takeOp _).bind fun more => .ite ?_ (.pure (by simp))
    exact (gives_closedPattern hg).bind fun next hnext => .pure (by simp [hnext, hothers])
  have hvalue : (if others.isEmpty then first else .matchOr (first :: others.reverse)).Plain := by
    split
    · exact hfirst
    · exact .of rfl (by simp [Node.children, hfirst, hothers])
  refine (advances_takeKeyword _).bind fun named => .ite ?_ (.pure hvalue)
  exact advances_captureName.bind fun name => .pure (plain_matchAs _ (by simpa using hvalue))

theorem gives_casePatterns (hg : g.Expressions) : (casePatterns g).Gives Node.Plain := by
  have hone : (do if isOp "*" (← peek) then starPattern else pattern g : Reader Node).Gives
      Node.Plain :=
    advances_peek.bind fun _ => .ite gives_starPattern (gives_pattern hg)
  refine hone.commaSeparated.bind ?_
  rintro ⟨patterns, trailing⟩ hpatterns
  dsimp only
  split
  · exact .ite .failure (.pure (by simpa using hpatterns))
  · exact .pure (plain_matchSequence hpatterns)

end CallChain.Python
