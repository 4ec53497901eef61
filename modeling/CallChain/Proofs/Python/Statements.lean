import CallChain.Proofs.Python.Patterns
import CallChain.Python.Parser

/-!
# Functions begin on lines of their own

Between the first token of a function and the first token of the next one there is the end of a
line: a function has a block, and a block is either the rest of a line or begins behind one.
`Laid` records this for the functions read so far.  The rules for statements are gone through from
top to bottom as those for expressions are, with a `Trail` that says what lies behind.
-/

namespace CallChain.Python

open Node (AllPlain linesOf definitionLines)

/-- The line on which the token at a position begins. -/
def lineAt (tokens : Array Token) (position : Nat) : Nat :=
  ((tokens[position]?.map Token.span).getD default).line

/-- The token at a position ends a line. -/
def EndsLine (tokens : Array Token) (position : Nat) : Prop :=
  tokens[position]?.map Token.kind = some .newline

/-- Lines on which tokens before a position begin, with an end of line behind each of them. -/
inductive Laid (tokens : Array Token) : List Nat → Nat → Prop
  | nil {position : Nat} : Laid tokens [] position
  | snoc {lines : List Nat} {start stop position : Nat} (hlines : Laid tokens lines start)
      (hle : start ≤ stop) (hends : EndsLine tokens stop) (hlt : stop < position) :
      Laid tokens (lines ++ [lineAt tokens start]) position

theorem Laid.mono {tokens : Array Token} {lines : List Nat} {i j : Nat} (hlaid : Laid tokens lines i)
    (hle : i ≤ j) : Laid tokens lines j := by
  cases hlaid with
  | nil => exact .nil
  | snoc hlines hbefore hends hlt => exact .snoc hlines hbefore hends (Nat.lt_of_lt_of_le hlt hle)

/-! ## Trails -/

/-- What is known at a position about what lies behind it; it stays true further on. -/
structure Trail where
  holds : Nat → Prop
  mono : ∀ {i j : Nat}, i ≤ j → holds i → holds j

/-- Functions have been read that begin on these lines. -/
def laid (tokens : Array Token) (lines : List Nat) : Trail where
  holds := Laid tokens lines
  mono hle hlaid := hlaid.mono hle

/-- After these functions the first token of another one has been passed. -/
def headed (tokens : Array Token) (lines : List Nat) (start : Nat) : Trail where
  holds i := Laid tokens lines start ∧ start ≤ i
  mono hle hheaded := ⟨hheaded.1, Nat.le_trans hheaded.2 hle⟩

namespace Reader

variable {α β : Type} {P : α → Prop} {tokens : Array Token} {pre : Trail}

/-- From where `pre` holds the reader leads to where `post` holds of what it gives, if no name among
the tokens is empty. -/
def Leads (tokens : Array Token) (pre : Trail) (r : Reader α) (post : α → Trail) : Prop :=
  ¬ Spelled tokens "" → ∀ i a j, pre.holds i → (r.run tokens).run i = some (a, j) → (post a).holds j

theorem Leads.bind {r : Reader α} {f : α → Reader β} {mid : α → Trail} {post : β → Trail}
    (hr : Leads tokens pre r mid) (hf : ∀ a, Leads tokens (mid a) (f a) post) :
    Leads tokens pre (r >>= f) post := by
  intro hnames i b j hpre hrun
  obtain ⟨a, middle, hfirst, hrest⟩ := run_bind_eq_some_iff.mp hrun
  exact hf a hnames middle b j (hr hnames i a middle hpre hfirst) hrest

/-- What a reader passes over leaves what lies behind as it is. -/
theorem Gives.leads {r : Reader α} {f : α → Reader β} {post : β → Trail} (hr : r.Gives P)
    (hf : ∀ a, P a → Leads tokens pre (f a) post) : Leads tokens pre (r >>= f) post := by
  intro hnames i b j hpre hrun
  obtain ⟨a, middle, hfirst, hrest⟩ := run_bind_eq_some_iff.mp hrun
  obtain ⟨hle, ha⟩ := hr tokens hnames i a middle hfirst
  exact hf a ha hnames middle b j (pre.mono hle hpre) hrest

theorem Advances.leads {r : Reader α} {f : α → Reader β} {post : β → Trail} (hr : r.Advances)
    (hf : ∀ a, Leads tokens pre (f a) post) : Leads tokens pre (r >>= f) post :=
  Gives.leads hr fun a _ => hf a

theorem Leads.pure {a : α} {post : α → Trail} (hpost : pre = post a) :
    Leads tokens pre (Pure.pure a) post := by
  intro _ i b j hpre hrun
  cases hrun
  exact hpost ▸ hpre

theorem Leads.failure {post : α → Trail} : Leads tokens pre Alternative.failure post := by
  intro _ i a j _ hrun
  cases hrun

theorem Leads.ite {c : Prop} [Decidable c] {r s : Reader α} {post : α → Trail}
    (hr : Leads tokens pre r post) (hs : Leads tokens pre s post) :
    Leads tokens pre (if c then r else s) post := by
  split
  · exact hr
  · exact hs

theorem Leads.unless {c : Prop} [Decidable c] {f : PUnit → Reader α} {post : α → Trail}
    (hf : Leads tokens pre (f ()) post) :
    Leads tokens pre (if c then Alternative.failure >>= f else f ()) post :=
  .ite (Gives.leads (P := fun _ => False) .failure fun _ hfalse => hfalse.elim) hf

theorem Leads.iterate {I : α → Trail} {a : α} {step : α → Reader (Option α)}
    (hstep : ∀ a, Leads tokens (I a) (step a) fun next => I (next.getD a)) :
    Leads tokens (I a) (Reader.iterate a step) I := by
  have hloop : ∀ fuel a, Leads tokens (I a) (Reader.loop step fuel a) I := by
    intro fuel
    induction fuel with
    | zero => intro a; exact .pure rfl
    | succ fuel ih =>
        intro a
        refine (hstep a).bind fun next => ?_
        cases next with
        | none => exact .pure rfl
        | some b => exact ih b
  intro hnames i b j hinv hrun
  exact hloop _ a hnames i b j hinv hrun

end Reader

open Reader

variable {g : Grammar} {tokens : Array Token} {lines : List Nat}

/-! ## Simple statements -/

/-- The reader gives a simple statement. -/
def Reader.GivesSimple (r : Reader Node) : Prop := r.Gives Node.Simple

theorem gives_assignedValue (hg : g.Expressions) :
    (assignedValue g).Gives fun value => AllPlain value.toList := by
  refine (advances_takeOp _).bind fun given => .ite ?_ (.pure (by simp))
  exact (gives_yieldOrExpressions hg).map fun value hvalue => by simpa using hvalue

theorem gives_assignment (hg : g.Expressions) {first : Node} (hfirst : first.Plain) :
    (assignment g first).GivesSimple := by
  refine (Gives.iterate (P := fun state : List Node × Node × Bool =>
    AllPlain state.1 ∧ state.2.1.Plain) ⟨by simp, hfirst⟩ ?_).bind ?_
  · rintro ⟨targets, value, more⟩ ⟨htargets, hvalue⟩
    refine (advances_takeOp _).bind fun assigned => .ite ?_ (.pure (by simp))
    dsimp only
    split
    · rename_i target htarget
      refine (gives_yieldOrExpressions hg).bind fun next hnext => .pure ?_
      rintro _ ⟨⟩
      exact ⟨Node.allPlain_cons.mpr ⟨plain_of_asTarget? hvalue htarget, htargets⟩, hnext⟩
    · exact .failure_bind
  · rintro ⟨targets, value, more⟩ ⟨htargets, hvalue⟩
    exact .pure ⟨rfl, rfl, by simp [Node.children, htargets, hvalue]⟩

theorem gives_expressionStatement (hg : g.Expressions) : (expressionStatement g).GivesSimple := by
  refine advances_peek.bind fun next => .ite ?_ ?_
  · refine (gives_yieldExpression hg).bind fun value hvalue => .pure ?_
    exact ⟨rfl, rfl, by simpa [Node.children] using hvalue⟩
  refine (gives_starExpressions hg).bind fun value hvalue => advances_peek.bind fun next => ?_
  refine .ite (gives_assignment hg hvalue) (.ite ?_ ?_)
  · split
    · rename_i target htarget
      have htarget := plain_of_asSingleTarget? hvalue htarget
      refine advances_skip.bind fun _ => (gives_expression hg).bind fun hint hhint => ?_
      refine (gives_assignedValue hg).bind fun assigned hassigned => .pure ?_
      exact ⟨rfl, rfl, by simp [Node.children, htarget, hhint, hassigned]⟩
    · exact .failure
  split
  · split
    · rename_i target htarget
      have htarget := plain_of_asSingleTarget? hvalue htarget
      refine advances_skip.bind fun _ => (gives_yieldOrExpressions hg).bind fun right hright => .pure ?_
      exact ⟨rfl, rfl, by simp [Node.children, htarget, hright]⟩
    · exact .failure
  · exact .pure ⟨rfl, rfl, by simpa [Node.children] using hvalue⟩

theorem advances_modulePath : modulePath.Advances := by
  refine advances_takeName.bind fun first => .iterate trivial fun path _ => ?_
  refine (advances_takeOp _).bind fun more => .ite ?_ (.pure (by simp))
  exact advances_takeName.bind fun name => .pure (by simp)

theorem advances_asName : asName.Advances :=
  (advances_takeKeyword _).bind fun _ =>
    .ite (advances_takeName.map fun _ _ => trivial) (.pure trivial)

theorem gives_importStatement : importStatement.GivesSimple := by
  have hitem : (do
      let name ← modulePath
      return ⟨name, ← asName⟩ : Reader Alias).Advances :=
    advances_modulePath.bind fun _ => advances_asName.bind fun _ => .pure trivial
  refine (advances_expectKeyword _).bind fun _ => hitem.commaSeparated.bind ?_
  rintro ⟨names, trailing⟩ -
  exact .unless (.pure (.leaf rfl rfl rfl))

theorem gives_importFromStatement : importFromStatement.GivesSimple := by
  have hlevel : importLevel.Advances := by
    refine .iterate trivial fun level _ => ?_
    refine (advances_takeOp _).bind fun dot => .ite (.pure (by simp)) ?_
    exact (advances_takeOp _).bind fun dots => .ite (.pure (by simp)) (.pure (by simp))
  have hitem : (do
      let name ← takeName
      return ⟨name, ← asName⟩ : Reader Alias).Advances :=
    advances_takeName.bind fun _ => advances_asName.bind fun _ => .pure trivial
  have hsource : (some <$> modulePath).Advances := advances_modulePath.map fun _ _ => trivial
  have hnode : ∀ source names level,
      (Node.importFrom source names level).Simple := fun _ _ _ => .leaf rfl rfl rfl
  refine (advances_expectKeyword _).bind fun _ => hlevel.bind fun level => ?_
  -- the statement goes on in the same way whether or not a module is named behind the dots
  refine advances_peek.bind fun next => .ite_bind hsource (fun source _ => ?_)
    fun hrest => .ite .failure_bind (hrest none trivial)
  refine (advances_expectKeyword _).bind fun _ => (advances_takeOp _).bind fun star => ?_
  refine .ite (.pure (hnode ..)) ((advances_takeOp _).bind fun opened => .ite ?_ ?_)
  · refine hitem.commaSeparated.bind ?_
    rintro ⟨names, trailing⟩ -
    exact (advances_expectOp _).bind fun _ => .pure (hnode ..)
  · refine hitem.commaSeparated.bind ?_
    rintro ⟨names, trailing⟩ -
    exact .unless (.pure (hnode ..))

theorem advances_atStatementEnd : atStatementEnd.Advances := by
  refine advances_peek.bind fun next => ?_
  split
  · exact .pure trivial
  · exact .pure trivial

theorem advances_nameList : nameList.Advances := by
  refine advances_takeName.commaSeparated.bind ?_
  rintro ⟨names, trailing⟩ -
  exact .unless (.pure trivial)

theorem gives_deleteStatement (hg : g.Expressions) : (deleteStatement g).GivesSimple := by
  refine (advances_expectKeyword _).bind fun _ => (Gives.commaSeparated (P := Node.Plain) ?_).bind ?_
  · refine (gives_primary hg).bind fun value hvalue => ?_
    split
    · rename_i target htarget
      exact .pure (plain_of_asTarget? hvalue htarget)
    · exact .failure
  · rintro ⟨targets, trailing⟩ htargets
    have hplain : AllPlain targets := htargets
    exact .pure ⟨rfl, rfl, by simpa [Node.children] using hplain⟩

theorem gives_simpleStatement (hg : g.Expressions) : (simpleStatement g).GivesSimple := by
  refine advances_peek.bind fun next => ?_
  split
  · split
    · refine advances_skip.bind fun _ => advances_atStatementEnd.bind fun ended => .ite ?_ ?_
      · exact .pure (.leaf rfl rfl rfl)
      · refine (gives_starExpressions hg).bind fun value hvalue => .pure ?_
        exact ⟨rfl, rfl, by simpa [Node.children] using hvalue⟩
    · exact gives_importStatement
    · exact gives_importFromStatement
    · refine advances_skip.bind fun _ => advances_atStatementEnd.bind fun ended => .ite ?_ ?_
      · exact .pure (.leaf rfl rfl rfl)
      · refine (gives_expression hg).bind fun exception hexception => ?_
        refine (advances_takeKeyword _).bind fun chained => ?_
        refine .optional (gives_expression hg) fun cause hcause => .pure ?_
        have hcause : AllPlain cause.toList := Node.allPlain_toList.mpr hcause
        exact ⟨rfl, rfl, by simp [Node.children, hexception, hcause]⟩
    · exact advances_skip.bind fun _ => .pure (.leaf rfl rfl rfl)
    · exact advances_skip.bind fun _ => .pure (.leaf rfl rfl rfl)
    · exact advances_skip.bind fun _ => .pure (.leaf rfl rfl rfl)
    · exact gives_deleteStatement hg
    · refine advances_skip.bind fun _ => (gives_expression hg).bind fun test htest => ?_
      refine (advances_takeOp _).bind fun explained => ?_
      refine .optional (gives_expression hg) fun message hmessage => .pure ?_
      have hmessage : AllPlain message.toList := Node.allPlain_toList.mpr hmessage
      exact ⟨rfl, rfl, by simp [Node.children, htest, hmessage]⟩
    · exact advances_skip.bind fun _ => advances_nameList.bind fun names =>
        .pure (.leaf rfl rfl rfl)
    · exact advances_skip.bind fun _ => advances_nameList.bind fun names =>
        .pure (.leaf rfl rfl rfl)
    · exact gives_expressionStatement hg
  · exact gives_expressionStatement hg

/-- At the end of a line whatever function was begun before it is complete. -/
theorem leads_takeNewline {pre : Trail}
    (hline : ∀ stop, pre.holds stop → EndsLine tokens stop → Laid tokens lines (stop + 1)) :
    Leads tokens pre takeNewline fun _ => laid tokens lines := by
  intro _ i a j hpre hrun
  obtain ⟨next, middle, hpeek, hrest⟩ := run_bind_eq_some_iff.mp hrun
  cases hpeek
  split at hrest
  · rename_i hends
    cases hrest
    exact hline i hpre hends
  · cases hrest

/-- Functions have been read that begin on these lines, and after them a line of statements. -/
def lined (tokens : Array Token) (lines : List Nat) (body : List Node) : Trail where
  holds i := Laid tokens lines i ∧ ∀ node ∈ body, node.Simple
  mono hle hlined := ⟨hlined.1.mono hle, hlined.2⟩

theorem leads_lined (hg : g.Expressions) {pre : Trail}
    (hline : ∀ stop, pre.holds stop → EndsLine tokens stop → Laid tokens lines (stop + 1)) :
    Leads tokens pre (simpleStatements g) (lined tokens lines) := by
  refine (gives_simpleStatement hg).leads fun first hfirst => ?_
  refine (Gives.iterate (P := fun state : List Node × Bool =>
    ∀ node ∈ state.1, node.Simple) (by simpa using hfirst) ?_).leads ?_
  · rintro ⟨statements, more⟩ hstatements
    refine .ite (.pure (by simp)) ((advances_takeOp _).bind fun semicolon => .ite ?_ (.pure (by simp)))
    refine advances_peek.bind fun next => ?_
    split
    · exact .pure (by simpa using hstatements)
    · refine (gives_simpleStatement hg).bind fun next hnext => .pure ?_
      rintro _ ⟨⟩
      exact List.forall_mem_cons.mpr ⟨hnext, hstatements⟩
  · rintro ⟨statements, more⟩ hstatements
    refine (leads_takeNewline hline).bind fun _ => ?_
    intro _ i body j hlaid hrun
    cases hrun
    exact ⟨hlaid, by simpa using hstatements⟩

/-- A line of simple statements, behind which the lines read are those known there. -/
theorem leads_simpleStatements (hg : g.Expressions) {pre : Trail}
    (hline : ∀ stop, pre.holds stop → EndsLine tokens stop → Laid tokens lines (stop + 1)) :
    Leads tokens pre (simpleStatements g) fun body => laid tokens (lines ++ linesOf body) := by
  intro hnames i body j hpre hrun
  obtain ⟨hlaid, hsimple⟩ := leads_lined hg hline hnames i body j hpre hrun
  have hsilent : linesOf body = [] := by
    rw [linesOf, List.flatMap_eq_nil_iff]
    exact fun node hnode => (hsimple node hnode).definitionLines_eq_nil
  change Laid tokens (lines ++ linesOf body) j
  rwa [hsilent, List.append_nil]

/-! ## Blocks -/

/-- The rules for statements that a grammar offers lay out the functions they read. -/
structure Grammar.Statements (g : Grammar) : Prop extends Grammar.Expressions g where
  statement : ∀ tokens lines,
    Leads tokens (laid tokens lines) g.statement fun body => laid tokens (lines ++ linesOf body)

theorem leads_block (hg : g.Statements) {pre : Trail}
    (hline : ∀ stop, pre.holds stop → EndsLine tokens stop → Laid tokens lines (stop + 1)) :
    Leads tokens pre (block g) fun body => laid tokens (lines ++ linesOf body) := by
  intro hnames i body j hpre hrun
  obtain ⟨next, middle, hpeek, hrest⟩ := run_bind_eq_some_iff.mp hrun
  cases hpeek
  -- an indented block begins behind the end of a line, and any other is the rest of the line
  split at hrest
  · rename_i hends
    obtain ⟨_, middle, hskip, hrest⟩ := run_bind_eq_some_iff.mp hrest
    cases hskip
    have hafter : Laid tokens lines (i + 1) := hline i hpre hends
    refine (?_ : Leads tokens (laid tokens lines) _ fun body => laid tokens (lines ++ linesOf body))
      hnames (i + 1) body j hafter hrest
    refine advances_peek.leads fun next => ?_
    split
    · refine advances_skip.leads fun _ => (hg.statement tokens lines).bind fun first => ?_
      refine (Leads.iterate (I := fun body => laid tokens (lines ++ linesOf body)) ?_).bind
        fun statements => advances_skip.leads fun _ => .pure rfl
      intro statements
      refine advances_peek.leads fun next => ?_
      split
      · exact .pure rfl
      · exact (hg.statement tokens _).bind fun more => .pure (by simp)
    · exact .failure
  · exact leads_simpleStatements hg.toExpressions hline hnames i body j hpre hrest

/-- A colon and a block, behind which the lines read are those known behind the header. -/
theorem leads_suite (hg : g.Statements) {pre : Trail}
    (hline : ∀ stop, pre.holds stop → EndsLine tokens stop → Laid tokens lines (stop + 1)) :
    Leads tokens pre (suite g) fun body => laid tokens (lines ++ linesOf body) :=
  (advances_expectOp _).leads fun _ => leads_block hg hline

/-- Outside of the header of a function the end of a line changes nothing. -/
theorem laid_of_endsLine (stop : Nat) (hlaid : (laid tokens lines).holds stop)
    (_ : EndsLine tokens stop) : Laid tokens lines (stop + 1) :=
  hlaid.mono (Nat.le_succ stop)

/-- The end of a line behind the header of a function completes it. -/
theorem laid_of_headed {start : Nat} (stop : Nat) (hheaded : (headed tokens lines start).holds stop)
    (hends : EndsLine tokens stop) : Laid tokens (lines ++ [lineAt tokens start]) (stop + 1) :=
  .snoc hheaded.1 hheaded.2 hends (Nat.lt_succ_self stop)

theorem leads_optionalSuite (hg : g.Statements) (word : String) :
    Leads tokens (laid tokens lines) (optionalSuite g word)
      fun body => laid tokens (lines ++ linesOf body) := by
  refine (advances_takeKeyword _).leads fun given => .ite (leads_suite hg laid_of_endsLine) ?_
  exact .pure (by simp)

/-! ## Compound statements -/

/-- The reader lays out the functions of the node that it gives. -/
def Reader.LaysOut (r : Reader Node) : Prop :=
  ∀ tokens lines, Leads tokens (laid tokens lines) r
    fun node => laid tokens (lines ++ node.definitionLines)

/-- The lines of the branches of a conditional, of which the last comes first. -/
def branchLines (branches : List (Node × List Node)) : List Nat :=
  branches.reverse.flatMap fun branch => branch.1.definitionLines ++ linesOf branch.2

theorem branchLines_cons (branch : Node × List Node) (branches : List (Node × List Node)) :
    branchLines (branch :: branches) =
      branchLines branches ++ (branch.1.definitionLines ++ linesOf branch.2) := by
  simp [branchLines]

theorem definitionLines_ifElse (test : Node) (body orElse : List Node) :
    (Node.ifElse test body orElse).definitionLines =
      test.definitionLines ++ linesOf body ++ linesOf orElse := by
  simp [Node.definitionLines_eq (.ifElse ..), Node.ownLine, Node.children, Node.flatMap_parts]

theorem definitionLines_branches (earlier : List (Node × List Node)) (last : Node) :
    (earlier.foldl (fun inner branch => Node.ifElse branch.1 branch.2 [inner]) last).definitionLines =
      branchLines earlier ++ last.definitionLines := by
  induction earlier generalizing last with
  | nil => rfl
  | cons branch rest ih =>
      rw [List.foldl_cons, ih, branchLines_cons, definitionLines_ifElse]
      simp [linesOf]

theorem laysOut_ifStatement (hg : g.Statements) : (ifStatement g).LaysOut := by
  intro tokens lines
  refine (advances_expectKeyword _).leads fun _ => ?_
  refine (gives_namedExpression hg.toExpressions).leads fun test htest => ?_
  refine (leads_suite hg laid_of_endsLine).bind fun body => ?_
  -- the invariant of the repetition takes the first branch for one of the branches read
  have hstart : laid tokens (lines ++ linesOf body) =
      laid tokens (lines ++ branchLines [(test, body)]) := by
    simp [branchLines, htest.definitionLines_eq_nil]
  rw [hstart]
  refine (Leads.iterate (I := fun branches => laid tokens (lines ++ branchLines branches)) ?_).bind
    fun branches => (leads_optionalSuite hg _).bind fun orElse => ?_
  · intro branches
    refine (advances_takeKeyword _).leads fun more => .ite ?_ (.pure rfl)
    refine (gives_namedExpression hg.toExpressions).leads fun test htest => ?_
    refine (leads_suite hg laid_of_endsLine).bind fun body => .pure ?_
    simp [branchLines_cons, htest.definitionLines_eq_nil]
  · split
    · exact .failure
    · refine .pure ?_
      rw [definitionLines_branches, branchLines_cons, definitionLines_ifElse]
      simp

theorem laysOut_whileStatement (hg : g.Statements) : (whileStatement g).LaysOut := by
  intro tokens lines
  refine (advances_expectKeyword _).leads fun _ => ?_
  refine (gives_namedExpression hg.toExpressions).leads fun test htest => ?_
  refine (leads_suite hg laid_of_endsLine).bind fun body => ?_
  refine (leads_optionalSuite hg _).bind fun orElse => .pure ?_
  simp [Node.definitionLines_eq (.whileLoop ..), Node.ownLine, Node.children, Node.flatMap_parts,
    htest.definitionLines_eq_nil]

theorem laysOut_forStatement (hg : g.Statements) (isAsync : Bool) :
    (forStatement g isAsync).LaysOut := by
  intro tokens lines
  refine (advances_expectKeyword _).leads fun _ => ?_
  refine (gives_starTargets hg.toExpressions).leads fun target htarget => ?_
  refine (advances_expectKeyword _).leads fun _ => ?_
  refine (gives_starExpressions hg.toExpressions).leads fun iter hiter => ?_
  refine (leads_suite hg laid_of_endsLine).bind fun body => ?_
  refine (leads_optionalSuite hg _).bind fun orElse => .pure ?_
  simp [Node.definitionLines_eq (.forLoop ..), Node.ownLine, Node.children, Node.flatMap_parts,
    htarget.definitionLines_eq_nil, hiter.definitionLines_eq_nil]

theorem gives_withItem (hg : g.Expressions) : (withItem g).Gives Node.Plain := by
  refine (gives_expression hg).bind fun context hcontext => ?_
  refine (advances_takeKeyword _).bind fun named => .ite ?_ (.pure (.of rfl ?_))
  · refine (gives_starTarget hg).bind fun target htarget => advances_peek.bind fun next => ?_
    exact .ite (.pure (.of rfl (by simp [Node.children, hcontext, htarget]))) .failure_bind
  · simpa [Node.children] using hcontext

theorem gives_withHeader (hg : g.Expressions) : (withHeader g).Gives AllPlain := by
  refine .orElse ?_ ?_
  · refine (advances_expectOp _).bind fun _ => (gives_withItem hg).commaSeparated.bind ?_
    rintro ⟨items, trailing⟩ hitems
    exact (advances_expectOp _).bind fun _ => (advances_expectOp _).bind fun _ => .pure hitems
  · refine (gives_withItem hg).commaSeparated.bind ?_
    rintro ⟨items, trailing⟩ hitems
    exact .unless ((advances_expectOp _).bind fun _ => .pure hitems)

theorem laysOut_withStatement (hg : g.Statements) (isAsync : Bool) :
    (withStatement g isAsync).LaysOut := by
  intro tokens lines
  refine (advances_expectKeyword _).leads fun _ => ?_
  refine (gives_withHeader hg.toExpressions).leads fun items hitems => ?_
  refine (leads_block hg laid_of_endsLine).bind fun body => .pure ?_
  simp [Node.definitionLines_eq (.withBlock ..), Node.ownLine, Node.children, Node.flatMap_parts,
    hitems.linesOf_eq_nil]

theorem definitionLines_exceptHandler {type : Option Node} (name : Option String) (body : List Node)
    (htype : AllPlain type.toList) :
    (Node.exceptHandler type name body).definitionLines = linesOf body := by
  simp [Node.definitionLines_eq (.exceptHandler ..), Node.ownLine, Node.children, Node.flatMap_parts,
    htype.linesOf_eq_nil]

theorem laysOut_exceptHandler (hg : g.Statements) (starred : Bool) :
    (exceptHandler g starred).LaysOut := by
  intro tokens lines
  have hrest : Leads tokens (laid tokens lines) (do
      if !starred && isOp ":" (← peek) then return .exceptHandler none none (← suite g)
      let type ← expression g
      let name ← asName
      return .exceptHandler (some type) name (← suite g) : Reader Node)
        fun node => laid tokens (lines ++ node.definitionLines) := by
    refine advances_peek.leads fun next => .ite ?_ ?_
    · refine (leads_suite hg laid_of_endsLine).bind fun body => .pure ?_
      rw [definitionLines_exceptHandler _ _ (by simp)]
    · refine (gives_expression hg.toExpressions).leads fun type htype => ?_
      refine advances_asName.leads fun name => ?_
      refine (leads_suite hg laid_of_endsLine).bind fun body => .pure ?_
      rw [definitionLines_exceptHandler _ _ (by simpa using htype)]
  refine (advances_expectKeyword _).leads fun _ => .ite ?_ hrest
  exact (advances_expectOp _).leads fun _ => hrest

theorem laysOut_tryStatement (hg : g.Statements) : (tryStatement g).LaysOut := by
  intro tokens lines
  refine (advances_expectKeyword _).leads fun _ => ?_
  refine (leads_suite hg laid_of_endsLine).bind fun body => advances_peekSecond.leads fun second => ?_
  have hstart : laid tokens (lines ++ linesOf body) =
      laid tokens (lines ++ linesOf body ++ linesOf ([] : List Node).reverse) := by
    simp
  rw [hstart]
  refine (Leads.iterate (I := fun handlers : List Node =>
    laid tokens (lines ++ linesOf body ++ linesOf handlers.reverse)) ?_).bind fun handlers => ?_
  · intro handlers
    refine advances_peek.leads fun next => .ite ?_ (.pure rfl)
    refine (laysOut_exceptHandler hg _ tokens _).bind fun handler => .pure ?_
    simp [linesOf]
  have hrest : ∀ orElse, Leads tokens
      (laid tokens (lines ++ linesOf body ++ linesOf handlers.reverse ++ linesOf orElse)) (do
        let closing ← optionalSuite g "finally"
        if handlers.isEmpty && closing.isEmpty then failure
        return .tryExcept (isOp "*" second && !handlers.isEmpty) body handlers.reverse orElse closing :
          Reader Node)
          fun node => laid tokens (lines ++ node.definitionLines) := by
    intro orElse
    refine (leads_optionalSuite hg _).bind fun closing => .unless (.pure ?_)
    simp [Node.definitionLines_eq (.tryExcept ..), Node.ownLine, Node.children, Node.flatMap_parts]
  refine .ite ?_ ((leads_optionalSuite hg _).bind hrest)
  simpa using hrest []

theorem gives_matchSubject (hg : g.Expressions) : (matchSubject g).Gives Node.Plain := by
  have hitem : (do
      if ← takeOp "*" then return .starred (← g.bitwiseOr)
      namedExpression g : Reader Node).Gives Node.Plain := by
    refine (advances_takeOp _).bind fun starred => .ite ?_ (gives_namedExpression hg)
    exact hg.bitwiseOr.bind fun value hvalue => .pure (plain_starred hvalue)
  refine hitem.commaSeparated.bind ?_
  rintro ⟨items, trailing⟩ hitems
  have hplain : AllPlain items := hitems
  dsimp only
  split
  · exact .ite .failure (.pure (by simpa using hplain))
  · exact .pure (plain_tuple hplain)

theorem gives_matchHeader (hg : g.Expressions) : (matchHeader g).Gives Node.Plain := by
  refine advances_takeName.bind fun word => .unless ?_
  refine (gives_matchSubject hg).bind fun subject hsubject => (advances_expectOp _).bind fun _ => ?_
  refine advances_takeNewline.bind fun _ => advances_peek.bind fun next => ?_
  split
  · exact advances_skip.bind fun _ => .pure hsubject
  · exact .failure

theorem laysOut_caseBlock (hg : g.Statements) : (caseBlock g).LaysOut := by
  intro tokens lines
  refine advances_takeName.leads fun word => .unless ?_
  refine (gives_casePatterns hg.toExpressions).leads fun pattern hpattern => ?_
  have hrest : ∀ guard : Option Node, AllPlain guard.toList → Leads tokens (laid tokens lines) (do
      return .matchCase pattern guard (← suite g) : Reader Node)
        fun node => laid tokens (lines ++ node.definitionLines) := by
    intro guard hguard
    refine (leads_suite hg laid_of_endsLine).bind fun body => .pure ?_
    simp [Node.definitionLines_eq (.matchCase ..), Node.ownLine, Node.children, Node.flatMap_parts,
      hpattern.definitionLines_eq_nil, hguard.linesOf_eq_nil]
  refine (advances_takeKeyword _).leads fun guarded => .ite ?_ (hrest none (by simp))
  exact ((gives_namedExpression hg.toExpressions).map fun value hvalue => by simpa using hvalue).leads
    hrest

theorem leads_matchCases (hg : g.Statements) :
    Leads tokens (laid tokens lines) (matchCases g) fun cases => laid tokens (lines ++ linesOf cases) := by
  refine (laysOut_caseBlock hg tokens lines).bind fun first => ?_
  have hstart : laid tokens (lines ++ first.definitionLines) =
      laid tokens (lines ++ linesOf [first].reverse) := by
    simp [linesOf]
  rw [hstart]
  refine (Leads.iterate (I := fun cases : List Node =>
    laid tokens (lines ++ linesOf cases.reverse)) ?_).bind
      fun cases => advances_skip.leads fun _ => .pure rfl
  intro cases
  refine advances_peek.leads fun next => ?_
  split
  · exact .pure rfl
  · exact (laysOut_caseBlock hg tokens _).bind fun more => .pure (by simp [linesOf])

/-! ## Definitions -/

theorem leads_position :
    Leads tokens (laid tokens lines) position fun start => headed tokens lines start := by
  intro _ i a j hlaid hrun
  cases hrun
  exact ⟨hlaid, Nat.le_refl i⟩

theorem spanFrom_line {start i j : Nat} {span : Span}
    (hrun : ((spanFrom start).run tokens).run i = some (span, j)) :
    span.line = lineAt tokens start ∧ j = i := by
  cases hrun
  exact ⟨rfl, rfl⟩

theorem definitionLines_functionDef (isAsync : Bool) (span : Span) (name : String) {params : Node}
    (body : List Node) {decorators : List Node} {returns : Option Node} (hparams : params.Plain)
    (hdecorators : AllPlain decorators) (hreturns : AllPlain returns.toList) :
    (Node.functionDef isAsync span name params body decorators returns).definitionLines =
      span.line :: linesOf body := by
  simp [Node.definitionLines_eq (.functionDef ..), Node.ownLine, Node.children, Node.flatMap_parts,
    Node.flatMap_role, hparams.definitionLines_eq_nil, hdecorators.linesOf_eq_nil,
    hreturns.linesOf_eq_nil]

theorem laysOut_functionStatement (hg : g.Statements) {decorators : List Node}
    (hdecorators : AllPlain decorators) : (functionStatement g decorators).LaysOut := by
  intro tokens lines
  refine leads_position.bind fun start => (advances_takeKeyword _).leads fun isAsync => ?_
  refine (advances_expectKeyword _).leads fun _ => advances_takeName.leads fun name => ?_
  refine (advances_expectOp _).leads fun _ => ?_
  refine (gives_parameterList hg.toExpressions true ")").leads fun params hparams => ?_
  refine (advances_expectOp _).leads fun _ => (advances_takeOp _).leads fun hinted => ?_
  have hrest : ∀ returns : Option Node, AllPlain returns.toList →
      Leads tokens (headed tokens lines start) (do
        let body ← suite g
        return .functionDef isAsync (← spanFrom start) name params body decorators returns :
          Reader Node)
        fun node => laid tokens (lines ++ node.definitionLines) := by
    intro returns hreturns
    refine (leads_suite hg laid_of_headed).bind fun body => ?_
    -- the span is asked for behind the block, but its line is that of the first token
    intro _ i node j hlaid hrun
    obtain ⟨span, middle, hspan, hnode⟩ := run_bind_eq_some_iff.mp hrun
    obtain ⟨hline, rfl⟩ := spanFrom_line hspan
    cases hnode
    have hlines := definitionLines_functionDef isAsync span name body hparams hdecorators hreturns
    rw [hline] at hlines
    simpa [hlines] using hlaid
  refine .ite ?_ (hrest none (by simp))
  exact ((gives_expression hg.toExpressions).map fun value hvalue => by simpa using hvalue).leads hrest

theorem laysOut_classStatement (hg : g.Statements) {decorators : List Node}
    (hdecorators : AllPlain decorators) : (classStatement g decorators).LaysOut := by
  intro tokens lines
  refine (advances_expectKeyword _).leads fun _ => advances_takeName.leads fun name => ?_
  refine advances_peek.leads fun next => ?_
  have hrest : ∀ l : ArgumentList, l.Plain → Leads tokens (laid tokens lines) (do
      let body ← suite g
      return .classDef name l.args l.keywords body decorators : Reader Node)
        fun node => laid tokens (lines ++ node.definitionLines) := by
    intro l hl
    refine (leads_suite hg laid_of_endsLine).bind fun body => .pure ?_
    simp [Node.definitionLines_eq (.classDef ..), Node.ownLine, Node.children, Node.flatMap_parts,
      hl.args.linesOf_eq_nil, hl.keywords.linesOf_eq_nil, hdecorators.linesOf_eq_nil]
  exact .ite ((gives_arguments hg.toExpressions).leads hrest) (hrest {} ArgumentList.plain_empty)

theorem gives_decorator (hg : g.Expressions) :
    (do
      expectOp "@"
      let value ← namedExpression g
      takeNewline
      return value : Reader Node).Gives Node.Plain := by
  refine (advances_expectOp _).bind fun _ => ?_
  refine (gives_namedExpression hg).bind fun value hvalue => ?_
  exact advances_takeNewline.bind fun _ => .pure hvalue

theorem laysOut_decorated (hg : g.Statements) : (decorated g).LaysOut := by
  intro tokens lines
  refine (gives_decorator hg.toExpressions).many1.leads fun decorators hdecorators =>
    advances_peek.leads fun next => ?_
  exact .ite (laysOut_classStatement hg hdecorators tokens lines)
    (laysOut_functionStatement hg hdecorators tokens lines)

/-! ## The grammar -/

/-- One node for a list of nodes. -/
theorem Reader.LaysOut.single {r : Reader Node} (hr : r.LaysOut) :
    Leads tokens (laid tokens lines) (do return [← r]) fun body => laid tokens (lines ++ linesOf body) :=
  (hr tokens lines).bind fun _ => .pure (by simp [linesOf])

theorem leads_matchOrSimple (hg : g.Statements) :
    Leads tokens (laid tokens lines) (matchOrSimple g)
      fun body => laid tokens (lines ++ linesOf body) := by
  have hsimple : Leads tokens (laid tokens lines) (simpleStatements g) _ :=
    leads_simpleStatements hg.toExpressions laid_of_endsLine
  refine advances_peek.leads fun next => ?_
  split
  · refine (gives_matchHeader hg.toExpressions).attempt.leads fun subject hsubject => ?_
    split
    · rename_i subject
      refine (leads_matchCases hg).bind fun cases => .pure ?_
      have hplain : subject.Plain := hsubject subject rfl
      simp [linesOf, Node.definitionLines_eq (.matchOn ..), Node.ownLine, Node.children,
        Node.flatMap_parts, hplain.definitionLines_eq_nil]
    · exact hsimple
  · exact hsimple

theorem leads_statement (hg : g.Statements) :
    Leads tokens (laid tokens lines) (statement g) fun body => laid tokens (lines ++ linesOf body) := by
  have hsimple : Leads tokens (laid tokens lines) (simpleStatements g) _ :=
    leads_simpleStatements hg.toExpressions laid_of_endsLine
  have hfunction := laysOut_functionStatement hg Node.allPlain_nil
  refine advances_peek.leads fun next => ?_
  split
  · exact (laysOut_decorated hg).single
  · split
    · exact hfunction.single
    · exact (laysOut_classStatement hg Node.allPlain_nil).single
    · exact (laysOut_ifStatement hg).single
    · exact (laysOut_whileStatement hg).single
    · exact (laysOut_forStatement hg false).single
    · exact (laysOut_withStatement hg false).single
    · exact (laysOut_tryStatement hg).single
    · refine advances_peekSecond.leads fun second => .ite hfunction.single ?_
      refine advances_skip.leads fun _ => .ite (laysOut_forStatement hg true).single ?_
      exact (laysOut_withStatement hg true).single
    · exact hsimple
  · exact leads_matchOrSimple hg

theorem grammar_statements (depth : Nat) : (grammar depth).Statements := by
  induction depth with
  | zero =>
      constructor
      · constructor <;> exact .failure
      · exact fun _ _ => .failure
  | succ depth ih =>
      -- every rule calls back the grammar of one depth less
      have hexpressions := ih.toExpressions
      exact
        { primary := gives_primary hexpressions
          factor := gives_factor hexpressions
          bitwiseOr := gives_bitwiseOr hexpressions
          disjunction := gives_disjunction hexpressions
          expression := gives_expression hexpressions
          namedExpression := gives_namedExpression hexpressions
          starExpressions := gives_starExpressions hexpressions
          pattern := gives_pattern hexpressions
          statement := fun _ _ => leads_statement ih }

theorem leads_wholeSource (hg : g.Statements) :
    Leads tokens (laid tokens []) (wholeSource g) fun body => laid tokens (linesOf body) := by
  refine Leads.bind (r := iterate [] _) (Leads.iterate (a := []) (I := fun read : List (List Node) =>
    laid tokens (linesOf read.reverse.flatten)) fun read => ?_) fun read => .pure rfl
  refine advances_peek.leads fun next => ?_
  split
  · exact .pure rfl
  · exact (hg.statement tokens _).bind fun body => .pure (by simp)

/-- A tree is read from the tokens of its source, statement after statement. -/
theorem exists_run_of_parse? {source : String} {tree : Node} (htree : parse? source = some tree) :
    ∃ tokens statements stop, tokenize ⟨1, 0⟩ source.toList = some tokens ∧
      ((wholeSource (grammar (source.toList.length + 2))).run tokens).run 0 =
        some (statements, stop) ∧ tree = .moduleBody statements := by
  unfold parse? parse at htree
  extract_lets cs parsed at htree
  split at htree
  · cases htree
  cases hparsed : parsed with
  | none => simp [hparsed, Except.toOption] at htree
  | some node =>
      obtain rfl : node = tree := by simpa [hparsed, Except.toOption] using htree
      obtain ⟨tokens, htokens, hrest⟩ := Option.bind_eq_some_iff.mp hparsed
      obtain ⟨⟨statements, stop⟩, hrun, hnode⟩ := Option.bind_eq_some_iff.mp hrest
      cases hnode
      exact ⟨tokens, statements, stop, htokens, hrun, rfl⟩

end CallChain.Python
