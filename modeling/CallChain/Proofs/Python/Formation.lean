import CallChain.Proofs.Python.Spots
import CallChain.Proofs.Python.Statements

/-!
# Statements stand in statements only

What is read from tokens is `Formed`: below an expression there is no statement, and what functions
and classes are called is spelled by a token.  The rules of the grammar are gone through once more,
now with the tokens fixed, since names come from them.
-/

namespace CallChain.Python

namespace Node

/-- Statements stand in statements only, and the names of functions and classes are accepted. -/
inductive Formed (accepts : String → Prop) : Node → Prop
  | plain {node : Node} (hplain : node.Plain) : Formed accepts node
  | statement {node : Node} (hkind : node.isStatement = true)
      (hname : ∀ id ∈ node.declaredName?, accepts id)
      (hbelow : ∀ child ∈ node.children, Formed accepts child.2) : Formed accepts node

/-- All the trees are formed. -/
def AllFormed (accepts : String → Prop) (nodes : List Node) : Prop :=
  ∀ node ∈ nodes, node.Formed accepts

section

variable {accepts : String → Prop}

@[simp] theorem allFormed_nil : AllFormed accepts [] := by simp [AllFormed]

@[simp] theorem allFormed_cons {node : Node} {nodes : List Node} :
    AllFormed accepts (node :: nodes) ↔ node.Formed accepts ∧ AllFormed accepts nodes := by
  simp [AllFormed]

@[simp] theorem allFormed_append {first second : List Node} :
    AllFormed accepts (first ++ second) ↔ AllFormed accepts first ∧ AllFormed accepts second :=
  List.forall_mem_append

@[simp] theorem allFormed_reverse {nodes : List Node} :
    AllFormed accepts nodes.reverse ↔ AllFormed accepts nodes := by
  simp [AllFormed]

theorem AllPlain.formed {nodes : List Node} (hplain : AllPlain nodes) : AllFormed accepts nodes :=
  fun node hnode => .plain (hplain node hnode)

theorem Simple.formed {node : Node} (hsimple : node.Simple) : node.Formed accepts := by
  refine .statement hsimple.kind (by simp [hsimple.silent]) fun child hchild => ?_
  exact .plain (hsimple.below child.2 (List.mem_map_of_mem hchild))

/-- A statement is formed if its name is accepted and what is right below it is formed. -/
theorem Formed.of {node : Node} (hkind : node.isStatement = true)
    (hname : ∀ id ∈ node.declaredName?, accepts id)
    (hbelow : AllFormed accepts (node.children.map Prod.snd)) : node.Formed accepts :=
  .statement hkind hname fun child hchild => hbelow child.2 (List.mem_map_of_mem hchild)

theorem Formed.child {node : Node} (hformed : node.Formed accepts) {child : Role × Node}
    (hchild : child ∈ node.children) : child.2.Formed accepts := by
  cases hformed with
  | plain hplain => exact .plain (hplain.children child.2 (List.mem_map_of_mem hchild))
  | statement _ _ hbelow => exact hbelow child hchild

/-- A node with a statement right below it is a statement. -/
theorem Formed.isStatement_of_child {node : Node} (hformed : node.Formed accepts)
    {child : Role × Node} (hchild : child ∈ node.children) (hkind : child.2.isStatement = true) :
    node.isStatement = true := by
  cases hformed with
  | plain hplain =>
      have hno := (hplain.children child.2 (List.mem_map_of_mem hchild)).isStatement_eq_false
      simp [hno] at hkind
  | statement hstatement _ _ => exact hstatement

/-- A tree is formed at each of its places. -/
theorem Formed.of_isIn {tree : Node} (hformed : tree.Formed accepts) {s : Spot} (hs : s.IsIn tree) :
    s.node.Formed accepts := by
  induction s with
  | root node =>
      obtain rfl : node = tree := hs
      exact hformed
  | child parent role index node ih => exact (ih hs.1).child (List.mem_of_getElem? hs.2)

end

end Node

namespace Reader

variable {α β : Type} {P : α → Prop} {Q : β → Prop} {tokens : Array Token}

/-- What the reader gives from these tokens satisfies `P`, if no name among them is empty. -/
def Produces (tokens : Array Token) (r : Reader α) (P : α → Prop) : Prop :=
  ¬ Spelled tokens "" → ∀ i a j, (r.run tokens).run i = some (a, j) → P a

theorem Produces.bind {r : Reader α} {f : α → Reader β} (hr : Produces tokens r P)
    (hf : ∀ a, P a → Produces tokens (f a) Q) : Produces tokens (r >>= f) Q := by
  intro hnames i b j hrun
  obtain ⟨a, middle, hfirst, hrest⟩ := run_bind_eq_some_iff.mp hrun
  exact hf a (hr hnames i a middle hfirst) hnames middle b j hrest

theorem Gives.produces {r : Reader α} {f : α → Reader β} (hr : r.Gives P)
    (hf : ∀ a, P a → Produces tokens (f a) Q) : Produces tokens (r >>= f) Q :=
  Produces.bind (fun hnames i a j hrun => (hr tokens hnames i a j hrun).2) hf

theorem Advances.produces {r : Reader α} {f : α → Reader β} (hr : r.Advances)
    (hf : ∀ a, Produces tokens (f a) Q) : Produces tokens (r >>= f) Q :=
  Gives.produces hr fun a _ => hf a

theorem Produces.pure {a : α} (ha : P a) : Produces tokens (Pure.pure a) P := by
  intro _ i b j hrun
  cases hrun
  exact ha

theorem Produces.failure : Produces tokens Alternative.failure P := by
  intro _ i a j hrun
  cases hrun

theorem Produces.ite {c : Prop} [Decidable c] {r s : Reader α} (hr : Produces tokens r P)
    (hs : Produces tokens s P) : Produces tokens (if c then r else s) P := by
  split
  · exact hr
  · exact hs

theorem Produces.unless {c : Prop} [Decidable c] {f : PUnit → Reader α} (hf : Produces tokens (f ()) P) :
    Produces tokens (if c then Alternative.failure >>= f else f ()) P :=
  .ite (Produces.bind (P := fun _ => False) .failure fun _ hfalse => hfalse.elim) hf

theorem Produces.iterate {a : α} {step : α → Reader (Option α)} (ha : P a)
    (hstep : ∀ a, P a → Produces tokens (step a) fun next => ∀ b ∈ next, P b) :
    Produces tokens (Reader.iterate a step) P := by
  have hloop : ∀ fuel a, P a → Produces tokens (Reader.loop step fuel a) P := by
    intro fuel
    induction fuel with
    | zero => exact fun a ha => .pure ha
    | succ fuel ih =>
        intro a ha
        refine (hstep a ha).bind fun next hnext => ?_
        cases next with
        | none => exact .pure ha
        | some b => exact ih b (hnext b rfl)
  intro hnames i b j hrun
  exact hloop _ a ha hnames i b j hrun

end Reader

open Reader

open Node (AllPlain AllFormed)

variable {g : Grammar} {tokens : Array Token}

theorem produces_takeName : Produces tokens takeName (Spelled tokens) := by
  intro _ i id j hrun
  obtain ⟨next, middle, hpeek, hrest⟩ := run_bind_eq_some_iff.mp hrun
  obtain ⟨rfl, rfl⟩ := Prod.mk.inj (Option.some.inj hpeek)
  split at hrest
  · rename_i text hnext
    obtain ⟨_, _, -, hpure⟩ := run_bind_eq_some_iff.mp hrest
    cases hpure
    obtain ⟨token, htoken, hkind⟩ := Option.map_eq_some_iff.mp hnext
    exact ⟨token, Array.mem_of_getElem? htoken, hkind⟩
  · cases hrest

/-! ## Blocks -/

/-- The rules that a grammar offers form what they read from these tokens. -/
structure Grammar.Forms (g : Grammar) (tokens : Array Token) : Prop extends
    Grammar.Expressions g where
  statement : Produces tokens g.statement (AllFormed (Spelled tokens))

/-- The reader forms the node that it gives. -/
def Reader.Forms (tokens : Array Token) (r : Reader Node) : Prop :=
  Produces tokens r (Node.Formed (Spelled tokens))

theorem produces_simpleStatements (hg : g.Expressions) :
    Produces tokens (simpleStatements g) (AllFormed (Spelled tokens)) := by
  intro hnames i body j hrun
  have hleads : Leads tokens (laid tokens []) (simpleStatements g) (lined tokens []) :=
    leads_lined hg fun _ _ _ => .nil
  exact fun node hnode => ((hleads hnames i body j .nil hrun).2 node hnode).formed

theorem produces_block (hg : g.Forms tokens) :
    Produces tokens (block g) (AllFormed (Spelled tokens)) := by
  refine advances_peek.produces fun next => ?_
  split
  · refine advances_skip.produces fun _ => advances_peek.produces fun next => ?_
    split
    · refine advances_skip.produces fun _ => hg.statement.bind fun first hfirst => ?_
      refine (Produces.iterate hfirst fun statements hstatements => ?_).bind
        fun statements hstatements => advances_skip.produces fun _ => .pure hstatements
      refine advances_peek.produces fun next => ?_
      split
      · exact .pure (by simp)
      · refine hg.statement.bind fun more hmore => .pure ?_
        rintro _ ⟨⟩
        exact Node.allFormed_append.mpr ⟨hstatements, hmore⟩
    · exact .failure
  · exact produces_simpleStatements hg.toExpressions

theorem produces_suite (hg : g.Forms tokens) :
    Produces tokens (suite g) (AllFormed (Spelled tokens)) :=
  (advances_expectOp _).produces fun _ => produces_block hg

theorem produces_optionalSuite (hg : g.Forms tokens) (word : String) :
    Produces tokens (optionalSuite g word) (AllFormed (Spelled tokens)) :=
  (advances_takeKeyword _).produces fun _ => .ite (produces_suite hg) (.pure (by simp))

/-! ## Compound statements -/

theorem formed_ifElse {test : Node} {body orElse : List Node} (htest : test.Plain)
    (hbody : AllFormed (Spelled tokens) body) (horElse : AllFormed (Spelled tokens) orElse) :
    (Node.ifElse test body orElse).Formed (Spelled tokens) :=
  .of rfl (by simp [Node.declaredName?]) (by simp [Node.children, Node.Formed.plain htest, *])

theorem formed_branches {earlier : List (Node × List Node)} {last : Node}
    (hearlier : ∀ branch ∈ earlier, branch.1.Plain ∧ AllFormed (Spelled tokens) branch.2)
    (hlast : last.Formed (Spelled tokens)) :
    (earlier.foldl (fun inner branch => Node.ifElse branch.1 branch.2 [inner]) last).Formed
      (Spelled tokens) := by
  induction earlier generalizing last with
  | nil => exact hlast
  | cons branch rest ih =>
      obtain ⟨⟨htest, hbody⟩, hrest⟩ := List.forall_mem_cons.mp hearlier
      exact ih hrest (formed_ifElse htest hbody (by simpa using hlast))

theorem forms_ifStatement (hg : g.Forms tokens) : Reader.Forms tokens (ifStatement g) := by
  have hexpressions := hg.toExpressions
  refine (advances_expectKeyword _).produces fun _ => ?_
  refine (gives_namedExpression hexpressions).produces fun test htest => ?_
  refine (produces_suite hg).bind fun body hbody => ?_
  refine (Produces.iterate (P := fun branches : List (Node × List Node) =>
    ∀ branch ∈ branches, branch.1.Plain ∧ AllFormed (Spelled tokens) branch.2) ?_ ?_).bind
      fun branches hbranches => (produces_optionalSuite hg _).bind fun orElse horElse => ?_
  · simpa using ⟨htest, hbody⟩
  · intro branches hbranches
    refine (advances_takeKeyword _).produces fun more => .ite ?_ (.pure (by simp))
    refine (gives_namedExpression hexpressions).produces fun test htest => ?_
    refine (produces_suite hg).bind fun body hbody => .pure ?_
    rintro _ ⟨⟩
    exact List.forall_mem_cons.mpr ⟨⟨htest, hbody⟩, hbranches⟩
  · split
    · exact .failure
    · obtain ⟨⟨htest, hbody⟩, hearlier⟩ := List.forall_mem_cons.mp hbranches
      exact .pure (formed_branches hearlier (formed_ifElse htest hbody horElse))

theorem forms_whileStatement (hg : g.Forms tokens) : Reader.Forms tokens (whileStatement g) := by
  refine (advances_expectKeyword _).produces fun _ => ?_
  refine (gives_namedExpression hg.toExpressions).produces fun test htest => ?_
  refine (produces_suite hg).bind fun body hbody => ?_
  refine (produces_optionalSuite hg _).bind fun orElse horElse => .pure ?_
  refine .of rfl (by simp [Node.declaredName?]) ?_
  simp [Node.children, Node.Formed.plain htest, hbody, horElse]

theorem forms_forStatement (hg : g.Forms tokens) (isAsync : Bool) :
    Reader.Forms tokens (forStatement g isAsync) := by
  refine (advances_expectKeyword _).produces fun _ => ?_
  refine (gives_starTargets hg.toExpressions).produces fun target htarget => ?_
  refine (advances_expectKeyword _).produces fun _ => ?_
  refine (gives_starExpressions hg.toExpressions).produces fun iter hiter => ?_
  refine (produces_suite hg).bind fun body hbody => ?_
  refine (produces_optionalSuite hg _).bind fun orElse horElse => .pure ?_
  refine .of rfl (by simp [Node.declaredName?]) ?_
  simp [Node.children, Node.Formed.plain htarget, Node.Formed.plain hiter, hbody, horElse]

theorem forms_withStatement (hg : g.Forms tokens) (isAsync : Bool) :
    Reader.Forms tokens (withStatement g isAsync) := by
  refine (advances_expectKeyword _).produces fun _ => ?_
  refine (gives_withHeader hg.toExpressions).produces fun items hitems => ?_
  refine (produces_block hg).bind fun body hbody => .pure ?_
  exact .of rfl (by simp [Node.declaredName?]) (by simp [Node.children, hitems.formed, hbody])

theorem forms_exceptHandler (hg : g.Forms tokens) (starred : Bool) :
    Reader.Forms tokens (exceptHandler g starred) := by
  have hhandler : ∀ {type : Option Node} {body : List Node} (name : Option String),
      AllPlain type.toList → AllFormed (Spelled tokens) body →
      (Node.exceptHandler type name body).Formed (Spelled tokens) := by
    intro type body name htype hbody
    exact .of rfl (by simp [Node.declaredName?]) (by simp [Node.children, htype.formed, hbody])
  have hrest : Reader.Forms tokens (do
      if !starred && isOp ":" (← peek) then return .exceptHandler none none (← suite g)
      let type ← expression g
      let name ← asName
      return .exceptHandler (some type) name (← suite g)) := by
    refine advances_peek.produces fun next => .ite ?_ ?_
    · exact (produces_suite hg).bind fun body hbody => .pure (hhandler none (by simp) hbody)
    · refine (gives_expression hg.toExpressions).produces fun type htype => ?_
      refine advances_asName.produces fun name => ?_
      exact (produces_suite hg).bind fun body hbody =>
        .pure (hhandler name (by simpa using htype) hbody)
  refine (advances_expectKeyword _).produces fun _ => .ite ?_ hrest
  exact (advances_expectOp _).produces fun _ => hrest

theorem forms_tryStatement (hg : g.Forms tokens) : Reader.Forms tokens (tryStatement g) := by
  refine (advances_expectKeyword _).produces fun _ => (produces_suite hg).bind fun body hbody => ?_
  refine advances_peekSecond.produces fun second => ?_
  refine (Produces.iterate (P := AllFormed (Spelled tokens)) (by simp) ?_).bind
    fun handlers hhandlers => ?_
  · intro handlers hhandlers
    refine advances_peek.produces fun next => .ite ?_ (.pure (by simp))
    refine (forms_exceptHandler hg _).bind fun handler hhandler => .pure ?_
    rintro _ ⟨⟩
    exact Node.allFormed_cons.mpr ⟨hhandler, hhandlers⟩
  have hrest : ∀ orElse, AllFormed (Spelled tokens) orElse → Reader.Forms tokens (do
      let closing ← optionalSuite g "finally"
      if handlers.isEmpty && closing.isEmpty then failure
      return .tryExcept (isOp "*" second && !handlers.isEmpty) body handlers.reverse orElse
        closing) := by
    intro orElse horElse
    refine (produces_optionalSuite hg _).bind fun closing hclosing => .unless (.pure ?_)
    refine .of rfl (by simp [Node.declaredName?]) ?_
    simp [Node.children, hbody, hhandlers, horElse, hclosing]
  exact .ite (hrest [] (by simp)) ((produces_optionalSuite hg _).bind hrest)

theorem forms_caseBlock (hg : g.Forms tokens) : Reader.Forms tokens (caseBlock g) := by
  refine advances_takeName.produces fun word => .unless ?_
  refine (gives_casePatterns hg.toExpressions).produces fun pattern hpattern => ?_
  have hrest : ∀ guard : Option Node, AllPlain guard.toList → Reader.Forms tokens (do
      return .matchCase pattern guard (← suite g)) := by
    intro guard hguard
    refine (produces_suite hg).bind fun body hbody => .pure ?_
    refine .of rfl (by simp [Node.declaredName?]) ?_
    simp [Node.children, Node.Formed.plain hpattern, hguard.formed, hbody]
  refine (advances_takeKeyword _).produces fun guarded => .ite ?_ (hrest none (by simp))
  exact ((gives_namedExpression hg.toExpressions).map fun value hvalue => by simpa using hvalue).produces
    hrest

theorem produces_matchCases (hg : g.Forms tokens) :
    Produces tokens (matchCases g) (AllFormed (Spelled tokens)) := by
  refine (forms_caseBlock hg).bind fun first hfirst => ?_
  refine (Produces.iterate (P := AllFormed (Spelled tokens)) (by simpa using hfirst) ?_).bind
    fun cases hcases => advances_skip.produces fun _ => .pure (by simpa using hcases)
  intro cases hcases
  refine advances_peek.produces fun next => ?_
  split
  · exact .pure (by simp)
  · refine (forms_caseBlock hg).bind fun more hmore => .pure ?_
    rintro _ ⟨⟩
    exact Node.allFormed_cons.mpr ⟨hmore, hcases⟩

/-! ## Definitions -/

theorem forms_functionStatement (hg : g.Forms tokens) {decorators : List Node}
    (hdecorators : AllPlain decorators) : Reader.Forms tokens (functionStatement g decorators) := by
  refine advances_position.produces fun start => (advances_takeKeyword _).produces fun isAsync => ?_
  refine (advances_expectKeyword _).produces fun _ => produces_takeName.bind fun name hname => ?_
  refine (advances_expectOp _).produces fun _ => ?_
  refine (gives_parameterList hg.toExpressions true ")").produces fun params hparams => ?_
  refine (advances_expectOp _).produces fun _ => (advances_takeOp _).produces fun hinted => ?_
  have hrest : ∀ returns : Option Node, AllPlain returns.toList → Reader.Forms tokens (do
      let body ← suite g
      return .functionDef isAsync (← spanFrom start) name params body decorators returns) := by
    intro returns hreturns
    refine (produces_suite hg).bind fun body hbody => (advances_spanFrom _).produces fun span => .pure ?_
    refine .of rfl (by simpa [Node.declaredName?] using hname) ?_
    simp [Node.children, Node.Formed.plain hparams, hbody, hdecorators.formed, hreturns.formed,
      Function.comp_def]
  refine .ite ?_ (hrest none (by simp))
  exact ((gives_expression hg.toExpressions).map fun value hvalue => by simpa using hvalue).produces hrest

theorem forms_classStatement (hg : g.Forms tokens) {decorators : List Node}
    (hdecorators : AllPlain decorators) : Reader.Forms tokens (classStatement g decorators) := by
  refine (advances_expectKeyword _).produces fun _ => produces_takeName.bind fun name hname => ?_
  refine advances_peek.produces fun next => ?_
  have hrest : ∀ l : ArgumentList, l.Plain → Reader.Forms tokens (do
      let body ← suite g
      return .classDef name l.args l.keywords body decorators) := by
    intro l hl
    refine (produces_suite hg).bind fun body hbody => .pure ?_
    refine .of rfl (by simpa [Node.declaredName?] using hname) ?_
    simp [Node.children, hl.args.formed, hl.keywords.formed, hbody, hdecorators.formed]
  exact .ite ((gives_arguments hg.toExpressions).produces hrest) (hrest {} ArgumentList.plain_empty)

theorem forms_decorated (hg : g.Forms tokens) : Reader.Forms tokens (decorated g) := by
  refine (gives_decorator hg.toExpressions).many1.produces fun decorators hdecorators =>
    advances_peek.produces fun next => ?_
  exact .ite (forms_classStatement hg hdecorators) (forms_functionStatement hg hdecorators)

/-! ## The grammar -/

/-- One node for a list of nodes. -/
theorem Reader.Forms.single {r : Reader Node} (hr : Reader.Forms tokens r) :
    Produces tokens (do return [← r]) (AllFormed (Spelled tokens)) :=
  hr.bind fun _ hnode => .pure (by simpa using hnode)

theorem produces_matchOrSimple (hg : g.Forms tokens) :
    Produces tokens (matchOrSimple g) (AllFormed (Spelled tokens)) := by
  have hsimple : Produces tokens (simpleStatements g) (AllFormed (Spelled tokens)) :=
    produces_simpleStatements hg.toExpressions
  refine advances_peek.produces fun next => ?_
  split
  · refine (gives_matchHeader hg.toExpressions).attempt.produces fun subject hsubject => ?_
    split
    · rename_i subject
      refine (produces_matchCases hg).bind fun cases hcases => .pure ?_
      have hplain : subject.Plain := hsubject subject rfl
      refine Node.allFormed_cons.mpr ⟨.of rfl (by simp [Node.declaredName?]) ?_, by simp⟩
      simp [Node.children, Node.Formed.plain hplain, hcases]
    · exact hsimple
  · exact hsimple

theorem produces_statement (hg : g.Forms tokens) :
    Produces tokens (statement g) (AllFormed (Spelled tokens)) := by
  have hsimple : Produces tokens (simpleStatements g) (AllFormed (Spelled tokens)) :=
    produces_simpleStatements hg.toExpressions
  have hfunction := forms_functionStatement hg Node.allPlain_nil
  refine advances_peek.produces fun next => ?_
  split
  · exact (forms_decorated hg).single
  · split
    · exact hfunction.single
    · exact (forms_classStatement hg Node.allPlain_nil).single
    · exact (forms_ifStatement hg).single
    · exact (forms_whileStatement hg).single
    · exact (forms_forStatement hg false).single
    · exact (forms_withStatement hg false).single
    · exact (forms_tryStatement hg).single
    · refine advances_peekSecond.produces fun second => .ite hfunction.single ?_
      refine advances_skip.produces fun _ => .ite (forms_forStatement hg true).single ?_
      exact (forms_withStatement hg true).single
    · exact hsimple
  · exact produces_matchOrSimple hg

theorem grammar_forms (depth : Nat) : (grammar depth).Forms tokens := by
  induction depth with
  | zero => exact ⟨(grammar_statements 0).toExpressions, .failure⟩
  | succ depth ih =>
      exact ⟨(grammar_statements (depth + 1)).toExpressions, produces_statement ih⟩

theorem produces_wholeSource (hg : g.Forms tokens) :
    Produces tokens (wholeSource g) (AllFormed (Spelled tokens)) := by
  refine Produces.bind (r := iterate [] _) (Produces.iterate (a := [])
    (P := fun read : List (List Node) => ∀ body ∈ read, AllFormed (Spelled tokens) body)
    (by simp) fun read hread => ?_) fun read hread => .pure ?_
  · refine advances_peek.produces fun next => ?_
    split
    · exact .pure (by simp)
    · refine hg.statement.bind fun body hbody => .pure ?_
      rintro _ ⟨⟩
      exact List.forall_mem_cons.mpr ⟨hbody, hread⟩
  · intro node hnode
    obtain ⟨body, hbody, hmem⟩ := List.mem_flatten.mp hnode
    exact hread body (List.mem_reverse.mp hbody) node hmem

/-- The tree of a source is formed, its names being spelled by tokens of the source. -/
theorem exists_formed_of_parse? {source : String} {tree : Node} (htree : parse? source = some tree) :
    tree.isStatement = true ∧ ∃ tokens, tokenize ⟨1, 0⟩ source.toList = some tokens ∧
      tree.Formed (Spelled tokens) := by
  obtain ⟨tokens, statements, stop, htokens, hrun, rfl⟩ := exists_run_of_parse? htree
  have hformed :=
    produces_wholeSource (grammar_forms _) (not_spelled_empty htokens) 0 statements stop hrun
  refine ⟨rfl, tokens, htokens, .of rfl (by simp [Node.declaredName?]) ?_⟩
  simpa [Node.children] using hformed

end CallChain.Python
