import CallChain.Proofs.Python.Reading
import CallChain.Proofs.Python.Shape
import CallChain.Python.Grammar.Expressions

/-!
# Expressions hold no statements

Every rule for expressions gives plain nodes, provided that the grammar it calls back does:
`Grammar.Expressions` is that assumption, and the parser's grammar has it by induction on its depth.
One lemma stands for each rule and goes through it from top to bottom.
-/

namespace CallChain.Python

open Reader

open Node (AllPlain)

/-- The rules for expressions and patterns that a grammar offers give plain nodes. -/
structure Grammar.Expressions (g : Grammar) : Prop where
  primary : g.primary.Gives Node.Plain
  factor : g.factor.Gives Node.Plain
  bitwiseOr : g.bitwiseOr.Gives Node.Plain
  disjunction : g.disjunction.Gives Node.Plain
  expression : g.expression.Gives Node.Plain
  namedExpression : g.namedExpression.Gives Node.Plain
  starExpressions : g.starExpressions.Gives Node.Plain
  pattern : g.pattern.Gives Node.Plain

theorem plain_literal (value : Literal) : (Node.literal value).Plain :=
  .of rfl (by simp [Node.children])

theorem plain_name (span : Span) {id : String} (context : Context) (hid : id ≠ "") :
    (Node.name span id context).Plain :=
  .of (by simpa [Node.isPart] using hid) (by simp [Node.children])

theorem ne_empty_of_plain_name {span : Span} {id : String} {context : Context}
    (hplain : (Node.name span id context).Plain) : id ≠ "" := by
  obtain ⟨hkind, -⟩ := hplain
  simpa [Node.isPart] using hkind

theorem plain_tuple {elements : List Node} (helements : AllPlain elements) :
    (Node.tuple elements).Plain :=
  .of rfl (by simpa [Node.children] using helements)

theorem plain_listDisplay {elements : List Node} (helements : AllPlain elements) :
    (Node.listDisplay elements).Plain :=
  .of rfl (by simpa [Node.children] using helements)

theorem plain_starred {value : Node} (hvalue : value.Plain) : (Node.starred value).Plain :=
  .of rfl (by simpa [Node.children] using hvalue)

theorem plain_unaryOp {value : Node} (op : UnaryOp) (hvalue : value.Plain) :
    (Node.unaryOp op value).Plain :=
  .of rfl (by simpa [Node.children] using hvalue)

theorem plain_binOp {left right : Node} (op : BinaryOp) (hleft : left.Plain)
    (hright : right.Plain) : (Node.binOp left op right).Plain :=
  .of rfl (by simp [Node.children, hleft, hright])

theorem plain_member {receiver : Node} (span : Span) (name : String) (context : Context)
    (hreceiver : receiver.Plain) : (Node.member span receiver name context).Plain :=
  .of rfl (by simpa [Node.children] using hreceiver)

/-! ## Targets -/

theorem plain_of_asTarget? {context : Context} {node target : Node} (hnode : node.Plain)
    (htarget : asTarget? context node = some target) : target.Plain := by
  induction node using asTarget?.induct context fun nodes => AllPlain nodes →
    ∀ targets, asTarget?.allTargets? context nodes = some targets → AllPlain targets
    generalizing target with
  | case1 span id =>
      cases htarget
      exact plain_name span _ (ne_empty_of_plain_name hnode)
  | case2 span receiver name =>
      cases htarget
      exact .of rfl hnode.children
  | case3 value index =>
      cases htarget
      exact hnode
  | case4 value hcontext => simp [asTarget?, hcontext] at htarget
  | case5 value hcontext hstar ih =>
      have hvalue : value.Plain := by simpa [Node.children] using hnode.children
      subst hcontext
      simp only [asTarget?] at htarget
      obtain ⟨inner, hinner, rfl⟩ := Option.map_eq_some_iff.mp htarget
      exact plain_starred (ih hvalue hinner)
  | case6 value hcontext hstar => simp [asTarget?] at htarget
  | case7 elements ih =>
      have helements : AllPlain elements := by simpa [Node.children] using hnode.children
      rw [asTarget?] at htarget
      obtain ⟨targets, htargets, rfl⟩ := Option.map_eq_some_iff.mp htarget
      exact plain_tuple (ih helements targets htargets)
  | case8 elements ih =>
      have helements : AllPlain elements := by simpa [Node.children] using hnode.children
      rw [asTarget?] at htarget
      obtain ⟨targets, htargets, rfl⟩ := Option.map_eq_some_iff.mp htarget
      exact plain_listDisplay (ih helements targets htargets)
  | case9 node => simp [asTarget?] at htarget
  | case10 =>
      rename_i hnodes targets htargets
      cases htargets
      exact Node.allPlain_nil
  | case11 node rest ih ihrest =>
      rename_i hnodes targets htargets
      rw [Node.allPlain_cons] at hnodes
      obtain ⟨first, hfirst, hrest⟩ := Option.bind_eq_some_iff.mp htargets
      obtain ⟨others, hothers, hresult⟩ := Option.bind_eq_some_iff.mp hrest
      cases hresult
      exact Node.allPlain_cons.mpr ⟨ih hnodes.1 hfirst, ihrest hnodes.2 others hothers⟩

theorem plain_of_asSingleTarget? {node target : Node} (hnode : node.Plain)
    (htarget : asSingleTarget? node = some target) : target.Plain := by
  unfold asSingleTarget? at htarget
  split at htarget
  · cases htarget
    exact plain_name _ _ (ne_empty_of_plain_name hnode)
  · cases htarget
    exact .of rfl hnode.children
  · cases htarget
    exact hnode
  · cases htarget

variable {g : Grammar}

theorem gives_starTarget (hg : g.Expressions) : (starTarget g).Gives Node.Plain := by
  refine (advances_takeOp _).bind fun starred => .ite ?_ ?_
  · refine advances_peek.bind fun next => .unless ?_
    refine hg.primary.bind fun value hvalue => ?_
    split
    · rename_i target htarget
      exact .pure (plain_starred (plain_of_asTarget? hvalue htarget))
    · exact .failure
  · refine hg.primary.bind fun value hvalue => ?_
    split
    · rename_i target htarget
      exact .pure (plain_of_asTarget? hvalue htarget)
    · exact .failure

/-- Of several items one stands for itself, and others make a tuple. -/
theorem gives_one_or_tuple {items : List Node} {trailing : Bool} (hitems : AllPlain items) :
    (match items, trailing with
      | [one], false => (pure one : Reader Node)
      | many, _ => pure (.tuple many)).Gives Node.Plain := by
  split
  · exact .pure (by simpa using hitems)
  · exact .pure (plain_tuple hitems)

theorem gives_starTargets (hg : g.Expressions) : (starTargets g).Gives Node.Plain :=
  (gives_starTarget hg).commaSeparated.bind fun _ hitems => gives_one_or_tuple hitems

/-! ## Parameters -/

theorem plain_param {name : String} {hint : Option Node} (hhint : AllPlain hint.toList) :
    (Node.param name hint).Plain :=
  .of rfl (by simpa [Node.children] using hhint)

theorem gives_parameter (hg : g.Expressions) (annotated : Bool) :
    (parameter g annotated).Gives Node.Plain := by
  refine advances_takeName.bind fun name => .ite ?_ (.pure (plain_param (by simp)))
  refine (advances_takeOp _).bind fun hinted => .ite ?_ (.pure (plain_param (by simp)))
  exact hg.expression.bind fun hint hhint => .pure (plain_param (by simpa using hhint))

theorem gives_restParameter (hg : g.Expressions) (annotated : Bool) :
    (restParameter g annotated).Gives Node.Plain := by
  refine advances_takeName.bind fun name => .ite ?_ (.pure (plain_param (by simp)))
  refine (advances_takeOp _).bind fun hinted => .ite ?_ (.pure (plain_param (by simp)))
  refine (advances_takeOp _).bind fun starred => .ite ?_ ?_
  · exact hg.bitwiseOr.bind fun hint hhint =>
      .pure (plain_param (by simpa using plain_starred hhint))
  · exact hg.expression.bind fun hint hhint => .pure (plain_param (by simpa using hhint))

/-- The parameters read so far are plain. -/
structure ParameterList.Plain (l : ParameterList) : Prop where
  positionalOnly : AllPlain l.positionalOnly
  positional : AllPlain l.positional
  defaults : AllPlain l.defaults
  rest : AllPlain l.rest.toList
  keywordOnly : AllPlain l.keywordOnly
  keywordDefaults : AllPlain l.keywordDefaults
  keywordRest : AllPlain l.keywordRest.toList

theorem ParameterList.plain_empty : ({} : ParameterList).Plain := by
  constructor <;> simp

theorem ParameterList.Plain.toNode {l : ParameterList} (hl : l.Plain) : l.toNode.Plain :=
  .of rfl (by simp [ParameterList.toNode, Node.children, hl.positionalOnly, hl.positional,
    hl.defaults, hl.rest, hl.keywordOnly, hl.keywordDefaults.filter, hl.keywordRest])

theorem gives_parameterEntry (hg : g.Expressions) (annotated : Bool) {l : ParameterList}
    (hl : l.Plain) : (parameterEntry g annotated l).Gives ParameterList.Plain := by
  have homitted : Node.omitted.Plain := .of rfl (by simp [Node.children])
  unfold parameterEntry
  dsimp only
  refine .unless ((advances_takeOp _).bind fun slash => .ite (.unless (.pure ?_)) ?_)
  · exact { hl with positionalOnly := hl.positional, positional := by simp }
  refine (advances_takeOp _).bind fun doubleStar => .ite (.unless ?_) ?_
  · refine (gives_parameter hg annotated).bind fun p hp => .pure ?_
    exact { hl with keywordRest := by simpa using hp }
  refine (advances_takeOp _).bind fun star => .ite (.unless (advances_peek.bind fun next => ?_)) ?_
  · split
    · refine (gives_restParameter hg annotated).bind fun p hp => .pure ?_
      exact { hl with rest := by simpa using hp }
    · exact .ite (.pure { hl with }) .failure_bind
  refine (gives_parameter hg annotated).bind fun p hp => (advances_takeOp _).bind fun given => ?_
  refine .optional hg.expression fun default hdefault => .ite (.pure ?_) ?_
  · exact { hl with
      keywordOnly := by simp [hl.keywordOnly, hp]
      keywordDefaults := by cases default <;> simp_all [hl.keywordDefaults] }
  split
  · rename_i d
    refine .pure { hl with
      positional := by simp [hl.positional, hp]
      defaults := by simp [hl.defaults, hdefault d rfl] }
  · exact .ite (.pure { hl with positional := by simp [hl.positional, hp] }) .failure

/-- A list read from an entry on, up to a bracket. -/
theorem gives_entries {α : Type} {P : α → Prop} {entry : α → Reader α} (stop : String) {first : α}
    (hfirst : P first) (hentry : ∀ a, P a → (entry a).Gives P) :
    (iterate (first, true) fun (x : α × Bool) => do
      if !x.2 then return none
      if ← takeOp "," then
        if isOp stop (← peek) then return some (x.1, false)
        return some (← entry x.1, true)
      return none).Gives fun x => P x.1 := by
  refine .iterate hfirst ?_
  rintro ⟨a, more⟩ ha
  refine .ite (.pure (by simp)) ((advances_takeOp _).bind fun comma => .ite ?_ (.pure (by simp)))
  refine advances_peek.bind fun next => .ite (.pure (by simpa using ha)) ?_
  exact (hentry a ha).bind fun b hb => .pure (by simpa using hb)

theorem gives_parameterList (hg : g.Expressions) (annotated : Bool) (stop : String) :
    (parameterList g annotated stop).Gives Node.Plain := by
  refine advances_peek.bind fun next => .ite (.pure ParameterList.plain_empty.toNode) ?_
  refine (gives_parameterEntry hg annotated ParameterList.plain_empty).bind fun first hfirst => ?_
  refine (gives_entries stop hfirst fun l hl => gives_parameterEntry hg annotated hl).bind ?_
  rintro ⟨l, more⟩ hl
  exact advances_peek.bind fun next => .unless (.pure hl.toNode)

/-! ## Comprehensions -/

theorem gives_forClause (hg : g.Expressions) : (forClause g).Gives Node.Plain := by
  refine (advances_takeKeyword _).bind fun isAsync => (advances_expectKeyword _).bind fun _ => ?_
  refine (gives_starTargets hg).bind fun target htarget => (advances_expectKeyword _).bind fun _ => ?_
  refine hg.disjunction.bind fun iter hiter => ?_
  refine (Gives.iterate (P := AllPlain) (by simp) fun conditions hconditions => ?_).bind
    fun conditions hconditions => .pure (.of rfl ?_)
  · refine (advances_takeKeyword _).bind fun more => .ite ?_ (.pure (by simp))
    exact hg.disjunction.bind fun condition hcondition =>
      .pure (by simp [hcondition, hconditions])
  · simp [Node.children, htarget, hiter, hconditions]

theorem advances_startsFor : startsFor.Advances :=
  advances_peek.bind fun _ => advances_peekSecond.bind fun _ => .pure trivial

theorem gives_forClauses (hg : g.Expressions) : (forClauses g).Gives AllPlain := by
  refine (gives_forClause hg).bind fun first hfirst => ?_
  refine (Gives.iterate (P := AllPlain) (by simpa using hfirst) fun clauses hclauses => ?_).bind
    fun clauses hclauses => .pure (by simpa using hclauses)
  refine advances_startsFor.bind fun more => .ite ?_ (.pure (by simp))
  exact (gives_forClause hg).bind fun clause hclause => .pure (by simp [hclause, hclauses])

/-! ## Atoms -/

theorem gives_starNamed (hg : g.Expressions) : (starNamed g).Gives Node.Plain := by
  refine (advances_takeOp _).bind fun starred => .ite ?_ hg.namedExpression
  exact hg.bitwiseOr.bind fun value hvalue => .pure (plain_starred hvalue)

theorem gives_yieldExpression (hg : g.Expressions) : (yieldExpression g).Gives Node.Plain := by
  refine (advances_expectKeyword _).bind fun _ => (advances_takeKeyword _).bind fun delegates => ?_
  refine .ite ?_ ?_
  · exact hg.expression.bind fun value hvalue => .pure (.of rfl (by simpa [Node.children] using hvalue))
  · refine hg.starExpressions.attempt.bind fun value hvalue => .pure (.of rfl ?_)
    simpa [Node.children] using Node.allPlain_toList.mpr hvalue

theorem gives_parenthesized (hg : g.Expressions) : (parenthesized g).Gives Node.Plain := by
  refine (advances_expectOp _).bind fun _ => (advances_takeOp _).bind fun closed => ?_
  refine .ite (.pure (plain_tuple (by simp))) (advances_peek.bind fun next => .ite ?_ ?_)
  · exact (gives_yieldExpression hg).bind fun value hvalue =>
      (advances_expectOp _).bind fun _ => .pure hvalue
  refine (gives_starNamed hg).bind fun first hfirst => advances_peek.bind fun next => .ite ?_ ?_
  · refine advances_skip.bind fun _ => (advances_takeOp _).bind fun closed => ?_
    refine .ite (.pure (plain_tuple (by simpa using hfirst))) ?_
    refine (gives_starNamed hg).commaSeparated.bind ?_
    rintro ⟨others, trailing⟩ hothers
    exact (advances_expectOp _).bind fun _ =>
      .pure (plain_tuple (Node.allPlain_cons.mpr ⟨hfirst, hothers⟩))
  · refine .unless (advances_startsFor.bind fun isGenerator => .ite ?_ ?_)
    · refine (gives_forClauses hg).bind fun clauses hclauses => (advances_expectOp _).bind fun _ => ?_
      exact .pure (.of rfl (by simp [Node.children, hfirst, hclauses]))
    · exact (advances_expectOp _).bind fun _ => .pure hfirst

theorem gives_bracketed (hg : g.Expressions) : (bracketed g).Gives Node.Plain := by
  refine (advances_expectOp _).bind fun _ => (advances_takeOp _).bind fun closed => ?_
  refine .ite (.pure (plain_listDisplay (by simp))) ?_
  refine (gives_starNamed hg).bind fun first hfirst => advances_startsFor.bind fun isComp => .ite ?_ ?_
  · refine (gives_forClauses hg).bind fun clauses hclauses => (advances_expectOp _).bind fun _ => ?_
    exact .pure (.of rfl (by simp [Node.children, hfirst, hclauses]))
  have hone : (Node.listDisplay [first]).Plain := plain_listDisplay (by simpa using hfirst)
  refine (advances_takeOp _).bind fun comma => .ite ?_ ?_
  · refine (advances_takeOp _).bind fun closed => .ite (.pure hone) ?_
    refine (gives_starNamed hg).commaSeparated.bind ?_
    rintro ⟨others, trailing⟩ hothers
    exact (advances_expectOp _).bind fun _ =>
      .pure (plain_listDisplay (Node.allPlain_cons.mpr ⟨hfirst, hothers⟩))
  · exact (advances_expectOp _).bind fun _ => .pure hone

theorem gives_dictEntry (hg : g.Expressions) :
    (dictEntry g).Gives fun entry => entry.1.Plain ∧ entry.2.Plain := by
  have homitted : Node.omitted.Plain := .of rfl (by simp [Node.children])
  refine (advances_takeOp _).bind fun unpacked => .ite ?_ ?_
  · exact hg.bitwiseOr.bind fun value hvalue => .pure ⟨homitted, hvalue⟩
  · refine hg.expression.bind fun key hkey => (advances_expectOp _).bind fun _ => ?_
    exact hg.expression.bind fun value hvalue => .pure ⟨hkey, hvalue⟩

theorem allPlain_map {α : Type} {P : α → Prop} {items : List α} {node : α → Node}
    (hitems : ∀ a ∈ items, P a) (hnode : ∀ a, P a → (node a).Plain) : AllPlain (items.map node) := by
  intro n hn
  obtain ⟨a, ha, rfl⟩ := List.mem_map.mp hn
  exact hnode a (hitems a ha)

theorem plain_dict {entries : List (Node × Node)}
    (hentries : ∀ entry ∈ entries, entry.1.Plain ∧ entry.2.Plain) :
    (Node.dict (entries.map Prod.fst) (entries.map Prod.snd)).Plain := by
  have hkeys : AllPlain (entries.map Prod.fst) := allPlain_map hentries fun _ hentry => hentry.1
  have hvalues : AllPlain (entries.map Prod.snd) := allPlain_map hentries fun _ hentry => hentry.2
  exact .of rfl (by simp [Node.children, hkeys.filter, hvalues])

/-- Further items behind a comma, unless the brace closes. -/
theorem gives_others {α : Type} {P : α → Prop} {item : Reader α} (hitem : item.Gives P)
    {f : List α → Reader Node} (hf : ∀ others, (∀ a ∈ others, P a) → (f others).Gives Node.Plain) :
    (takeOp "," >>= fun comma =>
      if comma then peek >>= fun next =>
        if isOp "\x7d" next then pure [] >>= f else (Prod.fst <$> item.commaSeparated) >>= f
      else pure [] >>= f).Gives Node.Plain := by
  have hnone : (pure [] >>= f).Gives Node.Plain := by
    rw [pure_bind]
    exact hf [] (by simp)
  refine (advances_takeOp _).bind fun comma => .ite ?_ hnone
  refine advances_peek.bind fun next => .ite hnone ?_
  exact (hitem.commaSeparated.map fun _ hitems => hitems).bind hf

theorem gives_braced (hg : g.Expressions) : (braced g).Gives Node.Plain := by
  unfold braced
  dsimp only
  refine (advances_expectOp _).bind fun _ => (advances_takeOp _).bind fun closed => ?_
  refine .ite (.pure (.of rfl (by simp [Node.children]))) ?_
  refine advances_peek.bind fun next => .ite ?_ ?_
  · refine (gives_dictEntry hg).bind fun first hfirst => ?_
    refine gives_others (gives_dictEntry hg) fun others hothers => (advances_expectOp _).bind fun _ => ?_
    exact .pure (plain_dict (List.forall_mem_cons.mpr ⟨hfirst, hothers⟩))
  refine advances_peekSecond.bind fun second => (gives_starNamed hg).bind fun first hfirst => ?_
  refine advances_peek.bind fun next => .ite ?_ ?_
  · refine advances_skip.bind fun _ => hg.expression.bind fun value hvalue => ?_
    refine advances_startsFor.bind fun isComp => .ite ?_ ?_
    · refine (gives_forClauses hg).bind fun clauses hclauses => (advances_expectOp _).bind fun _ => ?_
      exact .pure (.of rfl (by simp [Node.children, hfirst, hvalue, hclauses]))
    · refine gives_others (gives_dictEntry hg) fun others hothers => (advances_expectOp _).bind fun _ => ?_
      exact .pure (plain_dict (List.forall_mem_cons.mpr ⟨⟨hfirst, hvalue⟩, hothers⟩))
  refine advances_startsFor.bind fun isComp => .ite ?_ ?_
  · refine (gives_forClauses hg).bind fun clauses hclauses => (advances_expectOp _).bind fun _ => ?_
    exact .pure (.of rfl (by simp [Node.children, hfirst, hclauses]))
  · refine gives_others (gives_starNamed hg) fun others hothers => (advances_expectOp _).bind fun _ => ?_
    have hall : AllPlain (first :: others) := Node.allPlain_cons.mpr ⟨hfirst, hothers⟩
    exact .pure (.of rfl (by simpa [Node.children] using hall))

/-! ## Texts -/

/-- What has been put together of a text is plain. -/
def JoinedText.Plain (t : JoinedText) : Prop := AllPlain t.values

theorem JoinedText.plain_empty : (⟨[], []⟩ : JoinedText).Plain := Node.allPlain_nil

theorem JoinedText.Plain.withPending {t : JoinedText} (ht : t.Plain) (pending : List Nat) :
    ({ t with pending } : JoinedText).Plain := ht

theorem JoinedText.Plain.flush {t : JoinedText} (ht : t.Plain) : t.flush.Plain := by
  unfold JoinedText.flush
  split
  · exact ht
  · exact Node.allPlain_cons.mpr ⟨plain_literal _, ht⟩

theorem JoinedText.Plain.addField {t : JoinedText} (ht : t.Plain) (shown : Option (List Char))
    {value : Node} (hvalue : value.Plain) (conversion : Option Char) {format : Option Node}
    (hformat : AllPlain format.toList) : (t.addField shown value conversion format).Plain := by
  refine Node.allPlain_cons.mpr ⟨.of rfl ?_, (ht.withPending _).flush⟩
  simp [Node.children, hvalue, hformat]

theorem JoinedText.Plain.toNode {t : JoinedText} (ht : t.Plain) : t.toNode.Plain := by
  have hflush : AllPlain t.flush.values := ht.flush
  exact .of rfl (by simpa [JoinedText.toNode, Node.children] using hflush)

/-- What may come out satisfies `P`. -/
private def Yields {α : Type} (result : Option α) (P : α → Prop) : Prop := ∀ a, result = some a → P a

section Yields

variable {α β : Type} {P : α → Prop} {Q : β → Prop}

private theorem Yields.some {a : α} (ha : P a) : Yields (some a) P := by
  rintro b ⟨⟩
  exact ha

private theorem Yields.none : Yields none P := by
  rintro a ⟨⟩

private theorem Yields.bind {result : Option α} {f : α → Option β} (hresult : Yields result P)
    (hf : ∀ a, P a → Yields (f a) Q) : Yields (result >>= f) Q := by
  intro b hb
  obtain ⟨a, ha, hb⟩ := Option.bind_eq_some_iff.mp hb
  exact hf a (hresult a ha) b hb

private theorem yields_bind {result : Option α} {f : α → Option β} (hf : ∀ a, Yields (f a) Q) :
    Yields (result >>= f) Q :=
  Yields.bind (P := fun _ => True) (fun _ _ => trivial) fun a _ => hf a

private theorem Yields.none_bind {f : α → Option β} : Yields ((Option.none : Option α) >>= f) Q :=
  Yields.none

private theorem Yields.ite {c : Prop} [Decidable c] {first second : Option α} (hfirst : Yields first P)
    (hsecond : Yields second P) : Yields (if c then first else second) P := by
  split
  · exact hfirst
  · exact hsecond

private theorem Yields.foldlM {items : List β} {f : α → β → Option α}
    (hf : ∀ a b, P a → Yields (f a b) P) {a : α} (ha : P a) : Yields (items.foldlM f a) P := by
  induction items generalizing a with
  | nil => exact .some ha
  | cons b rest ih => exact (hf a b ha).bind fun next hnext => ih hnext

end Yields

private theorem yields_formatParts? {readExpression : Place → List Char → Option Node}
    (hread : ∀ place cs, Yields (readExpression place cs) Node.Plain) (isRaw : Bool) :
    ∀ (fuel level : Nat) (place : Place) (cs : List Char) {joined : JoinedText}, joined.Plain →
      Yields (formatParts? readExpression isRaw fuel level place cs joined) fun result =>
        result.1.Plain := by
  intro fuel
  induction fuel with
  | zero => intro level place cs joined _; exact .none
  | succ fuel ih =>
      intro level place cs joined hjoined
      refine yields_bind ?_
      rintro ⟨literal, doubled, rest⟩
      refine yields_bind fun points => .ite (ih _ _ _ (hjoined.withPending _)) ?_
      split
      · refine .ite .none_bind (yields_bind ?_)
        rintro ⟨expression, after⟩
        refine .ite .none_bind ((hread _ _).bind fun value hvalue => yields_bind ?_)
        rintro ⟨conversion, after⟩
        -- with a format or without one, the text goes on behind the brace that ends the field
        dsimp only
        split
        · refine (ih (level + 1) _ _ JoinedText.plain_empty).bind ?_
          rintro ⟨spec, place, after⟩ hspec
          have hformat : AllPlain (some spec.toNode).toList := by simpa using hspec.toNode
          refine Yields.bind (P := fun field => AllPlain field.1.toList) (.some hformat) ?_
          rintro ⟨format, place, after⟩ hformat
          dsimp only
          split
          · exact ih _ _ _ ((hjoined.withPending _).addField _ hvalue _ hformat)
          · exact .none
        · refine Yields.bind (P := fun field => AllPlain field.1.toList) (.some (by simp)) ?_
          rintro ⟨format, place, after⟩ hformat
          dsimp only
          split
          · exact ih _ _ _ ((hjoined.withPending _).addField _ hvalue _ hformat)
          · exact .none
      · exact .ite (.some hjoined) .none
      · exact .ite .none (.some hjoined)

theorem plain_of_joinTexts? {readExpression : Place → List Char → Option Node}
    (hread : ∀ place cs node, readExpression place cs = some node → node.Plain)
    {tokens : List TextToken} {node : Node} (hnode : joinTexts? readExpression tokens = some node) :
    node.Plain := by
  have hyields : Yields (joinTexts? readExpression tokens) Node.Plain := by
    refine .ite (.ite (yields_bind fun _ => .some (plain_literal _)) .none) ?_
    refine (Yields.foldlM (P := JoinedText.Plain) (fun joined t hjoined => .ite ?_ ?_)
      JoinedText.plain_empty).bind fun joined hjoined => ?_
    · exact (yields_formatParts? hread _ _ _ _ _ hjoined).bind fun result hresult => .some hresult
    · exact yields_bind fun points => .some (hjoined.withPending _)
    · exact .ite (.some hjoined.toNode) (.some (plain_literal _))
  exact hyields node hnode

theorem plain_of_readInner (hg : g.Expressions) {place : Place} {source : List Char} {node : Node}
    (hnode : readInner g place source = some node) : node.Plain := by
  obtain ⟨tokens, htokens, hread⟩ := Option.bind_eq_some_iff.mp hnode
  obtain ⟨⟨value, stop⟩, hrun, hvalue⟩ := Option.bind_eq_some_iff.mp hread
  obtain rfl : value = node := Option.some.inj hvalue
  exact (hg.starExpressions tokens (not_spelled_empty htokens) 0 value stop hrun).2

theorem gives_texts (hg : g.Expressions) : (texts g).Gives Node.Plain := by
  refine (Gives.many1 (P := fun _ => True) ?_).bind fun tokens _ => ?_
  · refine advances_peek.bind fun next => ?_
    split
    · exact advances_skip.bind fun _ => .pure trivial
    · exact .failure
  split
  · rename_i node hnode
    exact .pure (plain_of_joinTexts? (fun _ _ _ => plain_of_readInner hg) hnode)
  · exact .failure

theorem gives_atom (hg : g.Expressions) : (atom g).Gives Node.Plain := by
  refine advances_position.bind fun start => gives_peek.bind fun next hnext => ?_
  split
  · refine advances_skip.bind fun _ => (advances_spanFrom _).bind fun span => .pure ?_
    exact plain_name span _ (hnext _ rfl)
  · exact advances_skip.bind fun _ => .pure (plain_literal _)
  · exact advances_skip.bind fun _ => .pure (plain_literal _)
  · exact advances_skip.bind fun _ => .pure (plain_literal _)
  · exact advances_skip.bind fun _ => .pure (plain_literal _)
  · exact gives_texts hg
  · exact gives_parenthesized hg
  · exact gives_bracketed hg
  · exact gives_braced hg
  · exact advances_skip.bind fun _ => .pure (plain_literal _)
  · exact .failure

/-! ## Calls and subscripts -/

/-- The arguments read so far are plain. -/
structure ArgumentList.Plain (l : ArgumentList) : Prop where
  args : AllPlain l.args
  keywords : AllPlain l.keywords

theorem ArgumentList.plain_empty : ({} : ArgumentList).Plain := by
  constructor <;> simp

theorem plain_keyword {value : Node} (name : Option String) (hvalue : value.Plain) :
    (Node.keyword name value).Plain :=
  .of rfl (by simpa [Node.children] using hvalue)

theorem gives_argument (hg : g.Expressions) {l : ArgumentList} (hl : l.Plain) :
    (argument g l).Gives ArgumentList.Plain := by
  refine (advances_takeOp _).bind fun star => .ite (.unless ?_) ?_
  · exact hg.expression.bind fun value hvalue =>
      .pure { hl with args := by simp [hl.args, plain_starred hvalue] }
  refine (advances_takeOp _).bind fun doubleStar => .ite ?_ ?_
  · exact hg.expression.bind fun value hvalue =>
      .pure { hl with keywords := by simp [hl.keywords, plain_keyword none hvalue] }
  refine advances_peek.bind fun next => advances_peekSecond.bind fun second => ?_
  dsimp only
  split
  · refine advances_skip.bind fun _ => advances_skip.bind fun _ => ?_
    exact hg.expression.bind fun value hvalue =>
      .pure { hl with keywords := by simp [hl.keywords, plain_keyword _ hvalue] }
  · refine .unless (hg.namedExpression.bind fun value hvalue => ?_)
    exact .pure { hl with args := by simp [hl.args, hvalue] }

theorem gives_arguments (hg : g.Expressions) : (arguments g).Gives ArgumentList.Plain := by
  refine (advances_expectOp _).bind fun _ => (advances_takeOp _).bind fun closed => ?_
  refine .ite (.pure ArgumentList.plain_empty) ?_
  refine (gives_argument hg ArgumentList.plain_empty).bind fun first hfirst => ?_
  refine advances_startsFor.bind fun isGenerator => .ite ?_ ?_
  · refine (gives_forClauses hg).bind fun clauses hclauses => (advances_expectOp _).bind fun _ => ?_
    refine .pure ⟨allPlain_map hfirst.args fun element helement => .of rfl ?_, by simp⟩
    simp [Node.children, helement, hclauses]
  · refine (gives_entries ")" hfirst fun l hl => gives_argument hg hl).bind ?_
    rintro ⟨l, more⟩ hl
    exact (advances_expectOp _).bind fun _ => .pure hl

theorem gives_sliceBound (hg : g.Expressions) :
    (sliceBound g).Gives fun bound => AllPlain bound.toList := by
  refine advances_peek.bind fun next => .ite (.pure (by simp)) ?_
  exact hg.expression.bind fun value hvalue => .pure (by simpa using hvalue)

theorem plain_slice {lower upper step : Option Node} (hlower : AllPlain lower.toList)
    (hupper : AllPlain upper.toList) (hstep : AllPlain step.toList) :
    (Node.slice lower upper step).Plain :=
  .of rfl (by simp [Node.children, hlower, hupper, hstep])

theorem gives_sliceItem (hg : g.Expressions) : (sliceItem g).Gives Node.Plain := by
  refine (advances_takeOp _).bind fun star => .ite ?_ ?_
  · exact hg.expression.bind fun value hvalue => .pure (plain_starred hvalue)
  refine advances_peekSecond.bind fun second => advances_peek.bind fun next => ?_
  have hlower : (some <$> g.namedExpression).Gives fun lower => AllPlain lower.toList :=
    hg.namedExpression.map fun value hvalue => by simpa using hvalue
  -- whether or not there is a lower bound, the item goes on in the same way
  refine .ite_bind hlower (fun lower hlower => ?_) fun hitem => hitem none (by simp)
  refine advances_peek.bind fun next => .ite ?_ ?_
  · refine advances_skip.bind fun _ => (gives_sliceBound hg).bind fun upper hupper => ?_
    refine (advances_takeOp _).bind fun stepped => .ite ?_ ?_
    · exact (gives_sliceBound hg).bind fun step hstep => .pure (plain_slice hlower hupper hstep)
    · exact .pure (plain_slice hlower hupper (by simp))
  · split
    · exact .pure (by simpa using hlower)
    · exact .failure

theorem gives_subscriptIndex (hg : g.Expressions) : (subscriptIndex g).Gives Node.Plain := by
  refine (gives_sliceItem hg).commaSeparated.bind ?_
  rintro ⟨items, trailing⟩ hitems
  dsimp only
  split
  · exact .ite (.pure (plain_tuple hitems)) (.pure (by simpa using hitems))
  · exact .pure (plain_tuple hitems)

theorem gives_primary (hg : g.Expressions) : (primary g).Gives Node.Plain := by
  refine advances_position.bind fun start => (gives_atom hg).bind fun first hfirst => ?_
  refine .iterate hfirst fun value hvalue => advances_peek.bind fun next => ?_
  split
  · refine advances_skip.bind fun _ => advances_takeName.bind fun name => ?_
    exact (advances_spanFrom _).bind fun span => .pure (by simpa using plain_member _ _ _ hvalue)
  · refine (gives_arguments hg).bind fun l hl => (advances_spanFrom _).bind fun span => .pure ?_
    simpa using Node.Plain.of rfl (by simp [Node.children, hvalue, hl.args, hl.keywords])
  · refine advances_skip.bind fun _ => (gives_subscriptIndex hg).bind fun index hindex => ?_
    refine (advances_expectOp _).bind fun _ => .pure ?_
    simpa using Node.Plain.of rfl (by simp [Node.children, hvalue, hindex])
  · exact .pure (by simp)

/-! ## Operators -/

theorem gives_power (hg : g.Expressions) : (power g).Gives Node.Plain := by
  have hexponent : ∀ base : Node, base.Plain → (do
      if ← takeOp "**" then return .binOp base .power (← g.factor)
      return base : Reader Node).Gives Node.Plain := by
    intro base hbase
    refine (advances_takeOp _).bind fun raised => .ite ?_ (.pure hbase)
    exact hg.factor.bind fun exponent hexponent => .pure (plain_binOp _ hbase hexponent)
  refine (advances_takeKeyword _).bind fun awaited => .ite ?_ ?_
  · exact ((gives_primary hg).map fun value hvalue =>
      .of rfl (by simpa [Node.children] using hvalue)).bind hexponent
  · exact (gives_primary hg).bind hexponent

theorem plain_foldl_unaryOp {α : Type} (op : α → UnaryOp) (items : List α) {value : Node}
    (hvalue : value.Plain) : (items.foldl (fun v item => .unaryOp (op item) v) value).Plain := by
  induction items generalizing value with
  | nil => exact hvalue
  | cons item rest ih => exact ih (plain_unaryOp _ hvalue)

theorem gives_factor (hg : g.Expressions) : (factor g).Gives Node.Plain := by
  refine (Gives.iterate (P := fun _ => True) trivial fun signs _ => ?_).bind fun signs _ => ?_
  · refine advances_peek.bind fun next => ?_
    split
    · exact advances_skip.bind fun _ => .pure (by simp)
    · exact .pure (by simp)
  · exact (gives_power hg).bind fun value hvalue => .pure (plain_foldl_unaryOp id _ hvalue)

theorem gives_leftChain (ops : List (String × BinaryOp)) {operand : Reader Node}
    (hoperand : operand.Gives Node.Plain) : (leftChain ops operand).Gives Node.Plain := by
  refine hoperand.bind fun first hfirst => .iterate hfirst fun left hleft => ?_
  refine advances_peek.bind fun next => ?_
  split
  · split
    · refine advances_skip.bind fun _ => hoperand.bind fun right hright => .pure ?_
      simpa using plain_binOp _ hleft hright
    · exact .pure (by simp)
  · exact .pure (by simp)

theorem gives_bitwiseOr (hg : g.Expressions) : (bitwiseOr g).Gives Node.Plain := by
  have hsum : (sum g).Gives Node.Plain := gives_leftChain _ (gives_leftChain _ (gives_factor hg))
  exact gives_leftChain _ (gives_leftChain _ (gives_leftChain _ (gives_leftChain _ hsum)))

theorem advances_compareOp : compareOp.Advances := by
  refine advances_peek.bind fun next => ?_
  split
  · exact .ite (advances_skip.bind fun _ => .pure trivial) (.pure trivial)
  · exact advances_skip.bind fun _ => .pure trivial
  · exact advances_skip.bind fun _ => (advances_takeKeyword _).bind fun _ =>
      .ite (.pure trivial) (.pure trivial)
  · refine advances_peekSecond.bind fun second => .ite ?_ (.pure trivial)
    exact advances_skip.bind fun _ => advances_skip.bind fun _ => .pure trivial
  · exact .pure trivial

theorem gives_comparison (hg : g.Expressions) : (comparison g).Gives Node.Plain := by
  refine (gives_bitwiseOr hg).bind fun left hleft => ?_
  refine (Gives.iterate (P := fun pairs : List (CompareOp × Node) => ∀ pair ∈ pairs, pair.2.Plain)
    (by simp) fun pairs hpairs => ?_).bind fun pairs hpairs => ?_
  · refine advances_compareOp.bind fun op => ?_
    split
    · refine (gives_bitwiseOr hg).bind fun right hright => .pure ?_
      rintro _ ⟨⟩
      exact List.forall_mem_cons.mpr ⟨hright, hpairs⟩
    · exact .pure (by simp)
  · split
    · exact .pure hleft
    · refine .pure (.of rfl ?_)
      have hrights : AllPlain (pairs.reverse.map Prod.snd) :=
        allPlain_map (by simpa using hpairs) fun pair hpair => hpair
      simpa [Node.children, hleft] using hrights

theorem gives_inversion (hg : g.Expressions) : (inversion g).Gives Node.Plain := by
  refine (Gives.iterate (P := fun _ => True) trivial fun count _ => ?_).bind fun count _ => ?_
  · exact (advances_takeKeyword _).bind fun more => .ite (.pure (by simp)) (.pure (by simp))
  · exact (gives_comparison hg).bind fun value hvalue =>
      .pure (plain_foldl_unaryOp (fun _ => .not) _ hvalue)

theorem gives_wordChain (word : String) (op : BoolOp) {operand : Reader Node}
    (hoperand : operand.Gives Node.Plain) : (wordChain word op operand).Gives Node.Plain := by
  refine hoperand.bind fun first hfirst => ?_
  refine (Gives.iterate (P := AllPlain) (by simp) fun others hothers => ?_).bind fun others hothers => ?_
  · refine (advances_takeKeyword _).bind fun more => .ite ?_ (.pure (by simp))
    exact hoperand.bind fun next hnext => .pure (by simp [hnext, hothers])
  · refine .ite (.pure hfirst) (.pure (.of rfl ?_))
    simp [Node.children, hfirst, hothers]

theorem gives_disjunction (hg : g.Expressions) : (disjunction g).Gives Node.Plain :=
  gives_wordChain _ _ (gives_wordChain _ _ (gives_inversion hg))

theorem gives_lambda (hg : g.Expressions) : (lambda g).Gives Node.Plain := by
  refine (advances_expectKeyword _).bind fun _ => ?_
  refine (gives_parameterList hg false ":").bind fun params hparams => ?_
  refine (advances_expectOp _).bind fun _ => hg.expression.bind fun body hbody => ?_
  exact .pure (.of rfl (by simp [Node.children, hparams, hbody]))

theorem gives_expression (hg : g.Expressions) : (expression g).Gives Node.Plain := by
  refine advances_peek.bind fun next => .ite (gives_lambda hg) ?_
  refine (gives_disjunction hg).bind fun value hvalue => ?_
  refine (advances_takeKeyword _).bind fun conditional => .ite ?_ (.pure hvalue)
  refine hg.disjunction.bind fun test htest => (advances_expectKeyword _).bind fun _ => ?_
  exact hg.expression.bind fun other hother =>
    .pure (.of rfl (by simp [Node.children, hvalue, htest, hother]))

theorem gives_namedExpression (hg : g.Expressions) : (namedExpression g).Gives Node.Plain := by
  refine advances_position.bind fun start => gives_peek.bind fun next hnext => ?_
  refine advances_peekSecond.bind fun second => ?_
  split
  · refine advances_skip.bind fun _ => (advances_spanFrom _).bind fun span => ?_
    refine advances_skip.bind fun _ => hg.expression.bind fun value hvalue => .pure (.of rfl ?_)
    simpa [Node.children, hvalue] using plain_name span .store (hnext _ rfl)
  · refine (gives_expression hg).bind fun value hvalue => advances_peek.bind fun next => ?_
    exact .unless (.pure hvalue)

theorem gives_starExpression (hg : g.Expressions) : (starExpression g).Gives Node.Plain := by
  refine (advances_takeOp _).bind fun starred => .ite ?_ (gives_expression hg)
  exact hg.bitwiseOr.bind fun value hvalue => .pure (plain_starred hvalue)

theorem gives_starExpressions (hg : g.Expressions) : (starExpressions g).Gives Node.Plain :=
  (gives_starExpression hg).commaSeparated.bind fun _ hitems => gives_one_or_tuple hitems

theorem gives_yieldOrExpressions (hg : g.Expressions) : (yieldOrExpressions g).Gives Node.Plain :=
  advances_peek.bind fun _ => .ite (gives_yieldExpression hg) (gives_starExpressions hg)

end CallChain.Python
