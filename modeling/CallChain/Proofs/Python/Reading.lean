import CallChain.Proofs.Python.Lexing
import CallChain.Python.Grammar.Reader

/-!
# What readers give

`Gives r P` says of a reader that it never goes back in the tokens and that what it gives satisfies
`P`, as long as no name among the tokens is empty; where it fails nothing is said.  There is one rule
for each way of putting readers together: one after the other, alternatives, repetition with an
invariant, items separated by commas.  Of most readers of single tokens nothing is said about what they
give, which is `Advances`.

The rules are applied by going through a rule of the grammar from top to bottom.
-/

namespace CallChain.Python.Reader

variable {α β : Type} {P : α → Prop} {Q : β → Prop}

/-- What the reader gives satisfies `P`, and it does not go back. -/
def Gives (r : Reader α) (P : α → Prop) : Prop :=
  ∀ tokens, ¬ Spelled tokens "" → ∀ position a stop,
    (r.run tokens).run position = some (a, stop) → position ≤ stop ∧ P a

/-- The reader does not go back. -/
def Advances (r : Reader α) : Prop := r.Gives fun _ => True

/-! ## Rules -/

theorem run_bind_eq_some_iff {r : Reader α} {f : α → Reader β} {tokens : Array Token}
    {position stop : Nat} {b : β} :
    ((r >>= f).run tokens).run position = some (b, stop) ↔
      ∃ a middle, (r.run tokens).run position = some (a, middle) ∧
        ((f a).run tokens).run middle = some (b, stop) := by
  rw [ReaderT.run_bind, StateT.run_bind]
  change (((r.run tokens).run position).bind fun p => ((f p.1).run tokens).run p.2) = _ ↔ _
  rw [Option.bind_eq_some_iff]
  simp

theorem run_orElse_eq_some {r s : Reader α} {tokens : Array Token} {position stop : Nat} {a : α}
    (hrun : ((r <|> s).run tokens).run position = some (a, stop)) :
    (r.run tokens).run position = some (a, stop) ∨ (s.run tokens).run position = some (a, stop) := by
  change ((r.run tokens).run position <|> (s.run tokens).run position) = some (a, stop) at hrun
  cases hfirst : (r.run tokens).run position with
  | none =>
      rw [hfirst] at hrun
      exact Or.inr hrun
  | some result =>
      rw [hfirst] at hrun
      exact Or.inl hrun

theorem Gives.pure {a : α} (ha : P a) : Gives (Pure.pure a) P := by
  intro tokens _ position b stop hrun
  cases hrun
  exact ⟨Nat.le_refl _, ha⟩

theorem Gives.failure : Gives failure P := by
  intro tokens _ position a stop hrun
  cases hrun

theorem Gives.bind {r : Reader α} {f : α → Reader β} (hr : r.Gives P)
    (hf : ∀ a, P a → (f a).Gives Q) : (r >>= f).Gives Q := by
  intro tokens hnames position b stop hrun
  obtain ⟨a, middle, hfirst, hrest⟩ := run_bind_eq_some_iff.mp hrun
  obtain ⟨hle, ha⟩ := hr tokens hnames position a middle hfirst
  obtain ⟨hle', hb⟩ := hf a ha tokens hnames middle b stop hrest
  exact ⟨Nat.le_trans hle hle', hb⟩

theorem Advances.bind {r : Reader α} {f : α → Reader β} (hr : r.Advances)
    (hf : ∀ a, (f a).Gives Q) : (r >>= f).Gives Q :=
  Gives.bind hr fun a _ => hf a

/-- After a failure nothing is read. -/
theorem Gives.failure_bind {f : α → Reader β} : ((Alternative.failure : Reader α) >>= f).Gives Q :=
  Gives.bind (P := fun _ => False) Gives.failure fun _ hfalse => hfalse.elim

theorem Gives.map {r : Reader α} {f : α → β} (hr : r.Gives P) (hf : ∀ a, P a → Q (f a)) :
    (f <$> r).Gives Q := by
  rw [map_eq_pure_bind]
  exact hr.bind fun a ha => .pure (hf a ha)

theorem Gives.ite {c : Prop} [Decidable c] {r s : Reader α} (hr : r.Gives P) (hs : s.Gives P) :
    (if c then r else s).Gives P := by
  split
  · exact hr
  · exact hs

/-- Where a condition fails the reader, it reads on as if nothing had been asked. -/
theorem Gives.unless {c : Prop} [Decidable c] {f : PUnit → Reader α} (hf : (f ()).Gives P) :
    (if c then Alternative.failure >>= f else f ()).Gives P :=
  .ite .failure_bind hf

theorem Gives.orElse {r s : Reader α} (hr : r.Gives P) (hs : s.Gives P) : (r <|> s).Gives P := by
  intro tokens hnames position a stop hrun
  rcases run_orElse_eq_some hrun with hfirst | hsecond
  · exact hr tokens hnames position a stop hfirst
  · exact hs tokens hnames position a stop hsecond

theorem Gives.attempt {r : Reader α} (hr : r.Gives P) : r.attempt.Gives fun a => ∀ b ∈ a, P b := by
  refine .orElse (hr.map fun a ha => ?_) (.pure ?_)
  · simpa using ha
  · simp

/-- Something that is read only under a condition. -/
theorem Gives.optional {c : Prop} [Decidable c] {r : Reader α} {f : Option α → Reader β}
    (hr : r.Gives P) (hf : ∀ a, (∀ b ∈ a, P b) → (f a).Gives Q) :
    (if c then (some <$> r) >>= f else Pure.pure none >>= f).Gives Q := by
  split
  · exact (hr.map fun a ha => by simpa using ha).bind hf
  · rw [pure_bind]
    exact hf none (by simp)

/-- Of two branches one reads something for what comes next, and the other may use what is known
of what comes next. -/
theorem Gives.ite_bind {c : Prop} [Decidable c] {r : Reader α} {s : Reader β} {f : α → Reader β}
    (hr : r.Gives P) (hf : ∀ a, P a → (f a).Gives Q)
    (hs : (∀ a, P a → (f a).Gives Q) → s.Gives Q) : (if c then s else r >>= f).Gives Q :=
  .ite (hs hf) (hr.bind hf)

/-- A reader that only looks stays where it is. -/
theorem gives_of_looking {r : Reader α} {look : Array Token → Nat → α}
    (hr : ∀ tokens position, (r.run tokens).run position = some (look tokens position, position))
    (hlook : ∀ tokens position, ¬ Spelled tokens "" → P (look tokens position)) : r.Gives P := by
  intro tokens hnames position a stop hrun
  rw [hr] at hrun
  cases hrun
  exact ⟨Nat.le_refl _, hlook tokens position hnames⟩

theorem advances_of_looking {r : Reader α} {look : Array Token → Nat → α}
    (hr : ∀ tokens position, (r.run tokens).run position = some (look tokens position, position)) :
    r.Advances :=
  gives_of_looking hr fun _ _ _ => trivial

/-! ## Repetition -/

theorem Gives.loop {step : α → Reader (Option α)}
    (hstep : ∀ a, P a → (step a).Gives fun next => ∀ b ∈ next, P b) :
    ∀ (fuel : Nat) {a : α}, P a → (Reader.loop step fuel a).Gives P
  | 0, _, ha => .pure ha
  | fuel + 1, a, ha => by
      refine (hstep a ha).bind fun next hnext => ?_
      cases next with
      | none => exact .pure ha
      | some b => exact Gives.loop hstep fuel (hnext b rfl)

theorem Gives.iterate {a : α} {step : α → Reader (Option α)} (ha : P a)
    (hstep : ∀ a, P a → (step a).Gives fun next => ∀ b ∈ next, P b) :
    (Reader.iterate a step).Gives P := by
  have hremaining : Reader.remaining.Advances := advances_of_looking fun _ _ => rfl
  exact hremaining.bind fun fuel => Gives.loop hstep fuel ha

/-! ## Single tokens -/

theorem advances_position : position.Advances := advances_of_looking fun _ _ => rfl

theorem advances_peek : peek.Advances := advances_of_looking fun _ _ => rfl

/-- The next token is no empty name. -/
theorem gives_peek : peek.Gives fun next => ∀ id, next = some (.name id) → id ≠ "" := by
  refine gives_of_looking (fun _ _ => rfl) fun tokens position hnames id hid => ?_
  obtain ⟨token, htoken, hkind⟩ := Option.map_eq_some_iff.mp hid
  rintro rfl
  exact hnames ⟨token, Array.mem_of_getElem? htoken, hkind⟩

theorem advances_peekSecond : peekSecond.Advances := advances_of_looking fun _ _ => rfl

theorem advances_skip : skip.Advances := by
  intro tokens _ position a stop hrun
  cases hrun
  exact ⟨Nat.le_succ _, trivial⟩

theorem advances_takeOp (text : String) : (takeOp text).Advances := by
  refine advances_peek.bind fun next => ?_
  exact .ite (advances_skip.bind fun _ => .pure trivial) (.pure trivial)

theorem advances_takeKeyword (text : String) : (takeKeyword text).Advances := by
  refine advances_peek.bind fun next => ?_
  exact .ite (advances_skip.bind fun _ => .pure trivial) (.pure trivial)

theorem advances_expectOp (text : String) : (expectOp text).Advances :=
  (advances_takeOp text).bind fun _ => .ite .failure (.pure trivial)

theorem advances_expectKeyword (text : String) : (expectKeyword text).Advances :=
  (advances_takeKeyword text).bind fun _ => .ite .failure (.pure trivial)

theorem gives_takeName : takeName.Gives (· ≠ "") := by
  refine gives_peek.bind fun next hnext => ?_
  split
  · exact advances_skip.bind fun _ => .pure (hnext _ rfl)
  · exact .failure

theorem advances_takeName : takeName.Advances := fun tokens hnames position a stop hrun =>
  ⟨(gives_takeName tokens hnames position a stop hrun).1, trivial⟩

theorem advances_takeNewline : takeNewline.Advances := by
  refine advances_peek.bind fun next => ?_
  split
  · exact advances_skip
  · exact .failure

theorem advances_spanFrom (start : Nat) : (spanFrom start).Advances :=
  advances_of_looking fun _ _ => rfl

/-! ## Several items -/

theorem Gives.commaSeparated {item : Reader α} (hitem : item.Gives P) :
    item.commaSeparated.Gives fun result => ∀ a ∈ result.1, P a := by
  refine hitem.bind fun first hfirst => ?_
  refine (Gives.iterate (P := fun state : List α × Bool × Bool => ∀ a ∈ state.1, P a)
    (by simpa using hfirst) ?_).bind ?_
  · rintro ⟨items, trailing, more⟩ hitems
    refine .ite (.pure (by simp)) ((advances_takeOp _).bind fun _ => .ite ?_ (.pure (by simp)))
    refine hitem.attempt.bind fun next hnext => ?_
    cases next with
    | none => exact .pure (by simpa using hitems)
    | some item => exact .pure (by simpa using ⟨hnext item rfl, hitems⟩)
  · rintro ⟨items, trailing, more⟩ hitems
    exact .pure (by simpa using hitems)

theorem Gives.many1 {item : Reader α} (hitem : item.Gives P) :
    item.many1.Gives fun items => ∀ a ∈ items, P a := by
  refine hitem.bind fun first hfirst => ?_
  refine (Gives.iterate (P := fun items : List α => ∀ a ∈ items, P a)
    (by simpa using hfirst) ?_).bind fun items hitems => .pure (by simpa using hitems)
  intro items hitems
  refine hitem.attempt.bind fun next hnext => .pure ?_
  cases next with
  | none => simp
  | some item => simpa using ⟨hnext item rfl, hitems⟩

end CallChain.Python.Reader
