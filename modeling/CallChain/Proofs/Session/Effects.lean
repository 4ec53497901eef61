import CallChain.Proofs.Session

/-!
# What actions do in any session

`Gives` follows an action from a plain session to the end.  Here are weaker statements that hold from
every session, with log files and copies of the output: `Returns` says what an action can come to, and
a `Quiet` action prints nothing on the standard output, whether it fails or not.  Both are proved for
a composed action from its parts.
-/

namespace CallChain

/-! ## Sessions with the same output -/

namespace Session

/-- Nothing was printed on the standard output between the two sessions. -/
structure SameOutput (s t : Session) : Prop where
  out : t.out = s.out
  surround : t.surround = s.surround

variable {s t u : Session}

theorem SameOutput.refl (s : Session) : s.SameOutput s := ⟨rfl, rfl⟩

theorem SameOutput.trans (hst : s.SameOutput t) (htu : t.SameOutput u) : s.SameOutput u :=
  ⟨htu.out.trans hst.out, htu.surround.trans hst.surround⟩

theorem sameOutput_addTo (s : Session) (path text : String) : s.SameOutput (s.addTo path text) :=
  ⟨rfl, rfl⟩

theorem sameOutput_print_err (s : Session) (text : String) : s.SameOutput (s.print .err text) := by
  rw [print]
  split
  · exact ⟨rfl, rfl⟩
  · exact ⟨rfl, rfl⟩

theorem sameOutput_foldl {α : Type} {f : Session → α → Session}
    (hf : ∀ (s : Session) (a : α), s.SameOutput (f s a)) (items : List α) (s : Session) :
    s.SameOutput (items.foldl f s) := by
  induction items generalizing s with
  | nil => exact .refl s
  | cons item rest ih => exact (hf s item).trans (ih (f s item))

theorem sameOutput_emit (s : Session) (record : Log.Record) : s.SameOutput (s.emit record) := by
  rw [emit]
  split
  · exact .refl s
  · rename_i line _
    exact .trans (t := { s with err := s.err ++ line }) ⟨rfl, rfl⟩
      (sameOutput_foldl (fun s path => sameOutput_addTo s path line) _ _)

/-- Between the two sessions a text was printed on the standard output. -/
structure Adds (s t : Session) (text : String) : Prop where
  out : t.out = s.out ++ text
  surround : t.surround = s.surround

variable {text : String}

theorem SameOutput.adds (hst : s.SameOutput t) : s.Adds t "" :=
  ⟨by rw [hst.out, String.append_empty], hst.surround⟩

theorem SameOutput.trans_adds (hst : s.SameOutput t) (htu : t.Adds u text) : s.Adds u text :=
  ⟨by rw [htu.out, hst.out], htu.surround.trans hst.surround⟩

theorem Adds.trans_same (hst : s.Adds t text) (htu : t.SameOutput u) : s.Adds u text :=
  ⟨htu.out.trans hst.out, htu.surround.trans hst.surround⟩

/-- What is printed is added to the output, wherever a copy of it goes. -/
theorem adds_print_out (s : Session) (text : String) : s.Adds (s.print .out text) text := by
  rw [print]
  split
  · exact ⟨rfl, rfl⟩
  · exact ⟨rfl, rfl⟩

end Session

namespace Action

variable {α β : Type} {act : Action α} {next : α → Action β} {s : Session}

/-! ## What actions can come to -/

/-- From some session the action comes to a result. -/
def Returns (act : Action α) (a : α) : Prop := ∃ s t, act.runIn s = (.ok a, t)

theorem Returns.of_bind {b : β} (hreturns : (act >>= next).Returns b) :
    ∃ a, act.Returns a ∧ (next a).Returns b := by
  obtain ⟨s, u, hrun⟩ := hreturns
  rw [runIn_bind] at hrun
  split at hrun
  · rename_i a t hact
    exact ⟨a, ⟨s, t, hact⟩, t, u, hrun⟩
  · cases hrun

theorem Returns.of_tryCatch {handle : Failure → Action α} {a : α}
    (hreturns : (tryCatch act handle).Returns a) :
    act.Returns a ∨ ∃ failure, (handle failure).Returns a := by
  obtain ⟨s, u, hrun⟩ := hreturns
  rw [runIn_tryCatch] at hrun
  split at hrun
  · rename_i b t hact
    cases hrun
    exact Or.inl ⟨s, u, hact⟩
  · rename_i failure t hact
    exact Or.inr ⟨failure, t, u, hrun⟩

theorem Returns.of_pure {a b : α} (hreturns : (pure a : Action α).Returns b) : a = b := by
  obtain ⟨s, t, hrun⟩ := hreturns
  cases hrun
  rfl

theorem not_returns_throw {failure : Failure} {a : α} : ¬ (throw failure : Action α).Returns a := by
  rintro ⟨s, t, hrun⟩
  cases hrun

theorem Returns.of_ofExcept {result : Except Failure α} {a : α}
    (hreturns : (ofExcept result : Action α).Returns a) : result = .ok a := by
  obtain ⟨s, t, hrun⟩ := hreturns
  cases result with
  | error failure => cases hrun
  | ok b =>
      cases hrun
      rfl

theorem not_returns_noted {note : Action Unit} {failure : Failure} {a : α} :
    ¬ (note >>= fun _ => throw failure : Action α).Returns a := by
  intro hreturns
  obtain ⟨-, -, hthrown⟩ := hreturns.of_bind
  exact not_returns_throw hthrown

theorem Returns.of_timed {name : String} {a : α} (hreturns : (timed name act).Returns a) :
    act.Returns a := by
  obtain ⟨b, hact, hrest⟩ := hreturns.of_bind
  obtain ⟨-, -, hpure⟩ := hrest.of_bind
  cases hpure.of_pure
  refine hact.of_tryCatch.resolve_right ?_
  rintro ⟨failure, hfailed⟩
  exact not_returns_noted hfailed

theorem Returns.of_traced {level : Log.Level} {name : String} {a : α}
    (hreturns : (traced level name act).Returns a) : act.Returns a := by
  obtain ⟨-, -, hrest⟩ := hreturns.of_bind
  obtain ⟨b, hact, hrest⟩ := hrest.of_bind
  obtain ⟨-, -, hpure⟩ := hrest.of_bind
  cases hpure.of_pure
  refine hact.of_tryCatch.resolve_right ?_
  rintro ⟨failure, hfailed⟩
  split at hfailed
  · exact not_returns_noted hfailed
  · exact not_returns_throw hfailed

/-- What comes next matters only as far as it can be reached. -/
theorem bind_congr_of_returns {other : α → Action β}
    (hnext : ∀ a, act.Returns a → next a = other a) : act >>= next = act >>= other := by
  funext s
  change (act >>= next).runIn s = (act >>= other).runIn s
  rw [runIn_bind, runIn_bind]
  cases hact : act.runIn s with
  | mk result t =>
      cases result with
      | error failure => rfl
      | ok a => simp only [hnext a ⟨s, t, hact⟩]

/-! ## Actions that print nothing on the standard output -/

/-- The action leaves the standard output as it is. -/
def Quiet (act : Action α) : Prop := ∀ s : Session, s.SameOutput (act.runIn s).2

theorem quiet_pure (a : α) : (pure a : Action α).Quiet := fun s => .refl s

theorem quiet_throw (failure : Failure) : (throw failure : Action α).Quiet := fun s => .refl s

theorem quiet_get : (get : Action Session).Quiet := fun s => .refl s

theorem quiet_ofExcept (result : Except Failure α) : (ofExcept result : Action α).Quiet := by
  intro s
  cases result <;> exact .refl s

theorem quiet_modify {change : Session → Session} (hchange : ∀ s : Session, s.SameOutput (change s)) :
    (modify change : Action Unit).Quiet := hchange

/-- What comes next prints nothing more. -/
theorem sameOutput_bind (s : Session) (hnext : ∀ a, (next a).Quiet) :
    (act.runIn s).2.SameOutput ((act >>= next).runIn s).2 := by
  rw [runIn_bind]
  split
  · rename_i a t hrun
    rw [hrun]
    exact hnext a t
  · rename_i failure t hrun
    rw [hrun]
    exact .refl t

theorem Quiet.bind (hact : act.Quiet) (hnext : ∀ a, (next a).Quiet) : (act >>= next).Quiet :=
  fun s => (hact s).trans (sameOutput_bind s hnext)

theorem Quiet.tryCatch {handle : Failure → Action α} (hact : act.Quiet)
    (hhandle : ∀ failure, (handle failure).Quiet) : (tryCatch act handle).Quiet := by
  intro s
  have hfirst := hact s
  rw [runIn_tryCatch]
  split
  · rename_i a t hrun
    rwa [hrun] at hfirst
  · rename_i failure t hrun
    rw [hrun] at hfirst
    exact hfirst.trans (hhandle failure t)

/-- Before an action another one may be done or left out. -/
theorem quiet_ite {first : Action Unit} {next : Unit → Action β} (c : Prop) [Decidable c]
    (hfirst : first.Quiet) (hnext : ∀ u, (next u).Quiet) :
    (if c then first >>= next else next ()).Quiet := by
  split
  · exact hfirst.bind hnext
  · exact hnext ()

theorem quiet_say_err (line : String) : (say .err line).Quiet :=
  quiet_modify fun s => s.sameOutput_print_err _

theorem quiet_put_err (text : String) : (put .err text).Quiet :=
  quiet_modify fun s => s.sameOutput_print_err text

theorem quiet_sayAll_err (lines : List String) : (sayAll .err lines).Quiet :=
  quiet_modify (Session.sameOutput_foldl (fun s _ => s.sameOutput_print_err _) lines)

theorem quiet_log (record : Log.Record) : (log record).Quiet :=
  quiet_modify fun s => s.sameOutput_emit record

theorem quiet_logAll (records : List Log.Record) : (logAll records).Quiet :=
  quiet_modify (Session.sameOutput_foldl Session.sameOutput_emit records)

theorem quiet_changeDisk (change : Disk → Except FileFault Disk) : (changeDisk change).Quiet := by
  refine quiet_get.bind fun s => ?_
  split
  · exact quiet_modify fun s => ⟨rfl, rfl⟩
  · exact quiet_throw _

theorem Quiet.traced (hact : act.Quiet) (level : Log.Level) (name : String) :
    (traced level name act).Quiet := by
  refine (quiet_log _).bind fun _ => ?_
  refine (hact.tryCatch fun failure => ?_).bind fun a => (quiet_log _).bind fun _ => quiet_pure a
  split
  · exact (quiet_log _).bind fun _ => quiet_throw failure
  · exact quiet_throw failure

theorem Quiet.timed (hact : act.Quiet) (name : String) : (timed name act).Quiet :=
  (hact.tryCatch fun failure => (quiet_log _).bind fun _ => quiet_throw failure).bind fun a =>
    (quiet_log _).bind fun _ => quiet_pure a

end Action

namespace Log

open CallChain.Action

theorem quiet_setConfig (config : Session → Config) :
    (modify fun s => { s with log := config s } : Action Unit).Quiet :=
  quiet_modify fun _ => ⟨rfl, rfl⟩

theorem quiet_configure (request : Request) : (configure request).Quiet := by
  unfold configure
  refine (quiet_setConfig _).bind fun _ => ?_
  refine quiet_ite _ (quiet_throw _) fun _ => ?_
  refine (quiet_setConfig _).bind fun _ => ?_
  split
  · exact quiet_pure ()
  · refine quiet_get.bind fun s₁ => quiet_get.bind fun s₂ => ?_
    split
    · exact (quiet_changeDisk _).bind fun _ => quiet_setConfig _
    · exact quiet_pure ()

/-- Setting up the log leaves the standard output alone. -/
theorem quiet_setUp (request : Request) : (setUp request).Quiet := by
  have hrest : ∀ {last : Action Unit}, last.Quiet → (do
      configure { request with layout := defaultLayout }
      Action.log (debug ("callpath 日志已配置 - 级别: " ++ levelName (← get).log.level))
      last).Quiet := fun hlast =>
    (quiet_configure _).bind fun _ => quiet_get.bind fun s => (quiet_log _).bind fun _ => hlast
  unfold setUp
  split
  · exact hrest (quiet_pure ())
  · refine quiet_get.bind fun s => ?_
    exact quiet_ite _ (quiet_changeDisk _) fun _ => hrest (quiet_log _)

end Log

end CallChain
