import CallChain.Session.Tracing

/-!
# What an action comes to

Commands say much on the error output that has no influence on anything.  Two sessions are `Alike`
if they differ in that output, and in how log records are laid out, at most.  `Gives` says what an
action comes to and which session it leaves behind, up to that difference; it is proved for a
composed action from its parts, and the actions that log or trace others do not change it.

In a plain session neither a copy nor a log file receives what is printed or logged, so printing and
logging leave the disk alone.
-/

namespace CallChain

/-- Two sessions that differ in the error output and in the level and layout of the log at most. -/
structure Session.Alike (s t : Session) : Prop where
  surround : t.surround = s.surround
  disk : t.disk = s.disk
  clock : t.clock = s.clock
  out : t.out = s.out
  copy : t.copy = s.copy
  files : t.log.files = s.log.files
  servers : t.servers = s.servers

/-- A session without a copy of what is printed and without log files. -/
structure Session.IsPlain (s : Session) : Prop where
  copy : s.copy = none
  files : s.log.files = []

namespace Session

variable {s t u : Session}

theorem Alike.refl (s : Session) : s.Alike s := ⟨rfl, rfl, rfl, rfl, rfl, rfl, rfl⟩

theorem Alike.trans (hst : s.Alike t) (htu : t.Alike u) : s.Alike u :=
  ⟨htu.surround.trans hst.surround, htu.disk.trans hst.disk, htu.clock.trans hst.clock,
    htu.out.trans hst.out, htu.copy.trans hst.copy, htu.files.trans hst.files,
    htu.servers.trans hst.servers⟩

/-- Sessions that are alike stay so if the same is printed, or their clocks are set to the same. -/
theorem Alike.append_out (hst : s.Alike t) (text : String) :
    ({ s with out := s.out ++ text } : Session).Alike { t with out := t.out ++ text } :=
  ⟨hst.surround, hst.disk, hst.clock, congrArg (· ++ text) hst.out, hst.copy, hst.files, hst.servers⟩

theorem Alike.set_clock (hst : s.Alike t) (clock : Clock) :
    ({ s with clock } : Session).Alike { t with clock } :=
  ⟨hst.surround, hst.disk, rfl, hst.out, hst.copy, hst.files, hst.servers⟩

theorem IsPlain.of_alike (hplain : s.IsPlain) (hst : s.Alike t) : t.IsPlain :=
  ⟨hst.copy.trans hplain.copy, hst.files.trans hplain.files⟩

theorem IsPlain.print_out (hplain : s.IsPlain) (text : String) :
    s.print .out text = { s with out := s.out ++ text } := by
  simp only [print, hplain.copy]

theorem IsPlain.alike_print_err (hplain : s.IsPlain) (text : String) :
    s.Alike (s.print .err text) := by
  simp only [print, hplain.copy]
  exact ⟨rfl, rfl, rfl, rfl, hplain.copy.symm, rfl, rfl⟩

theorem IsPlain.alike_emit (hplain : s.IsPlain) (record : Log.Record) : s.Alike (s.emit record) := by
  rw [emit]
  split
  · exact Alike.refl s
  · rw [hplain.files]
    exact ⟨rfl, rfl, rfl, rfl, rfl, rfl, rfl⟩

end Session

namespace Action

variable {α β : Type} {s t u : Session}

/-! ## Running composed actions -/

theorem runIn_bind (act : Action α) (next : α → Action β) (s : Session) :
    (act >>= next).runIn s = match act.runIn s with
      | (.ok a, t) => (next a).runIn t
      | (.error failure, t) => (.error failure, t) := by
  unfold runIn ExceptT.run StateT.run
  simp only [bind, ExceptT.bind, ExceptT.mk, StateT.bind, ExceptT.bindCont]
  cases act s with
  | mk result t => cases result <;> rfl

theorem runIn_tryCatch (act : Action α) (handle : Failure → Action α) (s : Session) :
    (tryCatch act handle).runIn s = match act.runIn s with
      | (.ok a, t) => (.ok a, t)
      | (.error failure, t) => (handle failure).runIn t := by
  unfold runIn ExceptT.run StateT.run
  simp only [tryCatch, tryCatchThe, MonadExceptOf.tryCatch, ExceptT.tryCatch, ExceptT.mk, bind,
    StateT.bind]
  cases act s with
  | mk result t => cases result <;> rfl

/-- From `s` the action comes to `result` and leaves a session like `t`. -/
def Gives (act : Action α) (s : Session) (result : Except Failure α) (t : Session) : Prop :=
  ∃ t', act.runIn s = (result, t') ∧ t.Alike t'

section Composed

variable {act : Action α} {next : α → Action β} {a : α} {failure : Failure}

theorem Gives.bind {result : Except Failure β} (hact : act.Gives s (.ok a) t)
    (hnext : ∀ t', t.Alike t' → (next a).Gives t' result u) : (act >>= next).Gives s result u := by
  obtain ⟨t', hrun, halike⟩ := hact
  obtain ⟨u', hrun', halike'⟩ := hnext t' halike
  refine ⟨u', ?_, halike'⟩
  rw [runIn_bind, hrun]
  exact hrun'

theorem Gives.bind_error (hact : act.Gives s (.error failure) t) :
    (act >>= next).Gives s (.error failure) t := by
  obtain ⟨t', hrun, halike⟩ := hact
  refine ⟨t', ?_, halike⟩
  rw [runIn_bind, hrun]

theorem Gives.tryCatch_ok {handle : Failure → Action α} (hact : act.Gives s (.ok a) t) :
    (tryCatch act handle).Gives s (.ok a) t := by
  obtain ⟨t', hrun, halike⟩ := hact
  refine ⟨t', ?_, halike⟩
  rw [runIn_tryCatch, hrun]

theorem Gives.tryCatch_error {handle : Failure → Action α} {result : Except Failure α}
    (hact : act.Gives s (.error failure) t)
    (hhandle : ∀ t', t.Alike t' → (handle failure).Gives t' result u) :
    (tryCatch act handle).Gives s result u := by
  obtain ⟨t', hrun, halike⟩ := hact
  obtain ⟨u', hrun', halike'⟩ := hhandle t' halike
  refine ⟨u', ?_, halike'⟩
  rw [runIn_tryCatch, hrun]
  exact hrun'

/-- What is left behind is known up to what makes no difference. -/
theorem Gives.of_alike {result : Except Failure α} (hact : act.Gives s result t) (halike : u.Alike t) :
    act.Gives s result u := by
  obtain ⟨t', hrun, halike'⟩ := hact
  exact ⟨t', hrun, halike.trans halike'⟩

end Composed

/-! ## Single actions -/

theorem gives_pure (a : α) (s : Session) : (pure a : Action α).Gives s (.ok a) s :=
  ⟨s, rfl, .refl s⟩

theorem gives_throw (failure : Failure) (s : Session) :
    (throw failure : Action α).Gives s (.error failure) s :=
  ⟨s, rfl, .refl s⟩

theorem gives_get (s : Session) : (get : Action Session).Gives s (.ok s) s :=
  ⟨s, rfl, .refl s⟩

theorem gives_modify (change : Session → Session) (s : Session) :
    (modify change : Action Unit).Gives s (.ok ()) (change s) :=
  ⟨change s, rfl, .refl _⟩

theorem gives_ofExcept (result : Except Failure α) (s : Session) :
    (ofExcept result : Action α).Gives s result s :=
  ⟨s, by cases result <;> rfl, .refl s⟩

/-- Before an action another one, without influence, may be done or left out. -/
theorem gives_ite {act : Action Unit} {next : Unit → Action β} {result : Except Failure β} (c : Prop)
    [Decidable c] (hact : act.Gives s (.ok ()) s)
    (hnext : ∀ s', s.Alike s' → (next ()).Gives s' result u) :
    (if c then act >>= next else next ()).Gives s result u := by
  split
  · exact hact.bind hnext
  · exact hnext s (.refl s)

section Plain

variable (hplain : s.IsPlain)

include hplain

theorem gives_log (record : Log.Record) : (log record).Gives s (.ok ()) s :=
  (gives_modify _ s).of_alike (hplain.alike_emit record)

theorem gives_logAll (records : List Log.Record) : (logAll records).Gives s (.ok ()) s := by
  refine (gives_modify _ s).of_alike ?_
  induction records generalizing s with
  | nil => exact .refl s
  | cons record rest ih =>
      have hfirst := hplain.alike_emit record
      exact hfirst.trans (ih (hplain.of_alike hfirst))

theorem gives_say_err (line : String) : (say .err line).Gives s (.ok ()) s :=
  (gives_modify _ s).of_alike (hplain.alike_print_err _)

theorem gives_put_err (text : String) : (put .err text).Gives s (.ok ()) s :=
  (gives_modify _ s).of_alike (hplain.alike_print_err text)

theorem gives_sayAll_err (lines : List String) : (sayAll .err lines).Gives s (.ok ()) s := by
  refine (gives_modify _ s).of_alike ?_
  induction lines generalizing s with
  | nil => exact .refl s
  | cons line rest ih =>
      have hfirst := hplain.alike_print_err (line ++ "\n")
      exact hfirst.trans (ih (hplain.of_alike hfirst))

theorem gives_put_out (text : String) :
    (put .out text).Gives s (.ok ()) { s with out := s.out ++ text } := by
  refine (gives_modify _ s).of_alike ?_
  rw [hplain.print_out]
  exact .refl _

/-- Lines as they are printed. -/
theorem gives_sayAll_out (lines : List String) :
    (sayAll .out lines).Gives s (.ok ())
      { s with out := s.out ++ String.join (lines.map (· ++ "\n")) } := by
  refine (gives_modify _ s).of_alike ?_
  induction lines generalizing s with
  | nil =>
      simp only [List.map_nil, String.join_nil, String.append_empty]
      exact .refl s
  | cons line rest ih =>
      have hnext : ({ s with out := s.out ++ (line ++ "\n") } : Session).IsPlain :=
        ⟨hplain.copy, hplain.files⟩
      rw [List.foldl_cons, hplain.print_out, List.map_cons, String.join_cons, ← String.append_assoc]
      exact ih hnext

/-- Tracing an action changes nothing about it. -/
theorem gives_traced {act : Action α} {result : Except Failure α} (ht : t.IsPlain) (level : Log.Level)
    (name : String) (hact : ∀ s', s.Alike s' → act.Gives s' result t) :
    (traced level name act).Gives s result t := by
  refine (gives_log hplain _).bind fun s' hs' => ?_
  cases result with
  | ok a =>
      refine (hact s' hs').tryCatch_ok.bind fun t' ht' => ?_
      refine (gives_log (ht.of_alike ht') _).bind fun t'' ht'' => ?_
      exact (gives_pure a t'').of_alike (ht'.trans ht'')
  | error failure =>
      refine ((hact s' hs').tryCatch_error fun t' ht' => ?_).bind_error
      refine gives_ite _ (gives_log (ht.of_alike ht') _) fun t'' ht'' => ?_
      exact (gives_throw failure t'').of_alike (ht'.trans ht'')

omit hplain in
theorem gives_timed {act : Action α} {result : Except Failure α} (ht : t.IsPlain) (name : String)
    (hact : act.Gives s result t) : (timed name act).Gives s result t := by
  cases result with
  | ok a =>
      refine hact.tryCatch_ok.bind fun t' ht' => ?_
      refine (gives_log (ht.of_alike ht') _).bind fun t'' ht'' => ?_
      exact (gives_pure a t'').of_alike (ht'.trans ht'')
  | error failure =>
      refine (hact.tryCatch_error fun t' ht' => ?_).bind_error
      refine (gives_log (ht.of_alike ht') _).bind fun t'' ht'' => ?_
      exact (gives_throw failure t'').of_alike (ht'.trans ht'')

/-- Without a log file the log is set up without further notice. -/
theorem gives_setUp (request : Log.Request) (hfile : request.file = none) :
    (Log.setUp request).Gives s (.ok ()) s := by
  have hconfigure : ∀ request : Log.Request, request.file = none → request.layout = Log.defaultLayout →
      (Log.configure request).Gives s (.ok ()) s := by
    intro request hfile hlayout
    unfold Log.configure
    rw [hfile, hlayout]
    have hfield : (!Text.Percent.hasNamedField Log.defaultLayout.toList) = false := by decide
    refine (gives_modify _ s).bind fun t ht => ?_
    rw [hfield]
    refine (gives_modify _ t).bind fun t' ht' => ?_
    refine (gives_pure () t').of_alike (.trans (t := t) ?_ (.trans ?_ ht'))
    · exact ⟨ht.surround, ht.disk, ht.clock, ht.out, ht.copy, ht.files, ht.servers⟩
    · exact ⟨rfl, rfl, rfl, rfl, rfl, rfl, rfl⟩
  unfold Log.setUp
  rw [hfile]
  refine (hconfigure _ rfl rfl).bind fun t ht => ?_
  refine (gives_get t).bind fun t' ht' => ?_
  refine (gives_log (hplain.of_alike (ht.trans ht')) _).bind fun t'' ht'' => ?_
  exact (gives_pure () t'').of_alike (ht.trans (ht'.trans ht''))

end Plain

end Action

end CallChain
