import CallChain.CommandLine.Run
import CallChain.Proofs.Detector.Agreement
import CallChain.Proofs.Session

/-!
# What commands come to

One statement for each command and each of its parts, from a plain session: what it comes to and
what it leaves behind.
-/

namespace CallChain.CommandLine

open CallChain.Action

variable {s t : Session} (hplain : s.IsPlain)

include hplain

theorem loadSettings_gives (path : Option String) (debug : Bool) :
    (loadSettings path debug).Gives s (SettingsFile.load s.surround.yaml s.disk path) s := by
  refine (gives_get s).bind fun s' hs' => ?_
  refine (gives_sayAll_err (hplain.of_alike hs') _).bind fun s'' hs'' => ?_
  exact (gives_ofExcept _ s'').of_alike (hs'.trans hs'')

/-- A command line whose command comes to an exit code ends with this code. -/
theorem run_gives {words : List String} {command : Command} {code : Nat}
    (hparse : parse words = .ok command)
    (hexecute : ∀ s', s.Alike s' → (execute command).Gives s' (.ok code) t) :
    ∃ t', run words s = (.done code, t') ∧ t.Alike t' := by
  obtain ⟨s', hrun, hs'⟩ := gives_setUp hplain {} rfl
  obtain ⟨t', hrun', ht'⟩ := hexecute s' hs'
  refine ⟨t', ?_, ht'⟩
  simp only [run, hrun, hparse, hrun']

/-! ## Listing files -/

omit hplain in
/-- The lines that list files. -/
def fileListing (target : String) (files : List String) : List String :=
  ("[File List] " ++ toString files.length ++ " Python files under " ++ target ++ ":") ::
    files.mapIdx fun i file => "  " ++ toString (i + 1) ++ ". " ++ file

theorem listFiles_gives {target : String} {config : Option String} {settings : Settings}
    {files : List String} (hload : SettingsFile.load s.surround.yaml s.disk config = .ok settings)
    (hfiles : s.disk.targetFiles settings.excludeDirs target = .ok files) :
    (listFiles target config).Gives s (.ok 0)
      { s with out := s.out ++ String.join ((fileListing target files).map (· ++ "\n")) } := by
  have hloaded := loadSettings_gives hplain config false
  rw [hload] at hloaded
  refine hloaded.bind fun s' hs' => (gives_get s').bind fun t ht => ?_
  have hst := hs'.trans ht
  have htargets : s'.disk.targetFiles settings.excludeDirs target = .ok files := by
    rw [hs'.disk, hfiles]
  rw [htargets]
  refine (gives_ofExcept (.ok files) t).bind fun t' ht' => ?_
  have hplain' := hplain.of_alike (hst.trans ht')
  refine (gives_put_out hplain' _).bind fun u hu => ?_
  refine (gives_sayAll_out ⟨hu.copy.trans hplain'.copy, hu.files.trans hplain'.files⟩ _).bind
    fun u' hu' => ?_
  refine (gives_pure 0 u').of_alike (.trans ?_ hu')
  refine .trans ?_ (hu.append_out _)
  rw [fileListing, List.map_cons, String.join_cons, ← String.append_assoc]
  exact ((hst.trans ht').append_out _).append_out _

/-! ## Indexing -/

theorem buildIndex_gives (target : Target) (settings : Settings) :
    (buildIndex target settings).Gives s
      (Index.fromDisk s.disk settings target.path) s := by
  refine gives_timed hplain _ ?_
  have hbuilt : (traced .debug "callpath.analysis.index.CodeIndex.build" do
      let built ← ofExcept (Index.build (← get).disk settings target.path)
      logAll built.2
      ofExcept built.1.finished).Gives s (Index.fromDisk s.disk settings target.path) s := by
    refine gives_traced hplain hplain _ _ fun s' hs' => ?_
    refine (gives_get s').bind fun t ht => ?_
    rw [hs'.disk, Index.fromDisk]
    cases hbuild : Index.build s.disk settings target.path with
    | error failure =>
        exact ((gives_ofExcept (.error failure) t).of_alike (hs'.trans ht)).bind_error
    | ok built =>
        refine (gives_ofExcept (.ok built) t).bind fun t' ht' => ?_
        have hst' := hs'.trans (ht.trans ht')
        refine (gives_logAll (hplain.of_alike hst') built.2).bind fun t'' ht'' => ?_
        exact (gives_ofExcept built.1.finished t'').of_alike (hst'.trans ht'')
  cases hindex : Index.fromDisk s.disk settings target.path with
  | error failure =>
      rw [hindex] at hbuilt
      exact hbuilt.bind_error
  | ok index =>
      rw [hindex] at hbuilt
      refine hbuilt.bind fun t ht => (gives_get t).bind fun t' ht' => ?_
      have hst' := ht.trans ht'
      refine (gives_sayAll_err (hplain.of_alike hst') _).bind fun t'' ht'' => ?_
      exact (gives_pure index t'').of_alike (hst'.trans ht'')

section Indexed

variable {target : Target} {next : Index → Settings → Action Nat} {failure : Failure}

/-- Settings and index of a target are obtained before anything else is done. -/
theorem indexThen_gives {settings : Settings} {index : Index} {result : Except Failure Nat}
    (hload : SettingsFile.load s.surround.yaml s.disk target.config = .ok settings)
    (hbuild : Index.fromDisk s.disk settings target.path = .ok index)
    (hnext : ∀ s', s.Alike s' → (next index settings).Gives s' result t) :
    (indexThen target next).Gives s result t := by
  unfold indexThen
  refine gives_ite _ (gives_sayAll_err hplain _) fun s₁ hs₁ => ?_
  have hloaded := loadSettings_gives (hplain.of_alike hs₁) target.config target.debug
  rw [hs₁.surround, hs₁.disk, hload] at hloaded
  refine hloaded.bind fun s₂ hs₂ => ?_
  have hs₂ := hs₁.trans hs₂
  have hbuilt := buildIndex_gives (hplain.of_alike hs₂) target settings
  rw [hs₂.disk, hbuild] at hbuilt
  exact hbuilt.bind fun s₃ hs₃ => hnext s₃ (hs₂.trans hs₃)

theorem indexThen_gives_error
    (hfails : (do
      let settings ← SettingsFile.load s.surround.yaml s.disk target.config
      Index.fromDisk s.disk settings target.path) = .error failure) :
    (indexThen target next).Gives s (.error failure) s := by
  unfold indexThen
  refine gives_ite _ (gives_sayAll_err hplain _) fun s₁ hs₁ => ?_
  have hloaded := loadSettings_gives (hplain.of_alike hs₁) target.config target.debug
  cases hload : SettingsFile.load s.surround.yaml s.disk target.config with
  | error fault =>
      rw [hload] at hfails
      obtain rfl : fault = failure := Except.error.inj hfails
      rw [hs₁.surround, hs₁.disk, hload] at hloaded
      exact (hloaded.of_alike hs₁).bind_error
  | ok settings =>
      rw [hload] at hfails
      rw [hs₁.surround, hs₁.disk, hload] at hloaded
      refine hloaded.bind fun s₂ hs₂ => ?_
      have hs₂ := hs₁.trans hs₂
      have hbuilt := buildIndex_gives (hplain.of_alike hs₂) target settings
      have hbuild : Index.fromDisk s.disk settings target.path = .error failure := hfails
      rw [hs₂.disk, hbuild] at hbuilt
      exact (hbuilt.of_alike hs₂).bind_error

omit hplain in
/-- The exit code for what a command comes to: a failure of work is reported and has a code too. -/
inductive Ends : Except Failure Nat → Nat → Prop where
  | ok (code : Nat) : Ends (.ok code) code
  | failed {failure : Failure} (hordinary : isOrdinary failure = true) : Ends (.error failure) 1

/-- Without a log file a command ends with the exit code for what it comes to. -/
theorem runLogged_gives {result : Except Failure Nat} {code : Nat} (hends : Ends result code)
    (hfile : target.logFile = none) (ht : t.IsPlain)
    (hindexed : ∀ s', s.Alike s' → (indexThen target next).Gives s' result t) :
    (runLogged target next).Gives s (.ok code) t := by
  have hclose : ∀ t', t.Alike t' →
      (closeCopy >>= fun _ => pure code : Action Nat).Gives t' (.ok code) t := by
    intro t' ht'
    refine (gives_modify _ t').bind fun t'' ht'' => (gives_pure code t'').of_alike (.trans ?_ ht'')
    exact ⟨ht'.surround, ht'.disk, ht'.clock, ht'.out, ht.copy.symm, ht'.files, ht'.servers⟩
  unfold runLogged
  refine (gives_setUp hplain _ hfile).bind fun s₁ hs₁ => ?_
  rw [hfile]
  simp only [Option.filter_none]
  cases hends with
  | ok => exact (hindexed s₁ hs₁).tryCatch_ok.bind hclose
  | failed hordinary =>
      refine Gives.bind ((hindexed s₁ hs₁).tryCatch_error fun t' ht' => ?_) hclose
      have hreturn : ∀ t'', t'.Alike t'' → (pure 1 : Action Nat).Gives t'' (.ok 1) t := fun t'' ht'' =>
        (gives_pure 1 t'').of_alike (ht'.trans ht'')
      simp only [hordinary, Bool.not_true, Bool.false_eq_true, if_false]
      split
      · exact (gives_put_err (ht.of_alike ht') _).bind hreturn
      · exact (gives_say_err (ht.of_alike ht') _).bind hreturn

end Indexed

/-! ## Searching -/

omit hplain in
/-- Making a token brings no signal. -/
theorem signalAt_create (timeout : Option Seconds) (clock : Clock) :
    (CancelToken.create timeout clock).2.signalAt = clock.signalAt := by
  unfold CancelToken.create
  split
  · split <;> rfl
  · rfl

omit hplain in
theorem makeToken_gives (timeout : Option Seconds) (hsignal : s.clock.signalAt = none) :
    (makeToken timeout).Gives s
      ((CancelToken.create timeout s.clock).1.elim (.error .limitTooLarge) .ok)
      { s with clock := (CancelToken.create timeout s.clock).2 } := by
  have hquiet : (CancelToken.create timeout s.clock).2.signalAt = none := by
    rw [signalAt_create, hsignal]
  unfold makeToken
  refine (gives_get s).bind fun s' hs' => ?_
  dsimp only
  generalize CancelToken.create timeout s.clock = made at hquiet ⊢
  obtain ⟨token, clock⟩ := made
  refine (gives_modify _ s').bind fun t ht => ?_
  have hst := (hs'.set_clock clock).trans ht
  have hcalm : ¬ (clock.readings ≠ s.clock.readings ∧ clock.signalAt = some clock.readings) := by
    rw [hquiet]
    exact fun h => nomatch h.2
  simp only [hcalm, if_false]
  cases token with
  | none => exact (gives_throw _ t).of_alike hst
  | some token => exact (gives_pure token t).of_alike hst

section Search

variable {o : Find} {settings : Settings} (index : Index) (start : Routine)
  (hsignal : s.clock.signalAt = none)

include hsignal

omit hplain in
theorem search_gives_error (name : Option String)
    (htoken : (CancelToken.create (timeLimit o settings) s.clock).1 = none) :
    (search o index settings start name).Gives s (.error .limitTooLarge)
      { s with clock := (CancelToken.create (timeLimit o settings) s.clock).2 } := by
  have hmake := makeToken_gives (timeLimit o settings) hsignal
  rw [htoken] at hmake
  exact hmake.bind_error

/-- A search gives the report of the detection with the token that is made for it. -/
theorem search_gives (name : Option String) {token : CancelToken}
    (htoken : (CancelToken.create (timeLimit o settings) s.clock).1 = some token) :
    let detection := Detector.detect index settings (some start) name
      { token := some token, clock := (CancelToken.create (timeLimit o settings) s.clock).2 }
    (search o index settings start name).Gives s detection.report
      { s with clock := detection.run.clock } := by
  intro detection
  have hmake := makeToken_gives (timeLimit o settings) hsignal
  rw [htoken] at hmake
  refine hmake.bind fun t ht => (gives_get t).bind fun t' ht' => ?_
  have hclock : t.clock = (CancelToken.create (timeLimit o settings) s.clock).2 := ht.clock
  rw [hclock]
  refine (gives_modify _ t').bind fun u hu => ?_
  have hsu : ({ s with clock := detection.run.clock } : Session).Alike u :=
    ((ht.trans ht').set_clock _).trans hu
  have hplain' : ({ s with clock := detection.run.clock } : Session).IsPlain :=
    ⟨hplain.copy, hplain.files⟩
  refine (gives_logAll (hplain'.of_alike hsu) _).bind fun u' hu' => ?_
  exact (gives_ofExcept detection.report u').of_alike (hsu.trans hu')

end Search

/-! ## Reports as JSON -/

omit hplain in
/-- A report as a search with JSON prints it. -/
def printedReport (o : Find) (times : TimeTexts) (index : Index) (report : Report) : String :=
  Data.render { pretty := o.pretty, timestamp := some times.iso, indexSummary := index.summary } report ++
    "\n"

theorem showReport_gives {o : Find} (hjson : o.json = true) (index : Index) (report : Report) :
    (showReport o index report).Gives s (.ok ())
      { s with out := s.out ++ printedReport o s.surround.times index report } := by
  unfold showReport
  rw [hjson, if_pos rfl]
  refine (gives_get s).bind fun s₁ hs₁ => ?_
  refine Gives.bind (a := printedReport o s.surround.times index report) (t := s) ?_ fun s₂ hs₂ => ?_
  · refine (gives_log (hplain.of_alike hs₁) _).bind fun s₂ hs₂ => ?_
    exact (gives_pure _ s₂).of_alike (hs₁.trans hs₂)
  · exact (gives_put_out (hplain.of_alike hs₂) _).of_alike (hs₂.append_out _)

section Find

variable {o : Find} {name : String} {index : Index} {settings : Settings} {start : Routine}

/-- Without exactly one start nothing is searched for. -/
theorem runFind_gives_of_no_start (hstarts : ∀ start, index.findRoutines o.start ≠ [start]) :
    (runFind o index settings).Gives s (.ok 1) s := by
  unfold runFind
  split
  · exact (gives_say_err hplain _).bind fun s₁ hs₁ => (gives_pure 1 s₁).of_alike hs₁
  · rename_i start hstart
    exact absurd hstart (hstarts start)
  · refine (gives_say_err hplain _).bind fun s₁ hs₁ => ?_
    refine (gives_sayAll_err (hplain.of_alike hs₁) _).bind fun s₂ hs₂ => ?_
    exact (gives_pure 1 s₂).of_alike (hs₁.trans hs₂)

variable (hmethod : o.method = some name) (houtput : o.output = none) (hjson : o.json = true)
  (hsignal : s.clock.signalAt = none) (hstart : index.findRoutines o.start = [start])

include hmethod hsignal hstart

omit hplain in
theorem runFind_gives_error (htoken : (CancelToken.create (timeLimit o settings) s.clock).1 = none) :
    (runFind o index settings).Gives s (.error .limitTooLarge)
      { s with clock := (CancelToken.create (timeLimit o settings) s.clock).2 } := by
  unfold runFind
  simp only [hstart, hmethod]
  refine (gives_pure (some name) s).bind fun s₁ hs₁ => ?_
  rw [← hs₁.clock] at hsignal htoken ⊢
  exact ((search_gives_error index start hsignal (some name) htoken).of_alike (hs₁.set_clock _)).bind_error

include houtput hjson

/-- A search with a token prints its report. -/
theorem runFind_gives_report {token : CancelToken} {report : Report}
    (htoken : (CancelToken.create (timeLimit o settings) s.clock).1 = some token)
    (hreport : (Detector.detect index settings (some start) (some name)
      { token := some token
        clock := (CancelToken.create (timeLimit o settings) s.clock).2 }).report = .ok report) :
    (runFind o index settings).Gives s (.ok (exitCode report.outcome))
      { s with
        clock := (Detector.detect index settings (some start) (some name)
          { token := some token
            clock := (CancelToken.create (timeLimit o settings) s.clock).2 }).run.clock
        out := s.out ++ printedReport o s.surround.times index report } := by
  let detection := Detector.detect index settings (some start) (some name)
    { token := some token, clock := (CancelToken.create (timeLimit o settings) s.clock).2 }
  have hplain' : ({ s with clock := detection.run.clock } : Session).IsPlain :=
    ⟨hplain.copy, hplain.files⟩
  unfold runFind
  simp only [hstart, hmethod, houtput, Option.filter_none]
  refine (gives_pure (some name) s).bind fun s₁ hs₁ => ?_
  have hsearch : (search o index settings start (some name)).Gives s₁ (.ok report)
      { s with clock := detection.run.clock } := by
    have hclock := hs₁.clock
    rw [← hclock] at hsignal htoken
    have hgives := search_gives (hplain.of_alike hs₁) index start hsignal (some name) htoken
    rw [hclock] at hgives
    simp only [hreport] at hgives
    exact hgives.of_alike (hs₁.set_clock _)
  refine hsearch.bind fun s₂ hs₂ => ?_
  have htimes : s₂.surround.times = s.surround.times := congrArg Surround.times hs₂.surround
  refine (showReport_gives (hplain'.of_alike hs₂) hjson index report).bind fun s₃ hs₃ => ?_
  rw [htimes] at hs₃
  exact (gives_pure _ s₃).of_alike ((hs₂.append_out _).trans hs₃)

end Find

/-! ## Command lines that search -/

section Run

variable {words : List String} {o : Find} {name : String} {settings : Settings} {index : Index}
  (hparse : parse words = .ok (.find o)) (hlog : o.target.logFile = none)

include hparse hlog

/-- Without settings or without an index a search is not made. -/
theorem run_find_of_error {failure : Failure} (hordinary : isOrdinary failure = true)
    (hfails : (do
      let settings ← SettingsFile.load s.surround.yaml s.disk o.target.config
      Index.fromDisk s.disk settings o.target.path) = .error failure) :
    ∃ t, run words s = (.done 1, t) ∧ t.out = s.out := by
  have hlogged : ∀ s₁, s.Alike s₁ → (execute (.find o)).Gives s₁ (.ok 1) s := by
    intro s₁ hs₁
    refine runLogged_gives (hplain.of_alike hs₁) (.failed hordinary) hlog hplain fun s₂ hs₂ => ?_
    have hs₂ := hs₁.trans hs₂
    rw [← hs₂.surround, ← hs₂.disk] at hfails
    exact (indexThen_gives_error (hplain.of_alike hs₂) hfails).of_alike hs₂
  obtain ⟨t, hrun, ht⟩ := run_gives hplain hparse hlogged
  exact ⟨t, hrun, ht.out⟩

variable (hload : SettingsFile.load s.surround.yaml s.disk o.target.config = .ok settings)
  (hbuild : Index.fromDisk s.disk settings o.target.path = .ok index)

include hload hbuild

/-- With both it comes to what the search comes to. -/
theorem run_find_gives {result : Except Failure Nat} {code : Nat} (hends : Ends result code)
    (ht : t.IsPlain)
    (hfind : ∀ s', s.Alike s' → (runFind o index settings).Gives s' result t) :
    ∃ t', run words s = (.done code, t') ∧ t'.out = t.out := by
  have hlogged : ∀ s₁, s.Alike s₁ → (execute (.find o)).Gives s₁ (.ok code) t := by
    intro s₁ hs₁
    refine runLogged_gives (hplain.of_alike hs₁) hends hlog ht fun s₂ hs₂ => ?_
    have hs₂ := hs₁.trans hs₂
    rw [← hs₂.disk] at hload hbuild
    rw [← hs₂.surround] at hload
    exact indexThen_gives (hplain.of_alike hs₂) hload hbuild fun s₃ hs₃ => hfind s₃ (hs₂.trans hs₃)
  obtain ⟨t', hrun, ht'⟩ := run_gives hplain hparse hlogged
  exact ⟨t', hrun, ht'.out⟩

theorem run_find_of_no_start (hstarts : ∀ start, index.findRoutines o.start ≠ [start]) :
    ∃ t, run words s = (.done 1, t) ∧ t.out = s.out :=
  run_find_gives hplain hparse hlog hload hbuild (.ok 1) hplain fun _ hs' =>
    (runFind_gives_of_no_start (hplain.of_alike hs') hstarts).of_alike hs'

variable {start : Routine} (hmethod : o.method = some name)
  (hsignal : s.clock.signalAt = none) (hstart : index.findRoutines o.start = [start])

include hmethod hsignal hstart

theorem run_find_of_limit (htoken : (CancelToken.create (timeLimit o settings) s.clock).1 = none) :
    ∃ t, run words s = (.done 1, t) ∧ t.out = s.out := by
  have hplain' : ({ s with clock := (CancelToken.create (timeLimit o settings) s.clock).2 } :
      Session).IsPlain := ⟨hplain.copy, hplain.files⟩
  have hfind : ∀ s', s.Alike s' → (runFind o index settings).Gives s' (.error .limitTooLarge)
      { s with clock := (CancelToken.create (timeLimit o settings) s.clock).2 } := by
    intro s' hs'
    rw [← hs'.clock] at hsignal htoken ⊢
    exact (runFind_gives_error hmethod hsignal hstart htoken).of_alike (hs'.set_clock _)
  obtain ⟨t, hrun, hout⟩ :=
    run_find_gives hplain hparse hlog hload hbuild (.failed rfl) hplain' hfind
  exact ⟨t, hrun, hout⟩

theorem run_find_of_report (houtput : o.output = none) (hjson : o.json = true) {token : CancelToken}
    {report : Report} (htoken : (CancelToken.create (timeLimit o settings) s.clock).1 = some token)
    (hreport : (Detector.detect index settings (some start) (some name)
      { token := some token
        clock := (CancelToken.create (timeLimit o settings) s.clock).2 }).report = .ok report) :
    ∃ t, run words s = (.done (exitCode report.outcome), t) ∧
      t.out = s.out ++ printedReport o s.surround.times index report := by
  let clock := (Detector.detect index settings (some start) (some name)
    { token := some token, clock := (CancelToken.create (timeLimit o settings) s.clock).2 }).run.clock
  let printed := printedReport o s.surround.times index report
  have hplain' : ({ s with clock, out := s.out ++ printed } : Session).IsPlain :=
    ⟨hplain.copy, hplain.files⟩
  have hfind : ∀ s', s.Alike s' → (runFind o index settings).Gives s' (.ok (exitCode report.outcome))
      { s with clock, out := s.out ++ printed } := by
    intro s' hs'
    have hclock := hs'.clock
    have htimes : s'.surround.times = s.surround.times := congrArg Surround.times hs'.surround
    rw [← hclock] at hsignal htoken hreport
    have hgives := runFind_gives_report (hplain.of_alike hs') hmethod houtput hjson hsignal hstart
      htoken hreport
    rw [hclock, htimes] at hgives
    exact hgives.of_alike ((hs'.append_out _).set_clock _)
  obtain ⟨t, hrun, hout⟩ :=
    run_find_gives hplain hparse hlog hload hbuild (.ok _) hplain' hfind
  exact ⟨t, hrun, hout⟩

end Run

end CallChain.CommandLine
