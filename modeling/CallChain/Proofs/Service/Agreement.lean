import CallChain.Proofs.CommandLine.Run
import CallChain.Proofs.Service.Answers

/-!
# Command lines and requests

A search can be asked for on the command line and by a request.  Both obtain settings and index, look
for the start, make a token and report; `Agrees` says that they come to the same.  On a clock that
stands still they do, with one exception (`find_agrees_iff`): a time limit of zero means no limit
on the command line, but in a request it counts as none given, so that the limit of the settings
holds.
-/

namespace CallChain.Service

open CommandLine (Find Exit run exitCode parse timeLimit printedReport)
open CallChain.Action (isOrdinary)

/-- The request for the search that a command line asks for. -/
def requestFor (o : Find) : FindRequest where
  start := o.start
  method := o.method
  subject := { targetPath := some o.target.path, configPath := o.target.config }
  config := none
  timeout := o.timeout

/-- A command line, run from a session, and a request come to the same: success and exit code zero
belong together, cancellation and exit code 130, and a report that is printed has the outcome and the
candidates of the response. -/
structure Agrees (s : Session) (ended : Exit × Session) (answer : Except Failure FindResponse) :
    Prop where
  success : ended.1 = .done 0 ↔ ∃ response, answer = .ok response ∧ response.success = true
  canceled : ended.1 = .done 130 ↔
    ∃ response, answer = .ok response ∧ response.outcome = some .canceled
  report : ended.2.out = s.out ∨ ∃ options report response,
    ended.2.out = s.out ++ (Data.render options report ++ "\n") ∧ answer = .ok response ∧
      response.outcome = some report.outcome ∧ response.candidates = report.candidates

/-! ## Settings and index -/

/-- What keeps settings or index from being obtained is no interruption. -/
theorem isOrdinary_of_prepare {yaml : YamlReader} {disk : Disk} {config : Option Value}
    {subject : Subject} {failure : Failure}
    (hprepare : prepare yaml disk config subject = .error failure) : isOrdinary failure = true := by
  rcases prepare_eq_error hprepare with hreported | ⟨rfl, hyaml⟩
  · cases failure with
    | interrupted => cases hreported
    | _ => rfl
  · obtain ⟨fault, hfault, -⟩ := prepare_of_breaksOff hyaml
    rw [hprepare] at hfault
    cases hfault
    cases fault <;> rfl

/-- A target that is there is indexed the same way. -/
theorem indexFor_of_contains {disk : Disk} {o : Find} (settings : Settings)
    (hcontains : disk.contains o.target.path = true) :
    indexFor disk settings (requestFor o).subject = Index.fromDisk disk settings o.target.path := by
  have hpath : o.target.path ≠ "" := by
    rintro hempty
    obtain ⟨found, hfind⟩ := Disk.contains_iff.mp hcontains
    rw [hempty] at hfind
    cases hfind
  have hfilter : (some o.target.path).filter (· != "") = some o.target.path := by simpa using hpath
  simp only [indexFor, requestFor, Option.getD_none, hfilter, hcontains, if_true]

theorem indexFor_of_not_contains {disk : Disk} {o : Find} (settings : Settings)
    (hcontains : disk.contains o.target.path = false) :
    ∃ failure, indexFor disk settings (requestFor o).subject = .error failure := by
  simp only [indexFor, requestFor, Option.getD_none]
  cases hfilter : (some o.target.path).filter (· != "") with
  | none => exact ⟨_, rfl⟩
  | some path =>
      obtain ⟨rfl, -⟩ : o.target.path = path ∧ path ≠ "" := by simpa using hfilter
      simp only [hcontains, Bool.false_eq_true, if_false]
      exact ⟨_, rfl⟩

theorem prepare_of_settings {yaml : YamlReader} {disk : Disk} {config : Option Value}
    {subject : Subject} {settings : Settings}
    (hsettings : settingsFor yaml disk config subject.configPath = .ok settings) :
    prepare yaml disk config subject = (indexFor disk settings subject).map (settings, ·) := by
  rw [prepare, hsettings]
  change (indexFor disk settings subject >>= fun index => pure (settings, index)) = _
  cases indexFor disk settings subject <;> rfl

/-- Both obtain the same settings and index, or neither does. -/
theorem prepare_requestFor (yaml : YamlReader) (disk : Disk) (o : Find) :
    (∃ settings index, prepare yaml disk none (requestFor o).subject = .ok (settings, index) ∧
      SettingsFile.load yaml disk o.target.config = .ok settings ∧
      Index.fromDisk disk settings o.target.path = .ok index) ∨
    ∃ failure other, prepare yaml disk none (requestFor o).subject = .error failure ∧
      isOrdinary other = true ∧
      (do
        let settings ← SettingsFile.load yaml disk o.target.config
        Index.fromDisk disk settings o.target.path) = .error other := by
  cases hload : SettingsFile.load yaml disk o.target.config with
  | error failure =>
      have hprepare : prepare yaml disk none (requestFor o).subject = .error failure :=
        bind_eq_error_iff.mpr (Or.inl hload)
      exact Or.inr ⟨failure, failure, hprepare, isOrdinary_of_prepare hprepare, rfl⟩
  | ok settings =>
      have hprepare : prepare yaml disk none (requestFor o).subject =
          (indexFor disk settings (requestFor o).subject).map (settings, ·) :=
        prepare_of_settings hload
      cases hcontains : disk.contains o.target.path with
      | false =>
          have hbuild : Index.fromDisk disk settings o.target.path =
              .error (.targetNotFound o.target.path) := by
            rw [Index.fromDisk, Index.build, hcontains]
            rfl
          obtain ⟨failure, hindex⟩ := indexFor_of_not_contains settings hcontains
          rw [hindex] at hprepare
          exact Or.inr ⟨failure, .targetNotFound o.target.path, hprepare, rfl, hbuild⟩
      | true =>
          rw [indexFor_of_contains settings hcontains] at hprepare
          cases hbuild : Index.fromDisk disk settings o.target.path with
          | error failure =>
              rw [hbuild] at hprepare
              exact Or.inr ⟨failure, failure, hprepare, isOrdinary_of_prepare hprepare, hbuild⟩
          | ok index =>
              rw [hbuild] at hprepare
              exact Or.inl ⟨settings, index, hprepare, rfl, hbuild⟩

/-! ## Agreement -/

theorem exitCode_eq_zero_iff (outcome : Outcome) :
    exitCode outcome = 0 ↔ outcome.isCompleted = true := by
  cases outcome <;> simp [exitCode, Outcome.isCompleted]

theorem exitCode_eq_canceled_iff (outcome : Outcome) :
    exitCode outcome = 130 ↔ outcome = .canceled := by
  cases outcome <;> simp [exitCode, Outcome.isCompleted]

/-- Neither success nor cancellation, as far as there is a response. -/
def Declined (answer : Except Failure FindResponse) : Prop :=
  ∀ response, answer = .ok response → response.success = false ∧ response.outcome ≠ some .canceled

section Agrees

variable {s t : Session} {answer : Except Failure FindResponse}

/-- A command line that prints nothing and ends with the code for failures agrees with what is
declined. -/
theorem agrees_of_declined (hout : t.out = s.out) (hanswer : Declined answer) :
    Agrees s (.done 1, t) answer := by
  refine ⟨iff_of_false nofun ?_, iff_of_false nofun ?_, Or.inl hout⟩
  · rintro ⟨response, hresponse, hsuccess⟩
    rw [(hanswer response hresponse).1] at hsuccess
    cases hsuccess
  · rintro ⟨response, hresponse, houtcome⟩
    exact (hanswer response hresponse).2 houtcome

/-- A command line that prints a report agrees with a response to the same outcome and
candidates. -/
theorem agrees_of_report {o : Find} {times : TimeTexts} {index : Index} {report report' : Report}
    (hout : t.out = s.out ++ printedReport o times index report)
    (houtcome : report.outcome = report'.outcome)
    (hcandidates : report.candidates = report'.candidates) :
    Agrees s (.done (exitCode report.outcome), t) (.ok (.ofReport index report')) := by
  refine ⟨?_, ?_, Or.inr ⟨_, report, _, hout, rfl, ?_, hcandidates.symm⟩⟩
  · rw [Exit.done.injEq, exitCode_eq_zero_iff, houtcome]
    simp [FindResponse.ofReport]
  · rw [Exit.done.injEq, exitCode_eq_canceled_iff, houtcome]
    simp [FindResponse.ofReport]
  · rw [houtcome]
    rfl

end Agrees

/-! ## What is declined -/

section Declined

variable {yaml : YamlReader} {disk : Disk} {request : FindRequest} {clock : Clock}
  {settings : Settings} {index : Index}

/-- A response that holds errors only declines. -/
theorem declined_of_errors (errors : List String) (summary : Entries) :
    Declined (.ok { success := false, errors, summary }) := by
  intro response hresponse
  cases hresponse
  exact ⟨rfl, (Option.some_ne_none _).symm⟩

theorem declined_of_error {failure : Failure}
    (hprepare : prepare yaml disk request.config request.subject = .error failure) :
    Declined (findCallPaths yaml disk request clock).1 := by
  rw [findCallPaths_of_error hprepare]
  split
  · exact declined_of_errors _ _
  · intro response hresponse
    cases hresponse

theorem declined_of_no_start
    (hprepare : prepare yaml disk request.config request.subject = .ok (settings, index))
    (hstarts : ∀ start, index.findRoutines request.start ≠ [start]) :
    Declined (findCallPaths yaml disk request clock).1 := by
  rw [findCallPaths, hprepare]
  -- by `hstarts` the match falls through to its last case
  simp only
  exact declined_of_errors _ _

/-- What is left of a detection under a limit beyond the clock is refusals. -/
theorem declined_of_limitTooLarge {start : Option Routine} {name : Option String} {run : Run}
    (hlimit : Detector.LimitTooLarge settings run) :
    Declined ((Detector.detect index settings start name run).report.map (.ofReport index)) := by
  have hrefuses : ∀ {outcome},
      Detector.Refused run (Detector.detect index settings start name run) outcome →
      outcome.isCompleted = false → outcome ≠ .canceled →
      Declined ((Detector.detect index settings start name run).report.map (.ofReport index)) := by
    rintro outcome ⟨report, hreport, rfl, -⟩ hcompleted hcanceled response hresponse
    rw [hreport] at hresponse
    cases hresponse
    exact ⟨hcompleted, fun h => hcanceled (Option.some.inj h)⟩
  cases Detector.detect_reported index settings start name run with
  | emptyStart _ hrefused => exact hrefuses hrefused rfl nofun
  | noTargetName _ _ hrefused => exact hrefuses hrefused rfl nofun
  | targetNotFound _ _ hrefused => exact hrefuses hrefused rfl nofun
  | targetHasNoBody _ _ _ hrefused => exact hrefuses hrefused rfl nofun
  | limitTooLarge _ _ _ _ hfails =>
      intro response hresponse
      rw [hfails] at hresponse
      cases hresponse
  | canceled _ _ _ hkept | completed _ _ _ hkept => exact absurd hlimit hkept

end Declined

/-! ## Command lines against requests -/

/-- A request has the time limit zero, and the limit of the settings, which then holds, is beyond the
clock or stops the search. -/
def ZeroLimitIgnored (yaml : YamlReader) (disk : Disk) (request : FindRequest) (clock : Clock) :
    Prop :=
  ∃ settings index start name seconds,
    prepare yaml disk request.config request.subject = .ok (settings, index) ∧
    index.findRoutines request.start = [start] ∧
    Detector.Given (some start) request.method start name ∧
    index.findRoutines (Text.trim name) ≠ [] ∧
    ¬ Detector.Aborts settings start (index.findRoutines (Text.trim name)) ∧
    request.timeout = some seconds ∧ (seconds == 0.0) = true ∧
    (Detector.LimitTooLarge settings { clock } ∨
      Detector.Canceled index settings start (index.findRoutines (Text.trim name)) { clock })

/-- The words of a command line are those of a search for a name that prints JSON and writes no
files; the session writes none either, and its clock stands still. -/
structure Asks (s : Session) (words : List String) (o : Find) (name : String) : Prop where
  parses : parse words = .ok (.find o)
  method : o.method = some name
  json : o.json = true
  output : o.output = none
  logFile : o.target.logFile = none
  plain : s.IsPlain
  still : s.clock.IsStill

/-- Settings, index and start that the command line and the request obtain. -/
structure Obtains (s : Session) (o : Find) (settings : Settings) (index : Index) (start : Routine) :
    Prop where
  prepared : prepare s.surround.yaml s.disk none (requestFor o).subject = .ok (settings, index)
  loaded : SettingsFile.load s.surround.yaml s.disk o.target.config = .ok settings
  built : Index.fromDisk s.disk settings o.target.path = .ok index
  start_eq : index.findRoutines o.start = [start]

section Find

variable {s : Session} {words : List String} {o : Find} {name : String} {settings : Settings}
  {index : Index} {start : Routine}

/-- The response to the request for a search. -/
theorem Obtains.findCallPaths_eq (hobtains : Obtains s o settings index start)
    (hmethod : o.method = some name) (clock : Clock) :
    (findCallPaths s.surround.yaml s.disk (requestFor o) clock).1 =
      (Detector.detect index settings (some start) (some name)
        (runFor (requestFor o) clock)).report.map (.ofReport index) := by
  have hprepared : prepare s.surround.yaml s.disk (requestFor o).config (requestFor o).subject =
      .ok (settings, index) := hobtains.prepared
  have hstart : index.findRoutines (requestFor o).start = [start] := hobtains.start_eq
  have hname : (requestFor o).method = some name := hmethod
  rw [findCallPaths, hprepared]
  simp only [hstart, searchFor_eq, hname]

/-- Nothing else is obtained. -/
theorem Obtains.unique {settings' : Settings} {index' : Index} {start' : Routine}
    (hobtains : Obtains s o settings index start)
    (hprepared : prepare s.surround.yaml s.disk none (requestFor o).subject = .ok (settings', index'))
    (hstart : index'.findRoutines o.start = [start']) :
    settings = settings' ∧ index = index' ∧ start = start' := by
  obtain ⟨rfl, rfl⟩ : settings = settings' ∧ index = index' := by
    simpa using hobtains.prepared.symm.trans hprepared
  exact ⟨rfl, rfl, by simpa using hobtains.start_eq.symm.trans hstart⟩

variable (hasks : Asks s words o name) (hobtains : Obtains s o settings index start)

include hasks hobtains

theorem run_of_report {token : CancelToken} {report : Report}
    (htoken : (CancelToken.create (timeLimit o settings) s.clock).1 = some token)
    (hreport : (Detector.detect index settings (some start) (some name)
      { token := some token
        clock := (CancelToken.create (timeLimit o settings) s.clock).2 }).report = .ok report) :
    ∃ t, run words s = (.done (exitCode report.outcome), t) ∧
      t.out = s.out ++ printedReport o s.surround.times index report :=
  CommandLine.run_find_of_report hasks.plain hasks.parses hasks.logFile hobtains.loaded hobtains.built
    hasks.method hasks.still.signalAt hobtains.start_eq hasks.output hasks.json htoken hreport

/-- With a token on the command line both agree if their runs make no difference. -/
theorem agrees_of_runs {token : CancelToken}
    (htoken : (CancelToken.create (timeLimit o settings) s.clock).1 = some token)
    (hruns : ∀ n, Detector.Given (some start) (some name) start n →
      index.findRoutines (Text.trim n) ≠ [] →
      ¬ Detector.Aborts settings start (index.findRoutines (Text.trim n)) →
      ¬ Detector.LimitTooLarge settings (runFor (requestFor o) s.clock) ∧
        (Detector.Canceled index settings start (index.findRoutines (Text.trim n))
            { token := some token, clock := (CancelToken.create (timeLimit o settings) s.clock).2 } ↔
          Detector.Canceled index settings start (index.findRoutines (Text.trim n))
            (runFor (requestFor o) s.clock))) :
    Agrees s (run words s) (findCallPaths s.surround.yaml s.disk (requestFor o) s.clock).1 := by
  have hagree : ∃ report report',
      (Detector.detect index settings (some start) (some name)
        { token := some token
          clock := (CancelToken.create (timeLimit o settings) s.clock).2 }).report = .ok report ∧
      (Detector.detect index settings (some start) (some name)
        (runFor (requestFor o) s.clock)).report = .ok report' ∧
      report.outcome = report'.outcome ∧ report.candidates = report'.candidates := by
    refine Detector.reports_agree fun start' n hgiven hsome haborts => ?_
    obtain rfl : start = start' := Option.some.inj hgiven.1
    exact ⟨Detector.not_limitTooLarge_of_token rfl, hruns n hgiven hsome haborts⟩
  obtain ⟨report, report', hreport, hreport', houtcome, hcandidates⟩ := hagree
  obtain ⟨t, hends, hout⟩ := run_of_report hasks hobtains htoken hreport
  rw [hends, hobtains.findCallPaths_eq hasks.method, hreport']
  exact agrees_of_report hout houtcome hcandidates

/-- A time limit other than zero makes the same token for both, before the search. -/
theorem agrees_of_limit {seconds : Float} (htimeout : o.timeout = some seconds)
    (hzero : (seconds == 0.0) = false) :
    Agrees s (run words s) (findCallPaths s.surround.yaml s.disk (requestFor o) s.clock).1 := by
  have hlimit : timeLimit o settings = some (.float seconds) := by rw [timeLimit, htimeout]; rfl
  have hrun : runFor (requestFor o) s.clock =
      { token := (CancelToken.create (timeLimit o settings) s.clock).1
        clock := (CancelToken.create (timeLimit o settings) s.clock).2 } := by
    have hfilter : o.timeout.filter (fun x => !(x == 0.0)) = some seconds := by
      rw [htimeout, Option.filter_some, hzero]
      rfl
    rw [hlimit]
    simp only [runFor, requestFor, hfilter]
  obtain ⟨token, htoken⟩ : ∃ token,
      (CancelToken.create (timeLimit o settings) s.clock).1 = some token := by
    rw [hlimit]
    simp [CancelToken.create, Seconds.isZero, hzero, Seconds.toFloat?]
  rw [htoken] at hrun
  refine agrees_of_runs hasks hobtains htoken fun n _ _ _ => ?_
  rw [hrun]
  exact ⟨Detector.not_limitTooLarge_of_token rfl, Iff.rfl⟩

/-- Without a time limit that of the settings holds for both. -/
theorem agrees_of_no_limit (htimeout : o.timeout = none) :
    Agrees s (run words s) (findCallPaths s.surround.yaml s.disk (requestFor o) s.clock).1 := by
  have hlimit : timeLimit o settings = settings.timeout := by rw [timeLimit, htimeout]; rfl
  have hrun : runFor (requestFor o) s.clock = { clock := s.clock } := by
    simp only [runFor, requestFor, htimeout, Option.filter_none]
  cases htoken : (CancelToken.create settings.timeout s.clock).1 with
  | none =>
      obtain ⟨t, hends, hout⟩ := CommandLine.run_find_of_limit hasks.plain hasks.parses hasks.logFile
        hobtains.loaded hobtains.built hasks.method hasks.still.signalAt hobtains.start_eq
        (by rw [hlimit, htoken])
      rw [hends, hobtains.findCallPaths_eq hasks.method, hrun]
      exact agrees_of_declined hout
        (declined_of_limitTooLarge (Detector.create_eq_none_iff.mp htoken))
  | some token =>
      have hkept : ¬ Detector.LimitTooLarge settings { clock := s.clock } := by
        rw [← Detector.create_eq_none_iff, htoken]
        exact nofun
      rw [← hlimit] at htoken
      refine agrees_of_runs hasks hobtains htoken fun n _ _ _ => ?_
      rw [hlimit] at htoken ⊢
      rw [hrun]
      exact ⟨hkept, Detector.canceled_create_iff hasks.still _ _ htoken⟩

section Zero

variable {seconds : Float} (htimeout : o.timeout = some seconds) (hzero : (seconds == 0.0) = true)

include htimeout hzero

omit hasks hobtains in
/-- The time limit zero is one on the command line, and lifts that of the settings. -/
theorem create_of_zero (settings : Settings) (clock : Clock) :
    CancelToken.create (timeLimit o settings) clock = (some {}, clock) := by
  have hlimit : timeLimit o settings = some (.float seconds) := by rw [timeLimit, htimeout]; rfl
  rw [hlimit, CancelToken.create, Seconds.isZero, if_pos hzero]

omit hasks hobtains in
/-- In a request it is none. -/
theorem runFor_of_zero (clock : Clock) : runFor (requestFor o) clock = { clock } := by
  have hfilter : o.timeout.filter (fun x => !(x == 0.0)) = none := by
    rw [htimeout, Option.filter_some, hzero]
    rfl
  simp only [runFor, requestFor, hfilter]

/-- If the limit of the settings makes a difference to the search, then so does the time limit
zero. -/
theorem not_agrees_of_zero {n : String} (hgiven : Detector.Given (some start) (some name) start n)
    (hsome : index.findRoutines (Text.trim n) ≠ [])
    (haborts : ¬ Detector.Aborts settings start (index.findRoutines (Text.trim n)))
    (hdiffers : Detector.LimitTooLarge settings { clock := s.clock } ∨
      Detector.Canceled index settings start (index.findRoutines (Text.trim n)) { clock := s.clock }) :
    ¬ Agrees s (run words s) (findCallPaths s.surround.yaml s.disk (requestFor o) s.clock).1 := by
  have hcreate := create_of_zero htimeout hzero settings s.clock
  obtain ⟨report, hreport, -, hfolds, -⟩ := Detector.detect_completed hgiven hsome haborts
    (Detector.not_limitTooLarge_of_token rfl) (Detector.not_canceled_of_unlimited hasks.still start _)
  obtain ⟨t, hends, hout⟩ :=
    run_of_report hasks hobtains (by rw [hcreate]) (by rw [hcreate]; exact hreport)
  rw [hends, hobtains.findCallPaths_eq hasks.method, runFor_of_zero htimeout hzero]
  intro hagrees
  by_cases hlimit : Detector.LimitTooLarge settings { clock := s.clock }
  · -- there is no response, but a report is printed
    rw [Detector.detect_of_limitTooLarge hgiven hsome haborts hlimit] at hagrees
    rcases hagrees.report with hsilent | ⟨_, _, _, -, hresponse, -⟩
    · rw [hout, printedReport] at hsilent
      simp at hsilent
    · cases hresponse
  · -- the response is canceled, but the printed report is complete
    obtain ⟨report', hreport', houtcome, -⟩ :=
      Detector.detect_canceled hgiven hsome haborts hlimit (hdiffers.resolve_left hlimit)
    rw [hreport'] at hagrees
    have hcode : Exit.done (exitCode report.outcome) = .done 130 :=
      hagrees.canceled.mpr ⟨_, rfl, congrArg some houtcome⟩
    exact (hfolds.unique hfolds).2 ((exitCode_eq_canceled_iff _).mp (Exit.done.inj hcode))

/-- The time limit zero makes a difference exactly if the limit of the settings does. -/
theorem agrees_iff_of_zero :
    Agrees s (run words s) (findCallPaths s.surround.yaml s.disk (requestFor o) s.clock).1 ↔
      ¬ ZeroLimitIgnored s.surround.yaml s.disk (requestFor o) s.clock := by
  have hcreate := create_of_zero htimeout hzero settings s.clock
  constructor
  · rintro hagrees ⟨settings', index', start', n, -, hprepared, hstart, hgiven, hsome, haborts, -, -,
      hdiffers⟩
    obtain ⟨rfl, rfl, rfl⟩ := hobtains.unique hprepared hstart
    have hname : (requestFor o).method = some name := hasks.method
    rw [hname] at hgiven
    exact not_agrees_of_zero hasks hobtains htimeout hzero hgiven hsome haborts hdiffers hagrees
  · intro hheeded
    refine agrees_of_runs hasks hobtains (by rw [hcreate]) fun n hgiven hsome haborts => ?_
    have hsame : ¬ (Detector.LimitTooLarge settings { clock := s.clock } ∨ Detector.Canceled index
        settings start (index.findRoutines (Text.trim n)) { clock := s.clock }) := by
      intro hdiffers
      rw [← hasks.method] at hgiven
      exact hheeded ⟨settings, index, start, n, seconds, hobtains.prepared, hobtains.start_eq, hgiven,
        hsome, haborts, htimeout, hzero, hdiffers⟩
    rw [runFor_of_zero htimeout hzero, hcreate]
    refine ⟨fun h => hsame (Or.inl h), iff_of_false ?_ fun h => hsame (Or.inr h)⟩
    exact Detector.not_canceled_of_unlimited hasks.still start _

end Zero

end Find

/-- On a clock that stands still, a command line that searches for a name and prints JSON comes to
the same as the request for this search, unless the time limit zero is not heeded by the request. -/
theorem find_agrees_iff {s : Session} {words : List String} {o : Find} {name : String}
    (hasks : Asks s words o name) :
    Agrees s (run words s) (findCallPaths s.surround.yaml s.disk (requestFor o) s.clock).1 ↔
      ¬ ZeroLimitIgnored s.surround.yaml s.disk (requestFor o) s.clock := by
  rcases prepare_requestFor s.surround.yaml s.disk o with ⟨settings, index, hprepared, hloaded, hbuilt⟩ |
    ⟨failure, other, hfailed, hordinary, hfails⟩
  · by_cases hstarts : ∃ start, index.findRoutines o.start = [start]
    · obtain ⟨start, hstart⟩ := hstarts
      have hobtains : Obtains s o settings index start := ⟨hprepared, hloaded, hbuilt, hstart⟩
      cases htimeout : o.timeout with
      | none =>
          refine iff_of_true (agrees_of_no_limit hasks hobtains htimeout) ?_
          rintro ⟨-, -, -, -, seconds, -, -, -, -, -, hseconds, -⟩
          cases htimeout.symm.trans hseconds
      | some seconds =>
          cases hzero : seconds == 0.0 with
          | true => exact agrees_iff_of_zero hasks hobtains htimeout hzero
          | false =>
              refine iff_of_true (agrees_of_limit hasks hobtains htimeout hzero) ?_
              rintro ⟨-, -, -, -, seconds', -, -, -, -, -, hseconds, hzero', -⟩
              obtain rfl : seconds = seconds' := Option.some.inj (htimeout.symm.trans hseconds)
              rw [hzero] at hzero'
              cases hzero'
    · obtain ⟨t, hends, hout⟩ := CommandLine.run_find_of_no_start hasks.plain hasks.parses
        hasks.logFile hloaded hbuilt (not_exists.mp hstarts)
      rw [hends]
      refine iff_of_true
        (agrees_of_declined hout (declined_of_no_start hprepared (not_exists.mp hstarts))) ?_
      rintro ⟨settings', index', start, -, -, hprepared', hstart, -⟩
      obtain ⟨-, rfl⟩ : settings = settings' ∧ index = index' := by
        simpa using hprepared.symm.trans hprepared'
      exact hstarts ⟨start, hstart⟩
  · obtain ⟨t, hends, hout⟩ :=
      CommandLine.run_find_of_error hasks.plain hasks.parses hasks.logFile hordinary hfails
    rw [hends]
    refine iff_of_true (agrees_of_declined hout (declined_of_error hfailed)) ?_
    rintro ⟨settings, index, -, -, -, hprepared, -⟩
    cases hfailed.symm.trans hprepared

/-! ## The time limit zero in a sample -/

/-- A source file, and settings with a time limit of so many nines that no double is as large. -/
def immenseDisk : Disk where
  tree := .directory
    [("c.json",
        .file (some (Utf8.encode "\x7b\"timeout\": " ++ List.replicate 309 57 ++ Utf8.encode "\x7d"))),
      ("m.py", .file (Utf8.encode "def main(): work()\ndef work(): return 1\n"))]

/-- A command line with the time limit zero, and more options. -/
def zeroWords (more : List String) : List String :=
  ["find", "--target", "m.py", "--start", "main", "--method", "work", "--format", "json",
    "--timeout", "0"] ++ more

def zeroSearch (config : Option String) : Find where
  target := { path := "m.py", config }
  start := "main"
  method := some "work"
  json := true
  timeout := some 0.0

def sampleSession : Session := { surround := { times := ⟨"", "", ""⟩ }, disk := immenseDisk }

theorem asks_sample : Asks sampleSession (zeroWords []) (zeroSearch none) "work" :=
  ⟨rfl, rfl, rfl, rfl, rfl, ⟨rfl, rfl⟩, ⟨fun _ => rfl, rfl⟩⟩

theorem asks_sample_with_settings :
    Asks sampleSession (zeroWords ["--config", "c.json"]) (zeroSearch (some "c.json")) "work" :=
  ⟨rfl, rfl, rfl, rfl, rfl, ⟨rfl, rfl⟩, ⟨fun _ => rfl, rfl⟩⟩

/-- Without a settings file there is no limit that could hold instead of zero. -/
theorem find_agrees_iff_of_no_settings :
    Asks sampleSession (zeroWords []) (zeroSearch none) "work" ∧
      Agrees sampleSession (run (zeroWords []) sampleSession)
        (findCallPaths SettingsFile.plainYaml immenseDisk (requestFor (zeroSearch none)) {}).1 := by
  refine ⟨asks_sample, (find_agrees_iff asks_sample).mpr ?_⟩
  rintro ⟨settings, index, start, name, -, hprepared, -, -, -, -, -, -, hdiffers⟩
  have hload : settingsFor SettingsFile.plainYaml immenseDisk none (requestFor (zeroSearch none)).subject.configPath =
      .ok {} := rfl
  have hsettings : settings = {} := by
    have hmapped := (prepare_of_settings hload).symm.trans hprepared
    cases hindex : indexFor immenseDisk {} (requestFor (zeroSearch none)).subject with
    | error failure =>
        rw [hindex] at hmapped
        cases hmapped
    | ok index =>
        rw [hindex] at hmapped
        cases hmapped
        rfl
  subst hsettings
  rcases hdiffers with ⟨-, n, hlimit, -⟩ | hcanceled
  · cases hlimit
  · exact Search.not_seesCancelled_of_token_none _ rfl hcanceled

/-- Whether a search for `work` from `main` comes to a limit beyond the doubles. -/
def comesToLimit (settings : Settings) (index : Index) : Bool :=
  match settings.timeout, index.findRoutines "main" with
  | some (.int n), [start] =>
    decide (Seconds.overflow ≤ n.natAbs) && settings.bodilessTarget != .abort && start.hasBody &&
      !(index.findRoutines (Text.trim "work")).isEmpty
  | _, _ => false

/-- With the settings file the command line prints what it found, and the request has no
response. -/
theorem zero_limit_is_ignored :
    Asks sampleSession (zeroWords ["--config", "c.json"]) (zeroSearch (some "c.json")) "work" ∧
      ¬ Agrees sampleSession (run (zeroWords ["--config", "c.json"]) sampleSession)
        (findCallPaths SettingsFile.plainYaml immenseDisk (requestFor (zeroSearch (some "c.json"))) {}).1 := by
  have hcomes : ((prepare SettingsFile.plainYaml immenseDisk none
      (requestFor (zeroSearch (some "c.json"))).subject).toOption.any fun (settings, index) =>
        comesToLimit settings index) = true := by
    decide +kernel
  refine ⟨asks_sample_with_settings, ?_⟩
  rcases prepare_requestFor SettingsFile.plainYaml immenseDisk (zeroSearch (some "c.json")) with
    ⟨settings, index, hprepared, hloaded, hbuilt⟩ | ⟨failure, -, hfailed, -⟩
  · rw [hprepared] at hcomes
    change comesToLimit settings index = true at hcomes
    unfold comesToLimit at hcomes
    split at hcomes
    · rename_i n start htimeout hstart
      simp only [Bool.and_eq_true, decide_eq_true_eq, bne_iff_ne, ne_eq, Bool.not_eq_true',
        List.isEmpty_eq_false_iff] at hcomes
      obtain ⟨⟨⟨hlimit, habort⟩, hbody⟩, hsome⟩ := hcomes
      have hobtains : Obtains sampleSession (zeroSearch (some "c.json")) settings index start :=
        ⟨hprepared, hloaded, hbuilt, hstart⟩
      have hgiven : Detector.Given (some start) (some "work") start "work" :=
        ⟨rfl, hbody, rfl, by decide⟩
      exact not_agrees_of_zero asks_sample_with_settings hobtains rfl (by decide +kernel) hgiven hsome
        (fun haborts => habort haborts.1) (Or.inl ⟨rfl, n, htimeout, hlimit⟩)
    · cases hcomes
  · rw [hfailed] at hcomes
    cases hcomes

end CallChain.Service
