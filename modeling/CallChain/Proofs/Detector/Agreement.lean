import CallChain.Proofs.Detector.Report

/-!
# Searches with different tokens

What a detection reports depends on the run in two ways only: whether a limit beyond the doubles
keeps it from searching, and whether some poll stops it.  Two runs for which these are the same
report the same outcome and the same candidates (`reports_agree`).

A token without a deadline stops nothing (`not_canceled_of_unlimited`).  On a clock that stands
still it makes no difference whether the token for the limit of the settings is made before the
detection or by it (`canceled_create_iff`).
-/

namespace CallChain

open Search (Event)

/-! ## Tokens without a deadline -/

namespace Run

/-- The token is neither cancelled nor has a deadline, and nobody is going to cancel it. -/
structure Unlimited (run : Run) : Prop where
  token : run.token = some {}
  cancelAt : run.cancelAt = none

theorem Unlimited.poll {run : Run} (hrun : run.Unlimited) : run.poll = (false, run) := by
  obtain ⟨htoken, -⟩ := hrun
  unfold Run.poll
  rw [htoken]
  simp [CancelToken.poll, ← htoken]

theorem Unlimited.after {run : Run} (hrun : run.Unlimited) (event : Event) :
    (run.after event).Unlimited := by
  cases event with
  | begin => exact ⟨hrun.token, hrun.cancelAt⟩
  | poll =>
      rw [Run.after, hrun.poll]
      exact hrun
  | expand r => exact ⟨by simp [Run.after, expand, note, hrun.token, hrun.cancelAt], hrun.cancelAt⟩
  | handOff site r => exact ⟨hrun.token, hrun.cancelAt⟩
  | arrive chain => exact hrun

theorem Unlimited.foldl_after {run : Run} (hrun : run.Unlimited) (events : List Event) :
    (events.foldl Run.after run).Unlimited := by
  induction events generalizing run with
  | nil => exact hrun
  | cons event rest ih => exact ih (hrun.after event)

theorem Unlimited.not_seesCancelled {run : Run} (hrun : run.Unlimited) (events : List Event) :
    ¬ SeesCancelled events run := by
  rintro ⟨earlier, later, -, hpoll⟩
  rw [(hrun.foldl_after earlier).poll] at hpoll
  cases hpoll

end Run

/-! ## A clock that stands still -/

/-- A clock that neither moves on nor brings a signal. -/
structure Clock.IsStill (clock : Clock) : Prop where
  next : ∀ count, clock.next count clock.now = clock.now
  signalAt : clock.signalAt = none

theorem Clock.IsStill.signalled {clock : Clock} (hstill : clock.IsStill) :
    clock.read.signalled = false := by
  rw [Clock.read, hstill.signalAt]
  rfl

theorem Clock.IsStill.time {clock : Clock} (hstill : clock.IsStill) :
    clock.read.clock.read.time = clock.read.time :=
  hstill.next (clock.readings + 1)

theorem Clock.IsStill.read {clock : Clock} (hstill : clock.IsStill) : clock.read.clock.IsStill := by
  refine ⟨fun count => ?_, hstill.signalAt⟩
  change clock.next count (clock.next (clock.readings + 1) clock.now) =
    clock.next (clock.readings + 1) clock.now
  rw [hstill.next, hstill.next]

namespace Detector

section Tokens

variable {settings : Settings} {clock : Clock}

/-- With a token of its own a detection begins its searches with this token. -/
theorem armed_of_token (hstill : clock.IsStill) (token : CancelToken) :
    armed settings { token := some token, clock } =
      { token := some token, clock := clock.read.clock } := by
  simp only [armed, opened, hstill.signalled, Bool.false_eq_true, if_false, withToken]

/-- Without one it makes the token for the limit of the settings. -/
theorem armed_of_no_token {seconds : Seconds} (htimeout : settings.timeout = some seconds) :
    armed settings { clock } =
      { token := (CancelToken.create (some seconds) clock.read.clock).1
        clock := (CancelToken.create (some seconds) clock.read.clock).2 } := by
  simp only [armed, opened, Option.map_none, ite_self, withToken, htimeout]

/-- The token for the limit of the settings may as well be made before the detection. -/
theorem armed_create (hstill : clock.IsStill) {seconds : Seconds} {token : CancelToken}
    (htimeout : settings.timeout = some seconds)
    (htoken : (CancelToken.create (some seconds) clock).1 = some token) :
    armed settings { token := some token, clock := (CancelToken.create (some seconds) clock).2 } =
      armed settings { clock } := by
  rw [armed_of_no_token htimeout]
  unfold CancelToken.create at htoken ⊢
  by_cases hzero : seconds.isZero = true
  · simp only [hzero, if_true] at htoken ⊢
    cases htoken
    exact armed_of_token hstill _
  · simp only [hzero, if_false, Bool.false_eq_true] at htoken ⊢
    -- both clocks are read twice, and show the same time
    rw [hstill.time, htoken]
    exact armed_of_token hstill.read token

end Tokens

section Runs

variable {index : Index} {settings : Settings} {start : Option Routine} {name : Option String}
  {run other : Run}

theorem not_limitTooLarge_of_token {token : CancelToken} (htoken : run.token = some token) :
    ¬ LimitTooLarge settings run := by
  rintro ⟨hnone, -⟩
  rw [htoken] at hnone
  cases hnone

/-- The limit of the settings is beyond the doubles exactly if there is no token for it. -/
theorem create_eq_none_iff {clock : Clock} :
    (CancelToken.create settings.timeout clock).1 = none ↔ LimitTooLarge settings { clock } := by
  rw [← withToken_fails_iff, withToken]
  cases settings.timeout with
  | none => simp [CancelToken.create]
  | some seconds => simp

section Canceled

variable {clock : Clock} (hstill : clock.IsStill) (start : Routine) (candidates : List Routine)

include hstill

/-- A token without a deadline stops no search. -/
theorem not_canceled_of_unlimited :
    ¬ Canceled index settings start candidates { token := some {}, clock } := by
  rw [Canceled, armed_of_token hstill]
  exact Run.Unlimited.not_seesCancelled ⟨rfl, rfl⟩ _

/-- The token for the limit of the settings stops the same searches, whoever makes it. -/
theorem canceled_create_iff {token : CancelToken}
    (htoken : (CancelToken.create settings.timeout clock).1 = some token) :
    Canceled index settings start candidates
        { token := some token, clock := (CancelToken.create settings.timeout clock).2 } ↔
      Canceled index settings start candidates { clock } := by
  cases htimeout : settings.timeout with
  | none =>
      rw [htimeout] at htoken
      cases htoken
      refine iff_of_false (not_canceled_of_unlimited hstill start candidates) ?_
      have harmed : (armed settings { clock }).token = none := by
        simp only [armed, opened, Option.map_none, ite_self, withToken, htimeout]
      exact Search.not_seesCancelled_of_token_none _ harmed
  | some seconds =>
      rw [htimeout] at htoken
      rw [Canceled, Canceled, armed_create hstill htimeout htoken]

end Canceled

/-! ## Equal reports -/

/-- The result of a candidate is determined. -/
theorem SearchedAlone.unique {graph : CallGraph} {policy : HandOffPolicy} {start target : Routine}
    {candidate candidate' : Candidate} (halone : SearchedAlone graph policy start target candidate)
    (halone' : SearchedAlone graph policy start target candidate') : candidate = candidate' := by
  have hparts : candidate.outcome = candidate'.outcome ∧ candidate.paths = candidate'.paths := by
    cases hstart : target == start with
    | true =>
        obtain ⟨houtcome, hpaths⟩ := halone.isStart hstart
        obtain ⟨houtcome', hpaths'⟩ := halone'.isStart hstart
        exact ⟨houtcome.trans houtcome'.symm, hpaths.trans hpaths'.symm⟩
    | false =>
        cases hbody : target.hasBody with
        | false =>
            obtain ⟨houtcome, hpaths⟩ := halone.noBody hstart hbody
            obtain ⟨houtcome', hpaths'⟩ := halone'.noBody hstart hbody
            exact ⟨houtcome.trans houtcome'.symm, hpaths.trans hpaths'.symm⟩
        | true =>
            obtain ⟨hfound, houtcome⟩ := halone.searched hstart hbody
            obtain ⟨hfound', houtcome'⟩ := halone'.searched hstart hbody
            have hpaths : candidate.paths = candidate'.paths :=
              Option.some.inj (hfound.symm.trans hfound')
            refine ⟨?_, hpaths⟩
            rw [hpaths] at houtcome
            rcases houtcome with ⟨houtcome, hsome⟩ | ⟨houtcome, hnil⟩
            · exact houtcome.trans (houtcome'.resolve_right fun h => hsome h.2).1.symm
            · exact houtcome.trans (houtcome'.resolve_left fun h => h.2 hnil).1.symm
  obtain ⟨target', outcome, paths⟩ := candidate
  obtain ⟨target'', outcome', paths'⟩ := candidate'
  obtain rfl : target' = target := halone.target_eq
  obtain rfl : target'' = target' := halone'.target_eq
  obtain ⟨rfl, rfl⟩ := hparts
  rfl

/-- A folded outcome is one of four, and determined. -/
theorem Folds.unique {candidates : List Candidate} {outcome outcome' : Outcome}
    (hfolds : Folds candidates outcome) (hfolds' : Folds candidates outcome') :
    outcome = outcome' ∧ outcome ≠ .canceled := by
  by_cases hfound : ∃ c ∈ candidates, c.outcome = .pathsFound
  · rw [hfolds.found hfound, hfolds'.found hfound]
    exact ⟨rfl, nofun⟩
  by_cases hbodiless : ∀ c ∈ candidates, c.outcome = .targetHasNoBody
  · rw [hfolds.allBodiless hbodiless, hfolds'.allBodiless hbodiless]
    exact ⟨rfl, nofun⟩
  by_cases hallStart : ∀ c ∈ candidates, c.outcome = .targetIsStart
  · rw [hfolds.allStart hallStart, hfolds'.allStart hallStart]
    exact ⟨rfl, nofun⟩
  · rw [hfolds.otherwise hfound hbodiless hallStart, hfolds'.otherwise hfound hbodiless hallStart]
    exact ⟨rfl, nofun⟩

/-- Refusals do not depend on the run. -/
theorem Refused.agree {outcome : Outcome} {detection detection' : Detection}
    (hrefused : Refused run detection outcome) (hrefused' : Refused other detection' outcome) :
    ∃ report report', detection.report = .ok report ∧ detection'.report = .ok report' ∧
      report.outcome = report'.outcome ∧ report.candidates = report'.candidates := by
  obtain ⟨report, hreport, houtcome, hcandidates, -⟩ := hrefused
  obtain ⟨report', hreport', houtcome', hcandidates', -⟩ := hrefused'
  exact ⟨report, report', hreport, hreport', houtcome.trans houtcome'.symm,
    hcandidates.trans hcandidates'.symm⟩

/-- Two detections whose searches, if they come to them, can be made and are both stopped or both
not, report the same. -/
theorem reports_agree (hruns : ∀ s n, Given start name s n → index.findRoutines (Text.trim n) ≠ [] →
      ¬ Aborts settings s (index.findRoutines (Text.trim n)) →
      ¬ LimitTooLarge settings run ∧ ¬ LimitTooLarge settings other ∧
        (Canceled index settings s (index.findRoutines (Text.trim n)) run ↔
          Canceled index settings s (index.findRoutines (Text.trim n)) other)) :
    ∃ report report', (detect index settings start name run).report = .ok report ∧
      (detect index settings start name other).report = .ok report' ∧
      report.outcome = report'.outcome ∧ report.candidates = report'.candidates := by
  cases detect_reported index settings start name run with
  | emptyStart hstart hrefused => exact hrefused.agree (detect_of_no_start hstart)
  | noTargetName hstart hname hrefused =>
      obtain ⟨s, rfl, hbody⟩ := hstart
      exact hrefused.agree (detect_of_no_name hbody hname)
  | targetNotFound hgiven hnone hrefused => exact hrefused.agree (detect_of_not_found hgiven hnone)
  | targetHasNoBody hgiven hsome haborts hrefused =>
      exact hrefused.agree (detect_of_aborts hgiven hsome haborts)
  | limitTooLarge hgiven hsome haborts hlimit => exact absurd hlimit (hruns _ _ hgiven hsome haborts).1
  | canceled hgiven hsome haborts _ hcanceled hreport =>
      obtain ⟨-, hlimit', hsame⟩ := hruns _ _ hgiven hsome haborts
      obtain ⟨report, hreport, houtcome, hcandidates⟩ := hreport
      obtain ⟨report', hreport', houtcome', hcandidates'⟩ :=
        detect_canceled hgiven hsome haborts hlimit' (hsame.mp hcanceled)
      exact ⟨report, report', hreport, hreport', houtcome.trans houtcome'.symm,
        hcandidates.trans hcandidates'.symm⟩
  | completed hgiven hsome haborts _ hcanceled hreport =>
      obtain ⟨-, hlimit', hsame⟩ := hruns _ _ hgiven hsome haborts
      obtain ⟨report, hreport, halone, hfolds, -⟩ := hreport
      obtain ⟨report', hreport', halone', hfolds', -⟩ :=
        detect_completed hgiven hsome haborts hlimit' fun h => hcanceled (hsame.mpr h)
      have hcandidates : report.candidates = report'.candidates :=
        List.right_unique_forall₂' (fun _ _ _ h h' => h.unique h') halone halone'
      rw [← hcandidates] at hfolds'
      exact ⟨report, report', hreport, hreport', (hfolds.unique hfolds').1, hcandidates⟩

end Runs

end Detector

end CallChain
