import CallChain.Detector
import CallChain.Proofs.Search.Enumeration

/-!
# What a detection reports

A detection checks, in this order, the start, the name, the routines of that name and their bodies;
each check may refuse the search, and the first that does decides the report.  Then it searches for
one candidate after the other, with one token for all of them.

`searchAll_eq` is the heart of the file: searching for all candidates is the play of their courses,
one behind the other, where a candidate that is refused contributes nothing.  Since a course does
not read the run, a candidate's result is the one it has when it is searched for alone and without
a token (`SearchedAlone`): nothing leaks from one search into the next.

A detection has no report in one case only: the run has no token, and the settings ask for one with
a time limit that is beyond the doubles (`LimitTooLarge`).
-/

namespace CallChain.Detector

open Search (Event)

/-! ## One candidate after the other -/

/-- What happens for a candidate: nothing if it is refused. -/
def candidateCourse (graph : CallGraph) (policy : HandOffPolicy) (start target : Routine) :
    List Event :=
  if target == start || !target.hasBody then [] else Search.courseTo graph start policy target

/-- What happens for candidates in order. -/
def courseOfAll (graph : CallGraph) (policy : HandOffPolicy) (start : Routine)
    (candidates : List Routine) : List Event :=
  candidates.flatMap (candidateCourse graph policy start)

/-- A candidate has the result of a search of its own, by a fresh run without a token; for the start
and for a routine without a body there is no search. -/
structure SearchedAlone (graph : CallGraph) (policy : HandOffPolicy) (start target : Routine)
    (candidate : Candidate) : Prop where
  target_eq : candidate.target = target
  isStart : (target == start) = true →
    candidate.outcome = .targetIsStart ∧ candidate.paths = []
  noBody : (target == start) = false → target.hasBody = false →
    candidate.outcome = .targetHasNoBody ∧ candidate.paths = []
  searched : (target == start) = false → target.hasBody = true →
    (Search.paths graph start policy target {}).1 = some candidate.paths ∧
      (candidate.outcome = .pathsFound ∧ candidate.paths ≠ [] ∨
        candidate.outcome = .noPathFound ∧ candidate.paths = [])

/-- Without a token a search by name comes to an end. -/
theorem paths_fresh (graph : CallGraph) (start : Routine) (policy : HandOffPolicy)
    (target : Routine) :
    (Search.paths graph start policy target {}).1 =
      some (Search.nameChains (firstOccurrences
        (Search.arrivals (Search.courseTo graph start policy target)))) := by
  rw [Search.paths_fst, Search.chains_eq, Run.not_stopped_of_token_none _ rfl]
  rfl

/-- A search by name is the play of its course, and gives what a fresh run gives. -/
theorem paths_eq (graph : CallGraph) (start : Routine) (policy : HandOffPolicy) (target : Routine)
    (run : Run) :
    Search.paths graph start policy target run =
      (if (Run.play (Search.courseTo graph start policy target) run).1 then none
        else (Search.paths graph start policy target {}).1,
      (Run.play (Search.courseTo graph start policy target) run).2) := by
  rw [paths_fresh]
  simp only [Search.paths, Search.chains_eq]
  cases (Run.play (Search.courseTo graph start policy target) run).1 <;> rfl

theorem searchOne_eq (graph : CallGraph) (policy : HandOffPolicy) (start target : Routine) :
    ∃ candidate, SearchedAlone graph policy start target candidate ∧
      ∀ run, ∃ records, searchOne graph policy start target run =
        (if (Run.play (candidateCourse graph policy start target) run).1 then none
          else some candidate,
        (Run.play (candidateCourse graph policy start target) run).2, records) := by
  unfold searchOne candidateCourse
  cases hstart : target == start with
  | true =>
      exact ⟨⟨target, .targetIsStart, []⟩,
        ⟨rfl, fun _ => ⟨rfl, rfl⟩, by simp [hstart], by simp [hstart]⟩, fun run => ⟨_, rfl⟩⟩
  | false =>
      cases hbody : target.hasBody with
      | false =>
          exact ⟨⟨target, .targetHasNoBody, []⟩,
            ⟨rfl, by simp [hstart], fun _ _ => ⟨rfl, rfl⟩, by simp [hbody]⟩, fun run => ⟨_, rfl⟩⟩
      | true =>
          have hfresh := paths_fresh graph start policy target
          generalize Search.nameChains _ = found at hfresh
          refine ⟨⟨target, if found.isEmpty then .noPathFound else .pathsFound, found⟩,
            ⟨rfl, by simp [hstart], by simp [hbody], fun _ _ => ⟨hfresh, ?_⟩⟩, fun run => ?_⟩
          · cases found <;> simp
          · simp only [Bool.false_eq_true, if_false, Bool.not_true, Bool.or_false]
            rw [paths_eq, hfresh]
            cases (Run.play (Search.courseTo graph start policy target) run).1 <;> exact ⟨_, rfl⟩

theorem searchAll_eq (graph : CallGraph) (policy : HandOffPolicy) (start : Routine)
    (targets : List Routine) :
    ∃ candidates, List.Forall₂ (SearchedAlone graph policy start) targets candidates ∧
      ∀ run, ∃ records, searchAll graph policy start targets run =
        (if (Run.play (courseOfAll graph policy start targets) run).1 then none
          else some candidates,
        (Run.play (courseOfAll graph policy start targets) run).2, records) := by
  induction targets with
  | nil => exact ⟨[], .nil, fun run => ⟨[], rfl⟩⟩
  | cons target rest ih =>
      obtain ⟨candidate, halone, hone⟩ := searchOne_eq graph policy start target
      obtain ⟨others, hothers, hall⟩ := ih
      refine ⟨candidate :: others, .cons halone hothers, fun run => ?_⟩
      obtain ⟨records, hone⟩ := hone run
      rw [searchAll, hone, courseOfAll, List.flatMap_cons, Run.play_append]
      cases hstop : (Run.play (candidateCourse graph policy start target) run).1 with
      | true => exact ⟨records, by simp [hstop]⟩
      | false =>
          obtain ⟨more, hall⟩ := hall (Run.play (candidateCourse graph policy start target) run).2
          rw [courseOfAll] at hall
          refine ⟨records ++ more, ?_⟩
          simp only [hall, Bool.false_eq_true, if_false]
          cases (Run.play (rest.flatMap (candidateCourse graph policy start))
            (Run.play (candidateCourse graph policy start target) run).2).1 <;> rfl

/-! ## The checks before the searches -/

/-- A report of an outcome without candidates, before anything was expanded. -/
def Refused (run : Run) (detection : Detection) (outcome : Outcome) : Prop :=
  ∃ report, detection.report = .ok report ∧ report.outcome = outcome ∧ report.candidates = [] ∧
    detection.run.expanded = run.expanded ∧ detection.run.notes = run.notes

/-- A routine without a body keeps the whole search from being made. -/
def Aborts (settings : Settings) (start : Routine) (candidates : List Routine) : Prop :=
  settings.bodilessTarget = .abort ∧ ∃ c ∈ candidates, (c == start) = false ∧ c.hasBody = false

/-- The settings ask for a time limit that is no double, and the run brings no token of its own. -/
def LimitTooLarge (settings : Settings) (run : Run) : Prop :=
  run.token = none ∧ ∃ n, settings.timeout = some (.int n) ∧ Seconds.overflow ≤ n.natAbs

/-- The run with which the first search begins. -/
def armed (settings : Settings) (run : Run) : Run := (withToken settings (opened run).2).2

/-- Opening a run expands nothing. -/
theorem Refused.of_opened {run : Run} {detection : Detection} {outcome : Outcome}
    (hrefused : Refused (opened run).2 detection outcome) : Refused run detection outcome :=
  hrefused

theorem detect_of_no_start {index : Index} {settings : Settings} {start : Option Routine}
    {name : Option String} {run : Run} (hstart : ∀ s ∈ start, s.hasBody = false) :
    Refused run (detect index settings start name run) .emptyStart := by
  have hfilter : start.filter Routine.hasBody = none := by
    rw [Option.filter_eq_none_iff]
    intro s hs
    simp [hstart s hs]
  simp only [detect, hfilter]
  exact ⟨_, rfl, rfl, rfl, rfl, rfl⟩

theorem detect_of_no_name {index : Index} {settings : Settings} {start : Routine}
    {name : Option String} {run : Run} (hstart : start.hasBody = true)
    (hname : ∀ n ∈ name, Text.isAllBlank n = true) :
    Refused run (detect index settings (some start) name run) .noTargetName := by
  have hfilter : (name.filter fun n => !Text.isAllBlank n) = none := by
    rw [Option.filter_eq_none_iff]
    intro n hn
    simp [hname n hn]
  simp only [detect, Option.filter_some, hstart, if_true, hfilter]
  exact ⟨_, rfl, rfl, rfl, rfl, rfl⟩

/-- With a start and a name the detection goes on with the routines of that name. -/
theorem detect_eq_detectNamed (index : Index) (settings : Settings) (run : Run) {start : Routine}
    {name : String} (hstart : start.hasBody = true) (hname : Text.isAllBlank name = false) :
    ∃ records, detect index settings (some start) (some name) run =
      detectNamed index settings (opened run).1 start (Text.trim name) (opened run).2 records := by
  simp only [detect, Option.filter_some, hstart, if_true, hname, Bool.not_false]
  exact ⟨_, rfl⟩

theorem aborts_iff {settings : Settings} {start : Routine} {candidates : List Routine} :
    Aborts settings start candidates ↔
      ((if settings.bodilessTarget == .abort then bodiless? start candidates
        else none).isSome) = true := by
  unfold Aborts bodiless?
  by_cases habort : settings.bodilessTarget = .abort
  · simp [habort, List.find?_isSome]
  · simp [habort]

theorem withToken_fails_iff {settings : Settings} {run : Run} :
    (withToken settings run).1 = false ↔ LimitTooLarge settings run := by
  have hpos : 0 < Seconds.overflow := by decide +kernel
  unfold withToken LimitTooLarge
  cases htoken : run.token with
  | some token => simp
  | none =>
      cases htimeout : settings.timeout with
      | none => simp
      | some seconds =>
          cases seconds with
          | float x =>
              by_cases hzero : (x == 0.0) = true <;>
                simp [CancelToken.create, Seconds.isZero, Seconds.toFloat?, hzero]
          | int n =>
              by_cases hzero : n = 0
              · subst hzero
                simp only [CancelToken.create, Seconds.isZero]
                simp
                omega
              · simp [CancelToken.create, Seconds.isZero, Seconds.toFloat?, hzero]

theorem opened_token_eq_none {run : Run} : (opened run).2.token = none ↔ run.token = none := by
  simp only [opened]
  split <;> simp

theorem limitTooLarge_opened {settings : Settings} {run : Run} :
    LimitTooLarge settings (opened run).2 ↔ LimitTooLarge settings run := by
  unfold LimitTooLarge
  rw [opened_token_eq_none]

/-! ## The searches -/

/-- The outcome of a whole search folds those of its candidates: paths if any were found, a refusal
that is common to all, and otherwise that there is no path. -/
structure Folds (candidates : List Candidate) (outcome : Outcome) : Prop where
  found : (∃ c ∈ candidates, c.outcome = .pathsFound) → outcome = .pathsFound
  allBodiless : (∀ c ∈ candidates, c.outcome = .targetHasNoBody) → outcome = .targetHasNoBody
  allStart : (∀ c ∈ candidates, c.outcome = .targetIsStart) → outcome = .targetIsStart
  otherwise : (¬ ∃ c ∈ candidates, c.outcome = .pathsFound) →
    (¬ ∀ c ∈ candidates, c.outcome = .targetHasNoBody) →
    (¬ ∀ c ∈ candidates, c.outcome = .targetIsStart) → outcome = .noPathFound

theorem overall_folds {candidates : List Candidate} (hsome : candidates ≠ []) :
    Folds candidates (overall candidates) := by
  have hempty : candidates.isEmpty = false := by simpa using hsome
  obtain ⟨first, hfirst⟩ := List.exists_mem_of_ne_nil candidates hsome
  unfold overall
  rw [hempty]
  simp only [Bool.not_false, Bool.true_and, List.any_eq_true, List.all_eq_true, beq_iff_eq]
  refine ⟨fun hfound => if_pos hfound, fun hall => ?_, fun hall => ?_,
    fun hfound hbodiless hstart => ?_⟩
  · have hnone : ¬ ∃ c ∈ candidates, c.outcome = .pathsFound := by
      rintro ⟨c, hc, hpaths⟩
      simp [hall c hc] at hpaths
    rw [if_neg hnone, if_pos hall]
  · have hnone : ¬ ∃ c ∈ candidates, c.outcome = .pathsFound := by
      rintro ⟨c, hc, hpaths⟩
      simp [hall c hc] at hpaths
    have hbody : ¬ ∀ c ∈ candidates, c.outcome = .targetHasNoBody := by
      intro hbodiless
      have hfirst' := hbodiless first hfirst
      simp [hall first hfirst] at hfirst'
    rw [if_neg hnone, if_neg hbody, if_pos hall]
  · rw [if_neg hfound, if_neg hbodiless, if_neg hstart]

section Named

variable {index : Index} {settings : Settings} {began : Float} {start : Routine} {name : String}
  {run : Run} {records : List Log.Record}

theorem detectNamed_of_not_found (hnone : index.findRoutines name = []) :
    Refused run (detectNamed index settings began start name run records) .targetNotFound := by
  simp only [detectNamed, hnone, List.isEmpty_nil, if_true]
  exact ⟨_, rfl, rfl, rfl, rfl, rfl⟩

theorem detectNamed_of_aborts (hsome : index.findRoutines name ≠ [])
    (haborts : Aborts settings start (index.findRoutines name)) :
    Refused run (detectNamed index settings began start name run records) .targetHasNoBody := by
  obtain ⟨c, hc⟩ := Option.isSome_iff_exists.mp (aborts_iff.mp haborts)
  simp only [detectNamed, List.isEmpty_iff, hsome, if_false, hc]
  exact ⟨_, rfl, rfl, rfl, rfl, rfl⟩

theorem detectNamed_of_admitted (hsome : index.findRoutines name ≠ [])
    (haborts : ¬ Aborts settings start (index.findRoutines name)) :
    detectNamed index settings began start name run records =
      searchAdmitted index.graph settings began start name (index.findRoutines name) run
        records := by
  rw [aborts_iff, Bool.not_eq_true, Option.isSome_eq_false_iff,
    Option.isNone_iff_eq_none] at haborts
  simp only [detectNamed, List.isEmpty_iff, hsome, if_false, haborts]

end Named

section Admitted

variable {graph : CallGraph} {settings : Settings} {began : Float} {start : Routine} {name : String}
  {targets : List Routine} {run : Run} {records : List Log.Record}

theorem searchAdmitted_of_limitTooLarge (hlimit : LimitTooLarge settings run) :
    (searchAdmitted graph settings began start name targets run records).report =
      .error .limitTooLarge := by
  have htoken := withToken_fails_iff.mpr hlimit
  unfold searchAdmitted
  split
  · rfl
  · simp_all

/-- Without a fault of the limit, the searches are made with the token of the settings. -/
private theorem withToken_eq (hlimit : ¬ LimitTooLarge settings run) :
    withToken settings run = (true, (withToken settings run).2) := by
  rw [← withToken_fails_iff, Bool.not_eq_false] at hlimit
  exact Prod.ext hlimit rfl

theorem searchAdmitted_of_seesCancelled (hlimit : ¬ LimitTooLarge settings run)
    (hsees : (Run.play (courseOfAll graph settings.handOffPolicy start targets)
      (withToken settings run).2).1 = true) :
    ∃ report,
      (searchAdmitted graph settings began start name targets run records).report = .ok report ∧
      report.outcome = .canceled ∧ report.candidates = [] := by
  obtain ⟨_, _, hall⟩ := searchAll_eq graph settings.handOffPolicy start targets
  obtain ⟨more, hall⟩ := hall (withToken settings run).2
  rw [hsees, if_pos rfl] at hall
  rw [searchAdmitted, withToken_eq hlimit]
  simp only [hall]
  exact ⟨_, rfl, rfl, rfl⟩

theorem searchAdmitted_of_not_seesCancelled (hlimit : ¬ LimitTooLarge settings run)
    (hsome : targets ≠ [])
    (hsees : (Run.play (courseOfAll graph settings.handOffPolicy start targets)
      (withToken settings run).2).1 = false) :
    ∃ report,
      (searchAdmitted graph settings began start name targets run records).report = .ok report ∧
      List.Forall₂ (SearchedAlone graph settings.handOffPolicy start) targets report.candidates ∧
      Folds report.candidates report.outcome ∧
      (searchAdmitted graph settings began start name targets run records).run.notes =
        ((courseOfAll graph settings.handOffPolicy start targets).foldl Run.after
          (withToken settings run).2).notes := by
  obtain ⟨candidates, halone, hall⟩ := searchAll_eq graph settings.handOffPolicy start targets
  obtain ⟨more, hall⟩ := hall (withToken settings run).2
  rw [Run.play_snd_of_not_stopped hsees, hsees, if_neg Bool.false_ne_true] at hall
  have hcandidates : candidates ≠ [] := by
    rintro rfl
    exact hsome (List.forall₂_nil_right_iff.mp halone)
  rw [searchAdmitted, withToken_eq hlimit]
  simp only [hall]
  exact ⟨_, rfl, halone, overall_folds hcandidates, rfl⟩

end Admitted

/-! ## The report as a whole -/

/-- A start with a body and a name that is not blank are given. -/
def Given (start : Option Routine) (name : Option String) (s : Routine) (n : String) : Prop :=
  start = some s ∧ s.hasBody = true ∧ name = some n ∧ Text.isAllBlank n = false

/-- Some poll of the token sees it cancelled, during the search for some candidate. -/
def Canceled (index : Index) (settings : Settings) (s : Routine) (candidates : List Routine)
    (run : Run) : Prop :=
  Run.SeesCancelled (courseOfAll index.graph settings.handOffPolicy s candidates)
    (armed settings run)

/-- What a detection comes to.  In every case the checks before it are passed, so that no two cases
have their conditions in common. -/
inductive Reported (index : Index) (settings : Settings) (start : Option Routine)
    (name : Option String) (run : Run) (detection : Detection) : Prop where
  | emptyStart (hstart : ∀ s ∈ start, s.hasBody = false)
      (hrefused : Refused run detection .emptyStart)
  | noTargetName (hstart : ∃ s ∈ start, s.hasBody = true)
      (hname : ∀ n ∈ name, Text.isAllBlank n = true)
      (hrefused : Refused run detection .noTargetName)
  | targetNotFound {s : Routine} {n : String} (hgiven : Given start name s n)
      (hnone : index.findRoutines (Text.trim n) = [])
      (hrefused : Refused run detection .targetNotFound)
  | targetHasNoBody {s : Routine} {n : String} (hgiven : Given start name s n)
      (hsome : index.findRoutines (Text.trim n) ≠ [])
      (haborts : Aborts settings s (index.findRoutines (Text.trim n)))
      (hrefused : Refused run detection .targetHasNoBody)
  | limitTooLarge {s : Routine} {n : String} (hgiven : Given start name s n)
      (hsome : index.findRoutines (Text.trim n) ≠ [])
      (haborts : ¬ Aborts settings s (index.findRoutines (Text.trim n)))
      (hlimit : LimitTooLarge settings run)
      (hfails : detection.report = .error .limitTooLarge)
  | canceled {s : Routine} {n : String} (hgiven : Given start name s n)
      (hsome : index.findRoutines (Text.trim n) ≠ [])
      (haborts : ¬ Aborts settings s (index.findRoutines (Text.trim n)))
      (hlimit : ¬ LimitTooLarge settings run)
      (hcanceled : Canceled index settings s (index.findRoutines (Text.trim n)) run)
      (hreport : ∃ report, detection.report = .ok report ∧ report.outcome = .canceled ∧
        report.candidates = [])
  | completed {s : Routine} {n : String} (hgiven : Given start name s n)
      (hsome : index.findRoutines (Text.trim n) ≠ [])
      (haborts : ¬ Aborts settings s (index.findRoutines (Text.trim n)))
      (hlimit : ¬ LimitTooLarge settings run)
      (hcanceled : ¬ Canceled index settings s (index.findRoutines (Text.trim n)) run)
      (hreport : ∃ report, detection.report = .ok report ∧
        List.Forall₂ (SearchedAlone index.graph settings.handOffPolicy s)
          (index.findRoutines (Text.trim n)) report.candidates ∧
        Folds report.candidates report.outcome ∧
        detection.run.notes = ((courseOfAll index.graph settings.handOffPolicy s
          (index.findRoutines (Text.trim n))).foldl Run.after (armed settings run)).notes)

section Detect

variable {index : Index} {settings : Settings} {start : Option Routine} {name : Option String}
  {run : Run} {s : Routine} {n : String}

/-- Behind all checks the detection is the search for the routines of the name. -/
theorem detect_eq_searchAdmitted (run : Run) (hgiven : Given start name s n)
    (hsome : index.findRoutines (Text.trim n) ≠ [])
    (haborts : ¬ Aborts settings s (index.findRoutines (Text.trim n))) :
    ∃ records, detect index settings start name run =
      searchAdmitted index.graph settings (opened run).1 s (Text.trim n)
        (index.findRoutines (Text.trim n)) (opened run).2 records := by
  obtain ⟨rfl, hbody, rfl, hname⟩ := hgiven
  obtain ⟨records, hdetect⟩ := detect_eq_detectNamed index settings run hbody hname
  exact ⟨records, hdetect.trans (detectNamed_of_admitted hsome haborts)⟩

theorem detect_of_limitTooLarge (hgiven : Given start name s n)
    (hsome : index.findRoutines (Text.trim n) ≠ [])
    (haborts : ¬ Aborts settings s (index.findRoutines (Text.trim n)))
    (hlimit : LimitTooLarge settings run) :
    (detect index settings start name run).report = .error .limitTooLarge := by
  obtain ⟨records, hdetect⟩ := detect_eq_searchAdmitted run hgiven hsome haborts
  rw [hdetect]
  exact searchAdmitted_of_limitTooLarge (limitTooLarge_opened.mpr hlimit)

theorem detect_canceled (hgiven : Given start name s n)
    (hsome : index.findRoutines (Text.trim n) ≠ [])
    (haborts : ¬ Aborts settings s (index.findRoutines (Text.trim n)))
    (hlimit : ¬ LimitTooLarge settings run)
    (hcanceled : Canceled index settings s (index.findRoutines (Text.trim n)) run) :
    ∃ report, (detect index settings start name run).report = .ok report ∧
      report.outcome = .canceled ∧ report.candidates = [] := by
  obtain ⟨records, hdetect⟩ := detect_eq_searchAdmitted run hgiven hsome haborts
  rw [← limitTooLarge_opened] at hlimit
  rw [hdetect]
  exact searchAdmitted_of_seesCancelled hlimit ((Run.play_stopped_iff _ _).mpr hcanceled)

theorem detect_completed (hgiven : Given start name s n)
    (hsome : index.findRoutines (Text.trim n) ≠ [])
    (haborts : ¬ Aborts settings s (index.findRoutines (Text.trim n)))
    (hlimit : ¬ LimitTooLarge settings run)
    (hcanceled : ¬ Canceled index settings s (index.findRoutines (Text.trim n)) run) :
    ∃ report, (detect index settings start name run).report = .ok report ∧
      List.Forall₂ (SearchedAlone index.graph settings.handOffPolicy s)
        (index.findRoutines (Text.trim n)) report.candidates ∧
      Folds report.candidates report.outcome ∧
      (detect index settings start name run).run.notes =
        ((courseOfAll index.graph settings.handOffPolicy s
          (index.findRoutines (Text.trim n))).foldl Run.after (armed settings run)).notes := by
  obtain ⟨records, hdetect⟩ := detect_eq_searchAdmitted run hgiven hsome haborts
  rw [← limitTooLarge_opened] at hlimit
  rw [Canceled, ← Run.play_stopped_iff, Bool.not_eq_true] at hcanceled
  rw [hdetect]
  exact searchAdmitted_of_not_seesCancelled hlimit hsome hcanceled

/-- Either the start or the name is wanting, or both are given. -/
theorem given_or_wanting (start : Option Routine) (name : Option String) :
    (∀ s ∈ start, s.hasBody = false) ∨
      ((∃ s ∈ start, s.hasBody = true) ∧ ∀ n ∈ name, Text.isAllBlank n = true) ∨
      ∃ s n, Given start name s n := by
  by_cases hstart : ∃ s ∈ start, s.hasBody = true
  · by_cases hname : ∃ n ∈ name, Text.isAllBlank n = false
    · obtain ⟨s, hs, hbody⟩ := hstart
      obtain ⟨n, hn, hblank⟩ := hname
      exact Or.inr (Or.inr ⟨s, n, hs, hbody, hn, hblank⟩)
    · refine Or.inr (Or.inl ⟨hstart, fun n hn => ?_⟩)
      rw [← Bool.not_eq_false]
      exact fun hblank => hname ⟨n, hn, hblank⟩
  · refine Or.inl fun s hs => ?_
    rw [← Bool.not_eq_true]
    exact fun hbody => hstart ⟨s, hs, hbody⟩

theorem detect_of_not_found (hgiven : Given start name s n)
    (hnone : index.findRoutines (Text.trim n) = []) :
    Refused run (detect index settings start name run) .targetNotFound := by
  obtain ⟨rfl, hbody, rfl, hname⟩ := hgiven
  obtain ⟨records, hdetect⟩ := detect_eq_detectNamed index settings run hbody hname
  rw [hdetect]
  exact (detectNamed_of_not_found hnone).of_opened

theorem detect_of_aborts (hgiven : Given start name s n)
    (hsome : index.findRoutines (Text.trim n) ≠ [])
    (haborts : Aborts settings s (index.findRoutines (Text.trim n))) :
    Refused run (detect index settings start name run) .targetHasNoBody := by
  obtain ⟨rfl, hbody, rfl, hname⟩ := hgiven
  obtain ⟨records, hdetect⟩ := detect_eq_detectNamed index settings run hbody hname
  rw [hdetect]
  exact (detectNamed_of_aborts hsome haborts).of_opened

theorem detect_reported (index : Index) (settings : Settings) (start : Option Routine)
    (name : Option String) (run : Run) :
    Reported index settings start name run (detect index settings start name run) := by
  rcases given_or_wanting start name with hstart | ⟨⟨s, rfl, hbody⟩, hname⟩ | ⟨s, n, hgiven⟩
  · exact .emptyStart hstart (detect_of_no_start hstart)
  · exact .noTargetName ⟨s, rfl, hbody⟩ hname (detect_of_no_name hbody hname)
  by_cases hnone : index.findRoutines (Text.trim n) = []
  · exact .targetNotFound hgiven hnone (detect_of_not_found hgiven hnone)
  by_cases haborts : Aborts settings s (index.findRoutines (Text.trim n))
  · exact .targetHasNoBody hgiven hnone haborts (detect_of_aborts hgiven hnone haborts)
  by_cases hlimit : LimitTooLarge settings run
  · exact .limitTooLarge hgiven hnone haborts hlimit
      (detect_of_limitTooLarge hgiven hnone haborts hlimit)
  by_cases hcanceled : Canceled index settings s (index.findRoutines (Text.trim n)) run
  · exact .canceled hgiven hnone haborts hlimit hcanceled
      (detect_canceled hgiven hnone haborts hlimit hcanceled)
  · exact .completed hgiven hnone haborts hlimit hcanceled
      (detect_completed hgiven hnone haborts hlimit hcanceled)

/-- A detection is determined by its checks and searches, and it fails to report exactly if it comes
to the searches with a time limit beyond the clock. -/
theorem detect_determined (index : Index) (settings : Settings) (start : Option Routine)
    (name : Option String) (run : Run) :
    Reported index settings start name run (detect index settings start name run) ∧
      ((∀ report, (detect index settings start name run).report ≠ .ok report) ↔
        ∃ s n, Given start name s n ∧ index.findRoutines (Text.trim n) ≠ [] ∧
          ¬ Aborts settings s (index.findRoutines (Text.trim n)) ∧ LimitTooLarge settings run) := by
  have hreported := detect_reported index settings start name run
  refine ⟨hreported, fun hfails => ?_, ?_⟩
  · cases hreported with
    | limitTooLarge hgiven hsome haborts hlimit => exact ⟨_, _, hgiven, hsome, haborts, hlimit⟩
    | emptyStart _ hrefused | noTargetName _ _ hrefused | targetNotFound _ _ hrefused
    | targetHasNoBody _ _ _ hrefused =>
        obtain ⟨report, hreport, _⟩ := hrefused
        exact absurd hreport (hfails report)
    | canceled _ _ _ _ _ hdone | completed _ _ _ _ _ hdone =>
        obtain ⟨report, hreport, _⟩ := hdone
        exact absurd hreport (hfails report)
  · rintro ⟨s, n, hgiven, hsome, haborts, hlimit⟩ report hreport
    rw [detect_of_limitTooLarge hgiven hsome haborts hlimit] at hreport
    cases hreport

/-- An index with the routines and the sites of the sample graph. -/
def sampleIndex : Index where
  settings := {}
  root := none
  skipped := []
  files := [{ file := "m.py", name := "m", isPackage := false, tree := .moduleBody [], imports := {}
              functionDeclarations :=
                Search.sampleGraph.routines.map fun r => ⟨r, [], none, .moduleBody []⟩
              classEntries := [] }]
  sites := Search.sampleGraph.sites

/-- A limit of `2 ^ 1024` seconds is a positive number, but beyond the doubles. -/
theorem detect_fails_beyond_the_doubles :
    ¬ ∃ report, (detect sampleIndex { timeout := some (.int (Int.pow 2 1024)) }
      (some (Search.sampleRoutine "main" 1)) (some "work") {}).report = .ok report := by
  rintro ⟨report, hreport⟩
  have hfails : (detect sampleIndex { timeout := some (.int (Int.pow 2 1024)) }
      (some (Search.sampleRoutine "main" 1)) (some "work") {}).report.isOk = false := by
    decide +kernel
  rw [hreport] at hfails
  cases hfails

end Detect

end CallChain.Detector
