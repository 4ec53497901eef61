import CallChain.Proofs.Detector.Report
import CallChain.Proofs.Search.Reachability
import Mathlib.Data.List.TakeWhile

/-!
# The outcome of a candidate decides whether it is reached

A candidate that is searched for has one of two outcomes, and which one depends on the calls alone:
paths are found exactly if the start reaches the candidate.
-/

namespace CallChain.Detector

theorem SearchedAlone.outcome_iff {graph : CallGraph} {policy : HandOffPolicy}
    {start target : Routine} {candidate : Candidate}
    (halone : SearchedAlone graph policy start target candidate)
    (hother : (target == start) = false) (hbody : target.hasBody = true) :
    (candidate.outcome = .pathsFound ↔ graph.Reaches policy start target) ∧
      (candidate.outcome = .noPathFound ↔ ¬ graph.Reaches policy start target) := by
  obtain ⟨hpaths, houtcome⟩ := halone.searched hother hbody
  have hempty := Search.paths_eq_nil_iff hother hpaths
  rcases houtcome with ⟨hfound, hsome⟩ | ⟨hnone, hnil⟩
  · have hreaches : graph.Reaches policy start target := not_not.mp (mt hempty.mpr hsome)
    simp [hfound, hreaches]
  · have hunreached := hempty.mp hnil
    simp [hnone, hunreached]

/-- Candidates that are searched for alone, in order, have the routines of the name as targets. -/
theorem SearchedAlone.of_forall₂ {graph : CallGraph} {policy : HandOffPolicy} {start : Routine}
    {targets : List Routine} {candidates : List Candidate}
    (halone : List.Forall₂ (SearchedAlone graph policy start) targets candidates) :
    candidates.map Candidate.target = targets ∧
      ∀ candidate ∈ candidates, SearchedAlone graph policy start candidate.target candidate := by
  induction halone with
  | nil => simp
  | cons hfirst _ ih =>
      refine ⟨by rw [List.map_cons, hfirst.target_eq, ih.1], ?_⟩
      rintro candidate (_ | ⟨_, hcandidate⟩)
      · rwa [hfirst.target_eq]
      · exact ih.2 candidate hcandidate

/-! ## Names without a routine -/

theorem trim_of_isAllBlank {text : String} (hblank : Text.isAllBlank text = true) :
    Text.trim text = "" := by
  have hdrop : (text.toList.dropWhile fun c => Text.isBlank c.toNat) = [] := by
    rw [List.dropWhile_eq_nil_iff]
    exact List.all_eq_true.mp hblank
  simp [Text.trim, Text.trimBy, hdrop]

/-- A blank name is that of no routine. -/
theorem findRoutines_of_isAllBlank (index : Index) {name : String}
    (hblank : Text.isAllBlank name = true) : index.findRoutines (Text.trim name) = [] := by
  have hempty : Text.trim "" = "" := trim_of_isAllBlank rfl
  rw [trim_of_isAllBlank hblank]
  simp [Index.findRoutines, hempty]

/-! ## Reports -/

section Report

variable {index : Index} {settings : Settings} {start : Routine} {name : String} {run : Run}

/-- The candidates of a report are the routines of the name, each searched for alone, unless the
search is refused as a whole or stopped. -/
theorem candidates_of_detect (index : Index) (settings : Settings) (start : Routine) (name : String)
    (run : Run) :
    (∃ report, (detect index settings (some start) (some name) run).report = .ok report ∧
      List.Forall₂ (SearchedAlone index.graph settings.handOffPolicy start)
        (index.findRoutines (Text.trim name)) report.candidates) ∨
    (∃ report, (detect index settings (some start) (some name) run).report = .ok report ∧
      report.candidates = []) ∧ (start.hasBody = false ∨
        Aborts settings start (index.findRoutines (Text.trim name)) ∨
        Canceled index settings start (index.findRoutines (Text.trim name)) run) ∨
    (detect index settings (some start) (some name) run).report = .error .limitTooLarge ∧
      LimitTooLarge settings run := by
  -- without a routine of the name, the empty list of candidates is the right one
  have hnobody : ∀ {outcome},
      Refused run (detect index settings (some start) (some name) run) outcome →
      index.findRoutines (Text.trim name) = [] →
      ∃ report, (detect index settings (some start) (some name) run).report = .ok report ∧
        List.Forall₂ (SearchedAlone index.graph settings.handOffPolicy start)
          (index.findRoutines (Text.trim name)) report.candidates := by
    rintro outcome ⟨report, hreport, _, hempty, _⟩ hnone
    refine ⟨report, hreport, ?_⟩
    rw [hnone, hempty]
    exact .nil
  cases detect_reported index settings (some start) (some name) run with
  | emptyStart hstart hrefused =>
      obtain ⟨report, hreport, _, hempty, _⟩ := hrefused
      exact Or.inr (Or.inl ⟨⟨report, hreport, hempty⟩, Or.inl (hstart start rfl)⟩)
  | noTargetName _ hname hrefused =>
      exact Or.inl (hnobody hrefused (findRoutines_of_isAllBlank index (hname name rfl)))
  | targetNotFound hgiven hnone hrefused =>
      obtain ⟨_, _, hname, _⟩ := hgiven
      cases hname
      exact Or.inl (hnobody hrefused hnone)
  | targetHasNoBody hgiven _ haborts hrefused =>
      obtain ⟨hstart, _, hname, _⟩ := hgiven
      cases hstart
      cases hname
      obtain ⟨report, hreport, _, hempty, _⟩ := hrefused
      exact Or.inr (Or.inl ⟨⟨report, hreport, hempty⟩, Or.inr (Or.inl haborts)⟩)
  | limitTooLarge _ _ _ hlimit hfails => exact Or.inr (Or.inr ⟨hfails, hlimit⟩)
  | canceled hgiven _ _ _ hcanceled hstopped =>
      obtain ⟨hstart, _, hname, _⟩ := hgiven
      cases hstart
      cases hname
      obtain ⟨report, hreport, _, hempty⟩ := hstopped
      exact Or.inr (Or.inl ⟨⟨report, hreport, hempty⟩, Or.inr (Or.inr hcanceled)⟩)
  | completed hgiven _ _ _ _ hcompleted =>
      obtain ⟨hstart, _, hname, _⟩ := hgiven
      cases hstart
      cases hname
      obtain ⟨report, hreport, halone, _⟩ := hcompleted
      exact Or.inl ⟨report, hreport, halone⟩

/-- A candidate of a report has the result of a search of its own. -/
theorem searchedAlone_of_mem {report : Report} {candidate : Candidate}
    (hreport : (detect index settings (some start) (some name) run).report = .ok report)
    (hcandidate : candidate ∈ report.candidates) :
    SearchedAlone index.graph settings.handOffPolicy start candidate.target candidate := by
  rcases candidates_of_detect index settings start name run with
    ⟨whole, hwhole, halone⟩ | ⟨⟨empty, hempty, hnone⟩, _⟩ | ⟨hfails, _⟩
  · rw [hreport] at hwhole
    cases hwhole
    exact (SearchedAlone.of_forall₂ halone).2 candidate hcandidate
  · rw [hreport] at hempty
    cases hempty
    rw [hnone] at hcandidate
    cases hcandidate
  · rw [hreport] at hfails
    cases hfails

/-- In every report the outcome of a candidate with a body, other than the start, says whether the
start reaches it; and a search that is neither refused nor stopped has all routines of the name as
candidates. -/
theorem outcome_decides_reachability (index : Index) (settings : Settings) (start : Routine)
    (name : String) (run : Run) :
    (∀ report, (detect index settings (some start) (some name) run).report = .ok report →
      ∀ candidate ∈ report.candidates,
        candidate.target.hasBody = true → (candidate.target == start) = false →
          (candidate.outcome = .pathsFound ↔
            index.graph.Reaches settings.handOffPolicy start candidate.target) ∧
          (candidate.outcome = .noPathFound ↔
            ¬ index.graph.Reaches settings.handOffPolicy start candidate.target)) ∧
    (start.hasBody = true → ¬ Aborts settings start (index.findRoutines (Text.trim name)) →
      ¬ LimitTooLarge settings run →
      ¬ Canceled index settings start (index.findRoutines (Text.trim name)) run →
      ∃ report, (detect index settings (some start) (some name) run).report = .ok report ∧
        report.candidates.map Candidate.target = index.findRoutines (Text.trim name)) := by
  constructor
  · intro report hreport candidate hcandidate hbody hother
    exact (searchedAlone_of_mem hreport hcandidate).outcome_iff hother hbody
  · intro hbody haborts hlimit hquiet
    rcases candidates_of_detect index settings start name run with
      ⟨report, hreport, halone⟩ | ⟨_, hrefused | hrefused | hcanceled⟩ | ⟨_, hbeyond⟩
    · exact ⟨report, hreport, (SearchedAlone.of_forall₂ halone).1⟩
    · rw [hbody] at hrefused
      cases hrefused
    · exact absurd hrefused haborts
    · exact absurd hcanceled hquiet
    · exact absurd hbeyond hlimit

end Report

/-- In the sample there is one candidate, which is searched for. -/
theorem outcome_decides_reachability_of_sample :
    ∃ report,
      (detect sampleIndex {} (some (Search.sampleRoutine "main" 1)) (some "work") {}).report =
        .ok report ∧
      (report.candidates.map Candidate.target).map Routine.key = ["m.py:13:work"] ∧
      ∀ candidate ∈ report.candidates,
        (candidate.outcome = .pathsFound ↔
          sampleIndex.graph.Reaches .sever (Search.sampleRoutine "main" 1) candidate.target) ∧
        (candidate.outcome = .noPathFound ↔
          ¬ sampleIndex.graph.Reaches .sever (Search.sampleRoutine "main" 1) candidate.target) := by
  obtain ⟨hdecides, hreports⟩ := outcome_decides_reachability sampleIndex {}
    (Search.sampleRoutine "main" 1) "work" {}
  have haborts : ∀ candidates, ¬ Aborts {} (Search.sampleRoutine "main" 1) candidates := by
    rintro candidates ⟨hpolicy, _⟩
    cases hpolicy
  have hlimit : ¬ LimitTooLarge {} {} := by
    rintro ⟨_, n, htimeout, _⟩
    cases htimeout
  obtain ⟨report, hreport, htargets⟩ := hreports rfl (haborts _) hlimit
    (Search.not_seesCancelled_of_token_none _ rfl)
  refine ⟨report, hreport, ?_, fun candidate hcandidate => ?_⟩
  · rw [htargets]
    decide +kernel
  · have hadmitted : ∀ target ∈ sampleIndex.findRoutines (Text.trim "work"),
        target.hasBody = true ∧ (target == Search.sampleRoutine "main" 1) = false := by
      decide +kernel
    rw [← htargets] at hadmitted
    obtain ⟨hbody, hother⟩ := hadmitted _ (List.mem_map_of_mem hcandidate)
    exact hdecides report hreport candidate hcandidate hbody hother

end CallChain.Detector
