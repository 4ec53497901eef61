import CallChain.Proofs.CommandLine.Run
import CallChain.Proofs.Session.Effects

/-!
# What a search prints as JSON

A search is cut in two where it comes to its report: `findReport` is what is done up to there, the
saving of the report included, and `conclude` prints it.  All parts of the first half are quiet but
one, which asks for the name of the target if there is none on the command line.  So the standard
output gets the report and nothing else exactly if the name is given (`json_output_is_clean_iff`),
whatever else is asked for.
-/

namespace CallChain.CommandLine

open CallChain.Action

/-! ## Parts that print nothing -/

theorem quiet_loadSettings (path : Option String) (debug : Bool) : (loadSettings path debug).Quiet :=
  quiet_get.bind fun _ => (quiet_sayAll_err _).bind fun _ => quiet_ofExcept _

theorem quiet_buildIndex (target : Target) (settings : Settings) :
    (buildIndex target settings).Quiet := by
  refine Quiet.timed ?_ _
  refine Quiet.bind (Quiet.traced ?_ _ _) fun index => ?_
  · refine quiet_get.bind fun s => (quiet_ofExcept _).bind fun built => ?_
    exact (quiet_logAll _).bind fun _ => quiet_ofExcept _
  · exact quiet_get.bind fun s => (quiet_sayAll_err _).bind fun _ => quiet_pure _

theorem quiet_setClock (clock : Clock) : (modify fun s => { s with clock } : Action Unit).Quiet :=
  quiet_modify fun _ => ⟨rfl, rfl⟩

theorem quiet_makeToken (timeout : Option Seconds) : (makeToken timeout).Quiet := by
  refine quiet_get.bind fun s => (quiet_setClock _).bind fun _ => ?_
  refine quiet_ite _ (quiet_throw _) fun _ => ?_
  split
  · exact quiet_pure _
  · exact quiet_throw _

theorem quiet_search (o : Find) (index : Index) (settings : Settings) (start : Routine)
    (name : Option String) : (search o index settings start name).Quiet := by
  refine (quiet_makeToken _).bind fun token => quiet_get.bind fun s => ?_
  exact (quiet_setClock _).bind fun _ => (quiet_logAll _).bind fun _ => quiet_ofExcept _

theorem quiet_saveReport (path : String) (pretty debug : Bool) (value : Value) :
    (saveReport path pretty debug value).Quiet := by
  refine quiet_ite _ (quiet_say_err _) fun _ => ?_
  refine ((quiet_changeDisk _).bind fun _ => quiet_changeDisk _).bind fun _ => ?_
  split
  · exact quiet_say_err _
  · exact quiet_pure ()

theorem quiet_setCopy (copy : Option String) : (modify fun s => { s with copy } : Action Unit).Quiet :=
  quiet_modify fun _ => ⟨rfl, rfl⟩

theorem quiet_openCopy (file : String) : (openCopy file).Quiet := by
  refine Quiet.tryCatch ?_ fun failure => quiet_say_err _
  refine (quiet_changeDisk _).bind fun _ => (quiet_setCopy _).bind fun _ => ?_
  exact quiet_get.bind fun s => quiet_say_err _

/-! ## Up to the report and behind it -/

/-- Sets up the log of a command, and the copy of what is printed. -/
def startLog (target : Target) : Action Unit := do
  Log.setUp { file := target.logFile, verbose := target.verbose, debug := target.debug }
  match target.logFile.filter (· != "") with
  | some file => openCopy file
  | none => pure ()

/-- Says what a command failed from; an interruption is passed on. -/
def handleFailure (target : Target) (failure : Failure) : Action Nat := do
  if !isOrdinary failure then
    closeCopy
    throw failure
  if target.debug then put .err failure.trace
  else say .err ("Error during analysis: " ++ failure.message)
  return 1

theorem runLogged_eq (target : Target) (next : Index → Settings → Action Nat) :
    runLogged target next = (do
      startLog target
      let code ← tryCatch (indexThen target next) (handleFailure target)
      closeCopy
      return code) := by
  unfold runLogged startLog
  cases target.logFile.filter (· != "") with
  | none =>
      simp only [bind_assoc, pure_bind]
      rfl
  | some file =>
      simp only [bind_assoc]
      rfl

/-- The name of the target: the one that is given, or an answer. -/
def nameFor (o : Find) : Action (Option String) :=
  match o.method with
  | some name => pure (some name)
  | none => askForTarget

/-- Searches for a name, and saves the report if that is asked for. -/
def searchAndSave (o : Find) (index : Index) (settings : Settings) (start : Routine)
    (name : Option String) : Action Report := do
  let report ← search o index settings start name
  match o.output.filter (· != "") with
  | some path => saveReport path o.pretty o.target.debug report.toValue
  | none => pure ()
  return report

/-- The report of a search; without exactly one start there is none. -/
def makeReport (o : Find) (index : Index) (settings : Settings) : Action (Option Report) := do
  match index.findRoutines o.start with
  | [] =>
    say .err ("Start routine " ++ o.start ++ " not found")
    return none
  | [start] =>
    let name ← nameFor o
    let report ← searchAndSave o index settings start name
    return some report
  | several =>
    say .err ("Start routine " ++ o.start ++ " is ambiguous, candidates:")
    sayAll .err (several.map fun r => "  " ++ r.file ++ ":" ++ r.qualname)
    return none

/-- Settings and index of a target. -/
def obtainIndex (target : Target) : Action (Index × Settings) := do
  if target.debug then
    sayAll .err ["[Args] Target: " ++ target.path, "[Args] Config: " ++ target.config.getD "None"]
  let settings ← loadSettings target.config target.debug
  let index ← buildIndex target settings
  return (index, settings)

/-- The index that a search obtains, and the report that it comes to. -/
def findReport (o : Find) : Action (Option (Index × Report)) := do
  let (index, settings) ← obtainIndex o.target
  let report ← makeReport o index settings
  return report.map (index, ·)

/-- Prints a report, if there is one. -/
def conclude (o : Find) : Option (Index × Report) → Action Nat
  | some (index, report) => do
    showReport o index report
    return exitCode report.outcome
  | none => return 1

theorem searchAndSave_bind (o : Find) (index : Index) (settings : Settings) (start : Routine)
    (name : Option String) (next : Report → Action Nat) :
    searchAndSave o index settings start name >>= next = (do
      let report ← search o index settings start name
      match o.output.filter (· != "") with
      | some path => saveReport path o.pretty o.target.debug report.toValue
      | none => pure ()
      next report) := by
  unfold searchAndSave
  cases o.output.filter (· != "") <;> simp only [bind_assoc, pure_bind]

theorem runFind_eq (o : Find) (index : Index) (settings : Settings) :
    runFind o index settings =
      makeReport o index settings >>= fun report => conclude o (report.map (index, ·)) := by
  unfold runFind makeReport nameFor
  cases index.findRoutines o.start with
  | nil =>
      simp only [bind_assoc, pure_bind]
      rfl
  | cons start rest =>
      cases rest with
      | nil =>
          cases o.method <;> simp only [bind_assoc, pure_bind, searchAndSave_bind] <;> rfl
      | cons other more =>
          simp only [bind_assoc, pure_bind]
          rfl

/-- A search is what leads to its report, and the printing of it. -/
theorem indexThen_runFind (o : Find) :
    indexThen o.target (runFind o) = findReport o >>= conclude o := by
  unfold indexThen findReport obtainIndex
  split <;> simp only [bind_assoc, pure_bind, runFind_eq]

/-- What a search does until it comes to its report. -/
def reach (o : Find) : Action (Option (Index × Report)) := do
  startLog o.target
  findReport o

theorem execute_find (o : Find) :
    execute (.find o) = (do
      startLog o.target
      let code ← tryCatch (findReport o >>= conclude o) (handleFailure o.target)
      closeCopy
      return code) := by
  rw [execute, runLogged_eq, indexThen_runFind]

theorem quiet_startLog (target : Target) : (startLog target).Quiet := by
  refine (Log.quiet_setUp _).bind fun _ => ?_
  split
  · exact quiet_openCopy _
  · exact quiet_pure ()

theorem quiet_obtainIndex (target : Target) : (obtainIndex target).Quiet := by
  refine quiet_ite _ (quiet_sayAll_err _) fun _ => ?_
  refine (quiet_loadSettings _ _).bind fun settings => ?_
  exact (quiet_buildIndex _ _).bind fun index => quiet_pure _

theorem quiet_searchAndSave (o : Find) (index : Index) (settings : Settings) (start : Routine)
    (name : Option String) : (searchAndSave o index settings start name).Quiet := by
  refine (quiet_search _ _ _ _ _).bind fun report => ?_
  split
  · exact (quiet_saveReport _ _ _ _).bind fun _ => quiet_pure _
  · exact quiet_pure _

theorem quiet_handleFailure (target : Target) (failure : Failure) :
    (handleFailure target failure).Quiet := by
  have hrest : (do
      if target.debug then put .err failure.trace
      else say .err ("Error during analysis: " ++ failure.message)
      return 1 : Action Nat).Quiet := by
    split
    · exact (quiet_put_err _).bind fun _ => quiet_pure _
    · exact (quiet_say_err _).bind fun _ => quiet_pure _
  unfold handleFailure
  cases isOrdinary failure with
  | false => exact (quiet_setCopy none).bind fun _ => (quiet_throw failure).bind fun _ => hrest
  | true => exact hrest

/-! ## What is printed -/

/-- What a search prints before its report: the question for the name, if it has none. -/
def prompted (o : Find) : String :=
  match o.method with
  | some _ => ""
  | none => "Method to find call path to: "

theorem askForTarget_runs (s : Session) :
    askForTarget.runIn s = (.error .interrupted, s) ∨
      ∃ name, askForTarget.runIn s = (.ok name, s.print .out "Method to find call path to: ") := by
  unfold askForTarget
  rw [runIn_bind]
  change runIn (if s.surround.interrupted then _ else _) s = _ ∨
    ∃ name, runIn (if s.surround.interrupted then _ else _) s = _
  split
  · exact Or.inl rfl
  · split
    · exact Or.inr ⟨none, rfl⟩
    · exact Or.inr ⟨some _, rfl⟩

theorem nameFor_runs (o : Find) (s : Session) :
    (∃ name t, (nameFor o).runIn s = (.ok name, t) ∧ s.Adds t (prompted o)) ∨
      ∃ failure t, (nameFor o).runIn s = (.error failure, t) ∧ s.SameOutput t := by
  unfold nameFor prompted
  cases o.method with
  | some name => exact Or.inl ⟨_, s, rfl, (Session.SameOutput.refl s).adds⟩
  | none =>
      rcases askForTarget_runs s with hrun | ⟨name, hrun⟩
      · exact Or.inr ⟨_, s, hrun, .refl s⟩
      · exact Or.inl ⟨name, _, hrun, s.adds_print_out _⟩

/-- The action prints a text, unless it comes to nothing before. -/
def Prompts {α : Type} (act : Action (Option α)) (text : String) : Prop :=
  ∀ s : Session, s.Adds (act.runIn s).2 text ∨
    s.SameOutput (act.runIn s).2 ∧ ∀ a, (act.runIn s).1 ≠ .ok (some a)

theorem prompts_none {α : Type} (text : String) : Prompts (pure none : Action (Option α)) text :=
  fun s => Or.inr ⟨.refl s, nofun⟩

theorem Prompts.bind {α β : Type} {act : Action β} {next : β → Action (Option α)} {text : String}
    (hact : act.Quiet) (hnext : ∀ b, Prompts (next b) text) : Prompts (act >>= next) text := by
  intro s
  have hfirst := hact s
  rw [runIn_bind]
  split
  · rename_i b t hrun
    rw [hrun] at hfirst
    exact (hnext b t).imp hfirst.trans_adds (And.imp_left hfirst.trans)
  · rename_i failure t hrun
    rw [hrun] at hfirst
    exact Or.inr ⟨hfirst, nofun⟩

theorem Prompts.map {α β : Type} {act : Action (Option α)} {text : String} (hact : Prompts act text)
    (f : α → β) : Prompts (act >>= fun a => pure (a.map f)) text := by
  intro s
  have hfirst := hact s
  rw [runIn_bind]
  split
  · rename_i a t hrun
    rw [hrun] at hfirst
    refine hfirst.imp_right (And.imp_right fun hnone b hb => ?_)
    cases a with
    | none => cases hb
    | some a => exact hnone a rfl
  · rename_i failure t hrun
    rw [hrun] at hfirst
    exact hfirst.imp_right (And.imp_right fun _ => nofun)

theorem prompts_nameFor {α : Type} (o : Find) {next : Option String → Action (Option α)}
    (hnext : ∀ name, (next name).Quiet) : Prompts (nameFor o >>= next) (prompted o) := by
  intro s
  rw [runIn_bind]
  rcases nameFor_runs o s with ⟨name, t, hrun, hadds⟩ | ⟨failure, t, hrun, hsame⟩
  · rw [hrun]
    exact Or.inl (hadds.trans_same (hnext name t))
  · rw [hrun]
    exact Or.inr ⟨hsame, nofun⟩

theorem prompts_makeReport (o : Find) (index : Index) (settings : Settings) :
    Prompts (makeReport o index settings) (prompted o) := by
  unfold makeReport
  split
  · exact .bind (quiet_say_err _) fun _ => prompts_none _
  · exact prompts_nameFor o fun name => (quiet_searchAndSave _ _ _ _ _).bind fun report => quiet_pure _
  · exact .bind (quiet_say_err _) fun _ => .bind (quiet_sayAll_err _) fun _ => prompts_none _

theorem prompts_reach (o : Find) : Prompts (reach o) (prompted o) :=
  .bind (quiet_startLog _) fun _ => .bind (quiet_obtainIndex _) fun obtained =>
    (prompts_makeReport o obtained.1 obtained.2).map _

/-- In JSON a report is printed as it is, and nothing else. -/
theorem showReport_runs {o : Find} (hjson : o.json = true) (index : Index) (report : Report)
    (s : Session) : ∃ t, (showReport o index report).runIn s = (.ok (), t) ∧
      s.Adds t (printedReport o s.surround.times index report) := by
  let record := Log.debug
    ("Formatted report with " ++ toString report.candidates.length ++ " candidates as JSON")
  refine ⟨(s.emit record).print .out (printedReport o s.surround.times index report), ?_, ?_⟩
  · unfold showReport
    rw [if_pos hjson]
    rfl
  · exact (s.sameOutput_emit record).trans_adds (Session.adds_print_out _ _)

section Execute

variable {o : Find} (hjson : o.json = true) {s : Session}

include hjson

/-- A search that comes to a report prints it behind what it has printed before. -/
theorem execute_of_report {index : Index} {report : Report} {t : Session}
    (hreach : (reach o).runIn s = (.ok (some (index, report)), t)) :
    ∃ u, (execute (.find o)).runIn s = (.ok (exitCode report.outcome), u) ∧
      t.Adds u (printedReport o t.surround.times index report) := by
  obtain ⟨u, hshow, hadds⟩ := showReport_runs hjson index report t
  have hconclude : (conclude o (some (index, report))).runIn t = (.ok (exitCode report.outcome), u) := by
    rw [conclude, runIn_bind, hshow]
    rfl
  refine ⟨{ u with copy := none }, ?_, hadds.trans_same ⟨rfl, rfl⟩⟩
  rw [reach, runIn_bind] at hreach
  rw [execute_find, runIn_bind]
  split at hreach
  · rw [runIn_bind, runIn_tryCatch, runIn_bind, hreach]
    simp only [hconclude]
    rfl
  · cases hreach

omit hjson in
theorem conclude_of_no_report (hfound : ∀ found, ((findReport o).runIn s).1 ≠ .ok (some found)) :
    ((findReport o).runIn s).2.SameOutput
      ((tryCatch (findReport o >>= conclude o) (handleFailure o.target)).runIn s).2 := by
  rw [runIn_tryCatch, runIn_bind]
  cases hrun : (findReport o).runIn s with
  | mk result t =>
      rw [hrun] at hfound
      match result with
      | .error failure => exact quiet_handleFailure o.target failure t
      | .ok none => exact .refl t
      | .ok (some found) => exact absurd rfl (hfound found)

omit hjson in
/-- One that comes to no report prints nothing more. -/
theorem execute_of_no_report (hreach : ∀ found, ((reach o).runIn s).1 ≠ .ok (some found)) :
    ((reach o).runIn s).2.SameOutput ((execute (.find o)).runIn s).2 := by
  rw [execute_find, runIn_bind]
  rw [reach, runIn_bind] at hreach ⊢
  cases hstart : (startLog o.target).runIn s with
  | mk result s₁ =>
      rw [hstart] at hreach
      cases result with
      | error failure => exact .refl s₁
      | ok =>
          refine (conclude_of_no_report hreach).trans (sameOutput_bind s₁ fun code => ?_)
          exact (quiet_setCopy none).bind fun _ => quiet_pure code

end Execute

/-! ## Whole command lines -/

/-- Run from a session, the search comes to a report.  A report that is to be saved is one only if it
can be: a run whose saving fails counts as one without a report. -/
def Reports (o : Find) (s : Session) (index : Index) (report : Report) : Prop :=
  ∃ t, (reach o).runIn ((Log.setUp {}).runIn s).2 = (.ok (some (index, report)), t)

section Run

variable {words : List String} {o : Find} {s : Session} (hparse : parse words = .ok (.find o))

include hparse

theorem run_of_report (hjson : o.json = true) {index : Index} {report : Report}
    (hreport : Reports o s index report) :
    ∃ t, run words s = (.done (exitCode report.outcome), t) ∧
      t.out = s.out ++ prompted o ++ printedReport o s.surround.times index report := by
  obtain ⟨t, hreach⟩ := hreport
  obtain ⟨u, hexecute, hadds⟩ := execute_of_report hjson hreach
  refine ⟨u, by simp only [run, hparse, hexecute], ?_⟩
  have hprompt : s.Adds t (prompted o) := by
    have hsetUp := Log.quiet_setUp {} s
    have hprompts := prompts_reach o ((Log.setUp {}).runIn s).2
    rw [hreach] at hprompts
    exact hsetUp.trans_adds (hprompts.resolve_right fun hnone => hnone.2 _ rfl)
  rw [hadds.out, hprompt.out, hprompt.surround]

/-- What a command line adds to its command is for the error output. -/
theorem sameOutput_run :
    ((execute (.find o)).runIn ((Log.setUp {}).runIn s).2).2.SameOutput (run words s).2 := by
  unfold run
  simp only [hparse]
  split
  · rename_i hexecute
    rw [hexecute]
    exact .refl _
  · rename_i hexecute
    rw [hexecute]
    exact Session.sameOutput_print_err _ _
  · rename_i hexecute
    rw [hexecute]
    exact Session.sameOutput_foldl Session.sameOutput_emit _ _

theorem run_of_no_report (hreport : ∀ index report, ¬ Reports o s index report) :
    (run words s).2.out = s.out ∨ (run words s).2.out = s.out ++ prompted o := by
  let s₁ := ((Log.setUp {}).runIn s).2
  have hsetUp : s.SameOutput s₁ := Log.quiet_setUp {} s
  have hreach : ∀ found, ((reach o).runIn s₁).1 ≠ .ok (some found) := fun found hfound =>
    hreport found.1 found.2 ⟨((reach o).runIn s₁).2, Prod.ext hfound rfl⟩
  have hrest : ((reach o).runIn s₁).2.SameOutput (run words s).2 :=
    (execute_of_no_report hreach).trans (sameOutput_run hparse)
  rcases prompts_reach o s₁ with hadds | ⟨hsame, -⟩
  · exact Or.inr (hsetUp.trans_adds (hadds.trans_same hrest)).out
  · exact Or.inl (hsetUp.trans (hsame.trans hrest)).out

end Run

/-- A search with JSON that comes to a report prints this report on the standard output, and in front
of it the question for the name of the target if none is given; so the report is all that is there
exactly if a name is given.  A search that comes to no report prints the question at most. -/
theorem json_output_is_clean_iff {words : List String} {o : Find} (s : Session)
    (hparse : parse words = .ok (.find o)) (hjson : o.json = true) :
    (∀ index report, Reports o s index report →
      (run words s).2.out = s.out ++ prompted o ++ printedReport o s.surround.times index report ∧
      ((run words s).2.out = s.out ++ printedReport o s.surround.times index report ↔
        o.method ≠ none)) ∧
    ((∀ index report, ¬ Reports o s index report) →
      (run words s).2.out = s.out ∨ (run words s).2.out = s.out ++ prompted o) := by
  refine ⟨fun index report hreport => ?_, run_of_no_report hparse⟩
  obtain ⟨t, hrun, hout⟩ := run_of_report hparse hjson hreport
  rw [hrun]
  refine ⟨hout, ?_⟩
  rw [hout, prompted]
  cases o.method with
  | some name => simp
  | none => simp [String.append_assoc]

/-! ## A search with and without a name -/

/-- A source file, and a name to be read from the standard input. -/
def askedSession : Session where
  surround := { times := ⟨"", "", ""⟩, input := "work\n" }
  disk :=
    { tree := .directory
        [("m.py", .file (Utf8.encode "def main(): work()\ndef work(): return 1\n"))] }

/-- The words of a search, with more options. -/
def findWords (more : List String) : List String :=
  ["find", "--target", "m.py", "--start", "main", "--format", "json"] ++ more

/-- A search that has no name. -/
def unnamedSearch : Find where
  target := { path := "m.py" }
  start := "main"
  json := true

/-- A search that has a name, and writes files. -/
def namedSearch : Find where
  target := { path := "m.py", logFile := some "run.log" }
  start := "main"
  method := some "work"
  json := true
  output := some "out.json"

def namedWords : List String :=
  findWords ["--method", "work", "--log-file", "run.log", "--output", "out.json"]

/-- Whether a search comes to a report. -/
def comesToReport (o : Find) (s : Session) : Bool :=
  match ((reach o).runIn ((Log.setUp {}).runIn s).2).1 with
  | .ok (some _) => true
  | _ => false

theorem exists_reports {o : Find} {s : Session} (hcomes : comesToReport o s = true) :
    ∃ index report, Reports o s index report := by
  unfold comesToReport at hcomes
  split at hcomes
  · rename_i found hfound
    exact ⟨found.1, found.2, _, Prod.ext hfound rfl⟩
  · cases hcomes

theorem json_output_is_clean_iff_of_name :
    parse namedWords = .ok (.find namedSearch) ∧ ∃ index report,
      Reports namedSearch askedSession index report ∧
      (run namedWords askedSession).2.out =
        askedSession.out ++ printedReport namedSearch askedSession.surround.times index report := by
  have hparse : parse namedWords = .ok (.find namedSearch) := rfl
  obtain ⟨index, report, hreport⟩ : ∃ index report, Reports namedSearch askedSession index report :=
    exists_reports (by decide +kernel)
  have hclean := (json_output_is_clean_iff askedSession hparse rfl).1 index report hreport
  exact ⟨hparse, index, report, hreport, hclean.2.mpr nofun⟩

/-- Without a name the question for it stands in front of the report. -/
theorem question_stands_before_report :
    parse (findWords []) = .ok (.find unnamedSearch) ∧ ∃ index report,
      Reports unnamedSearch askedSession index report ∧
      (run (findWords []) askedSession).2.out = "Method to find call path to: " ++
        printedReport unnamedSearch askedSession.surround.times index report ∧
      (run (findWords []) askedSession).2.out ≠
        askedSession.out ++ printedReport unnamedSearch askedSession.surround.times index report := by
  have hparse : parse (findWords []) = .ok (.find unnamedSearch) := rfl
  obtain ⟨index, report, hreport⟩ : ∃ index report, Reports unnamedSearch askedSession index report :=
    exists_reports (by decide +kernel)
  obtain ⟨t, hrun, hout⟩ := run_of_report hparse rfl hreport
  have hempty : askedSession.out = "" := rfl
  have hquestion : prompted unnamedSearch = "Method to find call path to: " := rfl
  rw [hempty, String.empty_append, hquestion] at hout
  refine ⟨hparse, index, report, hreport, ?_, ?_⟩
  · rw [hrun, hout]
  · rw [hrun, hout, hempty, String.empty_append]
    simp

end CallChain.CommandLine
