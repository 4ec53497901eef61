import CallChain.Search

/-!
# The course of a search

A search does two things at once: it collects chains, and it changes a `Run`, whose token may stop
it anywhere.  This file takes the two apart.  `course` lists what a search does, step by step, as
far as nothing stops it; it reads the graph and the policy but no run.  `Run.play` lets a list of
events happen to a run, up to the first poll that sees the token cancelled.

* `visit_eq_settle` says that a search is the play of its course: stopped exactly if the play is,
  with the chains of the course's arrivals otherwise, and with the run that the play leads to.
* `play_stopped_iff` says that a play is stopped exactly if some poll sees the token cancelled,
  where the poll is made on the run to which the events before it lead.
* `not_stopped_of_token_none` says that nothing stops a run without a token.

So what a search finds depends on the run only through the question whether it is stopped.
-/

namespace CallChain

/-- One thing that a search does. -/
inductive Search.Event where
  /-- The count of expanded routines starts anew. -/
  | begin
  | poll
  | expand (r : Routine)
  | handOff (site : CallSite) (r : Routine)
  /-- The start is met, and a chain is complete. -/
  | arrive (chain : Chain)

open Search (Event)

namespace Run

/-- The run after an event, whatever a poll may see. -/
def after (run : Run) : Event → Run
  | .begin => { run with expanded := 0 }
  | .poll => run.poll.2
  | .expand r => run.expand r
  | .handOff site r => run.note (.handOff site r)
  | .arrive _ => run

/-- Whether an event is a poll that sees the token cancelled. -/
def stopsAt (run : Run) : Event → Bool
  | .poll => run.poll.1
  | _ => false

/-- Lets events happen up to the first poll that sees the token cancelled, and says whether there
was one. -/
def play : List Event → Run → Bool × Run
  | [], run => (false, run)
  | event :: rest, run =>
    if run.stopsAt event then (true, run.after event) else play rest (run.after event)

/-- Some poll among the events sees the token cancelled. -/
def SeesCancelled (events : List Event) (run : Run) : Prop :=
  ∃ earlier later, events = earlier ++ .poll :: later ∧
    (earlier.foldl after run).poll.1 = true

/-! ## Playing events -/

theorem play_append (first second : List Event) (run : Run) :
    play (first ++ second) run =
      if (play first run).1 then play first run else play second (play first run).2 := by
  induction first generalizing run with
  | nil => rfl
  | cons event rest ih =>
      simp only [List.cons_append, play]
      by_cases hstop : run.stopsAt event = true
      · simp [hstop]
      · simp only [hstop, Bool.false_eq_true, if_false]
        exact ih _

/-- A play that nothing stops makes every event happen. -/
theorem play_snd_of_not_stopped {events : List Event} {run : Run}
    (hplay : (play events run).1 = false) : (play events run).2 = events.foldl after run := by
  induction events generalizing run with
  | nil => rfl
  | cons event rest ih =>
      rw [play] at hplay ⊢
      by_cases hstop : run.stopsAt event = true
      · simp [hstop] at hplay
      · rw [if_neg hstop] at hplay ⊢
        exact ih hplay

private theorem seesCancelled_cons {event : Event} {rest : List Event} {run : Run} :
    SeesCancelled (event :: rest) run ↔
      run.stopsAt event = true ∨ SeesCancelled rest (run.after event) := by
  constructor
  · rintro ⟨earlier, later, hsplit, hpoll⟩
    cases earlier with
    | nil =>
        obtain ⟨rfl, rfl⟩ := List.cons.inj hsplit
        exact Or.inl hpoll
    | cons head earlier =>
        obtain ⟨rfl, rfl⟩ := List.cons.inj hsplit
        exact Or.inr ⟨earlier, later, rfl, hpoll⟩
  · rintro (hstop | ⟨earlier, later, rfl, hpoll⟩)
    · cases event with
      | poll => exact ⟨[], rest, rfl, hstop⟩
      | _ => simp [stopsAt] at hstop
    · exact ⟨event :: earlier, later, rfl, hpoll⟩

theorem play_stopped_iff (events : List Event) (run : Run) :
    (play events run).1 = true ↔ SeesCancelled events run := by
  induction events generalizing run with
  | nil => simp [play, SeesCancelled]
  | cons event rest ih =>
      rw [seesCancelled_cons, ← ih]
      by_cases hstop : run.stopsAt event = true <;> simp [play, hstop]

/-! ## Runs without a token -/

theorem after_token_none {run : Run} (htoken : run.token = none) (event : Event) :
    (run.after event).token = none := by
  cases event <;> simp [after, poll, expand, note, htoken]

theorem stopsAt_of_token_none {run : Run} (htoken : run.token = none) (event : Event) :
    run.stopsAt event = false := by
  cases event <;> simp [stopsAt, poll, htoken]

theorem not_stopped_of_token_none (events : List Event) {run : Run} (htoken : run.token = none) :
    (play events run).1 = false := by
  induction events generalizing run with
  | nil => rfl
  | cons event rest ih =>
      rw [play, stopsAt_of_token_none htoken event]
      exact ih (after_token_none htoken event)

end Run

namespace Search

/-- The chains that are complete along the events. -/
def arrivals (events : List Event) : List Chain :=
  events.filterMap fun
    | .arrive chain => some chain
    | _ => none

@[simp] theorem arrivals_nil : arrivals [] = [] := rfl

@[simp] theorem arrivals_append (first second : List Event) :
    arrivals (first ++ second) = arrivals first ++ arrivals second :=
  List.filterMap_append ..

/-- What happens along the sites of a routine, where `branch` is what happens for a caller. -/
def siteCourse (policy : HandOffPolicy) (branch : Routine → List Event) (current : Routine) :
    List CallSite → List Event
  | [] => []
  | site :: rest =>
    if site.handedOff then
      .handOff site current ::
        if policy = .sever then [] else siteCourse policy branch current rest
    else (site.caller.map branch).getD [] ++ siteCourse policy branch current rest

/-- What happens from a routine on, behind the routines of a trail. -/
def course (graph : CallGraph) (start : Routine) (policy : HandOffPolicy) :
    Nat → List Routine → Routine → List Event
  | 0, _, _ => []
  | depth + 1, trail, current =>
    if trail.contains current then []
    else if current == start then [.poll, .arrive (current :: trail).dropLast]
    else .poll :: .expand current ::
      siteCourse policy (course graph start policy depth (current :: trail)) current
        (graph.sitesOf current)

/-- What happens in a whole search for a target. -/
def courseTo (graph : CallGraph) (start : Routine) (policy : HandOffPolicy) (target : Routine) :
    List Event :=
  .begin :: course graph start policy (depthBound graph) [] target

/-- What a play of events comes to for a search that had found some chains before. -/
def settle (chains : List Chain) (events : List Event) (run : Run) : Found :=
  (if (Run.play events run).1 then none else some (chains ++ arrivals events),
    (Run.play events run).2)

/-! ## A search is the play of its course -/

theorem course_of_contains {graph : CallGraph} {start : Routine} {policy : HandOffPolicy}
    {trail : List Routine} {current : Routine} (htrail : trail.contains current = true) :
    ∀ depth, course graph start policy depth trail current = []
  | 0 => rfl
  | depth + 1 => by simp [course, htrail]

/-- The part of a settled search after events that have been played. -/
theorem settle_append (chains : List Chain) (first second : List Event) (run : Run) :
    settle chains (first ++ second) run =
      match settle [] first run with
      | (none, run) => (none, run)
      | (some found, run) => settle (chains ++ found) second run := by
  unfold settle
  rw [Run.play_append]
  cases hstop : (Run.play first run).1 <;> simp [hstop, List.append_assoc]

private theorem follow_eq_settle (policy : HandOffPolicy) {visit : Routine → Run → Found}
    {branch : Routine → List Event} (current : Routine) (trail : List Routine)
    (hvisit : ∀ caller run, visit caller run = settle [] (branch caller) run)
    (hseen : ∀ caller, trail.contains caller = true → branch caller = []) :
    ∀ (sites : List CallSite) (chains : List Chain) (run : Run),
      follow policy visit current trail sites chains run =
        settle chains (siteCourse policy branch current sites) run := by
  intro sites
  induction sites with
  | nil => intro chains run; simp [follow, siteCourse, settle, Run.play]
  | cons site rest ih =>
      intro chains run
      rw [follow, siteCourse]
      by_cases hoff : site.handedOff = true
      · rw [if_pos hoff, if_pos hoff]
        cases policy with
        | sever => simp [settle, Run.play, Run.stopsAt, Run.after, arrivals]
        | skip =>
            simp only [ih]
            simp [settle, Run.play, Run.stopsAt, Run.after, arrivals]
      · rw [if_neg hoff, if_neg hoff]
        cases hcaller : site.caller with
        | none => simpa using ih chains run
        | some caller =>
            simp only [Option.map_some, Option.getD_some]
            by_cases hmem : trail.contains caller = true
            · rw [if_pos hmem, hseen caller hmem, List.nil_append]
              exact ih chains run
            · rw [if_neg hmem, settle_append, hvisit]
              cases hsettle : settle [] (branch caller) run with
              | mk found after => cases found <;> simp [ih]

theorem visit_eq_settle (graph : CallGraph) (start : Routine) (policy : HandOffPolicy) :
    ∀ (depth : Nat) (trail : List Routine) (current : Routine) (run : Run),
      visit graph start policy depth trail current run =
        settle [] (course graph start policy depth trail current) run := by
  intro depth
  induction depth with
  | zero => intro trail current run; rfl
  | succ depth ih =>
      intro trail current run
      rw [visit, course]
      by_cases htrail : trail.contains current = true
      · rw [if_pos htrail, if_pos htrail]
        rfl
      · rw [if_neg htrail, if_neg htrail]
        have hfollow := follow_eq_settle policy current (current :: trail)
          (fun caller run => ih (current :: trail) caller run)
          (fun caller hmem => course_of_contains hmem depth)
        cases hpoll : run.poll with
        | mk stopped polled =>
            by_cases hstart : (current == start) = true
            · cases stopped <;>
                simp [hstart, settle, Run.play, Run.stopsAt, Run.after, hpoll, arrivals]
            · cases stopped with
              | true => simp [hstart, settle, Run.play, Run.stopsAt, hpoll, Run.after]
              | false =>
                  simp only [hstart, Bool.false_eq_true, if_false, hfollow]
                  simp [settle, Run.play, Run.stopsAt, hpoll, Run.after, arrivals]

/-- The chains of a whole search: each arrival of its course once, unless a poll stops it. -/
theorem chains_eq (graph : CallGraph) (start : Routine) (policy : HandOffPolicy) (target : Routine)
    (run : Run) :
    chains graph start policy target run =
      (if (Run.play (courseTo graph start policy target) run).1 then none
        else some (firstOccurrences (arrivals (courseTo graph start policy target))),
      (Run.play (courseTo graph start policy target) run).2) := by
  simp only [chains, visit_eq_settle]
  rw [settle, courseTo, Run.play]
  simp only [Run.stopsAt, Bool.false_eq_true, if_false, Run.after]
  split <;> simp [arrivals]

end Search

end CallChain
