import CallChain.Proofs.Search.Enumeration

/-!
# Cancelling a search is all or nothing

A token changes nothing about a search but where it ends.  Two runs that agree on what was expanded
and noted, and differ in token and clock alone, still agree after any event (`Agree.after`), so a
search that is not stopped tells and finds what it would without a token.  A search that is stopped
has played the events up to the poll that stopped it (`exists_play_eq_foldl`), and since events
only add notes, what it told is the beginning of what it would have told.

A token that is due stays due: a poll keeps it cancelled, and no other event takes that back.
-/

namespace CallChain

open Search (Event)

/-! ## When a poll finds the token cancelled -/

/-- The token is cancelled, or the clock is read at or past its deadline or with a signal to
stop. -/
def CancelToken.IsDue (token : CancelToken) (clock : Clock) : Prop :=
  token.cancelled = true ∨
    ∃ deadline, token.deadline = some deadline ∧
      (deadline ≤ clock.read.time ∨ clock.read.signalled = true)

theorem CancelToken.cancelled_poll_iff (token : CancelToken) (clock : Clock) :
    (token.poll clock).1.cancelled = true ↔ token.IsDue clock := by
  unfold poll IsDue
  cases hcancelled : token.cancelled with
  | true => simp [hcancelled]
  | false =>
      cases hdeadline : token.deadline with
      | none => simp [hcancelled]
      | some deadline => simp [or_comm]

namespace Run

/-- The token that the run carries is due on its clock. -/
def IsDue (run : Run) : Prop := ∃ token, run.token = some token ∧ token.IsDue run.clock

theorem poll_fst_iff (run : Run) : run.poll.1 = true ↔ run.IsDue := by
  unfold poll IsDue
  cases htoken : run.token with
  | none => simp
  | some token => simpa using token.cancelled_poll_iff run.clock

/-! ### Once due, always due -/

/-- The token of the run is cancelled. -/
private def IsCancelled (run : Run) : Prop := ∃ token, run.token = some token ∧ token.cancelled = true

private theorem IsCancelled.isDue {run : Run} (hcancelled : run.IsCancelled) : run.IsDue := by
  obtain ⟨token, htoken, hflag⟩ := hcancelled
  exact ⟨token, htoken, Or.inl hflag⟩

private theorem IsDue.isCancelled_poll {run : Run} (hdue : run.IsDue) : run.poll.2.IsCancelled := by
  obtain ⟨token, htoken, hdue⟩ := hdue
  refine ⟨(token.poll run.clock).1, ?_, (token.cancelled_poll_iff run.clock).mpr hdue⟩
  simp [poll, htoken]

private theorem IsCancelled.after {run : Run} (hcancelled : run.IsCancelled) (event : Event) :
    (run.after event).IsCancelled := by
  obtain ⟨token, htoken, hflag⟩ := hcancelled
  cases event with
  | begin => exact ⟨token, htoken, hflag⟩
  | poll => exact IsDue.isCancelled_poll ⟨token, htoken, Or.inl hflag⟩
  | expand r =>
      -- at its point of cancellation the run cancels the token once more
      by_cases hpoint : run.cancelAt = some (run.expanded + 1)
      · exact ⟨token.cancel, by simp [Run.after, expand, note, hpoint, htoken], rfl⟩
      · exact ⟨token, by simp [Run.after, expand, note, hpoint, htoken], hflag⟩
  | handOff site r => exact ⟨token, htoken, hflag⟩
  | arrive chain => exact ⟨token, htoken, hflag⟩

private theorem IsCancelled.foldl_after {run : Run} (hcancelled : run.IsCancelled)
    (events : List Event) : (events.foldl Run.after run).IsCancelled := by
  induction events generalizing run with
  | nil => exact hcancelled
  | cons event rest ih => exact ih (hcancelled.after event)

/-- After a poll that finds the token due, it is due whatever happens. -/
theorem IsDue.after_poll {run : Run} (hdue : run.IsDue) (events : List Event) :
    (events.foldl Run.after run.poll.2).IsDue :=
  (hdue.isCancelled_poll.foldl_after events).isDue

/-! ## What a run has told -/

/-- The routines that were reported as expanded, with their numbers, the first one first. -/
def progress (run : Run) : List (Nat × Routine) :=
  run.notes.reverse.filterMap fun
    | .progress count r => some (count, r)
    | .handOff .. => none

/-- Two runs that have expanded equally many routines and noted the same. -/
structure Agree (run other : Run) : Prop where
  expanded : run.expanded = other.expanded
  notes : run.notes = other.notes

theorem Agree.progress {run other : Run} (hagree : run.Agree other) :
    run.progress = other.progress := by
  unfold Run.progress
  rw [hagree.notes]

/-- A poll counts and notes nothing. -/
theorem poll_agree (run : Run) : run.poll.2.Agree run := by
  unfold poll
  split <;> exact ⟨rfl, rfl⟩

theorem Agree.after {run other : Run} (hagree : run.Agree other) (event : Event) :
    (run.after event).Agree (other.after event) := by
  obtain ⟨hexpanded, hnotes⟩ := hagree
  cases event with
  | begin => exact ⟨rfl, hnotes⟩
  | poll =>
      refine ⟨?_, ?_⟩
      · exact run.poll_agree.expanded.trans (hexpanded.trans other.poll_agree.expanded.symm)
      · exact run.poll_agree.notes.trans (hnotes.trans other.poll_agree.notes.symm)
  | expand r =>
      refine ⟨?_, ?_⟩
      · simp [Run.after, expand, note, hexpanded]
      · simp [Run.after, expand, note, hexpanded, hnotes]
  | handOff site r => exact ⟨hexpanded, by simp [Run.after, note, hnotes]⟩
  | arrive chain => exact ⟨hexpanded, hnotes⟩

theorem Agree.foldl_after {run other : Run} (hagree : run.Agree other) (events : List Event) :
    (events.foldl Run.after run).Agree (events.foldl Run.after other) := by
  induction events generalizing run other with
  | nil => exact hagree
  | cons event rest ih => exact ih (hagree.after event)

theorem notes_suffix_after (run : Run) (event : Event) : run.notes <:+ (run.after event).notes := by
  cases event with
  | begin => exact List.suffix_rfl
  | poll =>
      simp only [Run.after, poll]
      split <;> exact List.suffix_rfl
  | expand r => exact List.suffix_cons ..
  | handOff site r => exact List.suffix_cons ..
  | arrive chain => exact List.suffix_rfl

theorem notes_suffix_foldl_after (run : Run) (events : List Event) :
    run.notes <:+ (events.foldl Run.after run).notes := by
  induction events generalizing run with
  | nil => exact List.suffix_rfl
  | cons event rest ih => exact (run.notes_suffix_after event).trans (ih (run.after event))

/-- Events add to what was told and take nothing back. -/
theorem progress_prefix_foldl_after (run : Run) (events : List Event) :
    run.progress <+: (events.foldl Run.after run).progress :=
  (List.reverse_prefix.mpr (run.notes_suffix_foldl_after events)).filterMap _

/-! ## Where a play ends -/

/-- A play is a play of all events up to some of them. -/
theorem exists_play_eq_foldl (events : List Event) (run : Run) :
    ∃ played rest, events = played ++ rest ∧ (play events run).2 = played.foldl Run.after run := by
  induction events generalizing run with
  | nil => exact ⟨[], [], rfl, rfl⟩
  | cons event later ih =>
      rw [play]
      split
      · exact ⟨[event], later, rfl, rfl⟩
      · obtain ⟨played, rest, hsplit, hplay⟩ := ih (run.after event)
        exact ⟨event :: played, rest, by rw [hsplit, List.cons_append], hplay⟩

/-- What a play tells goes on from what was told before, and an agreeing run in which all events
happen tells it too before it tells more. -/
theorem Agree.progress_play {run other : Run} (hagree : run.Agree other) (events : List Event) :
    run.progress <+: (play events run).2.progress ∧
      (play events run).2.progress <+: (events.foldl Run.after other).progress := by
  obtain ⟨played, rest, hsplit, hplay⟩ := exists_play_eq_foldl events run
  rw [hplay]
  refine ⟨run.progress_prefix_foldl_after played, ?_⟩
  rw [(hagree.foldl_after played).progress, hsplit, List.foldl_append]
  exact progress_prefix_foldl_after _ rest

end Run

namespace Search

theorem paths_eq_none_iff {graph : CallGraph} {start : Routine} {policy : HandOffPolicy}
    {target : Routine} {run : Run} :
    (paths graph start policy target run).1 = none ↔
      Run.SeesCancelled (courseTo graph start policy target) run := by
  rw [paths_fst, Option.map_eq_none_iff, chains_eq, ← Run.play_stopped_iff]
  cases (Run.play (courseTo graph start policy target) run).1 <;> simp

theorem paths_snd (graph : CallGraph) (start : Routine) (policy : HandOffPolicy) (target : Routine)
    (run : Run) :
    (paths graph start policy target run).2 =
      (Run.play (courseTo graph start policy target) run).2 := by
  change (chains graph start policy target run).2 = _
  rw [chains_eq]

/-- A search that no poll stops makes its whole course happen and names the chains it meets. -/
theorem paths_of_not_seesCancelled {graph : CallGraph} {start : Routine} {policy : HandOffPolicy}
    {target : Routine} {run : Run}
    (hquiet : ¬ Run.SeesCancelled (courseTo graph start policy target) run) :
    paths graph start policy target run =
      (some (nameChains (firstOccurrences (arrivals (courseTo graph start policy target)))),
        (courseTo graph start policy target).foldl Run.after run) := by
  refine Prod.ext ?_ ?_
  · rw [paths_fst, chains_eq_some_iff.mpr ⟨hquiet, rfl⟩]
    rfl
  · rw [← Run.play_stopped_iff, Bool.not_eq_true] at hquiet
    rw [paths_snd]
    exact Run.play_snd_of_not_stopped hquiet

/-- A search with a token is stopped, exactly if one of its polls finds the token due, or gives
what the search without a token gives.  A token that a poll has found due is due at every later
poll, and what is told before the search is stopped is the beginning of what would be told without
a token. -/
theorem stopped_or_undisturbed (graph : CallGraph) (start target : Routine)
    (policy : HandOffPolicy) (run : Run) :
    let alone := paths graph start policy target { run with token := none }
    let bound := paths graph start policy target run
    alone.1 ≠ none ∧
    (bound.1 = none ∨ bound.1 = alone.1 ∧ bound.2.expanded = alone.2.expanded ∧
      bound.2.progress = alone.2.progress) ∧
    (bound.1 = none ↔ ∃ earlier later,
      courseTo graph start policy target = earlier ++ .poll :: later ∧
        (earlier.foldl Run.after run).IsDue) ∧
    (∀ earlier between : List Event, (earlier.foldl Run.after run).IsDue →
      ((earlier ++ .poll :: between).foldl Run.after run).IsDue) ∧
    run.progress <+: bound.2.progress ∧ bound.2.progress <+: alone.2.progress := by
  intro alone bound
  have hagree : Run.Agree run { run with token := none } := ⟨rfl, rfl⟩
  have halone : alone = (some (nameChains (firstOccurrences
      (arrivals (courseTo graph start policy target)))),
      (courseTo graph start policy target).foldl Run.after { run with token := none }) :=
    paths_of_not_seesCancelled (not_seesCancelled_of_token_none _ rfl)
  refine ⟨by simp [halone], ?_, ?_, ?_, ?_⟩
  · by_cases hstopped : Run.SeesCancelled (courseTo graph start policy target) run
    · exact Or.inl (paths_eq_none_iff.mpr hstopped)
    · have hbound : bound = _ := paths_of_not_seesCancelled hstopped
      have hend := hagree.foldl_after (courseTo graph start policy target)
      rw [hbound, halone]
      exact Or.inr ⟨rfl, hend.expanded, hend.progress⟩
  · rw [paths_eq_none_iff, Run.SeesCancelled]
    simp only [Run.poll_fst_iff]
  · intro earlier between hdue
    rw [List.foldl_append]
    exact hdue.after_poll between
  · have hbound : bound.2 = _ := paths_snd graph start policy target run
    rw [hbound, halone]
    exact hagree.progress_play (courseTo graph start policy target)

end Search

end CallChain
