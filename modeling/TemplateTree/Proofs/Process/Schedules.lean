import TemplateTree.Process

/-!
# Schedules

What becomes of a group does not depend on where its schedule is cut, and every group can be given
its turns until all of it is done: `exists_follow_eq_together`.
-/

namespace TemplateTree.Process

variable {State Result : Type} (state : State)

theorem follow_append (first second : List Nat) (members : List (Process State Result)) :
    follow (first ++ second) members state =
      follow second (follow first members state).1 (follow first members state).2 := by
  induction first generalizing members state with
  | nil => rfl
  | cons position rest inductionHypothesis => exact inductionHypothesis ..

/-- A process that is given no turn stays as it is. -/
theorem follow_map_succ (schedule : List Nat) (first : Process State Result)
    (rest : List (Process State Result)) :
    follow (schedule.map (· + 1)) (first :: rest) state =
      (first :: (follow schedule rest state).1, (follow schedule rest state).2) := by
  induction schedule generalizing rest state with
  | nil => rfl
  | cons position schedule inductionHypothesis => exact inductionHypothesis ..

/-- A process can be given its turn until it is done. -/
theorem exists_follow_eq_run (process : Process State Result) (rest : List (Process State Result)) :
    ∃ schedule, follow schedule (process :: rest) state =
      (.done (process.run state).1 :: rest, (process.run state).2) := by
  induction process generalizing state with
  | done result => exact ⟨[], rfl⟩
  | step change next inductionHypothesis =>
    obtain ⟨schedule, done⟩ := inductionHypothesis state (change state)
    exact ⟨0 :: schedule, done⟩

/-- To leave one process after the other to itself is one of the schedules. -/
theorem exists_follow_eq_runAll (members : List (Process State Result)) :
    ∃ schedule, follow schedule members state =
      ((runAll members state).1.map .done, (runAll members state).2) := by
  induction members generalizing state with
  | nil => exact ⟨[], rfl⟩
  | cons process rest inductionHypothesis =>
    obtain ⟨first, done⟩ := exists_follow_eq_run state process rest
    obtain ⟨others, left⟩ := inductionHypothesis (process.run state).2
    refine ⟨first ++ others.map (· + 1), ?_⟩
    rw [follow_append, done, follow_map_succ, left]
    rfl

/-- Processes that run together are done at the end of some schedule. -/
theorem exists_follow_eq_together (schedule : List Nat) (members : List (Process State Result)) :
    ∃ whole, follow whole members state =
      ((together schedule members state).1.map .done, (together schedule members state).2) := by
  obtain ⟨rest, done⟩ := exists_follow_eq_runAll (follow schedule members state).2
    (follow schedule members state).1
  exact ⟨schedule ++ rest, by rw [follow_append, done]; rfl⟩

end TemplateTree.Process
