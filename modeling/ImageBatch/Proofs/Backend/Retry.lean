import ImageBatch.Backend.Retry
import ImageBatch.Proofs.Backend.Exchanges

/-!
Attempts.

A task that is tried again and again succeeds only if its last attempt does: the latest exchanges are those of an
attempt that has the value (`Task.Yields.of_withRetry`).
-/

namespace ImageBatch.Task

variable {Ask : Type} {Answer : Ask → Type} {α : Type} {pause : Nat → Task Ask Answer Unit} {operation : String}
  {policy : RetryPolicy} {task : Task Ask Answer (Except BackendError α)} {exchanges : List (Exchange Ask Answer)}
  {value : α}

theorem Yields.of_retryFrom {attempt delay left : Nat}
    (yields : (retryFrom pause operation policy task attempt delay left).Yields exchanges (.ok value)) :
    ∃ earlier later, exchanges = later ++ earlier ∧ task.Yields later (.ok value) := by
  induction left generalizing attempt delay exchanges with
  | zero =>
      obtain ⟨result, first, rest, rfl, tried, ended⟩ := Yields.of_bind yields
      cases result with
      | ok given =>
          obtain ⟨rfl, ⟨⟩⟩ := yields_done ended
          exact ⟨[], first, (List.append_nil _).symm, tried⟩
      | error e =>
          obtain ⟨-, ⟨⟩⟩ := yields_done ended
  | succ left ih =>
      obtain ⟨result, first, rest, rfl, tried, goesOn⟩ := Yields.of_bind yields
      cases result with
      | ok given =>
          obtain ⟨rfl, ⟨⟩⟩ := yields_done goesOn
          exact ⟨[], first, (List.append_nil _).symm, tried⟩
      | error e =>
          by_cases transient : e.isTransient = true
          · simp only [if_pos transient] at goesOn
            obtain ⟨_, waited, again, rfl, -, retried⟩ := Yields.of_bind goesOn
            obtain ⟨earlier, later, rfl, succeeded⟩ := ih retried
            refine ⟨earlier ++ (waited ++ first), later, ?_, succeeded⟩
            simp only [List.append_assoc]
          · simp only [if_neg transient] at goesOn
            obtain ⟨-, ⟨⟩⟩ := yields_done goesOn

/-- The last attempt is the one that succeeds. -/
theorem Yields.of_withRetry (yields : (withRetry pause operation policy task).Yields exchanges (.ok value)) :
    ∃ earlier later, exchanges = later ++ earlier ∧ task.Yields later (.ok value) :=
  Yields.of_retryFrom yields

end ImageBatch.Task
