import ImageBatch.Backend.Retry

/-!
The questions of a task.

A task that only asks questions of some sort (`Task.OnlyAsks`) does so too when it goes on as another such task
(`Task.OnlyAsks.bind`) or is tried again and again (`Task.OnlyAsks.withRetry`). What follows an attempt is a task of its
own (`Task.afterTry`): it is done, or it pauses and tries again.
-/

namespace ImageBatch.Task

variable {Ask : Type} {Answer : Ask → Type} {α β : Type} {allowed : Ask → Prop}

/-- Whatever it is answered, a task asks only what is allowed. -/
def OnlyAsks (allowed : Ask → Prop) : Task Ask Answer α → Prop
  | .done _ => True
  | .ask question next => allowed question ∧ ∀ answer, OnlyAsks allowed (next answer)

theorem OnlyAsks.bind {task : Task Ask Answer α} {next : α → Task Ask Answer β} (first : task.OnlyAsks allowed)
    (then_ : ∀ value, (next value).OnlyAsks allowed) : (task.bind next).OnlyAsks allowed := by
  induction task with
  | done value => exact then_ value
  | ask question rest ih =>
      obtain ⟨asked, others⟩ := first
      exact ⟨asked, fun answer => ih answer (others answer)⟩

/-! ### Attempts -/

variable {pause : Nat → Task Ask Answer Unit} {operation : String} {policy : RetryPolicy}
  {task : Task Ask Answer (Except BackendError α)} {attempt delay left : Nat}

/-- What follows an attempt. -/
def afterTry (pause : Nat → Task Ask Answer Unit) (operation : String) (policy : RetryPolicy)
    (task : Task Ask Answer (Except BackendError α)) (attempt delay : Nat) :
    (left : Nat) → Except BackendError α → Task Ask Answer (Except BackendError α)
  | _, .ok value => .done (.ok value)
  | 0, .error e => .done (.error (if e.isTransient then .retriesExhausted operation attempt e else e))
  | left + 1, .error e =>
    if e.isTransient then
      (pause delay).bind fun _ =>
        retryFrom pause operation policy task (attempt + 1) (policy.nextDelay delay) left
    else .done (.error e)

theorem retryFrom_eq_bind : retryFrom pause operation policy task attempt delay left =
    task.bind (afterTry pause operation policy task attempt delay left) := by
  cases left with
  | zero =>
      refine congrArg task.bind (funext fun result => ?_)
      cases result <;> rfl
  | succ left =>
      refine congrArg task.bind (funext fun result => ?_)
      cases result <;> rfl

/-- An attempt that fails is the last one, or a pause and another one follow it. -/
theorem afterTry_error (pause : Nat → Task Ask Answer Unit) (operation : String) (policy : RetryPolicy)
    (task : Task Ask Answer (Except BackendError α)) (attempt delay left : Nat) (e : BackendError) :
    (∃ last, afterTry pause operation policy task attempt delay left (.error e) = .done (.error last)) ∨
      ∃ more, afterTry pause operation policy task attempt delay left (.error e) = (pause delay).bind fun _ =>
        retryFrom pause operation policy task (attempt + 1) (policy.nextDelay delay) more := by
  cases left with
  | zero => exact .inl ⟨_, rfl⟩
  | succ more =>
      by_cases transient : e.isTransient = true
      · exact .inr ⟨more, if_pos transient⟩
      · exact .inl ⟨e, if_neg transient⟩

theorem OnlyAsks.retryFrom (pauses : ∀ length, (pause length).OnlyAsks allowed) (asks : task.OnlyAsks allowed)
    (attempt delay left : Nat) : (retryFrom pause operation policy task attempt delay left).OnlyAsks allowed := by
  induction left generalizing attempt delay with
  | zero =>
      rw [retryFrom_eq_bind]
      refine asks.bind fun result => ?_
      cases result <;> trivial
  | succ left ih =>
      rw [retryFrom_eq_bind]
      refine asks.bind fun result => ?_
      cases result with
      | ok value => trivial
      | error e =>
          by_cases transient : e.isTransient = true
          · rw [afterTry, if_pos transient]
            exact (pauses delay).bind fun _ => ih (attempt + 1) (policy.nextDelay delay)
          · rw [afterTry, if_neg transient]
            trivial

theorem OnlyAsks.withRetry (pauses : ∀ length, (pause length).OnlyAsks allowed) (asks : task.OnlyAsks allowed) :
    (withRetry pause operation policy task).OnlyAsks allowed :=
  OnlyAsks.retryFrom pauses asks 1 policy.initialDelay (policy.maxAttempts - 1)

end ImageBatch.Task
