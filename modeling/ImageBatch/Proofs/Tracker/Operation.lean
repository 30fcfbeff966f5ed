import ImageBatch.Proofs.Backend.Exchanges

/-!
Operations and what they are for.

An operation that is under way serves one activity: what is left of its task gives a completion of that
activity, whatever the answers (`Operation.Serves`). So an operation that ends, ends with a completion of its
own key, and an observation ends with what it saw or with its deadline (`Operation.Serves.yields`).
-/

namespace ImageBatch.Tracker

variable {Ask : Type} {Answer : Ask → Type} {σ : Type}

/-- What may come of an activity. -/
inductive Activity.Yields : Activity → Completion → Prop where
  | submitted (key : String) (warnings : List String) (job : ResolvedJob)
      (result : Except BackendError String) :
      Yields (.submitting key warnings job) (.submitted key warnings result)
  | polled (job : InFlight) (result : PollResult) : Yields (.observing job) (.observed job (.polled result))
  | expired (job : InFlight) : Yields (.observing job) (.observed job .deadlineExceeded)

theorem Activity.Yields.key_eq {activity : Activity} {completion : Completion}
    (yields : activity.Yields completion) : completion.key = activity.key := by
  cases yields <;> rfl

namespace Operation

/-- What is left of the operation belongs to the activity. -/
def Serves (operation : Operation Ask Answer) : Activity → Prop
  | .submitting key warnings _ =>
      operation.key = key ∧ operation.limit = none ∧
        ∃ rest : Task Ask Answer (Except BackendError String),
          operation.task = rest.bind fun result => .done (.submitted key warnings result)
  | .observing job =>
      operation.key = job.key ∧
        operation.limit = some (Instant.nextTick job.deadline, .observed job .deadlineExceeded) ∧
        ∃ rest : Task Ask Answer PollResult,
          operation.task = rest.bind fun result => .done (.observed job (.polled result))

/-- The operation ends now, with what its task gives or because its time is over. -/
def EndsWith (operation : Operation Ask Answer) (now : Nat) (completion : Completion) : Prop :=
  (operation.resumeAt ≤ now ∧ operation.task = .done completion) ∨
    (now < operation.resumeAt ∧ ∃ limit ≤ now, operation.limit = some (limit, completion))

variable {backend : Backend Ask Answer} {operation : Operation Ask Answer} {activity : Activity}

theorem start_serves (backend : Backend Ask Answer) (now : Nat) (activity : Activity) :
    (start backend now activity).Serves activity := by
  cases activity with
  | submitting key warnings job => exact ⟨rfl, rfl, backend.submit job, rfl⟩
  | observing job => exact ⟨rfl, rfl, observation backend job.jobId, rfl⟩

@[simp] theorem start_key (backend : Backend Ask Answer) (now : Nat) (activity : Activity) :
    (start backend now activity).key = activity.key := by
  cases activity <;> rfl

@[simp] theorem start_resumeAt (backend : Backend Ask Answer) (now : Nat) (activity : Activity) :
    (start backend now activity).resumeAt = now := by
  cases activity <;> rfl

theorem Serves.key_eq (serves : operation.Serves activity) : operation.key = activity.key := by
  cases activity <;> exact serves.1

/-- An answer leaves the operation with the activity. -/
theorem Serves.answered {question : Ask} {next : Answer question → Task Ask Answer Completion}
    (serves : operation.Serves activity) (asks : operation.task = .ask question next)
    (answer : Answer question) (resumeAt : Nat) :
    ({ operation with task := next answer, resumeAt } : Operation Ask Answer).Serves activity := by
  cases activity with
  | submitting key warnings job =>
      obtain ⟨same, unlimited, rest, whole⟩ := serves
      obtain ⟨rest, rfl, rfl⟩ := Task.bind_eq_ask (whole.symm.trans asks) (fun _ => nofun)
      exact ⟨same, unlimited, rest answer, rfl⟩
  | observing job =>
      obtain ⟨same, limited, rest, whole⟩ := serves
      obtain ⟨rest, rfl, rfl⟩ := Task.bind_eq_ask (whole.symm.trans asks) (fun _ => nofun)
      exact ⟨same, limited, rest answer, rfl⟩

/-! ### Ends -/

section Ends

variable {now : Nat} {completion : Completion}

/-- A submit ends with its result. -/
theorem EndsWith.of_submitting {key : String} {warnings : List String}
    {rest : Task Ask Answer (Except BackendError String)} (ends : operation.EndsWith now completion)
    (whole : operation.task = rest.bind fun result => .done (.submitted key warnings result))
    (unlimited : operation.limit = none) :
    ∃ result, rest = .done result ∧ completion = .submitted key warnings result := by
  obtain ⟨-, done⟩ | ⟨-, limit, -, limited⟩ := ends
  · obtain ⟨result, rfl, same⟩ := Task.bind_eq_done (whole.symm.trans done)
    exact ⟨result, rfl, (Task.done.inj same).symm⟩
  · cases unlimited.symm.trans limited

/-- An observation ends with what it saw, or is broken off at its limit. -/
theorem EndsWith.of_observing {job : InFlight} {rest : Task Ask Answer PollResult} {tick : Nat}
    (ends : operation.EndsWith now completion)
    (whole : operation.task = rest.bind fun result => .done (.observed job (.polled result)))
    (limited : operation.limit = some (tick, .observed job .deadlineExceeded)) :
    (operation.resumeAt ≤ now ∧ ∃ result, rest = .done result ∧ completion = .observed job (.polled result)) ∨
      now < operation.resumeAt ∧ tick ≤ now ∧ completion = .observed job .deadlineExceeded := by
  obtain ⟨resumed, done⟩ | ⟨waits, limit, reached, limited'⟩ := ends
  · obtain ⟨result, rfl, same⟩ := Task.bind_eq_done (whole.symm.trans done)
    exact .inl ⟨resumed, result, rfl, (Task.done.inj same).symm⟩
  · obtain ⟨rfl, rfl⟩ := Prod.mk.inj (Option.some.inj (limited.symm.trans limited'))
    exact .inr ⟨waits, reached, rfl⟩

/-- An operation ends with something that its activity yields. -/
theorem Serves.yields (serves : operation.Serves activity) (ends : operation.EndsWith now completion) :
    activity.Yields completion := by
  cases activity with
  | submitting key warnings job =>
      obtain ⟨-, unlimited, rest, whole⟩ := serves
      obtain ⟨result, -, rfl⟩ := ends.of_submitting whole unlimited
      exact .submitted key warnings job result
  | observing job =>
      obtain ⟨-, limited, rest, whole⟩ := serves
      obtain ⟨-, result, -, rfl⟩ | ⟨-, -, rfl⟩ := ends.of_observing whole limited
      · exact .polled job result
      · exact .expired job

/-- An observation is broken off at the tick of its deadline. -/
theorem Serves.deadline_le {job : InFlight} (serves : operation.Serves (.observing job))
    (ends : operation.EndsWith now (.observed job .deadlineExceeded)) :
    Instant.nextTick job.deadline ≤ now := by
  obtain ⟨-, limited, rest, whole⟩ := serves
  obtain ⟨-, result, -, same⟩ | ⟨-, reached, -⟩ := ends.of_observing whole limited
  · cases same
  · exact reached

end Ends

/-- What an operation does at an instant at which something happens to it: it asks and gets an answer, or it
ends. -/
theorem advance_cases {service : Service Ask Answer σ} {world world' : World σ}
    {outcome : Operation Ask Answer ⊕ Completion} (due : operation.eventAt ≤ world.now)
    (advanced : operation.advance service world = (outcome, world')) :
    (∃ question next reply, operation.resumeAt ≤ world.now ∧ operation.task = .ask question next ∧
      service.respond question world.disk world.now world.state = reply ∧
      outcome = .inl { operation with task := next reply.answer, resumeAt := reply.comesAt } ∧
      world' = { world with state := reply.state }) ∨
      ∃ completion, operation.EndsWith world.now completion ∧ outcome = .inr completion ∧ world' = world := by
  unfold advance at advanced
  by_cases resumed : operation.resumeAt ≤ world.now
  · rw [if_pos resumed] at advanced
    cases task : operation.task with
    | done completion =>
        rw [task] at advanced
        cases advanced
        exact .inr ⟨completion, .inl ⟨resumed, task⟩, rfl, rfl⟩
    | ask question next =>
        rw [task] at advanced
        cases advanced
        exact .inl ⟨question, next, _, resumed, rfl, rfl, rfl, rfl⟩
  · rw [if_neg resumed] at advanced
    unfold eventAt at due
    cases limited : operation.limit with
    | none => simp only [limited] at due; exact absurd due resumed
    | some limit =>
        simp only [limited] at due advanced
        cases advanced
        have reached : limit.1 ≤ world.now := by omega
        exact .inr ⟨limit.2, .inr ⟨Nat.lt_of_not_le resumed, limit.1, reached, limited⟩, rfl, rfl⟩

end Operation

end ImageBatch.Tracker
