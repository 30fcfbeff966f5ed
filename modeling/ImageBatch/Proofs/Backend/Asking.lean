import ImageBatch.Proofs.Backend.Exchanges
import ImageBatch.Proofs.Backend.Questions
import Mathlib.Data.List.Infix

/-!
One question after another.

What is left of a task after some exchanges was told by the first answer and by those after it (`Task.After.of_ask`). A
task that goes on with the value of another is still asking for it, or goes on (`Task.After.of_bind_asking`). So what a
task asks at all is what its exchanges ask (`Task.OnlyAsks.of_after`), and each of them was a question that it came to
(`Task.After.exists_asked`). An attempt is the last one, or others are left (`Task.After.of_afterTry`). With a service
that answers it a task comes to its value (`Task.yields_transcript`).
-/

namespace ImageBatch.Task

variable {Ask : Type} {Answer : Ask → Type} {α β : Type} {task rest : Task Ask Answer α}
  {exchanges earlier later : List (Exchange Ask Answer)} {allowed : Ask → Prop} {question : Ask}

/-- A task that asks a question has done nothing yet, or its first exchange is about that question. -/
theorem After.of_ask {next : Answer question → Task Ask Answer α}
    (left : (Task.ask question next).After exchanges rest) :
    (exchanges = [] ∧ rest = .ask question next) ∨ ∃ answer askedAt comesAt more,
      exchanges = more ++ [⟨question, answer, askedAt, comesAt⟩] ∧ (next answer).After more rest := by
  induction left with
  | begun => exact .inl ⟨rfl, rfl⟩
  | @answered exchanges asked goesOn before answer askedAt comesAt ih =>
      rcases ih with ⟨rfl, same⟩ | ⟨first, firstAskedAt, firstComesAt, more, rfl, reached⟩
      · obtain ⟨rfl, rfl⟩ := Task.ask.inj same
        exact .inr ⟨answer, askedAt, comesAt, [], rfl, .begun⟩
      · exact .inr ⟨first, firstAskedAt, firstComesAt, _ :: more, rfl, reached.answered answer askedAt comesAt⟩

/-- A task that asks a question and has its value asked that question first. -/
theorem Yields.of_ask {next : Answer question → Task Ask Answer α} {value : α}
    (yields : (Task.ask question next).Yields exchanges value) : ∃ answer askedAt comesAt more,
      exchanges = more ++ [⟨question, answer, askedAt, comesAt⟩] ∧ (next answer).Yields more value := by
  rcases After.of_ask yields with ⟨-, same⟩ | asked
  · cases same
  · exact asked

/-- A task that goes on with the value of another asks for that value, or has it and goes on. -/
theorem After.of_bind_asking {after : α → Task Ask Answer β} {rest : Task Ask Answer β}
    (left : (task.bind after).After exchanges rest) :
    (∃ question next, task.After exchanges (.ask question next) ∧
      rest = .ask question fun answer => (next answer).bind after) ∨
      ∃ value earlier later, exchanges = later ++ earlier ∧ task.Yields earlier value ∧
        (after value).After later rest := by
  rcases After.of_bind left with ⟨busy, reached, rfl⟩ | whole
  · cases busy with
    | done value => exact .inr ⟨value, exchanges, [], rfl, reached, .begun⟩
    | ask question next => exact .inl ⟨question, next, reached, rfl⟩
  · exact .inr whole

/-- A task asks what it may ask, and so does what is left of it. -/
theorem OnlyAsks.of_after (only : task.OnlyAsks allowed) (left : task.After exchanges rest) :
    (∀ exchange ∈ exchanges, allowed exchange.question) ∧ rest.OnlyAsks allowed := by
  induction left with
  | begun => exact ⟨nofun, only⟩
  | answered before answer askedAt comesAt ih =>
      obtain ⟨asked, permitted, others⟩ := ih
      exact ⟨List.forall_mem_cons.mpr ⟨permitted, asked⟩, others answer⟩

/-- What has been asked was to be asked after what came before. -/
theorem After.exists_asked {exchange : Exchange Ask Answer}
    (left : task.After (later ++ exchange :: earlier) rest) :
    ∃ next, task.After earlier (.ask exchange.question next) := by
  induction later generalizing rest with
  | nil =>
      cases left with
      | answered before => exact ⟨_, before⟩
  | cons last later ih =>
      cases left with
      | answered before => exact ih before

/-- The exchanges of a task are exchanges of what goes on with its value. -/
theorem After.bind (left : task.After exchanges rest) (after : α → Task Ask Answer β) :
    (task.bind after).After exchanges (rest.bind after) := by
  induction left with
  | begun => exact .begun
  | answered _ answer askedAt comesAt ih => exact ih.answered answer askedAt comesAt

/-! ### Attempts -/

section Attempts

variable {pause : Nat → Task Ask Answer Unit} {operation : String} {policy : RetryPolicy}
  {task rest : Task Ask Answer (Except BackendError α)} {attempt delay left : Nat}

/-- A failure that will not pass is final. -/
theorem afterTry_of_final {e : BackendError} (final : e.isTransient = false) :
    afterTry pause operation policy task attempt delay left (.error e) = .done (.error e) := by
  cases left <;> simp [afterTry, final]

/-- After an attempt its value is given, or there is none; or the attempt failed for now, and there are some left. -/
theorem After.of_afterTry {outcome : Except BackendError α}
    (reached : (afterTry pause operation policy task attempt delay left outcome).After exchanges rest) :
    (exchanges = [] ∧ ∃ result, rest = .done result ∧ ∀ value, result = .ok value ↔ outcome = .ok value) ∨
    ∃ e more, outcome = .error e ∧ e.isTransient = true ∧ left = more + 1 ∧
      ((pause delay).bind fun _ =>
        retryFrom pause operation policy task (attempt + 1) (policy.nextDelay delay) more).After exchanges rest := by
  cases outcome with
  | ok value =>
      left
      have given : afterTry pause operation policy task attempt delay left (.ok value) = .done (.ok value) := by
        cases left <;> rfl
      rw [given] at reached
      obtain ⟨rfl, rfl⟩ := after_done reached
      exact ⟨rfl, _, rfl, fun _ => Iff.rfl⟩
  | error e =>
      cases left with
      | zero =>
          left
          obtain ⟨rfl, rfl⟩ := after_done reached
          exact ⟨rfl, _, rfl, by simp⟩
      | succ more =>
          by_cases transient : e.isTransient = true
          · right
            rw [afterTry, if_pos transient] at reached
            exact ⟨e, more, rfl, transient, rfl, reached⟩
          · left
            rw [afterTry, if_neg transient] at reached
            obtain ⟨rfl, rfl⟩ := after_done reached
            exact ⟨rfl, _, rfl, fun _ => Iff.rfl⟩

end Attempts

/-! ### A service that answers -/

variable {σ : Type} (service : Service Ask Answer σ)

/-- The exchanges of a task with a service, the latest of them first. -/
def transcript : Task Ask Answer α → World σ → List (Exchange Ask Answer)
  | .done _, _ => []
  | .ask question next, world =>
    let reply := service.respond question world.disk world.now world.state
    transcript (next reply.answer) { world with state := reply.state, now := reply.comesAt } ++
      [⟨question, reply.answer, world.now, reply.comesAt⟩]

/-- A first exchange comes before the others. -/
theorem After.asking {next : Answer question → Task Ask Answer α} {answer : Answer question}
    (left : (next answer).After exchanges rest) (askedAt comesAt : Nat) :
    (Task.ask question next).After (exchanges ++ [⟨question, answer, askedAt, comesAt⟩]) rest := by
  induction left with
  | begun => exact After.begun.answered answer askedAt comesAt
  | answered _ given at_ until_ ih => exact ih.answered given at_ until_

/-- With a service a task comes to its value. -/
theorem yields_transcript (task : Task Ask Answer α) (world : World σ) :
    task.Yields (task.transcript service world) (task.perform service world).1 := by
  induction task generalizing world with
  | done value => exact .begun
  | ask question next ih => exact (ih _ _).asking _ _

end ImageBatch.Task
