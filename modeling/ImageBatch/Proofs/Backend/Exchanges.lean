import ImageBatch.Tracker.Timeline

/-!
What a task was answered.

`Task.After` follows a task along the answers that its questions got, and `Task.Yields` to its value. The answers to
a task that goes on with the value of another one divide into those of either (`Task.Yields.of_bind`). So an
observation is a poll that says how the job stands, or a poll that finds it done and then a look at its output
(`Tracker.observation_yields`).
-/

namespace ImageBatch

variable {Ask : Type} {Answer : Ask → Type} {α β : Type}

/-- A question, its answer, and the instants at which it was asked and at which the answer comes. -/
structure Exchange (Ask : Type) (Answer : Ask → Type) where
  question : Ask
  answer : Answer question
  askedAt : Nat
  comesAt : Nat

namespace Task

/-- What is left of a task after some exchanges, the latest of them first. -/
inductive After (task : Task Ask Answer α) : List (Exchange Ask Answer) → Task Ask Answer α → Prop where
  | begun : After task [] task
  | answered {exchanges question next} (before : After task exchanges (.ask question next))
      (answer : Answer question) (askedAt comesAt : Nat) :
      After task (⟨question, answer, askedAt, comesAt⟩ :: exchanges) (next answer)

/-- The exchanges take the task to a value. -/
def Yields (task : Task Ask Answer α) (exchanges : List (Exchange Ask Answer)) (value : α) : Prop :=
  task.After exchanges (.done value)

variable {task : Task Ask Answer α} {after : α → Task Ask Answer β} {exchanges : List (Exchange Ask Answer)}

/-- A task that is done asks nothing. -/
theorem after_done {value : α} {rest : Task Ask Answer α}
    (left : (Task.done value : Task Ask Answer α).After exchanges rest) : exchanges = [] ∧ rest = .done value := by
  induction left with
  | begun => exact ⟨rfl, rfl⟩
  | answered _ _ _ _ ih => cases ih.2

theorem yields_done {value result : α} (yields : (Task.done value : Task Ask Answer α).Yields exchanges result) :
    exchanges = [] ∧ result = value := by
  obtain ⟨silent, same⟩ := after_done yields
  exact ⟨silent, Task.done.inj same⟩

/-- A question is asked once. -/
theorem after_question {question : Ask} {rest : Task Ask Answer (Answer question)}
    (left : (Task.question question).After exchanges rest) :
    (exchanges = [] ∧ rest = Task.question question) ∨
      ∃ answer askedAt comesAt, exchanges = [⟨question, answer, askedAt, comesAt⟩] ∧ rest = .done answer := by
  induction left with
  | begun => exact .inl ⟨rfl, rfl⟩
  | answered _ answer askedAt comesAt ih =>
      rcases ih with ⟨rfl, same⟩ | ⟨_, _, _, -, same⟩
      · cases same
        exact .inr ⟨answer, askedAt, comesAt, rfl, rfl⟩
      · cases same

theorem yields_question {question : Ask} {answer : Answer question}
    (yields : (Task.question question).Yields exchanges answer) :
    ∃ askedAt comesAt, exchanges = [⟨question, answer, askedAt, comesAt⟩] := by
  rcases after_question yields with ⟨-, same⟩ | ⟨_, askedAt, comesAt, rfl, same⟩
  · cases same
  · cases same
    exact ⟨askedAt, comesAt, rfl⟩

/-- The exchanges tell what is left. -/
theorem After.unique {rest other : Task Ask Answer α} (left : task.After exchanges rest)
    (also : task.After exchanges other) : other = rest := by
  induction left generalizing other with
  | begun => cases also; rfl
  | answered _ answer askedAt comesAt ih =>
      cases also with
      | answered before =>
          obtain ⟨-, next⟩ := Task.ask.inj (ih before)
          rw [eq_of_heq next]

theorem Yields.unique {value other : α} (yields : task.Yields exchanges value) (also : task.Yields exchanges other) :
    other = value :=
  Task.done.inj (After.unique yields also)

/-- A task that has its value asks nothing more. -/
theorem Yields.last {value : α} {rest : Task Ask Answer α} {later : List (Exchange Ask Answer)}
    (yields : task.Yields exchanges value) (left : task.After (later ++ exchanges) rest) : later = [] := by
  induction later generalizing rest with
  | nil => rfl
  | cons exchange later ih =>
      cases left with
      | answered before =>
          obtain rfl := ih before
          cases After.unique yields before

/-- A task comes to its value once. -/
theorem Yields.eq_of_append {value other : α} {earlier before later after : List (Exchange Ask Answer)}
    (same : later ++ earlier = after ++ before) (yields : task.Yields earlier value) (also : task.Yields before other) :
    after = later ∧ before = earlier ∧ other = value := by
  obtain ⟨more, rfl, rfl⟩ | ⟨more, rfl, rfl⟩ := List.append_eq_append_iff.mp same
  · obtain rfl := Yields.last also yields
    exact ⟨List.append_nil _, rfl, Yields.unique yields also⟩
  · obtain rfl := Yields.last yields also
    exact ⟨(List.append_nil _).symm, rfl, Yields.unique yields also⟩

/-- A task that is done with the value of another has it. -/
theorem bind_eq_done {result : β} (done : task.bind after = .done result) :
    ∃ value, task = .done value ∧ after value = .done result := by
  cases task with
  | done value => exact ⟨value, rfl, done⟩
  | ask question rest => cases done

/-- A task that asks nothing after another asks the questions of that one. -/
theorem bind_eq_ask {question : Ask} {next : Answer question → Task Ask Answer β}
    (asks : task.bind after = .ask question next) (still : ∀ value, after value ≠ .ask question next) :
    ∃ rest, task = .ask question rest ∧ next = fun answer => (rest answer).bind after := by
  cases task with
  | done value => exact absurd asks (still value)
  | ask question rest =>
      obtain ⟨rfl, rfl⟩ := Task.ask.inj asks
      exact ⟨rest, rfl, rfl⟩

/-- After some exchanges a task that goes on with the value of another is still busy with that one, or it has its value
and goes on. -/
theorem After.of_bind {rest : Task Ask Answer β} (left : (task.bind after).After exchanges rest) :
    (∃ busy, task.After exchanges busy ∧ rest = busy.bind after) ∨
      ∃ value earlier later, exchanges = later ++ earlier ∧ task.Yields earlier value ∧
        (after value).After later rest := by
  induction left with
  | begun => exact .inl ⟨task, .begun, rfl⟩
  | @answered exchanges question next before answer askedAt comesAt ih =>
      rcases ih with ⟨busy, reached, same⟩ | ⟨value, earlier, later, rfl, yields, going⟩
      · cases busy with
        | done value =>
            have going : (after value).After [] (.ask question next) := by
              rw [same]
              exact .begun
            exact .inr ⟨value, exchanges, [_], rfl, reached, going.answered answer askedAt comesAt⟩
        | ask question rest =>
            obtain ⟨rfl, rfl⟩ := Task.ask.inj same
            exact .inl ⟨rest answer, reached.answered answer askedAt comesAt, rfl⟩
      · exact .inr ⟨value, earlier, _ :: later, rfl, yields, going.answered answer askedAt comesAt⟩

/-- A task that goes on with the value of another has the exchanges of that one first and then its own. -/
theorem Yields.of_bind {result : β} (yields : (task.bind after).Yields exchanges result) :
    ∃ value earlier later, exchanges = later ++ earlier ∧ task.Yields earlier value ∧
      (after value).Yields later result := by
  rcases After.of_bind yields with ⟨busy, reached, same⟩ | whole
  · cases busy with
    | done value =>
        have done : (after value).Yields [] result := by
          rw [Yields, same]
          exact .begun
        exact ⟨value, exchanges, [], rfl, reached, done⟩
    | ask => cases same
  · exact whole

/-- If a task fails wherever another does, and it has succeeded, then so has the other. -/
theorem Yields.of_bind_ok {ε δ : Type} {call : Task Ask Answer (Except ε α)}
    {after : Except ε α → Task Ask Answer (Except δ β)} {result : β}
    (yields : (call.bind after).Yields exchanges (.ok result))
    (fails : ∀ e, ∃ d, after (.error e) = .done (.error d)) :
    ∃ value earlier later, exchanges = later ++ earlier ∧ call.Yields earlier (.ok value) ∧
      (after (.ok value)).Yields later (.ok result) := by
  obtain ⟨answer, earlier, later, rfl, called, ended⟩ := Yields.of_bind yields
  cases answer with
  | error e =>
      obtain ⟨d, failed⟩ := fails e
      rw [failed] at ended
      obtain ⟨-, ⟨⟩⟩ := yields_done ended
  | ok value => exact ⟨value, earlier, later, rfl, called, ended⟩

end Task

namespace Tracker

/-- What the answer to a poll shows of a job, unless the job is done and its output has to be named. -/
def shownBy : Except BackendError BackendStatus → Option PollResult
  | .ok .queued => some .queued
  | .ok .running => some .running
  | .ok (.error message) => some (.error message)
  | .ok .done => none
  | .error (.retriesExhausted operation attempts last) =>
    some (.unreachable (BackendError.retriesExhausted operation attempts last).message)
  | .error e => some (if e.isTransient then .unreachable e.message else .error ("poll failed: " ++ e.message))

/-- What the answer to a look at the output shows of a job that is done. -/
def namedBy : Except BackendError ResultReference → PollResult
  | .ok reference => .done reference
  | .error e => .doneUnreadable e.message

/-- An observation polls the job, and only if that finds it done it looks at the output. -/
theorem observation_yields {backend : Backend Ask Answer} {jobId : String} {exchanges : List (Exchange Ask Answer)}
    {result : PollResult} (observed : (observation backend jobId).Yields exchanges result) :
    (∃ answer, (backend.poll jobId).Yields exchanges answer ∧ shownBy answer = some result) ∨
      ∃ answer earlier later, exchanges = later ++ earlier ∧ (backend.poll jobId).Yields earlier (.ok .done) ∧
        (backend.fetchResult jobId).Yields later answer ∧ result = namedBy answer := by
  obtain ⟨status, earlier, later, rfl, polled, rest⟩ := Task.Yields.of_bind observed
  -- All but a job that is done end the observation at once.
  have ends {shown : PollResult} (ended : (Task.done shown : Task Ask Answer PollResult).Yields later result)
      (shows : shownBy status = some shown) :
      ∃ answer, (backend.poll jobId).Yields (later ++ earlier) answer ∧ shownBy answer = some result := by
    obtain ⟨rfl, rfl⟩ := Task.yields_done ended
    exact ⟨status, polled, shows⟩
  cases status with
  | ok standing =>
      cases standing with
      | queued | running | error => exact .inl (ends rest rfl)
      | done =>
          obtain ⟨answer, first, second, rfl, fetched, named⟩ := Task.Yields.of_bind rest
          refine .inr ⟨answer, earlier, second ++ first, rfl, polled, ?_⟩
          cases answer with
          | ok reference | error e =>
              obtain ⟨rfl, rfl⟩ := Task.yields_done named
              exact ⟨fetched, rfl⟩
  | error e =>
      cases e with
      | retriesExhausted => exact .inl (ends rest rfl)
      | unavailable | rejected | protocol | localFile => exact .inl (ends rest rfl)

end Tracker

end ImageBatch
