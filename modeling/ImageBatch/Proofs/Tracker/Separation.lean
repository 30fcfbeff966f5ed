import ImageBatch.Proofs.Tracker.Reach

/-!
Backends that treat every job on its own.

Under a `Separation` the service keeps a part of its state for each key, and what it answers to a question and
how long it takes depend only on the part of a key that the question is about; the tasks of a backend ask
about their own key alone. In a run over such a backend every operation keeps to its key
(`Setting.Meets.separate`).
-/

namespace ImageBatch

variable {Ask : Type} {Answer : Ask → Type} {σ α β π : Type}

/-- Whatever it is answered among `gives`, the task asks no other questions than `asks` and ends in no other way
than `ends`. -/
def Task.Talks (asks : Ask → Prop) (gives : (question : Ask) → Answer question → Prop) (ends : α → Prop) :
    Task Ask Answer α → Prop
  | .done value => ends value
  | .ask question next => asks question ∧ ∀ answer, gives question answer → (next answer).Talks asks gives ends

theorem Task.Talks.bind {asks : Ask → Prop} {gives : (question : Ask) → Answer question → Prop} {ends : α → Prop}
    {ends' : β → Prop} {task : Task Ask Answer α} {next : α → Task Ask Answer β} (talks : task.Talks asks gives ends)
    (after : ∀ value, ends value → (next value).Talks asks gives ends') : (task.bind next).Talks asks gives ends' := by
  induction task with
  | done value => exact after value talks
  | ask question rest ih => exact ⟨talks.1, fun answer given => ih answer (talks.2 answer given)⟩

theorem WorkflowTemplate.resolve_key {template : WorkflowTemplate} {features : FeatureSet} {job : ResolvedJob}
    (resolved : template.resolve features = .ok job) : job.key = features.key := by
  unfold resolve at resolved
  dsimp only at resolved
  split at resolved <;> cases resolved
  rfl

namespace Tracker

/-- What a backend and a service do for a job hangs on the job's own part of the service's state. -/
structure Separation (backend : Backend Ask Answer) (service : Service Ask Answer σ) (π : Type) where
  /-- The question may be asked about the job of the key. -/
  about : Ask → String → Prop
  /-- The id may be that of the job of the key. -/
  names : String → String → Prop
  /-- What the service keeps for a key. -/
  part : σ → String → π
  answer : (question : Ask) → π → Answer question
  latency : Ask → π → Nat
  after : Ask → π → π
  answers : ∀ question disk now state key, about question key →
    (service.respond question disk now state).answer = answer question (part state key)
  times : ∀ question disk now state key, about question key →
    (service.respond question disk now state).comesAt = now + latency question (part state key)
  parts : ∀ question disk now state key, about question key → ∀ other,
    part (service.respond question disk now state).state other =
      if other = key then after question (part state other) else part state other
  submits : ∀ job, (backend.submit job).Talks (about · job.key) (fun question a => ∃ p, a = answer question p)
    fun result => ∀ jobId, result = .ok jobId → names jobId job.key
  observes : ∀ jobId key, names jobId key → (observation backend jobId).Talks (about · key)
    (fun question a => ∃ p, a = answer question p) fun _ => True

/-- The job of a completion is known by an id that is its own. -/
def Completion.Owned (names : String → String → Prop) : Completion → Prop
  | .submitted key _ (.ok jobId) => names jobId key
  | .submitted _ _ (.error _) => True
  | .observed job _ => names job.jobId job.key

theorem Completion.Owned.resting {names : String → String → Prop} {completion : Completion} {config : Config}
    {now : Nat} {job : InFlight} (owned : completion.Owned names) (rests : completion.resting config now = some job) :
    names job.jobId job.key := by
  unfold Completion.resting at rests
  split at rests <;> cases rests
  · exact owned
  · exact owned

/-- A conclusion adds at most the job as it rests to the waiting ones. -/
theorem Run.mem_waiting_conclude {config : Config} {now : Nat} {moment : Timestamp} {run : Run}
    {completion : Completion} {job : InFlight} (waits : job ∈ (run.conclude config now moment completion).waiting) :
    job ∈ run.waiting ∨ completion.resting config now = some job := by
  have kept : ∀ settled : Run, (settled.apply now moment completion.key completion.event).1.waiting =
      settled.waiting := by
    intro settled
    obtain ⟨_, _, _, -, -, -, effect⟩ :=
      apply_frame now moment settled.store completion.key completion.event
    rw [effect settled rfl]
  unfold conclude at waits
  simp only [settle_eq] at waits
  split at waits
  next rested same =>
      split at waits
      next =>
          rw [kept] at waits
          exact .inl waits
      next =>
          rw [kept] at waits
          obtain waits | waits := List.mem_append.mp waits
          · exact .inl waits
          · obtain rfl := List.mem_singleton.mp waits
            split at same
            · exact .inr same
            · cases same
  next =>
      rw [kept] at waits
      exact .inl waits

variable {setting : Setting Ask Answer σ} {s t : Situation Ask Answer σ} {touched : Option String}

/-- The operation asks about its own key only, and what comes of it is its own. -/
structure Operation.Separate (separation : Separation setting.backend setting.service π)
    (operation : Operation Ask Answer) : Prop where
  talks : operation.task.Talks (separation.about · operation.key)
    (fun question a => ∃ p, a = separation.answer question p) (·.Owned separation.names)
  limit : ∀ limit ∈ operation.limit, limit.2.Owned separation.names

/-- Every operation and every waiting job keeps to its key. -/
structure Situation.Separate (separation : Separation setting.backend setting.service π)
    (s : Situation Ask Answer σ) : Prop where
  operations : ∀ operation ∈ s.operations, operation.Separate separation
  waiting : ∀ job ∈ s.run.waiting, separation.names job.jobId job.key

variable {separation : Separation setting.backend setting.service π}

theorem Operation.Separate.owned {operation : Operation Ask Answer} {now : Nat} {completion : Completion}
    (separate : operation.Separate separation) (ends : operation.EndsWith now completion) :
    completion.Owned separation.names := by
  obtain ⟨-, done⟩ | ⟨-, limit, -, limited⟩ := ends
  · have talks := separate.talks
    rw [done] at talks
    exact talks
  · exact separate.limit _ limited

theorem Operation.separate_submitting {key : String} {job : ResolvedJob} (own : job.key = key)
    (separation : Separation setting.backend setting.service π) (now : Nat) (warnings : List String) :
    (start setting.backend now (.submitting key warnings job)).Separate separation := by
  subst own
  refine ⟨(separation.submits job).bind fun result ends => ?_, by simp [start]⟩
  cases result with
  | ok jobId => exact ends jobId rfl
  | error e => trivial

theorem Operation.separate_observing {job : InFlight} (own : separation.names job.jobId job.key) (now : Nat) :
    (start setting.backend now (.observing job)).Separate separation := by
  refine ⟨?_, by simpa [start] using (show Completion.Owned _ (.observed job .deadlineExceeded) from own)⟩
  exact (separation.observes job.jobId job.key own).bind fun _ _ => own

/-- Whatever happens in a run, its operations and jobs keep to their keys. -/
theorem Step.separate (separate : s.Separate separation) (step : Step setting touched s t) :
    t.Separate separation := by
  obtain ⟨operations, waiting⟩ := separate
  have begins {run : Run} {activity : Activity} (same : ∀ job ∈ run.waiting, separation.names job.jobId job.key)
      (starts : (Operation.start setting.backend s.world.now activity).Separate separation) :
      (s.starts setting run activity).Separate separation := by
    refine ⟨fun operation member => ?_, same⟩
    obtain member | member := List.mem_append.mp member
    · exact operations operation member
    · exact List.mem_singleton.mp member ▸ starts
  have concludes {run : Run} {completion : Completion}
      (same : ∀ job ∈ run.waiting, separation.names job.jobId job.key) (owned : completion.Owned separation.names) :
      ∀ job ∈ (run.conclude setting.config s.world.now (s.moment setting) completion).waiting,
        separation.names job.jobId job.key := fun job waits =>
    (Run.mem_waiting_conclude waits).elim (same job) owned.resting
  cases step with
  | waits | saves | notices | skips => exact ⟨operations, waiting⟩
  | drains cancelled =>
      rw [Run.noteCancelled_frame]
      exact ⟨operations, waiting⟩
  | @fails _ key rest features e going queued free known unresolved =>
      obtain ⟨_, _, _, -, -, -, effect⟩ :=
        Run.apply_frame s.world.now (s.moment setting) s.run.store key (.constructionFailed e.message)
      rw [effect (s.queue rest) rfl]
      exact ⟨operations, waiting⟩
  | @submits _ key rest features job going queued free known resolved =>
      have named : features.key = key := by simpa using List.find?_some known
      have own : job.key = key := (WorkflowTemplate.resolve_key resolved).trans named
      exact begins waiting (Operation.separate_submitting own ..)
  | @asks _ operation others question next reply picked due asks replied =>
      obtain ⟨present, rest⟩ := Situation.mem_of_picked picked
      refine ⟨fun other member => ?_, waiting⟩
      obtain rfl | member := List.mem_cons.mp member
      · obtain ⟨talks, limit⟩ := operations operation present
        rw [asks] at talks
        exact ⟨talks.2 _ ⟨_, replied ▸ separation.answers _ _ _ _ _ talks.1⟩, limit⟩
      · exact operations other (rest other member)
  | concludes picked ends own nameable =>
      obtain ⟨present, rest⟩ := Situation.mem_of_picked picked
      exact ⟨fun other member => operations other (rest other member),
        concludes waiting ((operations _ present).owned ends)⟩
  | @polls _ before job after held due early =>
      have kept : ∀ other ∈ before ++ after, separation.names other.jobId other.key := fun other member =>
        waiting other (by rw [held]; grind)
      exact begins kept (Operation.separate_observing (waiting job (by simp [held])) _)
  | @expires _ before job after held due =>
      have kept : ∀ other ∈ before ++ after, separation.names other.jobId other.key := fun other member =>
        waiting other (by rw [held]; grind)
      have own : separation.names job.jobId job.key := waiting job (by simp [held])
      exact ⟨operations, concludes kept own⟩

/-- A step for another key leaves the part of a key as it is. -/
theorem Step.part_eq {key : String} (separate : s.Separate separation) (other : touched ≠ some key)
    (step : Step setting touched s t) : separation.part t.world.state key = separation.part s.world.state key := by
  cases step with
  | @asks _ operation others question next reply picked due asks replied =>
      obtain ⟨talks, -⟩ := separate.operations operation (Situation.mem_of_picked picked).1
      rw [asks] at talks
      have ne : key ≠ operation.key := fun same => other (congrArg some same.symm)
      rw [← replied]
      exact (separation.parts _ _ _ _ _ talks.1 key).trans (if_neg ne)
  | _ => rfl

namespace Setting

variable {store : BatchStore} {world : World σ}

/-- The ids by which the service has jobs of the batch are theirs. -/
def OwnsIds (setting : Setting Ask Answer σ) (names : String → String → Prop) (store : BatchStore) : Prop :=
  ∀ key ∈ setting.batch.keys, (store.recordOf key).status.isHandedOver = true →
    ∀ jobId, (store.recordOf key).jobId = some jobId → names jobId key

theorem opening_separate (owns : setting.OwnsIds separation.names store)
    (opened : setting.opening store world = .ok s) : s.Separate separation := by
  have fresh : s.operations = [] := by
    obtain ⟨run, -, rfl⟩ := opening_eq opened
    rfl
  refine ⟨by simp [fresh], fun job waits => ?_⟩
  have member := opening_keys opened (Situation.mem_keys_of_waiting waits)
  obtain ⟨view, opens, shows⟩ := opening_shows opened member
  have listed : job ∈ view.place.jobs := by
    rw [← shows.waiting, List.mem_filter]
    exact ⟨waits, by simp⟩
  cases opens with
  | pending | restarts | keeps => cases listed
  | adopts handedOver named adopted =>
      obtain rfl := List.mem_singleton.mp listed
      obtain ⟨deadline, -, same⟩ := Run.adopt_eq adopted
      refine owns _ member handedOver _ (named.trans ?_)
      rw [same]

theorem Meets.separate (owns : setting.OwnsIds separation.names store) (met : setting.Meets store world s) :
    s.Separate separation := by
  obtain ⟨opening, keys, opened, path⟩ := met
  exact path.invariant Step.separate (opening_separate owns opened)

end Setting

end Tracker

end ImageBatch
