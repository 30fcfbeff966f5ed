import ImageBatch.Proofs.Job.Transitions
import ImageBatch.Proofs.Tracker.Keys
import ImageBatch.Proofs.Tracker.Operation

/-!
A run as it looks from one of its jobs.

A `View` is all that a situation holds of one job: its place, its record, whether it still gets an outcome after
a cancellation, and what the journal says of it. `Move` is the life of a job, one constructor for each thing
that may happen to it. `Step.moves` says that a step that concerns a job moves its view, and `Step.frame` that
any other step leaves the view alone but for the marking at a cancellation. Both need the view to be `Sound`,
that is, record and place to fit each other, and moves keep views sound (`Move.sound`).

So what is to be shown of a job in any run can be shown along the moves of one view.
-/

namespace ImageBatch.Tracker

variable {Ask : Type} {Answer : Ask → Type} {σ : Type}

/-- Where a job is. -/
inductive Place (Ask : Type) (Answer : Ask → Type) where
  | pending
  | submitting (warnings : List String) (job : ResolvedJob) (operation : Operation Ask Answer)
  | waiting (job : InFlight)
  | observing (job : InFlight) (operation : Operation Ask Answer)
  /-- Nothing more happens to it in this run. -/
  | gone

namespace Place

/-- How often the key is queued. -/
def queued : Place Ask Answer → Nat
  | .pending => 1
  | _ => 0

/-- The activities for the key. -/
def activities (key : String) : Place Ask Answer → List Activity
  | .submitting warnings job _ => [.submitting key warnings job]
  | .observing job _ => [.observing job]
  | _ => []

/-- The jobs of the key that wait. -/
def jobs : Place Ask Answer → List InFlight
  | .waiting job => [job]
  | _ => []

/-- The operations for the key. -/
def operations : Place Ask Answer → List (Operation Ask Answer)
  | .submitting _ _ operation | .observing _ operation => [operation]
  | _ => []

/-- The service has the job or is about to get it. -/
def isUnderWay : Place Ask Answer → Bool
  | .submitting .. | .waiting _ | .observing .. => true
  | .pending | .gone => false

/-- The place of a job that is watched on, unless it just had its last outcome. -/
def resting (owed : Option Bool) (job : InFlight) : Place Ask Answer :=
  if owed = some true then .gone else .waiting job

section Resting

variable (owed : Option Bool) (job : InFlight)

@[simp] theorem queued_resting : (resting owed job : Place Ask Answer).queued = 0 := by
  unfold resting; split <;> rfl

@[simp] theorem activities_resting (key : String) :
    (resting owed job : Place Ask Answer).activities key = [] := by
  unfold resting; split <;> rfl

@[simp] theorem operations_resting : (resting owed job : Place Ask Answer).operations = [] := by
  unfold resting; split <;> rfl

@[simp] theorem jobs_resting :
    (resting owed job : Place Ask Answer).jobs = if owed = some true then [] else [job] := by
  unfold resting; split <;> rfl

@[simp] theorem resting_ne_pending : (resting owed job : Place Ask Answer) ≠ .pending := by
  unfold resting; split <;> simp

@[simp] theorem resting_ne_submitting (warnings : List String) (made : ResolvedJob)
    (operation : Operation Ask Answer) : resting owed job ≠ .submitting warnings made operation := by
  unfold resting; split <;> simp

end Resting

end Place

/-- All that a situation holds of one job. -/
structure View (Ask : Type) (Answer : Ask → Type) where
  place : Place Ask Answer
  record : JobRecord
  /-- After a cancellation: whether the job still gets an outcome. -/
  owed : Option Bool
  /-- What has happened to the job, latest first. -/
  notes : List (Nat × Note)

/-- The situation looks like this from the job of a key. -/
structure Situation.Shows (s : Situation Ask Answer σ) (key : String) (view : View Ask Answer) : Prop where
  queue : s.run.pending.count key = view.place.queued
  active : s.run.active.filter (·.key == key) = view.place.activities key
  waiting : s.run.waiting.filter (·.key == key) = view.place.jobs
  operations : s.operations.filter (·.key == key) = view.place.operations
  listed : key ∈ s.run.inOperation ↔ view.place.activities key ≠ []
  owed : s.run.drain.map (·.contains key) = view.owed
  record : s.run.store.get? key = some view.record
  notes : s.run.journal.filter (·.2.key == key) = view.notes

theorem Situation.Shows.count_waiting {s : Situation Ask Answer σ} {key : String} {view : View Ask Answer}
    (shows : s.Shows key view) : (s.run.waiting.map (·.key)).count key = view.place.jobs.length := by
  rw [List.count_eq_countP, List.countP_map, List.countP_eq_length_filter]
  exact congrArg List.length shows.waiting

theorem Situation.Shows.count_active {s : Situation Ask Answer σ} {key : String} {view : View Ask Answer}
    (shows : s.Shows key view) : (s.run.active.map (·.key)).count key = (view.place.activities key).length := by
  rw [List.count_eq_countP, List.countP_map, List.countP_eq_length_filter]
  exact congrArg List.length shows.active

/-- The record fits the place. -/
def View.Fits (key : String) (view : View Ask Answer) : Prop :=
  match view.place with
  | .pending => view.record.status = .pending
  | .submitting warnings job operation =>
      view.record.status = .pending ∧ operation.Serves (.submitting key warnings job)
  | .waiting job =>
      job.key = key ∧ view.record.status.isHandedOver = true ∧ view.record.jobId = some job.jobId
  | .observing job operation =>
      job.key = key ∧ view.record.status.isHandedOver = true ∧ view.record.jobId = some job.jobId ∧
        operation.Serves (.observing job)
  | .gone =>
      view.record.status.isTerminal = true ∨ view.owed = some false ∧ view.record.isInFlight = true

/-- Record and place fit each other, exactly the jobs under way still get an outcome after a cancellation, and
no event was refused. -/
structure View.Sound (key : String) (view : View Ask Answer) : Prop where
  fits : view.Fits key
  owed : ∀ owed, view.owed = some owed → owed = view.place.isUnderWay
  accepted : ∀ entry ∈ view.notes, ∀ event, entry.2 ≠ .refused key event

/-- What may happen to a job, with the world before and after. Only a question changes the world. -/
inductive Move (setting : Setting Ask Answer σ) (key : String) :
    World σ → World σ → View Ask Answer → View Ask Answer → Prop where
  | fails {world record notes features e} (known : setting.batch.features? key = some features)
      (unresolved : setting.batch.template.resolve features = .error e) :
      Move setting key world world ⟨.pending, record, none, notes⟩
        ⟨.gone, record.terminate .failed .construction e.message (setting.clock.at world.now), none,
          (world.now, .applied key (.constructionFailed e.message)) :: notes⟩
  | submits {world record notes features job activity}
      (known : setting.batch.features? key = some features)
      (resolved : setting.batch.template.resolve features = .ok job)
      (begins : activity = .submitting key (Run.warnings features job) job) :
      Move setting key world world ⟨.pending, record, none, notes⟩
        ⟨.submitting (Run.warnings features job) job (.start setting.backend world.now activity), record, none,
          (world.now, .began activity) :: notes⟩
  | asksSubmitting {world warnings job operation record owed notes question next reply}
      (due : operation.resumeAt ≤ world.now) (asks : operation.task = .ask question next)
      (replied : setting.service.respond question world.disk world.now world.state = reply) :
      Move setting key world { world with state := reply.state }
        ⟨.submitting warnings job operation, record, owed, notes⟩
        ⟨.submitting warnings job { operation with task := next reply.answer, resumeAt := reply.comesAt },
          record, owed, notes⟩
  | accepted {world warnings job operation record owed notes jobId}
      (due : operation.eventAt ≤ world.now)
      (ends : operation.EndsWith world.now (.submitted key warnings (.ok jobId)))
      (nameable : world.now + setting.config.pollInterval < Instant.limit ∧
        world.now + setting.config.maxJobDuration < Instant.limit) :
      Move setting key world world ⟨.submitting warnings job operation, record, owed, notes⟩
        ⟨.resting owed ⟨key, jobId, world.now + setting.config.pollInterval,
            world.now + setting.config.maxJobDuration⟩,
          record.submit jobId warnings (setting.clock.at world.now), owed.map fun _ => false,
          (world.now, .applied key (.submitted jobId warnings)) ::
            (world.now, .concluded (.submitted key warnings (.ok jobId))) :: notes⟩
  | declined {world warnings job operation record owed notes e}
      (due : operation.eventAt ≤ world.now)
      (ends : operation.EndsWith world.now (.submitted key warnings (.error e))) :
      Move setting key world world ⟨.submitting warnings job operation, record, owed, notes⟩
        ⟨.gone, record.failSubmit (Run.submitFailure e) (setting.clock.at world.now),
          owed.map fun _ => false,
          (world.now, .applied key (.submitFailed (Run.submitFailure e))) ::
            (world.now, .concluded (.submitted key warnings (.error e))) :: notes⟩
  | polls {world job record owed notes} (due : job.wakeAt ≤ world.now) (early : world.now < job.deadline) :
      Move setting key world world ⟨.waiting job, record, owed, notes⟩
        ⟨.observing job (.start setting.backend world.now (.observing job)), record, owed,
          (world.now, .began (.observing job)) :: notes⟩
  | asksObserving {world job operation record owed notes question next reply}
      (due : operation.resumeAt ≤ world.now) (asks : operation.task = .ask question next)
      (replied : setting.service.respond question world.disk world.now world.state = reply) :
      Move setting key world { world with state := reply.state }
        ⟨.observing job operation, record, owed, notes⟩
        ⟨.observing job { operation with task := next reply.answer, resumeAt := reply.comesAt },
          record, owed, notes⟩
  | observed {world job operation record owed notes result}
      (due : operation.eventAt ≤ world.now)
      (ends : operation.EndsWith world.now (.observed job (.polled result)))
      (nameable : result.isOpen = true →
        world.now + setting.config.pollInterval < Instant.limit ∧ job.deadline < Instant.limit) :
      Move setting key world world ⟨.observing job operation, record, owed, notes⟩
        ⟨if result.isOpen then
            .resting owed { job with nextPoll := world.now + setting.config.pollInterval }
          else .gone,
          record.observe result (setting.clock.at world.now), owed.map fun _ => false,
          (world.now, .applied key (.polled result)) ::
            (world.now, .concluded (.observed job (.polled result))) :: notes⟩
  | timesOut {world job operation record owed notes}
      (due : operation.eventAt ≤ world.now)
      (ends : operation.EndsWith world.now (.observed job .deadlineExceeded)) :
      Move setting key world world ⟨.observing job operation, record, owed, notes⟩
        ⟨.gone, record.terminate .timedOut .deadline record.deadlineMessage (setting.clock.at world.now),
          owed.map fun _ => false,
          (world.now, .applied key .deadlineExceeded) ::
            (world.now, .concluded (.observed job .deadlineExceeded)) :: notes⟩
  | expires {world job record owed notes} (due : job.deadline ≤ world.now) :
      Move setting key world world ⟨.waiting job, record, owed, notes⟩
        ⟨.gone, record.terminate .timedOut .deadline record.deadlineMessage (setting.clock.at world.now),
          owed.map fun _ => false,
          (world.now, .applied key .deadlineExceeded) ::
            (world.now, .concluded (.observed job .deadlineExceeded)) :: notes⟩

variable {setting : Setting Ask Answer σ} {key : String} {world world' : World σ}
  {view view' : View Ask Answer}

/-- No time passes while something happens to a job. -/
theorem Move.now_eq (move : Move setting key world world' view view') : world'.now = world.now := by
  cases move <;> rfl

/-- A job that rests is watched on, or has had its last outcome and is in flight. -/
theorem View.Sound.resting {owed : Option Bool} {job : InFlight} {record : JobRecord}
    {notes : List (Nat × Note)} (own : job.key = key) (handedOver : record.status.isHandedOver = true)
    (named : record.jobId = some job.jobId)
    (accepted : ∀ entry ∈ notes, ∀ event, entry.2 ≠ .refused key event)
    (before : ∀ o, owed = some o → o = true) :
    View.Sound key (⟨.resting owed job, record, owed.map fun _ => false, notes⟩ : View Ask Answer) := by
  cases owed with
  | none => exact ⟨⟨own, handedOver, named⟩, by simp, accepted⟩
  | some o =>
      obtain rfl := before o rfl
      exact ⟨.inr ⟨rfl, by simp [JobRecord.isInFlight, handedOver, named]⟩,
        by simp [Place.resting, Place.isUnderWay], accepted⟩

/-- A terminal record ends everything. -/
theorem View.Sound.gone {owed : Option Bool} {record : JobRecord} {notes : List (Nat × Note)}
    (terminal : record.status.isTerminal = true)
    (accepted : ∀ entry ∈ notes, ∀ event, entry.2 ≠ .refused key event) :
    View.Sound key (⟨.gone, record, owed.map fun _ => false, notes⟩ : View Ask Answer) :=
  ⟨.inl terminal, by simp [Place.isUnderWay], accepted⟩

theorem Move.sound (sound : view.Sound key) (move : Move setting key world world' view view') :
    view'.Sound key := by
  obtain ⟨fits, owed, accepted⟩ := sound
  cases move with
  | fails known unresolved => exact ⟨.inl rfl, owed, by simpa using accepted⟩
  | submits known resolved begins =>
      exact ⟨⟨fits, begins ▸ Operation.start_serves ..⟩, by simp, by simpa using accepted⟩
  | asksSubmitting due asks replied => exact ⟨⟨fits.1, fits.2.answered asks ..⟩, owed, accepted⟩
  | accepted due ends nameable => exact .resting rfl rfl rfl (by simpa using accepted) owed
  | declined due ends => exact .gone (JobRecord.status_failSubmit ..) (by simpa using accepted)
  | polls due early =>
      obtain ⟨own, handedOver, named⟩ := fits
      exact ⟨⟨own, handedOver, named, Operation.start_serves ..⟩, owed, by simpa using accepted⟩
  | asksObserving due asks replied =>
      obtain ⟨own, handedOver, named, serves⟩ := fits
      exact ⟨⟨own, handedOver, named, serves.answered asks ..⟩, owed, accepted⟩
  | @observed job _ record _ _ result due ends nameable =>
      obtain ⟨own, handedOver, named, serves⟩ := fits
      cases open_ : result.isOpen with
      | true => exact .resting own (by simp [open_]) (by simpa using named) (by simpa using accepted) owed
      | false => exact .gone (by simp [open_]) (by simpa using accepted)
  | timesOut due ends => exact .gone rfl (by simpa using accepted)
  | expires due => exact .gone rfl (by simpa using accepted)

end ImageBatch.Tracker
