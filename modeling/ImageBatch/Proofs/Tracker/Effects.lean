import ImageBatch.Proofs.Batch.Lookup
import ImageBatch.Proofs.Job.Transitions
import ImageBatch.Tracker.Run

/-!
What the functions of a run change, and what they leave alone.

`Run.apply_frame` and `Run.conclude_frame` hold of every event, `Run.apply_of_taken` and
`Run.conclude_of_taken` of an event that the record takes. A waiting job whose deadline has come is the one case
in which a conclusion never puts the job back (`Run.conclude_expired_waiting`).
-/

namespace ImageBatch.Tracker

section Keys

variable (activity : Activity) (completion : Completion) (key : String) (event : JobEvent)

@[simp] theorem Note.key_began : (Note.began activity).key = activity.key := rfl

@[simp] theorem Note.key_concluded : (Note.concluded completion).key = completion.key := rfl

@[simp] theorem Note.key_applied : (Note.applied key event).key = key := rfl

@[simp] theorem Note.key_refused : (Note.refused key event).key = key := rfl

end Keys

/-- The event that a completion means for the record. -/
def Completion.event : Completion → JobEvent
  | .submitted _ warnings (.ok jobId) => .submitted jobId warnings
  | .submitted _ _ (.error e) => .submitFailed (Run.submitFailure e)
  | .observed _ event => event

/-- The job as it waits for its next poll if it is in flight after a completion. -/
def Completion.resting (config : Config) (now : Nat) : Completion → Option InFlight
  | .submitted key _ (.ok jobId) =>
      some ⟨key, jobId, now + config.pollInterval, now + config.maxJobDuration⟩
  | .submitted _ _ (.error _) => none
  | .observed job _ => some { job with nextPoll := now + config.pollInterval }

theorem Completion.key_of_resting {config : Config} {now : Nat} {completion : Completion} {job : InFlight}
    (rests : completion.resting config now = some job) : job.key = completion.key := by
  unfold resting at rests
  split at rests <;> cases rests
  all_goals rfl

namespace Run

variable {config : Config} {now : Nat} {moment : Timestamp} {run : Run} {key : String} {event : JobEvent}
  {completion : Completion} {record next : JobRecord}

/-! ### Cancelling -/

/-- Noting a cancellation changes the marks alone. -/
theorem noteCancelled_frame (run : Run) : run.noteCancelled = { run with drain := run.noteCancelled.drain } := by
  unfold noteCancelled
  split <;> rfl

/-- A cancellation is noted once. -/
theorem noteCancelled_of_marked {keys : List String} (marked : run.drain = some keys) : run.noteCancelled = run := by
  simp [noteCancelled, marked]

/-! ### Applying -/

/-- An event in turn is entered and changes the record. -/
theorem apply_of_taken (found : run.store.get? key = some record)
    (taken : record.transition event moment = .ok next) :
    run.apply now moment key event =
      ({ run.note now (.applied key event) with store := run.store.put next }, next.isInFlight) := by
  simp [apply, found, taken]

/-- An event changes at most the record of its key and is entered once. What it does hangs on the store
alone. -/
theorem apply_frame (now : Nat) (moment : Timestamp) (store : BatchStore) (key : String) (event : JobEvent) :
    ∃ store' what inFlight, what.key = key ∧ store'.path = store.path ∧
      (∀ other ≠ key, store'.get? other = store.get? other) ∧
      ∀ run : Run, run.store = store → run.apply now moment key event =
        ({ run with store := store', journal := (now, what) :: run.journal }, inFlight) := by
  cases found : store.get? key with
  | none =>
      refine ⟨store, .refused key event, false, rfl, rfl, fun _ _ => rfl, ?_⟩
      rintro run rfl
      simp [apply, found, note]
  | some record =>
      cases taken : record.transition event moment with
      | error e =>
          refine ⟨store, .refused key event, false, rfl, rfl, fun _ _ => rfl, ?_⟩
          rintro run rfl
          simp [apply, found, taken, note]
      | ok next =>
          have own : next.userId = key :=
            (JobRecord.transition_userId taken).trans (BatchStore.userId_of_get? found)
          refine ⟨store.put next, .applied key event, next.isInFlight, rfl, rfl, fun other ne => ?_, ?_⟩
          · simp [own, Ne.symm ne]
          · rintro run rfl
            simp [apply, found, taken, note]

theorem apply_pending (now : Nat) (moment : Timestamp) (run : Run) (key : String) (event : JobEvent)
    (pending : List String) :
    (apply now moment { run with pending } key event).1 =
      { (run.apply now moment key event).1 with pending } := by
  obtain ⟨_, _, _, -, -, -, effect⟩ := apply_frame now moment run.store key event
  simp [effect]

theorem apply_waiting (now : Nat) (moment : Timestamp) (run : Run) (key : String) (event : JobEvent)
    (waiting : List InFlight) :
    (apply now moment { run with waiting } key event).1 =
      { (run.apply now moment key event).1 with waiting } := by
  obtain ⟨_, _, _, -, -, -, effect⟩ := apply_frame now moment run.store key event
  simp [effect]

@[simp] theorem apply_drain (now : Nat) (moment : Timestamp) (run : Run) (key : String) (event : JobEvent) :
    (run.apply now moment key event).1.drain = run.drain := by
  obtain ⟨_, _, _, -, -, -, effect⟩ := apply_frame now moment run.store key event
  simp [effect]

/-! ### Concluding -/

theorem settle_eq (config : Config) (now : Nat) (moment : Timestamp) (run : Run) (completion : Completion) :
    run.settle config now moment completion =
      ((run.apply now moment completion.key completion.event).1,
        if (run.apply now moment completion.key completion.event).2 then completion.resting config now
        else none) := by
  cases completion with
  | observed job event => rfl
  | submitted key warnings result =>
      cases result with
      | ok jobId => rfl
      | error e => exact congrArg (Prod.mk _) (ite_self none).symm

/-- A conclusion concerns the job of its key alone. -/
theorem conclude_frame (config : Config) (now : Nat) (moment : Timestamp) (run : Run)
    (completion : Completion) :
    ∃ store what waiting, what.key = completion.key ∧ store.path = run.store.path ∧
      (∀ other ≠ completion.key, store.get? other = run.store.get? other) ∧
      (∀ job ∈ waiting, job.key = completion.key) ∧
      run.conclude config now moment completion = {
        store
        pending := run.pending
        waiting := run.waiting ++ waiting
        active := run.active.filter (·.key != completion.key)
        inOperation := run.inOperation.filter (· != completion.key)
        drain := run.drain.map fun keys => keys.filter (· != completion.key)
        journal := (now, what) :: (now, .concluded completion) :: run.journal } := by
  obtain ⟨store, what, inFlight, own, path, others, effect⟩ :=
    apply_frame now moment run.store completion.key completion.event
  have nothing : ∀ job ∈ ([] : List InFlight), job.key = completion.key := by simp
  unfold conclude
  simp only [settle_eq, effect _ (show (((run.note now (.concluded completion)).release
    completion.key).drained completion.key).store = run.store from rfl)]
  by_cases resting : inFlight = true
  · simp only [resting, if_true]
    cases job : completion.resting config now with
    | none => exact ⟨store, what, [], own, path, others, nothing, by simp [drained, release, note]⟩
    | some job' =>
        simp only
        split
        · exact ⟨store, what, [], own, path, others, nothing, by simp [drained, release, note]⟩
        · refine ⟨store, what, [job'], own, path, others, ?_, rfl⟩
          simpa using Completion.key_of_resting job
  · simp only [resting, Bool.false_eq_true, if_false]
    exact ⟨store, what, [], own, path, others, nothing, by simp [drained, release, note]⟩

@[simp] theorem conclude_drain (config : Config) (now : Nat) (moment : Timestamp) (run : Run)
    (completion : Completion) :
    (run.conclude config now moment completion).drain =
      run.drain.map fun keys => keys.filter (· != completion.key) := by
  obtain ⟨_, _, _, -, -, -, -, effect⟩ := conclude_frame config now moment run completion
  simp [effect]

/-- A conclusion that the record takes: the job waits again if it is in flight and has not just had its last
outcome. -/
theorem conclude_of_taken (found : run.store.get? completion.key = some record)
    (taken : record.transition completion.event moment = .ok next) :
    run.conclude config now moment completion = {
      store := run.store.put next
      pending := run.pending
      waiting := run.waiting ++
        if next.isInFlight = true ∧ run.isDraining completion.key = false then
          (completion.resting config now).toList else []
      active := run.active.filter (·.key != completion.key)
      inOperation := run.inOperation.filter (· != completion.key)
      drain := run.drain.map fun keys => keys.filter (· != completion.key)
      journal := (now, .applied completion.key completion.event) :: (now, .concluded completion) ::
        run.journal } := by
  have found' : (((run.note now (.concluded completion)).release completion.key).drained
      completion.key).store.get? completion.key = some record := found
  unfold conclude
  simp only [settle_eq, apply_of_taken found' taken]
  cases next.isInFlight <;> cases run.isDraining completion.key <;>
    cases completion.resting config now <;> simp [drained, release, note]

/-- The clock can name the instants at which the job needs something, if it rests. -/
theorem nameable_of_taken {job : InFlight} (found : run.store.get? completion.key = some record)
    (taken : record.transition completion.event moment = .ok next) (inFlight : next.isInFlight = true)
    (resting : completion.resting config now = some job)
    (nameable : run.canConclude config now moment completion = true) :
    job.nextPoll < Instant.limit ∧ job.deadline < Instant.limit := by
  simpa [canConclude, settle_eq, apply_of_taken found taken, inFlight, resting] using nameable

/-- A completion can be taken in if the clock can name the instants at which the job needs something then. -/
theorem canConclude_of_nameable (nameable : (run.apply now moment completion.key completion.event).2 = true →
      ∀ job, completion.resting config now = some job → job.nextPoll < Instant.limit ∧ job.deadline < Instant.limit) :
    run.canConclude config now moment completion = true := by
  simp only [canConclude, settle_eq]
  split
  next job rests =>
      split at rests
      next inFlight =>
          obtain ⟨poll, deadline⟩ := nameable inFlight job rests
          simp [poll, deadline]
      next => cases rests
  next => rfl

/-! ### Expiring -/

/-- No job goes on after its deadline. -/
theorem apply_expired (now : Nat) (moment : Timestamp) (run : Run) (key : String) :
    (run.apply now moment key .deadlineExceeded).2 = false := by
  unfold apply
  cases run.store.get? key with
  | none => rfl
  | some record =>
      cases taken : record.transition .deadlineExceeded moment with
      | error e => simp [taken]
      | ok next => simp [taken, JobRecord.not_isInFlight_of_deadlineExceeded taken]

theorem settle_expired (config : Config) (now : Nat) (moment : Timestamp) (run : Run) (job : InFlight) :
    run.settle config now moment (.observed job .deadlineExceeded) =
      ((run.apply now moment job.key .deadlineExceeded).1, none) := by
  simp [settle, apply_expired]

theorem canConclude_expired (config : Config) (now : Nat) (moment : Timestamp) (run : Run) (job : InFlight) :
    run.canConclude config now moment (.observed job .deadlineExceeded) = true := by
  simp [canConclude, settle_expired]

/-- An expired job does not wait again, and who else waits has nothing to do with it. -/
theorem conclude_expired_waiting (config : Config) (now : Nat) (moment : Timestamp) (run : Run)
    (job : InFlight) (waiting : List InFlight) :
    conclude config now moment { run with waiting } (.observed job .deadlineExceeded) =
      { run.conclude config now moment (.observed job .deadlineExceeded) with waiting } := by
  simp only [conclude, settle_expired]
  exact apply_waiting now moment
    (((run.note now (.concluded (.observed job .deadlineExceeded))).release job.key).drained job.key) ..

theorem concludeAll_expired (config : Config) (now : Nat) (moment : Timestamp) (run : Run)
    (jobs : List InFlight) :
    run.concludeAll config now moment (jobs.map fun job => .observed job .deadlineExceeded) =
      .ok ((jobs.map fun job => .observed job .deadlineExceeded).foldl (conclude config now moment) run) := by
  induction jobs generalizing run with
  | nil => rfl
  | cons job rest ih => simp [concludeAll, canConclude_expired, ih]

/-! ### Beginning and waking -/

theorem foldl_begin_waiting (now : Nat) (activities : List Activity) (run : Run) (waiting : List InFlight) :
    activities.foldl (begin now) { run with waiting } =
      { activities.foldl (begin now) run with waiting } := by
  induction activities generalizing run with
  | nil => rfl
  | cons activity rest ih => exact ih (run.begin now activity)

end Run

/-- The job is observed when the waiting jobs are woken now. -/
def InFlight.isPolled (now : Nat) (job : InFlight) : Bool := job.wakeAt ≤ now && !(job.deadline ≤ now)

theorem InFlight.isPolled_iff {now : Nat} {job : InFlight} :
    job.isPolled now = true ↔ job.wakeAt ≤ now ∧ now < job.deadline := by
  simp [isPolled]

theorem InFlight.wakeAt_le_deadline (job : InFlight) : job.wakeAt ≤ job.deadline := Nat.min_le_right ..

/-- What waking does, job by job. -/
theorem Run.wake_eq (now : Nat) (run : Run) :
    run.wake now =
      (((run.waiting.filter (·.isPolled now)).map Activity.observing).foldl (Run.begin now)
          { run with waiting := run.waiting.filter fun job => !decide (job.wakeAt ≤ now) },
        (run.waiting.filter (·.isPolled now)).map .observing,
        (run.waiting.filter (·.deadline ≤ now)).map fun job => .observed job .deadlineExceeded) := by
  have polled : (run.waiting.filter fun job => job.wakeAt ≤ now).filter (fun job => !decide (job.deadline ≤ now)) =
      run.waiting.filter (·.isPolled now) := by
    rw [List.filter_filter]
    exact List.filter_congr fun job _ => Bool.and_comm ..
  have expired : (run.waiting.filter fun job => job.wakeAt ≤ now).filter (·.deadline ≤ now) =
      run.waiting.filter (·.deadline ≤ now) := by
    rw [List.filter_filter]
    refine List.filter_congr fun job _ => ?_
    by_cases past : job.deadline ≤ now
    · have wakes : job.wakeAt ≤ now := Nat.le_trans job.wakeAt_le_deadline past
      simp [past, wakes]
    · simp [past]
  simp only [Run.wake, List.partition_eq_filter_filter, ← polled, ← expired]
  rfl

end ImageBatch.Tracker
