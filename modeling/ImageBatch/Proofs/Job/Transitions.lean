import ImageBatch.Job.Transition

/-!
Which events a record takes in which state, and where it stands after them.

A pending job takes what comes of building and submitting it, and a job with the service takes what comes of
watching it. A job is in flight after an event exactly if it was submitted, or was seen waiting or running.
-/

namespace ImageBatch

/-- The job is watched on after such an observation. -/
def PollResult.isOpen : PollResult → Bool
  | .queued | .running => true
  | _ => false

/-- The job is at its end after such an event. -/
def JobEvent.ends : JobEvent → Bool
  | .submitted .. | .forceReset => false
  | .polled result => !result.isOpen
  | .constructionFailed _ | .submitFailed _ | .deadlineExceeded | .collectionFailed _ => true

namespace JobRecord

variable {record next : JobRecord} {event : JobEvent} {now : Timestamp}

/-! ### Events in turn -/

theorem transition_constructionFailed (now : Timestamp) (pending : record.status = .pending) (message : String) :
    record.transition (.constructionFailed message) now =
      .ok (record.terminate .failed .construction message now) := by
  simp [transition, pending]

theorem transition_submitted (now : Timestamp) (pending : record.status = .pending) (jobId : String)
    (warnings : List String) :
    record.transition (.submitted jobId warnings) now = .ok (record.submit jobId warnings now) := by
  simp [transition, pending]

theorem transition_submitFailed (now : Timestamp) (pending : record.status = .pending) (failure : SubmitFailure) :
    record.transition (.submitFailed failure) now = .ok (record.failSubmit failure now) := by
  simp [transition, pending]

theorem isHandedOver_iff : record.status.isHandedOver = true ↔
    record.status = .submitted ∨ record.status = .running := by
  cases record.status <;> simp [JobStatus.isHandedOver]

theorem transition_polled (now : Timestamp) (handedOver : record.status.isHandedOver = true) (result : PollResult) :
    record.transition (.polled result) now = .ok (record.observe result now) := by
  obtain status | status := isHandedOver_iff.mp handedOver <;> simp [transition, status]

theorem transition_deadlineExceeded (now : Timestamp) (handedOver : record.status.isHandedOver = true) :
    record.transition .deadlineExceeded now =
      .ok (record.terminate .timedOut .deadline record.deadlineMessage now) := by
  obtain status | status := isHandedOver_iff.mp handedOver <;> simp [transition, status]

/-- Whatever happens to a record, it stays the record of its user. -/
theorem transition_userId (taken : record.transition event now = .ok next) :
    next.userId = record.userId := by
  unfold transition at taken
  split at taken <;> cases taken <;> try rfl
  case h_4 failure _ => cases failure <;> rfl
  case h_5 result _ => cases result <;> rfl
  case h_6 result _ => cases result <;> rfl

/-! ### The record after an event -/

/-- No job goes on after its deadline. -/
theorem not_isInFlight_of_deadlineExceeded (taken : record.transition .deadlineExceeded now = .ok next) :
    next.isInFlight = false := by
  cases status : record.status <;> simp only [transition, status, reduceCtorEq, Except.ok.injEq] at taken
  all_goals
    subst taken
    rfl

@[simp] theorem isInFlight_submit (record : JobRecord) (jobId : String) (warnings : List String)
    (now : Timestamp) : (record.submit jobId warnings now).isInFlight = true := rfl

theorem status_failSubmit (record : JobRecord) (failure : SubmitFailure) (now : Timestamp) :
    (record.failSubmit failure now).status.isTerminal = true := by
  cases failure <;> rfl

/-- An event that a record takes brings the job to its end, or leaves it open. -/
theorem isTerminal_transition (taken : record.transition event now = .ok next) :
    next.status.isTerminal = event.ends := by
  unfold transition at taken
  split at taken <;> cases taken <;> try rfl
  case h_4 failure _ => exact status_failSubmit ..
  case h_5 result _ => cases result <;> rfl
  case h_6 result _ => cases result <;> rfl

theorem not_isInFlight_of_isTerminal (terminal : record.status.isTerminal = true) :
    record.isInFlight = false := by
  unfold isInFlight
  cases status : record.status <;> simp_all [JobStatus.isTerminal, JobStatus.isHandedOver]

@[simp] theorem jobId_observe (record : JobRecord) (result : PollResult) (now : Timestamp) :
    (record.observe result now).jobId = record.jobId := by
  cases result <;> rfl

@[simp] theorem isHandedOver_observe (record : JobRecord) (result : PollResult) (now : Timestamp) :
    (record.observe result now).status.isHandedOver = result.isOpen := by
  cases result <;> rfl

@[simp] theorem isTerminal_observe (record : JobRecord) (result : PollResult) (now : Timestamp) :
    (record.observe result now).status.isTerminal = !result.isOpen := by
  cases result <;> rfl

theorem isInFlight_observe (known : record.jobId.isSome = true) (result : PollResult) (now : Timestamp) :
    (record.observe result now).isInFlight = result.isOpen := by
  simp [isInFlight, known]

end JobRecord

end ImageBatch
