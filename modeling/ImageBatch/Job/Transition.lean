import ImageBatch.Job.Record

/-!
The life of a job: which event may happen to it when, and what becomes of its record.

A job is pending, then with the service, then at its end. A reset is possible at any time; a success may
still turn into a failure when its output cannot be collected. Any other event out of turn is refused and
changes nothing.
-/

namespace ImageBatch

/-- What one observation of a job showed. -/
inductive PollResult where
  | queued
  | running
  | done (result : ResultReference)
  /-- The job is done, but its output could not be named. -/
  | doneUnreadable (message : String)
  | error (message : String)
  /-- The service could not be reached for too long. -/
  | unreachable (message : String)
deriving DecidableEq, Repr

/-- Why a job could not be handed over. -/
inductive SubmitFailure where
  | rejected (message : String)
  | exhausted (message : String)
  | other (message : String)
deriving DecidableEq, Repr

/-- What may happen to a job. -/
inductive JobEvent where
  | constructionFailed (message : String)
  | submitted (jobId : String) (warnings : List String)
  | submitFailed (failure : SubmitFailure)
  | polled (result : PollResult)
  | deadlineExceeded
  | collectionFailed (message : String)
  | forceReset
deriving DecidableEq, Repr

def JobEvent.name : JobEvent → String
  | .constructionFailed _ => "construction_failed"
  | .submitted _ _ => "submitted"
  | .submitFailed _ => "submit_failed"
  | .polled _ => "polled"
  | .deadlineExceeded => "deadline_exceeded"
  | .collectionFailed _ => "collection_failed"
  | .forceReset => "force_reset"

/-- An event out of turn. -/
structure InvalidTransition where
  userId : String
  from_ : JobStatus
  event : String
deriving DecidableEq, Repr

def InvalidTransition.message (e : InvalidTransition) : String :=
  "cannot apply '" ++ e.event ++ "' to job for user " ++ e.userId ++ " in status '" ++ e.from_.word ++ "'"

namespace JobRecord

/-- The record of a job that ended without a result. -/
def terminate (record : JobRecord) (status : JobStatus) (kind : FailureKind) (message : String)
    (now : Timestamp) : JobRecord :=
  { record with status, result := none, error := some ⟨kind, message⟩, completedAt := some now }

/-- The record of a job that starts again; how often it was handed over is kept. -/
def reset (record : JobRecord) : JobRecord :=
  { fresh record.userId with submitCount := record.submitCount }

/-- The record of a job that the service has taken. -/
def submit (record : JobRecord) (jobId : String) (warnings : List String) (now : Timestamp) : JobRecord :=
  { record with
    status := .submitted
    jobId := some jobId
    submittedAt := some now
    submitCount := (record.submitCount + 1) % 0x100000000
    warnings }

/-- The record of a job that could not be handed over. -/
def failSubmit (record : JobRecord) (failure : SubmitFailure) (now : Timestamp) : JobRecord :=
  match failure with
  | .rejected message => record.terminate .failed .backendRejected message now
  | .exhausted message => record.terminate .timedOut .retriesExhausted message now
  | .other message => record.terminate .failed .backendRuntime message now

/-- The record of a job that was observed. -/
def observe (record : JobRecord) (result : PollResult) (now : Timestamp) : JobRecord :=
  let seen := { record with lastPolledAt := some now }
  match result with
  | .queued | .running => { seen with status := .running }
  | .done reference =>
    { seen with status := .succeeded, result := some reference, error := none, completedAt := some now }
  | .doneUnreadable message => seen.terminate .failed .resultUnreadable message now
  | .error message => seen.terminate .failed .backendRuntime message now
  | .unreachable message => seen.terminate .timedOut .retriesExhausted message now

/-- What is said about a job whose deadline has come. -/
def deadlineMessage (record : JobRecord) : String :=
  match record.submittedAt with
  | some at_ => "no terminal status since submission at " ++ at_.toOffsetText
  | none => "no terminal status before deadline"

/-- The record after an event. -/
def transition (record : JobRecord) (event : JobEvent) (now : Timestamp) :
    Except InvalidTransition JobRecord :=
  match record.status, event with
  | _, .forceReset => .ok record.reset
  | .pending, .constructionFailed message => .ok (record.terminate .failed .construction message now)
  | .pending, .submitted jobId warnings => .ok (record.submit jobId warnings now)
  | .pending, .submitFailed failure => .ok (record.failSubmit failure now)
  | .submitted, .polled result | .running, .polled result => .ok (record.observe result now)
  | .submitted, .deadlineExceeded | .running, .deadlineExceeded =>
    .ok (record.terminate .timedOut .deadline record.deadlineMessage now)
  | .succeeded, .collectionFailed message =>
    .ok { record.terminate .failed .collection message now with artifact := none }
  | status, event => .error ⟨record.userId, status, event.name⟩

end JobRecord

end ImageBatch
