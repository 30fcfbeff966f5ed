/-!
The states of a job, and the kinds of failure.
-/

namespace ImageBatch

/-- Where a job stands. -/
inductive JobStatus where
  | pending
  | submitted
  | running
  | succeeded
  | failed
  | timedOut
deriving DecidableEq, Repr

namespace JobStatus

def all : List JobStatus := [.pending, .submitted, .running, .succeeded, .failed, .timedOut]

def word : JobStatus → String
  | .pending => "pending"
  | .submitted => "submitted"
  | .running => "running"
  | .succeeded => "succeeded"
  | .failed => "failed"
  | .timedOut => "timed_out"

def ofWord? (word : String) : Option JobStatus := all.find? (·.word == word)

/-- Nothing more happens to the job unless it is reset. -/
def isTerminal : JobStatus → Bool
  | .succeeded | .failed | .timedOut => true
  | .pending | .submitted | .running => false

/-- The job ended without a result. -/
def isFailure : JobStatus → Bool
  | .failed | .timedOut => true
  | _ => false

/-- The service has the job. -/
def isHandedOver : JobStatus → Bool
  | .submitted | .running => true
  | _ => false

end JobStatus

/-- Why a job ended without a result. -/
inductive FailureKind where
  /-- The job could not be built and never reached the service. -/
  | construction
  | backendRejected
  /-- The service ran the job and reported an error. -/
  | backendRuntime
  /-- The service reported success but named no output. -/
  | resultUnreadable
  /-- The output did not become a local image. -/
  | collection
  | deadline
  | retriesExhausted
deriving DecidableEq, Repr

namespace FailureKind

def all : List FailureKind :=
  [.construction, .backendRejected, .backendRuntime, .resultUnreadable, .collection, .deadline,
    .retriesExhausted]

def word : FailureKind → String
  | .construction => "construction"
  | .backendRejected => "backend_rejected"
  | .backendRuntime => "backend_runtime"
  | .resultUnreadable => "result_unreadable"
  | .collection => "collection"
  | .deadline => "deadline"
  | .retriesExhausted => "retries_exhausted"

def ofWord? (word : String) : Option FailureKind := all.find? (·.word == word)

end FailureKind

theorem JobStatus.ofWord?_word (status : JobStatus) : ofWord? status.word = some status := by
  cases status <;> rfl

theorem FailureKind.ofWord?_word (kind : FailureKind) : ofWord? kind.word = some kind := by
  cases kind <;> rfl

end ImageBatch
