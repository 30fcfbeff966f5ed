import ImageBatch.Backend.Task
import ImageBatch.Job.Record
import ImageBatch.Template.Resolve

/-!
Backends: services that take jobs, tell how they stand and hand out their results.
-/

namespace ImageBatch

/-- How a job stands with the service. -/
inductive BackendStatus where
  | queued
  | running
  | done
  | error (message : String)
deriving DecidableEq, Repr

/-- Why an operation of a backend failed. -/
inductive BackendError where
  /-- The service cannot be reached or has too much to do. -/
  | unavailable (message : String)
  /-- The service refuses the job. -/
  | rejected (message : String)
  /-- The answer of the service makes no sense. -/
  | protocol (message : String)
  /-- A local file cannot be read. -/
  | localFile (path : Path) (cause : IoError)
  /-- The operation failed too often. -/
  | retriesExhausted (operation : String) (attempts : Nat) (last : BackendError)
deriving DecidableEq, Repr

namespace BackendError

def message : BackendError → String
  | .unavailable m => "backend unavailable: " ++ m
  | .rejected m => "backend rejected job: " ++ m
  | .protocol m => "unexpected backend response: " ++ m
  | .localFile path cause => "failed to read " ++ path.text ++ ": " ++ cause.message
  | .retriesExhausted operation attempts last =>
    operation ++ " gave up after " ++ toString attempts ++ " attempts: " ++ last.message

/-- Trying again may help. -/
def isTransient : BackendError → Bool
  | .unavailable _ => true
  | _ => false

end BackendError

/-- The operations of a service, as tasks. -/
structure Backend (Ask : Type) (Answer : Ask → Type) where
  /-- Hands over a job; the result is the service's name for it. -/
  submit : ResolvedJob → Task Ask Answer (Except BackendError String)
  poll : (jobId : String) → Task Ask Answer (Except BackendError BackendStatus)
  /-- Names the output of a job that is done. -/
  fetchResult : (jobId : String) → Task Ask Answer (Except BackendError ResultReference)
  download : ResultReference → Task Ask Answer (Except BackendError Bytes)

end ImageBatch
