import ImageBatch.File.Path
import ImageBatch.Job.Status
import ImageBatch.Json.Document
import ImageBatch.Number.Natural
import ImageBatch.Time.Rfc3339

/-!
Job records: all that is remembered about one job, and its form in documents.
-/

namespace ImageBatch

/-- The kind of a failure and its story. -/
structure ErrorDetail where
  kind : FailureKind
  message : String
deriving DecidableEq, Repr

/-- Where the service keeps an output. -/
structure ResultReference where
  /-- The node of the graph that made the output. -/
  nodeId : String
  filename : String
  subfolder : String
  /-- The storage area of the service. -/
  area : String
deriving DecidableEq, Repr

/-- One job. -/
structure JobRecord where
  userId : String
  /-- The service's name for the job, once it has it. -/
  jobId : Option String
  status : JobStatus
  submittedAt : Option Timestamp
  lastPolledAt : Option Timestamp
  completedAt : Option Timestamp
  /-- How often the job was handed over, modulo 2³². -/
  submitCount : Nat
  result : Option ResultReference
  error : Option ErrorDetail
  warnings : List String
  /-- The local image made from the output. -/
  artifact : Option Path
deriving DecidableEq, Repr

namespace JobRecord

/-- A job of which nothing has happened. -/
def fresh (userId : String) : JobRecord where
  userId := userId
  jobId := none
  status := .pending
  submittedAt := none
  lastPolledAt := none
  completedAt := none
  submitCount := 0
  result := none
  error := none
  warnings := []
  artifact := none

/-- The service has the job and we know its name for it. -/
def isInFlight (record : JobRecord) : Bool := record.status.isHandedOver && record.jobId.isSome

/-- When the job must be over. A length of time that cannot be added to a moment sets no deadline. -/
def deadline (record : JobRecord) (maxDuration : Nat) : Except TimeError (Option Timestamp) :=
  match record.submittedAt with
  | some at_ =>
    if maxDuration ≤ Duration.maxSpan then (at_.add maxDuration).map some else .ok none
  | none => .ok none

/-- The deadline has come. -/
def isPastDeadline (record : JobRecord) (now : Timestamp) (maxDuration : Nat) :
    Except TimeError Bool :=
  (record.deadline maxDuration).map fun
    | some deadline => deadline.le now
    | none => false

end JobRecord

open Document

namespace ErrorDetail

def ofDocument? (d : Document) : Option ErrorDetail := do
  let found ← d.asRecord [must "kind", must "message"]
  return {
    kind := ← found.required "kind" fun d => d.asWord.bind FailureKind.ofWord?
    message := ← found.required "message" asText }

def toJson (e : ErrorDetail) : Json :=
  .object [("kind", .text e.kind.word), ("message", .text e.message)]

end ErrorDetail

namespace ResultReference

def ofDocument? (d : Document) : Option ResultReference := do
  let found ← d.asRecord [must "node_id", must "filename", may "subfolder", must "type"]
  return {
    nodeId := ← found.required "node_id" asText
    filename := ← found.required "filename" asText
    subfolder := ← found.withDefault "subfolder" "" asText
    area := ← found.required "type" asText }

def toJson (r : ResultReference) : Json :=
  .object [
    ("node_id", .text r.nodeId), ("filename", .text r.filename), ("subfolder", .text r.subfolder),
    ("type", .text r.area)]

end ResultReference

namespace JobRecord

def layout : Layout :=
  [must "user_id", must "job_id", must "status", must "submitted_at", must "last_polled_at",
    must "completed_at", may "submit_count", must "result", must "error", may "warnings",
    may "artifact"]

/-- A moment in a document. -/
def asTimestamp (d : Document) : Option Timestamp := d.asText.bind Timestamp.ofText?

def ofDocument? (d : Document) : Option JobRecord := do
  let found ← d.asRecord layout
  return {
    userId := ← found.required "user_id" asText
    jobId := ← found.nullable "job_id" asText
    status := ← found.required "status" fun d => d.asWord.bind JobStatus.ofWord?
    submittedAt := ← found.nullable "submitted_at" asTimestamp
    lastPolledAt := ← found.nullable "last_polled_at" asTimestamp
    completedAt := ← found.nullable "completed_at" asTimestamp
    submitCount := ← found.withDefault "submit_count" 0 (asNat Natural.max32)
    result := ← found.nullable "result" ResultReference.ofDocument?
    error := ← found.nullable "error" ErrorDetail.ofDocument?
    warnings := ← found.withDefault "warnings" [] (asList asText)
    artifact := (← found.nullable "artifact" asText).map Path.mk }

def ofTimestamp (t : Option Timestamp) : Json := .ofOption (fun t => .text t.toText) t

def toJson (r : JobRecord) : Json :=
  .object [
    ("user_id", .text r.userId),
    ("job_id", .ofOption .text r.jobId),
    ("status", .text r.status.word),
    ("submitted_at", ofTimestamp r.submittedAt),
    ("last_polled_at", ofTimestamp r.lastPolledAt),
    ("completed_at", ofTimestamp r.completedAt),
    ("submit_count", .integer r.submitCount),
    ("result", .ofOption ResultReference.toJson r.result),
    ("error", .ofOption ErrorDetail.toJson r.error),
    ("warnings", .ofList .text r.warnings),
    ("artifact", .ofOption (fun p => .text p.text) r.artifact)]

end JobRecord

end ImageBatch
