import ImageBatch.Job.Record

/-!
Summaries: how many jobs of a batch stand where, and what went wrong.
-/

namespace ImageBatch

/-- A job that ended without a result. -/
structure FailureReport where
  userId : String
  status : JobStatus
  kind : Option FailureKind
  message : String
deriving DecidableEq, Repr

/-- The outcome of a batch. The counts are in the order of `JobStatus.all` and `FailureKind.all`; what does
not occur is left out. -/
structure BatchSummary where
  total : Nat
  byStatus : List (JobStatus × Nat)
  byFailure : List (FailureKind × Nat)
  /-- The failures in the order of the records. -/
  failures : List FailureReport
deriving DecidableEq, Repr

/-- The report on a record, if its job failed. -/
def JobRecord.failure? (record : JobRecord) : Option FailureReport :=
  if record.status.isFailure then
    some {
      userId := record.userId
      status := record.status
      kind := record.error.map (·.kind)
      message := (record.error.map (·.message)).getD "" }
  else none

namespace BatchSummary

/-- How often each of `values` occurs, if it does. -/
def tally {α : Type} [DecidableEq α] (values : List α) (items : List α) : List (α × Nat) :=
  values.filterMap fun v => if items.count v = 0 then none else some (v, items.count v)

def ofRecords (records : List JobRecord) : BatchSummary :=
  let failures := records.filterMap (·.failure?)
  { total := records.length
    byStatus := tally JobStatus.all (records.map (·.status))
    byFailure := tally FailureKind.all (failures.filterMap (·.kind))
    failures }

/-- How many jobs have a status. -/
def count (summary : BatchSummary) (status : JobStatus) : Nat :=
  match summary.byStatus.find? (·.1 = status) with
  | some (_, n) => n
  | none => 0

/-- Every job is at its end. -/
def isComplete (summary : BatchSummary) : Bool := summary.byStatus.all fun (status, _) => status.isTerminal

/-- The summary in one line. -/
def text (summary : BatchSummary) : String :=
  String.join ((toString summary.total ++ " users") ::
    summary.byStatus.map fun (status, n) => ", " ++ toString n ++ " " ++ status.word)

def toJson (summary : BatchSummary) : Json :=
  .object [
    ("total", .integer summary.total),
    ("by_status", .object (summary.byStatus.map fun (s, n) => (s.word, .integer n))),
    ("by_failure", .object (summary.byFailure.map fun (k, n) => (k.word, .integer n))),
    ("failures", .ofList (fun f => .object [
      ("user_id", .text f.userId), ("status", .text f.status.word),
      ("kind", .ofOption (fun k => .text k.word) f.kind), ("message", .text f.message)])
      summary.failures)]

end BatchSummary

end ImageBatch
