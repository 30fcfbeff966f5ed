import ImageBatch.Backend.Retry
import ImageBatch.Time.Basic

/-!
Rehearsals: a backend whose answers are written down beforehand.

Each job has a script for every kind of call. A call takes the next line of its script, the last line stands
for all later calls, and an empty script lets everything go well. A line says how long its call takes. All
calls are logged with the instant at which they began.
-/

namespace ImageBatch

/-- A line of a script: how many nanoseconds a call takes, and what comes of it. -/
structure Line (α : Type) where
  delay : Nat
  outcome : α
deriving Repr

/-- The next line, and the script for the call after. -/
def Line.next {α : Type} : List (Line α) → Option (Line α) × List (Line α)
  | [] => (none, [])
  | [line] => (some line, [line])
  | line :: rest => (some line, rest)

/-- What the calls for one job give. -/
structure JobScript where
  submits : List (Line (Except BackendError Unit)) := []
  polls : List (Line (Except BackendError BackendStatus)) := []
  fetches : List (Line (Except BackendError Unit)) := []
  /-- How many submits went well. -/
  accepted : Nat := 0

/-- The kinds of calls. -/
inductive CallKind where
  | submit
  | poll
  | fetch
  | download
deriving DecidableEq, Repr

/-- The word for a kind of calls, as scripts have it. -/
def CallKind.word : CallKind → String
  | .submit => "submit"
  | .poll => "polls"
  | .fetch => "fetch"
  | .download => "download"

/-- A call: when it began, what it was about, and its kind. -/
structure Call where
  instant : Nat
  subject : String
  kind : CallKind
deriving DecidableEq, Repr

/-- The order of calls: by their instants, then by their subjects, then by the words for their kinds. -/
def Call.notAfter (a b : Call) : Bool :=
  if a.instant ≠ b.instant then a.instant < b.instant
  else if a.subject ≠ b.subject then a.subject < b.subject
  else a.kind.word < b.kind.word || a.kind == b.kind

/-- A backend that follows scripts. -/
structure Rehearsal where
  jobs : Entries JobScript
  /-- The keys of the jobs that have been accepted, under their names. -/
  known : Entries String
  downloads : Entries (Except BackendError Bytes)
  /-- The calls, latest first. -/
  log : List Call := []

namespace Rehearsal

/-- The calls that a script answers. -/
inductive Ask where
  | submit (key : String)
  | poll (jobId : String)
  | fetch (jobId : String)
  | download (filename : String)

/-- What comes of a call. -/
def Answer : Ask → Type
  | .submit _ => Except BackendError String
  | .poll _ => Except BackendError BackendStatus
  | .fetch _ => Except BackendError ResultReference
  | .download _ => Except BackendError Bytes

def script (r : Rehearsal) (key : String) : JobScript := (r.jobs.get? key).getD {}

def note (r : Rehearsal) (now : Nat) (subject : String) (kind : CallKind) : Rehearsal :=
  { r with log := ⟨now, subject, kind⟩ :: r.log }

/-- How long a submit takes when nothing is said about it. -/
def submitDelay : Nat := Duration.ofMillis 5

/-- The next submit of a job. -/
def submit (r : Rehearsal) (now : Nat) (key : String) : Reply (Except BackendError String) Rehearsal :=
  let script := r.script key
  let (line, submits) := Line.next script.submits
  let delay := (line.map (·.delay)).getD submitDelay
  let logged := r.note now key .submit
  match line with
  | some ⟨_, .error e⟩ =>
    let jobs := Entries.insert key { script with submits } r.jobs
    ⟨.error e, Instant.afterWait now delay, { logged with jobs }⟩
  | _ =>
    let accepted := script.accepted + 1
    let jobId := "job-" ++ key ++ "-" ++ toString accepted
    let jobs := Entries.insert key { script with submits, accepted } r.jobs
    let known := Entries.insert jobId key r.known
    ⟨.ok jobId, Instant.afterWait now delay, { logged with jobs, known }⟩

/-- The calls in their order. -/
def calls (r : Rehearsal) : List Call := r.log.reverse.mergeSort Call.notAfter

def unknownJob (jobId : String) : BackendError := .protocol ("unknown job " ++ jobId)

/-- The next poll of a job. -/
def poll (r : Rehearsal) (now : Nat) (jobId : String) :
    Reply (Except BackendError BackendStatus) Rehearsal :=
  match r.known.get? jobId with
  | none => ⟨.error (unknownJob jobId), now, r⟩
  | some key =>
    let script := r.script key
    let (line, polls) := Line.next script.polls
    let jobs := Entries.insert key { script with polls } r.jobs
    let logged := { r.note now key .poll with jobs }
    match line with
    | some line => ⟨line.outcome, Instant.afterWait now line.delay, logged⟩
    | none => ⟨.ok .running, now, logged⟩

/-- The output of the job of a key. -/
def output (key : String) : ResultReference := ⟨"9", key ++ ".png", "", "output"⟩

/-- The next look-up of a job's output. -/
def fetch (r : Rehearsal) (now : Nat) (jobId : String) :
    Reply (Except BackendError ResultReference) Rehearsal :=
  match r.known.get? jobId with
  | none => ⟨.error (unknownJob jobId), now, r⟩
  | some key =>
    let script := r.script key
    let (line, fetches) := Line.next script.fetches
    let jobs := Entries.insert key { script with fetches } r.jobs
    let logged := { r.note now key .fetch with jobs }
    match line with
    | some line =>
      ⟨line.outcome.map fun _ => output key, Instant.afterWait now line.delay, logged⟩
    | none => ⟨.ok (output key), now, logged⟩

/-- A download. -/
def download (r : Rehearsal) (now : Nat) (filename : String) :
    Reply (Except BackendError Bytes) Rehearsal :=
  let outcome := (r.downloads.get? filename).getD (.error (.protocol ("no output for " ++ filename)))
  ⟨outcome, now, r.note now filename .download⟩

/-- Follows the scripts. -/
def service : Service Ask Answer Rehearsal where
  respond question _ now r :=
    match question with
    | .submit key => r.submit now key
    | .poll jobId => r.poll now jobId
    | .fetch jobId => r.fetch now jobId
    | .download filename => r.download now filename

/-- The backend whose calls go to the scripts. -/
def backend : Backend Ask Answer where
  submit job := Task.question (Ask.submit job.key)
  poll jobId := Task.question (Ask.poll jobId)
  fetchResult jobId := Task.question (Ask.fetch jobId)
  download reference := Task.question (Ask.download reference.filename)

end Rehearsal

/-! ### Single operations -/

/-- Attempts at one operation whose outcomes are written down, and the instants at which they began. -/
structure Trial (α : Type) where
  outcomes : List (Line (Except BackendError α))
  calls : List Nat := []

namespace Trial

/-- An attempt, or a pause between attempts. -/
inductive Ask where
  | attempt
  | pause (length : Nat)

/-- What comes of it. -/
def Answer (α : Type) : Ask → Type
  | .attempt => Except BackendError α
  | .pause _ => Unit

/-- Follows the outcomes; without any, every attempt finds the service unavailable. -/
def service (α : Type) : Service Ask (Answer α) (Trial α) where
  respond question _ now trial :=
    match question with
    | .attempt =>
      let (line, outcomes) := Line.next trial.outcomes
      let state := { outcomes, calls := now :: trial.calls }
      match line with
      | some line => ⟨line.outcome, Instant.afterWait now line.delay, state⟩
      | none => ⟨.error (.unavailable "no outcome"), now, state⟩
    | .pause length => ⟨(), Instant.afterWait now length, trial⟩

/-- The operation, tried as a policy says. -/
def task (α : Type) (operation : String) (policy : RetryPolicy) :
    Task Ask (Answer α) (Except BackendError α) :=
  let pause (length : Nat) : Task Ask (Answer α) Unit := Task.question (Ask.pause length)
  let attempt : Task Ask (Answer α) (Except BackendError α) := Task.question Ask.attempt
  Task.withRetry pause operation policy attempt

end Trial

end ImageBatch
