import ImageBatch.Backend.Basic
import ImageBatch.Batch.Store
import ImageBatch.Job.Summary
import ImageBatch.Job.Transition

/-!
The tracker's state during a run, and what each kind of event does to it.

A key of the batch is in one place at a time: it waits to be submitted, or one operation of the backend is
under way for it, or its job waits for its next poll, or nothing more happens to it. At most so many jobs
as the configuration allows are submitted, waiting or observed at once; the rest stay pending in the order of
the batch. After a cancellation nothing more is submitted, and every job under way gets one more outcome.

The functions here know nothing of how long operations take. They are told the instant and the moment at
which something happens.
-/

namespace ImageBatch.Tracker

/-- How a batch is run. -/
structure Config where
  /-- The most jobs with the service at once; none counts as one. -/
  concurrency : Nat := 2
  /-- The time from the end of one observation of a job to the next. -/
  pollInterval : Nat := Duration.ofSeconds 2
  /-- The time from a job's submission to its deadline. -/
  maxJobDuration : Nat := Duration.ofSeconds 300
  /-- Jobs at their end start again. -/
  forceRerun : Bool := false
deriving DecidableEq, Repr

/-- The most jobs with the service at once. -/
def Config.slots (config : Config) : Nat := max config.concurrency 1

/-- A template and the features of the jobs. -/
structure Batch where
  template : WorkflowTemplate
  features : List FeatureSet
deriving Repr

namespace Batch

/-- The keys of the jobs, each where it first comes up. -/
def keys (batch : Batch) : List String := (batch.features.map (·.key)).eraseDups

/-- The features of a key: the first of those that have it. -/
def features? (batch : Batch) (key : String) : Option FeatureSet :=
  batch.features.find? (·.key == key)

/-- The records of the batch's jobs. -/
def records (batch : Batch) (store : BatchStore) : List JobRecord :=
  store.records.filter fun record => batch.features.any (·.key == record.userId)

end Batch

/-- A job that the service has, between two polls or during one. -/
structure InFlight where
  key : String
  jobId : String
  nextPoll : Nat
  deadline : Nat
deriving DecidableEq, Repr

/-- When something has to be done about a job: its poll or its deadline, whichever comes first. -/
def InFlight.wakeAt (job : InFlight) : Nat := min job.nextPoll job.deadline

/-- An operation of the backend that is under way. -/
inductive Activity where
  | submitting (key : String) (warnings : List String) (job : ResolvedJob)
  | observing (job : InFlight)
deriving Repr

def Activity.key : Activity → String
  | .submitting key _ _ => key
  | .observing job => job.key

/-- What comes of an operation. -/
inductive Completion where
  | submitted (key : String) (warnings : List String) (result : Except BackendError String)
  | observed (job : InFlight) (event : JobEvent)

def Completion.key : Completion → String
  | .submitted key _ _ => key
  | .observed job _ => job.key

/-- Something that happens to a job in a run. -/
inductive Note where
  /-- An operation of the backend begins. -/
  | began (activity : Activity)
  /-- An operation is over, or the deadline of a waiting job has come. -/
  | concluded (completion : Completion)
  /-- The record took an event. -/
  | applied (key : String) (event : JobEvent)
  /-- There is no record, or it does not take the event. -/
  | refused (key : String) (event : JobEvent)

def Note.key : Note → String
  | .began activity => activity.key
  | .concluded completion => completion.key
  | .applied key _ | .refused key _ => key

/-- The state of a run. -/
structure Run where
  store : BatchStore
  /-- Keys that wait to be submitted, in the order of the batch. -/
  pending : List String
  /-- Jobs that wait for their next poll. -/
  waiting : List InFlight
  /-- Operations under way, in the order in which they began. -/
  active : List Activity
  /-- The keys of the operations under way. -/
  inOperation : List String
  /-- After a cancellation, the keys that still get an outcome. -/
  drain : Option (List String)
  /-- What has happened to the jobs and at which instant, latest first. -/
  journal : List (Nat × Note)

namespace Run

/-- How many slots are taken. -/
def occupied (run : Run) : Nat := run.waiting.length + run.active.length

/-- Enters something that happens now into the journal. -/
def note (run : Run) (now : Nat) (what : Note) : Run := { run with journal := (now, what) :: run.journal }

/-! ### Beginning -/

/-- A record starts again: it is at its end and a rerun is wanted, or the service's name for it was lost. -/
def needsReset (config : Config) (record : JobRecord) : Bool :=
  (record.status.isTerminal && config.forceRerun) ||
    (record.status.isHandedOver && record.jobId.isNone)

/-- A job that an earlier run handed over, with what is left of its time. -/
def adopt (config : Config) (now : Nat) (moment : Timestamp) (record : JobRecord) (jobId : String) :
    Except TimeError InFlight := do
  let remaining := match ← record.deadline config.maxJobDuration with
    | some deadline => deadline.remaining moment
    | none => 0
  return ⟨record.userId, jobId, now, now + remaining⟩

/-- Puts a key where its record says. -/
def place (config : Config) (now : Nat) (moment : Timestamp) (run : Run) (key : String) :
    Except TimeError Run :=
  match run.store.get? key with
  | none => .ok run
  | some found => do
    let reset := needsReset config found
    let record := if reset then found.reset else found
    let run := if reset then { run with store := run.store.put record } else run
    if record.status = .pending then return { run with pending := run.pending ++ [key] }
    else if record.status.isHandedOver then
      match record.jobId with
      | some jobId => return { run with waiting := run.waiting ++ [← adopt config now moment record jobId] }
      | none => return run
    else return run

/-- The state before the first event: every key of the batch has a record and a place. -/
def start (config : Config) (batch : Batch) (now : Nat) (moment : Timestamp) (store : BatchStore) :
    Except TimeError Run :=
  batch.keys.foldlM (place config now moment) ⟨(store.enroll batch.keys).1, [], [], [], [], none, []⟩

/-! ### Records -/

/-- Applies an event to the record of a key, and says whether the job is in flight after it. -/
def apply (now : Nat) (moment : Timestamp) (run : Run) (key : String) (event : JobEvent) : Run × Bool :=
  match run.store.get? key with
  | none => (run.note now (.refused key event), false)
  | some record =>
    match record.transition event moment with
    | .error _ => (run.note now (.refused key event), false)
    | .ok next => ({ run.note now (.applied key event) with store := run.store.put next }, next.isInFlight)

/-! ### Submitting -/

/-- The warnings that a submitted job keeps: notes on its features, then numbers that were moved. -/
def warnings (features : FeatureSet) (job : ResolvedJob) : List String :=
  features.notes ++ job.warnings.map (·.message)

/-- An operation of the backend begins. -/
def begin (now : Nat) (run : Run) (activity : Activity) : Run :=
  { run.note now (.began activity) with
    active := run.active ++ [activity]
    inOperation := run.inOperation ++ [activity.key] }

/-- Takes pending keys while there are free slots, or until a cancellation is noticed, which happens after
`left` more keys if it does. A job that cannot be built fails on the spot. The result has the operations that
begin and whether any key was taken. -/
def fillFrom (config : Config) (batch : Batch) (now : Nat) (moment : Timestamp) (left : Option Nat)
    (run : Run) (launched : List Activity) (taken : Bool) :
    (pending : List String) → Run × List Activity × Bool
  | [] => ({ run with pending := [] }, launched, taken)
  | key :: rest =>
    if left = some 0 ∨ config.slots ≤ run.occupied then
      ({ run with pending := key :: rest }, launched, taken)
    else
      let left := left.map (· - 1)
      match batch.features? key with
      | none => fillFrom config batch now moment left run launched taken rest
      | some features =>
        match batch.template.resolve features with
        | .error e =>
          let failed := (run.apply now moment key (.constructionFailed e.message)).1
          fillFrom config batch now moment left failed launched true rest
        | .ok job =>
          let activity := Activity.submitting key (warnings features job) job
          fillFrom config batch now moment left (run.begin now activity) (launched ++ [activity]) true rest

def fill (config : Config) (batch : Batch) (now : Nat) (moment : Timestamp) (left : Option Nat) (run : Run) :
    Run × List Activity × Bool :=
  fillFrom config batch now moment left run [] false run.pending

/-! ### Cancelling -/

/-- Notes a cancellation: all jobs under way get one more outcome. -/
def noteCancelled (run : Run) : Run :=
  match run.drain with
  | some _ => run
  | none => { run with drain := some ((run.waiting.map (·.key) ++ run.inOperation).eraseDups) }

/-- Nothing is left to wait for. -/
def isOver (run : Run) : Bool :=
  run.drain == some [] || (run.waiting.isEmpty && run.active.isEmpty)

/-! ### Waking -/

/-- The instant at which the first waiting job needs something. -/
def wakeAt? (run : Run) : Option Nat := (run.waiting.map (·.wakeAt)).min?

/-- Takes the jobs that need something: those past their deadline are at their end, all others are
observed. -/
def wake (now : Nat) (run : Run) : Run × List Activity × List Completion :=
  let (due, rest) := run.waiting.partition fun job => job.wakeAt ≤ now
  let (expired, polled) := due.partition fun job => job.deadline ≤ now
  let activities := polled.map Activity.observing
  (activities.foldl (begin now) { run with waiting := rest }, activities,
    expired.map fun job => .observed job .deadlineExceeded)

/-! ### Concluding -/

/-- What a failed submit means for the job. -/
def submitFailure : BackendError → SubmitFailure
  | .rejected message => .rejected message
  | .unavailable message => .exhausted (BackendError.unavailable message).message
  | .retriesExhausted operation attempts last =>
    .exhausted (BackendError.retriesExhausted operation attempts last).message
  | e => .other e.message

/-- Records what came of an operation. The job, if it is still in flight, waits for its next poll. -/
def settle (config : Config) (now : Nat) (moment : Timestamp) (run : Run) :
    Completion → Run × Option InFlight
  | .submitted key warnings (.ok jobId) =>
    let (run, inFlight) := run.apply now moment key (.submitted jobId warnings)
    (run,
      if inFlight then some ⟨key, jobId, now + config.pollInterval, now + config.maxJobDuration⟩ else none)
  | .submitted key _ (.error e) => ((run.apply now moment key (.submitFailed (submitFailure e))).1, none)
  | .observed job event =>
    let (run, inFlight) := run.apply now moment job.key event
    (run, if inFlight then some { job with nextPoll := now + config.pollInterval } else none)

/-- The operation of a key is no longer under way. -/
def release (run : Run) (key : String) : Run :=
  { run with
    active := run.active.filter (·.key != key)
    inOperation := run.inOperation.filter (· != key) }

/-- A key still gets an outcome after a cancellation. -/
def isDraining (run : Run) (key : String) : Bool :=
  match run.drain with
  | some keys => keys.contains key
  | none => false

/-- A key has got its outcome after a cancellation. -/
def drained (run : Run) (key : String) : Run :=
  { run with drain := run.drain.map fun keys => keys.filter (· != key) }

/-- Takes in one completion. -/
def conclude (config : Config) (now : Nat) (moment : Timestamp) (run : Run) (completion : Completion) :
    Run :=
  let key := completion.key
  let noted := run.note now (.concluded completion)
  let (settled, job) := ((noted.release key).drained key).settle config now moment completion
  match job with
  | some job =>
    if run.isDraining key then settled else { settled with waiting := settled.waiting ++ [job] }
  | none => settled

/-- The clock can name the instants that a completion sets. -/
def canConclude (config : Config) (now : Nat) (moment : Timestamp) (run : Run) (completion : Completion) :
    Bool :=
  match (run.settle config now moment completion).2 with
  | some job => job.nextPoll < Instant.limit && job.deadline < Instant.limit
  | none => true

/-- Takes in completions in turn. -/
def concludeAll (config : Config) (now : Nat) (moment : Timestamp) (run : Run) :
    List Completion → Except TimeError Run
  | [] => .ok run
  | completion :: rest =>
    if run.canConclude config now moment completion then
      concludeAll config now moment (run.conclude config now moment completion) rest
    else .error .overflow

end Run

end ImageBatch.Tracker
