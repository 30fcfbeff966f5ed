import ImageBatch.Tracker.Run

/-!
Runs in time: the tracker together with a backend, a clock and the files.

Time moves only while everything waits, and to the nearest event: an answer that an operation waits for, the
end of the time that an observation may take, the next wake-up, or the cancellation. Timers tick in whole
milliseconds. An observation that ends exactly at its deadline counts. The store is saved after every change.

In which order the events of one instant are taken in is open, and so is how soon a cancellation is noticed
that has come while a round submits jobs. A run that is not punctual may also wake later than at the nearest
event. A `Choice` settles all this for a round. `Setting.Reaches` and `Setting.Finishes` say where a run may get
to by any choices; `Setting.run` follows one of them.
-/

namespace ImageBatch.Tracker

variable {Ask : Type} {Answer : Ask → Type} {σ : Type}

/-- One observation of a job: a poll and, if the job is done, the name of its output. -/
def observation (backend : Backend Ask Answer) (jobId : String) : Task Ask Answer PollResult := do
  match ← backend.poll jobId with
  | .ok .queued => return .queued
  | .ok .running => return .running
  | .ok (.error message) => return .error message
  | .ok .done =>
    match ← backend.fetchResult jobId with
    | .ok reference => return .done reference
    | .error e => return .doneUnreadable e.message
  | .error (.retriesExhausted operation attempts last) =>
    return .unreachable (BackendError.retriesExhausted operation attempts last).message
  | .error e =>
    if e.isTransient then return .unreachable e.message
    else return .error ("poll failed: " ++ e.message)

/-- An operation under way: what is left of it, when it goes on, and, if its time is limited, when it is
broken off and what comes of it then. -/
structure Operation (Ask : Type) (Answer : Ask → Type) where
  key : String
  task : Task Ask Answer Completion
  resumeAt : Nat
  limit : Option (Nat × Completion)

namespace Operation

/-- An operation that begins now. -/
def start (backend : Backend Ask Answer) (now : Nat) : Activity → Operation Ask Answer
  | .submitting key warnings job =>
    ⟨key, do return .submitted key warnings (← backend.submit job), now, none⟩
  | .observing job =>
    ⟨job.key, do return .observed job (.polled (← observation backend job.jobId)), now,
      some (Instant.nextTick job.deadline, .observed job .deadlineExceeded)⟩

/-- When something happens to the operation. -/
def eventAt (operation : Operation Ask Answer) : Nat :=
  match operation.limit with
  | some (limit, _) => min operation.resumeAt limit
  | none => operation.resumeAt

/-- Takes the operation one question further, or to its end. -/
def advance (service : Service Ask Answer σ) (operation : Operation Ask Answer) (world : World σ) :
    (Operation Ask Answer ⊕ Completion) × World σ :=
  if operation.resumeAt ≤ world.now then
    match operation.task with
    | .done completion => (.inr completion, world)
    | .ask question next =>
      let reply := service.respond question world.disk world.now world.state
      (.inl { operation with task := next reply.answer, resumeAt := reply.comesAt },
        { world with state := reply.state })
  else
    match operation.limit with
    | some (_, completion) => (.inr completion, world)
    | none => (.inl operation, world)

end Operation

/-- What a run is about: how it is run, with whom and on what. -/
structure Setting (Ask : Type) (Answer : Ask → Type) (σ : Type) where
  config : Config
  batch : Batch
  backend : Backend Ask Answer
  service : Service Ask Answer σ
  clock : Clock
  /-- When the run is cancelled, if it is. -/
  cancelAt : Option Nat
  /-- The run wakes at the instant at which the nearest event happens, never later. -/
  punctual : Bool := true

/-- What the instants leave open in a round. -/
structure Choice where
  /-- After how many submits of the round a cancellation is noticed that has come; otherwise it is noticed at
  the earliest while the round waits. -/
  notice : Option Nat := some 0
  /-- Which of the events of the next instant is taken in, counted from the first and around. -/
  turn : Nat := 0
  /-- How long after the nearest event the run wakes, unless it is punctual. -/
  late : Nat := 0

/-- A run at one instant. -/
structure Situation (Ask : Type) (Answer : Ask → Type) (σ : Type) where
  run : Run
  operations : List (Operation Ask Answer)
  cancelled : Bool
  world : World σ

/-- Why a run has no summary. -/
inductive Fault where
  | batch (cause : BatchError)
  /-- A deadline lies past the end of the calendar or of the clock. -/
  | overflow
  /-- The run was not followed to its end. -/
  | unfinished
deriving Repr

/-- What comes of one step of a run. -/
inductive Verdict (Ask : Type) (Answer : Ask → Type) (σ : Type) where
  | goesOn (situation : Situation Ask Answer σ)
  | over (situation : Situation Ask Answer σ)
  | failed (fault : Fault) (situation : Situation Ask Answer σ)

/-- An event that a run can take in. -/
inductive Turn (Ask : Type) (Answer : Ask → Type) where
  | cancellation
  /-- Something happens to an operation; the others are beside it. -/
  | operation (operation : Operation Ask Answer) (others : List (Operation Ask Answer))
  | waking

namespace Situation

variable (setting : Setting Ask Answer σ)

/-- The moment of the situation's instant. -/
def moment (s : Situation Ask Answer σ) : Timestamp := setting.clock.at s.world.now

/-- Lets operations begin. -/
def launch (s : Situation Ask Answer σ) (activities : List Activity) : Situation Ask Answer σ :=
  { s with operations := s.operations ++ activities.map (Operation.start setting.backend s.world.now) }

/-- Saves the store. -/
def save (s : Situation Ask Answer σ) : Verdict Ask Answer σ :=
  let (result, disk) := s.run.store.save s.world.disk
  let saved := { s with world := { s.world with disk } }
  match result with
  | .ok () => .goesOn saved
  | .error e => .failed (.batch e) saved

/-- Takes in completions and saves the store. -/
def conclude (s : Situation Ask Answer σ) (completions : List Completion) : Verdict Ask Answer σ :=
  match s.run.concludeAll setting.config s.world.now (s.moment setting) completions with
  | .ok run => save { s with run }
  | .error _ => .failed .overflow s

/-- Lets time pass up to an instant. -/
def waitUntil (s : Situation Ask Answer σ) (t : Nat) : Situation Ask Answer σ :=
  { s with world := { s.world with now := max s.world.now t } }

/-- When the run is cancelled, unless it has been. -/
def cancelAt? (s : Situation Ask Answer σ) : Option Nat := if s.cancelled then none else setting.cancelAt

/-- The cancellation has come and is not noticed yet. -/
def cancellationDue (s : Situation Ask Answer σ) : Bool := (s.cancelAt? setting).any (· ≤ s.world.now)

/-- When the first waiting job is woken. -/
def alarm? (s : Situation Ask Answer σ) : Option Nat := s.run.wakeAt?.map Instant.nextTick

/-- The nearest instant at which something happens. -/
def nextEvent? (s : Situation Ask Answer σ) : Option Nat :=
  ((s.cancelAt? setting).toList ++ s.operations.map (·.eventAt) ++ s.alarm?.toList).min?

/-- The operations to which something happens by now, each with the others. -/
def dueOperations (now : Nat) :
    List (Operation Ask Answer) → List (Operation Ask Answer × List (Operation Ask Answer))
  | [] => []
  | operation :: rest =>
    let later := (dueOperations now rest).map fun (due, others) => (due, operation :: others)
    if operation.eventAt ≤ now then (operation, rest) :: later else later

/-- All that happens by now. -/
def turns (s : Situation Ask Answer σ) : List (Turn Ask Answer) :=
  (if s.cancellationDue setting then [.cancellation] else []) ++
    (dueOperations s.world.now s.operations).map (fun (operation, others) => .operation operation others) ++
    (if s.alarm?.any (· ≤ s.world.now) then [.waking] else [])

/-- Wakes the jobs that need something. -/
def wake (s : Situation Ask Answer σ) : Verdict Ask Answer σ :=
  let (run, launched, expired) := s.run.wake s.world.now
  let woken := launch setting { s with run } launched
  if expired.isEmpty then .goesOn woken else woken.conclude setting expired

/-- Takes in one event. -/
def take (s : Situation Ask Answer σ) : Turn Ask Answer → Verdict Ask Answer σ
  | .cancellation => .goesOn { s with cancelled := true }
  | .operation operation others =>
    match operation.advance setting.service s.world with
    | (.inl operation, world) => .goesOn { s with operations := operation :: others, world }
    | (.inr completion, world) => conclude setting { s with operations := others, world } [completion]
  | .waking => s.wake setting

/-- Waits for the next event and takes in one of those that have happened then. -/
def await (choice : Choice) (s : Situation Ask Answer σ) : Verdict Ask Answer σ :=
  match s.nextEvent? setting with
  | none => .over s
  | some t =>
    let s := s.waitUntil (if setting.punctual then t else t + choice.late)
    let turns := s.turns setting
    match turns[choice.turn % turns.length]? with
    | some turn => s.take setting turn
    | none => .goesOn s

/-- Submits what can be submitted. -/
def fill (choice : Choice) (s : Situation Ask Answer σ) : Verdict Ask Answer σ :=
  let notice := if s.cancelled then some 0 else if s.cancellationDue setting then choice.notice else none
  let (run, launched, taken) :=
    s.run.fill setting.config setting.batch s.world.now (s.moment setting) notice
  let filled := launch setting { s with run, cancelled := notice.isSome } launched
  if taken then filled.save else .goesOn filled

/-- One round: submit what can be submitted, note a cancellation, see whether all is done, and wait. -/
def round (choice : Choice) (s : Situation Ask Answer σ) : Verdict Ask Answer σ :=
  match s.fill setting choice with
  | .goesOn s =>
    let s := if s.cancelled then { s with run := s.run.noteCancelled } else s
    if s.run.isOver then .over s else s.await setting choice
  | verdict => verdict

/-- The summary of the batch. -/
def summary (s : Situation Ask Answer σ) : BatchSummary :=
  BatchSummary.ofRecords (setting.batch.records s.run.store)

/-- Follows a run for so many rounds, each with the choice that takes in first what comes first in `turns`. -/
def follow : (rounds : Nat) → Situation Ask Answer σ →
    Except Fault BatchSummary × Situation Ask Answer σ
  | 0, s => (.error .unfinished, s)
  | rounds + 1, s =>
    match s.round setting {} with
    | .goesOn s => follow rounds s
    | .over s => (.ok (s.summary setting), s)
    | .failed fault s => (.error fault, s)

end Situation

/-- The result of a run, the store as it was left, and the world after it. -/
structure Ending (σ : Type) where
  result : Except Fault BatchSummary
  store : BatchStore
  world : World σ

namespace Setting

/-- The situation before the first round. -/
def opening (setting : Setting Ask Answer σ) (store : BatchStore) (world : World σ) :
    Except TimeError (Situation Ask Answer σ) := do
  let run ← Run.start setting.config setting.batch world.now (setting.clock.at world.now) store
  return ⟨run, [], false, world⟩

/-- Runs a batch, for at most so many rounds. -/
def run (setting : Setting Ask Answer σ) (rounds : Nat) (store : BatchStore) (world : World σ) :
    Ending σ :=
  match setting.opening store world with
  | .error _ => ⟨.error .overflow, store, world⟩
  | .ok opening =>
    match opening.save with
    | .goesOn s =>
      let (result, s) := s.follow setting rounds
      ⟨result, s.run.store, s.world⟩
    | .failed fault s => ⟨.error fault, s.run.store, s.world⟩
    | .over s => ⟨.error .unfinished, s.run.store, s.world⟩

/-- The situations before a round that a run may get to. -/
inductive Reaches (setting : Setting Ask Answer σ) (store : BatchStore) (world : World σ) :
    Situation Ask Answer σ → Prop where
  | opening {opening s} : setting.opening store world = .ok opening → opening.save = .goesOn s →
      Reaches setting store world s
  | round {s next} (choice : Choice) : Reaches setting store world s →
      s.round setting choice = .goesOn next → Reaches setting store world next

/-- The situations in which a run may end well. -/
def Finishes (setting : Setting Ask Answer σ) (store : BatchStore) (world : World σ)
    (last : Situation Ask Answer σ) : Prop :=
  ∃ s choice, setting.Reaches store world s ∧ s.round setting choice = .over last

end Setting

end ImageBatch.Tracker
