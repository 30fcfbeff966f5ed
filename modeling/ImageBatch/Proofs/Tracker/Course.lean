import ImageBatch.Proofs.Backend.Exchanges
import ImageBatch.Proofs.Tracker.Separation
import ImageBatch.Proofs.Tracker.Ticks

/-!
The course of one job.

Over a backend that treats every job on its own, what happens to a job and when is settled as soon as it is
known when the job is submitted: `course` runs through its `Stage`s, each at its instant. Every uncancelled run
that ticks in whole milliseconds takes each of its jobs along its course (`Move.follows`, `Setting.Calm.becomes`),
whatever other jobs there are and in whatever order the events of an instant are taken in.
-/

namespace ImageBatch.Tracker

variable {Ask : Type} {Answer : Ask → Type} {σ π : Type} {backend : Backend Ask Answer}
  {service : Service Ask Answer σ} {setting : Setting Ask Answer σ}

open Instant

/-- Where a job is, with what is left of its operation. -/
inductive Stage (Ask : Type) (Answer : Ask → Type) where
  | pending
  | submitting (warnings : List String) (job : ResolvedJob) (rest : Task Ask Answer (Except BackendError String))
      (resumeAt : Nat)
  | waiting (job : InFlight)
  | observing (job : InFlight) (rest : Task Ask Answer PollResult) (resumeAt : Nat)
  | gone

namespace Stage

/-- The place of a stage. -/
def place (key : String) : Stage Ask Answer → Place Ask Answer
  | .pending => .pending
  | .submitting warnings job rest resumeAt =>
      .submitting warnings job
        ⟨key, rest.bind fun result => .done (.submitted key warnings result), resumeAt, none⟩
  | .waiting job => .waiting job
  | .observing job rest resumeAt =>
      .observing job ⟨job.key, rest.bind fun result => .done (.observed job (.polled result)), resumeAt,
        some (nextTick job.deadline, .observed job .deadlineExceeded)⟩
  | .gone => .gone

variable {key : String} {stage : Stage Ask Answer} {operation : Operation Ask Answer}

theorem eq_pending (at_ : stage.place key = .pending) : stage = .pending := by
  cases stage <;> cases at_
  rfl

theorem eq_gone (at_ : stage.place key = .gone) : stage = .gone := by
  cases stage <;> cases at_
  rfl

theorem eq_submitting {warnings : List String} {job : ResolvedJob}
    (at_ : stage.place key = .submitting warnings job operation) :
    ∃ rest resumeAt, stage = .submitting warnings job rest resumeAt ∧
      operation = ⟨key, rest.bind fun result => .done (.submitted key warnings result), resumeAt, none⟩ := by
  cases stage <;> cases at_
  exact ⟨_, _, rfl, rfl⟩

theorem eq_observing {job : InFlight} (at_ : stage.place key = .observing job operation) :
    ∃ rest resumeAt, stage = .observing job rest resumeAt ∧
      operation = ⟨job.key, rest.bind fun result => .done (.observed job (.polled result)), resumeAt,
        some (nextTick job.deadline, .observed job .deadlineExceeded)⟩ := by
  cases stage <;> cases at_
  exact ⟨_, _, rfl, rfl⟩

/-- When something happens in the stage, unless it waits for a free slot or is the last one. -/
def event? : Stage Ask Answer → Option Nat
  | .pending | .gone => none
  | .submitting _ _ _ resumeAt => some resumeAt
  | .waiting job => some (nextTick job.wakeAt)
  | .observing job _ resumeAt => some (min resumeAt (nextTick job.deadline))

/-- The clock can name the instants of a job that waits. -/
def Nameable : Stage Ask Answer → Prop
  | .waiting job => job.nextPoll < Instant.limit ∧ job.deadline < Instant.limit
  | _ => True

end Stage

/-- A job with its record and with what the service keeps for it. -/
structure Life (Ask : Type) (Answer : Ask → Type) (π : Type) where
  stage : Stage Ask Answer
  record : JobRecord
  part : π

/-- What the course of a job hangs on besides the backend. -/
structure Terms where
  clock : Clock
  pollInterval : Nat
  maxJobDuration : Nat
  /-- The job with its warnings, or why it cannot be built. -/
  built : Except String (List String × ResolvedJob)

/-- The terms on which a run takes a key. -/
def Setting.terms (setting : Setting Ask Answer σ) (key : String) : Terms where
  clock := setting.clock
  pollInterval := setting.config.pollInterval
  maxJobDuration := setting.config.maxJobDuration
  built :=
    match setting.batch.features? key with
    | none => .error ""
    | some features =>
      match setting.batch.template.resolve features with
      | .ok job => .ok (Run.warnings features job, job)
      | .error e => .error e.message

/-- The end of a job whose deadline has come. -/
def Life.expire (terms : Terms) (now : Nat) (life : Life Ask Answer π) : Life Ask Answer π :=
  { life with
    stage := .gone
    record := life.record.terminate .timedOut .deadline life.record.deadlineMessage (terms.clock.at now) }

/-- What happens next to a job, if it happens now. -/
def Life.next (separation : Separation backend service π) (terms : Terms) (key : String) (now : Nat)
    (life : Life Ask Answer π) : Life Ask Answer π :=
  match life.stage with
  | .pending =>
    match terms.built with
    | .error message =>
      { life with
        stage := .gone
        record := life.record.terminate .failed .construction message (terms.clock.at now) }
    | .ok (warnings, job) => { life with stage := .submitting warnings job (backend.submit job) now }
  | .submitting warnings job (.ask question rest) _ =>
    { life with
      stage := .submitting warnings job (rest (separation.answer question life.part))
        (now + separation.latency question life.part)
      part := separation.after question life.part }
  | .submitting warnings _ (.done (.ok jobId)) _ =>
    { life with
      stage := .waiting ⟨key, jobId, now + terms.pollInterval, now + terms.maxJobDuration⟩
      record := life.record.submit jobId warnings (terms.clock.at now) }
  | .submitting _ _ (.done (.error e)) _ =>
    { life with
      stage := .gone
      record := life.record.failSubmit (Run.submitFailure e) (terms.clock.at now) }
  | .waiting job =>
    if job.deadline ≤ now then life.expire terms now
    else { life with stage := .observing job (observation backend job.jobId) now }
  | .observing job rest resumeAt =>
    if now < resumeAt then life.expire terms now
    else
      match rest with
      | .ask question rest =>
        { life with
          stage := .observing job (rest (separation.answer question life.part))
            (now + separation.latency question life.part)
          part := separation.after question life.part }
      | .done result =>
        { life with
          stage := if result.isOpen then .waiting { job with nextPoll := now + terms.pollInterval } else .gone
          record := life.record.observe result (terms.clock.at now) }
  | .gone => life

/-- The instants and stages of a job that is submitted, or adopted, at `start`: each thing happens when it
is due. -/
def course (separation : Separation backend service π) (terms : Terms) (key : String) (start : Nat)
    (life : Life Ask Answer π) : Nat → Nat × Life Ask Answer π
  | 0 => (start, life)
  | n + 1 =>
    let (now, life) := course separation terms key start life n
    let t := life.stage.event?.getD now
    (t, life.next separation terms key t)

/-- The view and the world say of the job what its life is. -/
structure View.Lives (separation : Separation backend service π) (key : String) (world : World σ)
    (view : View Ask Answer) (life : Life Ask Answer π) : Prop where
  place : view.place = life.stage.place key
  record : view.record = life.record
  part : separation.part world.state key = life.part
  unmarked : view.owed = none

variable {separation : Separation setting.backend setting.service π} {key : String} {world world' : World σ}
  {view view' : View Ask Answer} {life : Life Ask Answer π}

/-- What has just happened to the job was due and is what its course has next. -/
structure View.Follows (separation : Separation backend service π) (terms : Terms) (key : String) (now : Nat)
    (life : Life Ask Answer π) (world : World σ) (view : View Ask Answer) : Prop where
  going : life.stage ≠ .gone
  due : life.stage.event?.getD now = now
  lives : view.Lives separation key world (life.next separation terms key now)
  early : ∀ t ∈ (life.next separation terms key now).stage.event?, now ≤ t
  nameable : (life.next separation terms key now).stage.Nameable

theorem View.Follows.of_next {service : Service Ask Answer σ} {separation : Separation backend service π}
    {terms : Terms} {now : Nat} {after : Life Ask Answer π} (next : life.next separation terms key now = after)
    (going : life.stage ≠ .gone) (due : life.stage.event?.getD now = now)
    (lives : view.Lives separation key world after) (early : ∀ t ∈ after.stage.event?, now ≤ t)
    (nameable : after.stage.Nameable) : view.Follows separation terms key now life world := by
  subst next
  exact ⟨going, due, lives, early, nameable⟩

/-- A question about the key gets the answer, the time and the new part that its course has. -/
theorem Separation.replies {part : π} {question : Ask} (about : separation.about question key)
    (parts : separation.part world.state key = part) :
    (setting.service.respond question world.disk world.now world.state).answer =
        separation.answer question part ∧
      (setting.service.respond question world.disk world.now world.state).comesAt =
        world.now + separation.latency question part ∧
      separation.part (setting.service.respond question world.disk world.now world.state).state key =
        separation.after question part := by
  subst parts
  refine ⟨separation.answers _ _ _ _ _ about, separation.times _ _ _ _ _ about, ?_⟩
  rw [separation.parts _ _ _ _ _ about, if_pos rfl]

namespace Stage

/-- Nothing happens any more to a job that is gone. -/
theorem le_event_gone {now : Nat} : ∀ t ∈ (Stage.gone : Stage Ask Answer).event?, now ≤ t := nofun

/-- An operation that has its answer at `resumeAt` goes on then. -/
theorem le_event_submitting {warnings : List String} {job : ResolvedJob}
    {rest : Task Ask Answer (Except BackendError String)} {now resumeAt : Nat} (later : now ≤ resumeAt) :
    ∀ t ∈ (Stage.submitting warnings job rest resumeAt).event?, now ≤ t := by
  rintro _ ⟨⟩
  exact later

/-- A job that rests is not due before now. -/
theorem le_event_waiting {job : InFlight} {now : Nat} (poll : now ≤ job.nextPoll)
    (deadline : now ≤ nextTick job.deadline) :
    ∀ t ∈ (Stage.waiting job : Stage Ask Answer).event?, now ≤ t := by
  simp only [Stage.event?, Option.mem_some, forall_eq', InFlight.wakeAt, Nat.min_def]
  split
  · exact Nat.le_trans poll (le_nextTick _)
  · exact deadline

theorem le_event_observing {job : InFlight} {rest : Task Ask Answer PollResult} {now resumeAt : Nat}
    (later : now ≤ resumeAt) (deadline : now ≤ nextTick job.deadline) :
    ∀ t ∈ (Stage.observing job rest resumeAt).event?, now ≤ t := by
  rintro _ ⟨⟩
  exact Nat.le_min.mpr ⟨later, deadline⟩

end Stage

section Follows

variable {record : JobRecord} {part : π} {resumeAt : Nat}

/-- What happens to a job that cannot be built. -/
theorem Life.next_pending_error {service : Service Ask Answer σ} {separation : Separation backend service π}
    {terms : Terms} {now : Nat} {message : String} (built : terms.built = .error message) :
    Life.next separation terms key now ⟨.pending, record, part⟩ =
      ⟨.gone, record.terminate .failed .construction message (terms.clock.at now), part⟩ := by
  simp only [Life.next, built]

/-- A job that can be built is submitted at once. -/
theorem Life.next_pending_ok {service : Service Ask Answer σ} {separation : Separation backend service π}
    {terms : Terms} {now : Nat} {warnings : List String} {job : ResolvedJob}
    (built : terms.built = .ok (warnings, job)) :
    Life.next separation terms key now ⟨.pending, record, part⟩ =
      ⟨.submitting warnings job (backend.submit job) now, record, part⟩ := by
  simp only [Life.next, built]

/-- A job whose observation has come in by its deadline rests if it goes on. -/
theorem Life.next_observing_done {service : Service Ask Answer σ} {separation : Separation backend service π}
    {terms : Terms} {now : Nat} {job : InFlight} {result : PollResult} (resumed : resumeAt ≤ now) :
    Life.next separation terms key now ⟨.observing job (.done result) resumeAt, record, part⟩ =
      ⟨if result.isOpen then .waiting { job with nextPoll := now + terms.pollInterval } else .gone,
        record.observe result (terms.clock.at now), part⟩ :=
  if_neg (Nat.not_lt.mpr resumed)

theorem Move.follows_pending (lives : view.Lives separation key world ⟨.pending, record, part⟩)
    (move : Move setting key world world' view view') :
    view'.Follows separation (setting.terms key) key world.now ⟨.pending, record, part⟩ world' := by
  obtain ⟨place, same, parts, -⟩ := lives
  cases move with
  | @fails _ _ features e known unresolved =>
      subst same
      have built : (setting.terms key).built = .error e.message := by simp [Setting.terms, known, unresolved]
      exact .of_next (Life.next_pending_error built) nofun rfl ⟨rfl, rfl, parts, rfl⟩ Stage.le_event_gone trivial
  | @submits _ _ features job activity known resolved begins =>
      subst same begins
      have built : (setting.terms key).built = .ok (Run.warnings features job, job) := by
        simp [Setting.terms, known, resolved]
      exact .of_next (Life.next_pending_ok built) nofun rfl ⟨rfl, rfl, parts, rfl⟩
        (Stage.le_event_submitting (Nat.le_refl _)) trivial
  | _ => cases place

theorem Move.follows_submitting {warnings : List String} {job : ResolvedJob}
    {rest : Task Ask Answer (Except BackendError String)}
    (lives : view.Lives separation key world ⟨.submitting warnings job rest resumeAt, record, part⟩)
    (separate : ∀ operation ∈ view.place.operations, operation.key = key ∧ operation.Separate separation)
    (early : world.now ≤ resumeAt) (move : Move setting key world world' view view') :
    view'.Follows separation (setting.terms key) key world.now ⟨.submitting warnings job rest resumeAt, record, part⟩
      world' := by
  obtain ⟨place, same, parts, unmarked⟩ := lives
  cases move with
  | @asksSubmitting _ _ operation _ owed notes question next reply due asks replied =>
      cases place
      subst same replied
      have talks := (separate _ (List.mem_singleton_self _)).2.talks
      obtain ⟨rest, rfl, rfl⟩ := Task.bind_eq_ask asks (fun _ => nofun)
      obtain ⟨answer, time, after⟩ := Separation.replies talks.1 parts
      refine .of_next rfl nofun (Nat.le_antisymm due early) ⟨?_, rfl, after, unmarked⟩
        (Stage.le_event_submitting (Nat.le_add_right ..)) trivial
      simp only [Life.next, Stage.place, answer, time]
  | @accepted _ _ operation _ owed notes jobId due ends nameable =>
      cases place
      subst same
      obtain rfl : owed = none := unmarked
      obtain ⟨result, rfl, same⟩ := ends.of_submitting rfl rfl
      cases same
      refine .of_next rfl nofun (Nat.le_antisymm due early) ⟨rfl, rfl, parts, rfl⟩
        (Stage.le_event_waiting (Nat.le_add_right ..) ?_) nameable
      exact Nat.le_trans (Nat.le_add_right ..) (le_nextTick _)
  | @declined _ _ operation _ owed notes e due ends =>
      cases place
      subst same
      obtain rfl : owed = none := unmarked
      obtain ⟨result, rfl, same⟩ := ends.of_submitting rfl rfl
      cases same
      exact .of_next rfl nofun (Nat.le_antisymm due early) ⟨rfl, rfl, parts, rfl⟩ Stage.le_event_gone trivial
  | _ => cases place

theorem Move.follows_waiting {job : InFlight} (lives : view.Lives separation key world ⟨.waiting job, record, part⟩)
    (whole : IsWhole world.now) (early : world.now ≤ nextTick job.wakeAt)
    (move : Move setting key world world' view view') :
    view'.Follows separation (setting.terms key) key world.now ⟨.waiting job, record, part⟩ world' := by
  obtain ⟨place, same, parts, unmarked⟩ := lives
  -- Whole milliseconds are needed here only: the timer of a waiting job goes off at the next tick.
  have due (wakes : job.wakeAt ≤ world.now) :
      (Stage.waiting job : Stage Ask Answer).event?.getD world.now = world.now := by
    have ticks := nextTick_mono wakes
    rw [whole.nextTick_eq] at ticks
    simp only [Stage.event?, Option.getD_some, Nat.le_antisymm ticks early]
  cases move with
  | @polls _ _ owed notes wakes running =>
      cases place
      subst same
      exact .of_next (if_neg (Nat.not_le.mpr running)) nofun (due wakes) ⟨rfl, rfl, parts, unmarked⟩
        (Stage.le_event_observing (Nat.le_refl _) (Nat.le_trans (Nat.le_of_lt running) (le_nextTick _))) trivial
  | @expires _ _ owed notes past =>
      cases place
      subst same
      obtain rfl : owed = none := unmarked
      exact .of_next (if_pos past) nofun (due (Nat.le_trans job.wakeAt_le_deadline past)) ⟨rfl, rfl, parts, rfl⟩
        Stage.le_event_gone trivial
  | _ => cases place

theorem Move.follows_observing {job : InFlight} {rest : Task Ask Answer PollResult}
    (lives : view.Lives separation key world ⟨.observing job rest resumeAt, record, part⟩)
    (separate : ∀ operation ∈ view.place.operations, operation.key = key ∧ operation.Separate separation)
    (early : world.now ≤ min resumeAt (nextTick job.deadline)) (move : Move setting key world world' view view') :
    view'.Follows separation (setting.terms key) key world.now ⟨.observing job rest resumeAt, record, part⟩ world' := by
  obtain ⟨place, same, parts, unmarked⟩ := lives
  have running : world.now ≤ nextTick job.deadline := Nat.le_trans early (Nat.min_le_right ..)
  cases move with
  | @asksObserving _ operation _ owed notes question next reply due asks replied =>
      cases place
      subst same replied
      obtain ⟨own, separates⟩ := separate _ (List.mem_singleton_self _)
      obtain ⟨rest, rfl, rfl⟩ := Task.bind_eq_ask asks (fun _ => nofun)
      obtain ⟨answer, time, after⟩ := Separation.replies (own ▸ separates.talks.1) parts
      refine .of_next (if_neg (Nat.not_lt.mpr due)) nofun
        (Nat.le_antisymm (Nat.le_trans (Nat.min_le_left ..) due) early) ⟨?_, rfl, after, unmarked⟩
        (Stage.le_event_observing (Nat.le_add_right ..) running) trivial
      simp only [Stage.place, answer, time]
  | @observed _ operation _ owed notes result due ends nameable =>
      cases place
      subst same
      obtain rfl : owed = none := unmarked
      obtain ⟨resumed, result, rfl, same⟩ | ⟨-, -, same⟩ := ends.of_observing rfl rfl
      · cases same
        have now : min resumeAt (nextTick job.deadline) = world.now := Nat.le_antisymm due early
        refine .of_next (Life.next_observing_done resumed) nofun now ?lives ?early ?nameable
        all_goals cases open_ : result.isOpen
        case lives.true | lives.false => exact ⟨rfl, rfl, parts, rfl⟩
        case early.true => exact Stage.le_event_waiting (Nat.le_add_right ..) running
        case early.false => exact Stage.le_event_gone
        case nameable.true => exact nameable open_
        case nameable.false => trivial
      · cases same
  | @timesOut _ operation _ owed notes due ends =>
      cases place
      subst same
      obtain rfl : owed = none := unmarked
      obtain ⟨-, result, -, same⟩ | ⟨later, -⟩ := ends.of_observing rfl rfl
      · cases same
      · exact .of_next (if_pos later) nofun (Nat.le_antisymm due early) ⟨rfl, rfl, parts, rfl⟩ Stage.le_event_gone trivial
  | _ => cases place

end Follows

/-- Whatever happens to a job, happens when it is due and is what its course has next. -/
theorem Move.follows (lives : view.Lives separation key world life)
    (separate : ∀ operation ∈ view.place.operations, operation.key = key ∧ operation.Separate separation)
    (whole : IsWhole world.now) (early : ∀ t ∈ life.stage.event?, world.now ≤ t)
    (move : Move setting key world world' view view') :
    view'.Follows separation (setting.terms key) key world.now life world' := by
  obtain ⟨stage, record, part⟩ := life
  cases stage with
  | pending => exact move.follows_pending lives
  | submitting warnings job rest resumeAt => exact move.follows_submitting lives separate (early _ rfl)
  | waiting job => exact move.follows_waiting lives whole (early _ rfl)
  | observing job rest resumeAt => exact move.follows_observing lives separate (early _ rfl)
  | gone =>
      obtain ⟨place, -, -, -⟩ := lives
      cases move <;> cases place

/-- What comes next is never to wait for a slot again. -/
theorem Life.next_ne_pending (separation : Separation backend service π) (terms : Terms) (key : String) (now : Nat)
    (life : Life Ask Answer π) (live : life.stage ≠ .gone) :
    (life.next separation terms key now).stage ≠ .pending := by
  unfold Life.next
  split
  · split <;> simp
  · simp
  · simp
  · simp
  · split <;> simp [Life.expire]
  · split
    · simp [Life.expire]
    · split
      · simp
      · dsimp only
        split <;> simp
  · next last => exact absurd last live

/-! ### Runs -/

/-- A run that is not cancelled and keeps to whole milliseconds, over a backend that treats every job on its own and has
the jobs of the batch under ids that are theirs. -/
structure Setting.Calm (setting : Setting Ask Answer σ) (separation : Separation setting.backend setting.service π)
    (store : BatchStore) (world : World σ) : Prop where
  ticks : setting.Ticks
  start : IsWhole world.now
  never : setting.cancelAt = none
  owns : setting.OwnsIds separation.names store

/-- A run that is not cancelled ticks, and its operations keep to their keys. -/
structure Situation.Steady (separation : Separation setting.backend setting.service π)
    (s : Situation Ask Answer σ) : Prop where
  ticks : s.Ticks
  separate : s.Separate separation
  going : s.cancelled = false
  keys : s.keys ⊆ setting.batch.keys

variable {store : BatchStore} {s t opening : Situation Ask Answer σ} {touched : Option String} {keys : List String}
  {first : View Ask Answer} {origin : World σ} {start n : Nat}

theorem Step.steady (calm : setting.Calm separation store origin) (steady : s.Steady separation)
    (step : Step setting touched s t) : t.Steady separation := by
  refine ⟨step.ticks calm.ticks steady.ticks, step.separate steady.separate, ?_,
    fun _ mentioned => steady.keys (step.mentions mentioned)⟩
  have going := steady.going
  cases step with
  | notices due => simp [Situation.cancellationDue, Situation.cancelAt?, calm.never] at due
  | _ => exact going

theorem Setting.Calm.opening_steady (calm : setting.Calm separation store origin)
    (opened : setting.opening store origin = .ok opening) : opening.Steady separation where
  ticks := opening_ticks calm.start opened
  separate := opening_separate calm.owns opened
  going := by
    obtain ⟨run, -, rfl⟩ := opening_eq opened
    rfl
  keys := opening_keys opened

/-- After so many moves the job is where its course, begun at `start`, has it, and nothing of the course was
left out or is late. -/
structure View.Along (separation : Separation setting.backend setting.service π) (terms : Terms) (key : String)
    (life : Life Ask Answer π) (start n : Nat) (world : World σ) (view : View Ask Answer) : Prop where
  lives : view.Lives separation key world (course separation terms key start life n).2
  early : ∀ t ∈ (course separation terms key start life n).2.stage.event?, world.now ≤ t
  fresh : view.place = .pending → n = 0 ∧ start = world.now
  ran : ∀ m < n, (course separation terms key start life m).2.stage ≠ .gone
  nameable : ∀ m < n, (course separation terms key start life (m + 1)).2.stage.Nameable

theorem course_succ {service : Service Ask Answer σ} {separation : Separation backend service π} {terms : Terms}
    {now : Nat} (due : (course separation terms key start life n).2.stage.event?.getD
      (course separation terms key start life n).1 = now) :
    course separation terms key start life (n + 1) =
      (now, (course separation terms key start life n).2.next separation terms key now) := by
  subst due
  rfl

/-- A move takes the job one step further on its course. -/
theorem Move.along (steady : s.Steady separation) (shows : s.Shows key view)
    (along : view.Along separation (setting.terms key) key life start n s.world)
    (move : Move setting key s.world t.world view view') :
    view'.Along separation (setting.terms key) key life start (n + 1) t.world := by
  obtain ⟨lives, early, fresh, ran, nameable⟩ := along
  have separate : ∀ operation ∈ view.place.operations, operation.key = key ∧ operation.Separate separation := by
    intro operation under
    rw [← shows.operations, List.mem_filter] at under
    exact ⟨by simpa using under.2, steady.separate.operations operation under.1⟩
  obtain ⟨going, due, lives', early', named⟩ := move.follows lives separate steady.ticks.now early
  have next : course separation (setting.terms key) key start life (n + 1) = (s.world.now,
      (course separation (setting.terms key) key start life n).2.next separation (setting.terms key) key
        s.world.now) := by
    refine course_succ ?_
    cases event : (course separation (setting.terms key) key start life n).2.stage.event? with
    | some t =>
        rw [event] at due
        exact due
    | none =>
        have pending : view.place = .pending := by
          rw [lives.place]
          cases stage : (course separation (setting.terms key) key start life n).2.stage with
          | pending => rfl
          | gone => exact absurd stage going
          | submitting | waiting | observing => simp [stage, Stage.event?] at event
        obtain ⟨rfl, rfl⟩ := fresh pending
        rfl
  refine ⟨?_, ?_, fun pending => ?_, fun m less => ?_, fun m less => ?_⟩
  · rw [next]
    exact lives'
  · rw [next, move.now_eq]
    exact early'
  · exact absurd (Stage.eq_pending (lives'.place.symm.trans pending)) (Life.next_ne_pending _ _ _ _ _ going)
  · rcases Nat.lt_succ_iff_lt_or_eq.mp less with less | rfl
    · exact ran m less
    · exact going
  · rcases Nat.lt_succ_iff_lt_or_eq.mp less with less | rfl
    · exact nameable m less
    · rw [next]
      exact named

/-- A job that waits for a slot has one free, if it is the only one. -/
theorem Situation.Shows.not_filled (shows : s.Shows key view) (pending : view.place = .pending)
    (only : ∀ other ∈ s.keys, other = key) (going : s.cancelled = false) : ¬ s.Filled setting := by
  simp only [Situation.keys, List.mem_append, List.mem_map] at only
  have waiting : s.run.waiting = [] := by
    have own : s.run.waiting.filter (·.key == key) = s.run.waiting :=
      List.filter_eq_self.mpr fun job waits => beq_iff_eq.mpr (only _ (by grind))
    rw [← own, shows.waiting, pending]
    rfl
  have active : s.run.active = [] := by
    have own : s.run.active.filter (·.key == key) = s.run.active :=
      List.filter_eq_self.mpr fun activity under => beq_iff_eq.mpr (only _ (by grind))
    rw [← own, shows.active, pending]
    rfl
  intro filled
  have queue := shows.queue
  rw [filled.nothing_pending going waiting active, pending] at queue
  cases queue

/-- Time does not pass the next event of a stage. -/
theorem Stage.le_event (place : view.place = life.stage.place key)
    (operations : ∀ operation ∈ view.place.operations, world.now ≤ operation.eventAt)
    (jobs : ∀ job ∈ view.place.jobs, world.now ≤ nextTick job.wakeAt) :
    ∀ t ∈ life.stage.event?, world.now ≤ t := by
  rw [place] at operations jobs
  cases stage : life.stage with
  | pending | gone => simp [event?]
  | submitting warnings job rest resumeAt =>
      rintro _ ⟨⟩
      exact operations ⟨key, _, resumeAt, none⟩ (by rw [stage]; exact List.mem_singleton_self _)
  | waiting job =>
      rintro _ ⟨⟩
      exact jobs job (by rw [stage]; exact List.mem_singleton_self _)
  | observing job rest resumeAt =>
      rintro _ ⟨⟩
      exact operations ⟨job.key, _, resumeAt, some (nextTick job.deadline, _)⟩
        (by rw [stage]; exact List.mem_singleton_self _)

/-- While nothing happens to it, the job stays where its course has it; only as long as it waits for a slot its course
has not begun. -/
theorem Step.along (calm : setting.Calm separation store origin) (steady : s.Steady separation)
    (step : Step setting touched s t) (other : touched ≠ some key) (shows : s.Shows key view)
    (along : view.Along separation (setting.terms key) key life start n s.world) :
    (view.place = .pending → view.Along separation (setting.terms key) key life t.world.now n t.world) ∧
      (view.place ≠ .pending → view.Along separation (setting.terms key) key life start n t.world) := by
  obtain ⟨lives, early, fresh, ran, nameable⟩ := along
  have part := (step.part_eq steady.separate other).trans lives.part
  constructor
  · intro pending
    obtain ⟨rfl, -⟩ := fresh pending
    have stage : life.stage = .pending := Stage.eq_pending (lives.place.symm.trans pending)
    refine ⟨⟨lives.place, lives.record, part, lives.unmarked⟩, ?_, fun _ => ⟨rfl, rfl⟩, fun _ => nofun, fun _ => nofun⟩
    simp [course, stage, Stage.event?]
  · intro going
    refine ⟨⟨lives.place, lives.record, part, lives.unmarked⟩, ?_, fun pending => absurd pending going, ran, nameable⟩
    rcases step.now_cases shows with same | ⟨-, -, -, bounds⟩
    · rw [same]
      exact early
    · obtain ⟨operations, jobs⟩ := bounds calm.ticks.punctual
      exact Stage.le_event lives.place operations jobs

/-- A job as it is when a run opens. -/
def View.toLife (separation : Separation backend service π) (key : String) (state : σ) (view : View Ask Answer) :
    Life Ask Answer π where
  stage :=
    match view.place with
    | .pending => .pending
    | .waiting job => .waiting job
    | _ => .gone
  record := view.record
  part := separation.part state key

/-- After so many moves the first view of a job has become another along the course, which begins when the job is taken;
at once, if it is adopted or the only one. -/
def View.Becomes (separation : Separation setting.backend setting.service π) (key : String) (origin : World σ)
    (first : View Ask Answer) (n : Nat) (world : World σ) (view : View Ask Answer) : Prop :=
  ∃ start, origin.now ≤ start ∧ IsWhole start ∧
    (first.place ≠ .pending ∨ (∀ other ∈ setting.batch.keys, other = key) → start = origin.now) ∧
    view.Along separation (setting.terms key) key (first.toLife separation key origin.state) start n world

/-- A job that still waits for a slot has done so from the first. -/
theorem View.Along.first_pending
    (along : view.Along separation (setting.terms key) key (first.toLife separation key origin.state) start n world)
    (pending : view.place = .pending) : first.place = .pending := by
  obtain ⟨rfl, -⟩ := along.fresh pending
  have stage := Stage.eq_pending (along.lives.place.symm.trans pending)
  cases place : first.place <;> simp [course, View.toLife, place] at stage
  rfl

theorem Step.becomes (calm : setting.Calm separation store origin) (steady : s.Steady separation)
    (step : Step setting touched s t) (other : touched ≠ some key) (shows : s.Shows key view)
    (becomes : first.Becomes separation key origin n s.world view) :
    first.Becomes separation key origin n t.world view := by
  obtain ⟨start, later, whole, pinned, along⟩ := becomes
  obtain ⟨waits, goes⟩ := step.along calm steady other shows along
  by_cases pending : view.place = .pending
  · obtain ⟨-, now⟩ := along.fresh pending
    refine ⟨t.world.now, ?_, (step.ticks calm.ticks steady.ticks).now, fun at_ => ?_, waits pending⟩
    · rcases step.now_cases shows with same | ⟨-, passes, -⟩
      · rw [same, ← now]
        exact later
      · exact Nat.le_trans (now ▸ later) passes
    · have only := at_.resolve_left fun absurd_ => absurd_ (along.first_pending pending)
      rcases step.now_cases shows with same | ⟨-, -, filled, -⟩
      · rw [same, ← now]
        exact pinned at_
      · exact absurd filled (shows.not_filled pending (fun other mentioned => only other (steady.keys mentioned))
          steady.going)
  · exact ⟨start, later, whole, pinned, goes pending⟩

/-- Along a path every job goes along its course. -/
theorem Path.becomes (calm : setting.Calm separation store origin) (member : key ∈ setting.batch.keys)
    (path : Path setting keys s t) (proper : s.Proper) (steady : s.Steady separation) (shows : s.Shows key view)
    (sound : view.Sound key) (becomes : first.Becomes separation key origin n s.world view) :
    ∃ view', t.Shows key view' ∧ view'.Sound key ∧
      first.Becomes separation key origin (n + keys.count key) t.world view' ∧ t.Steady separation := by
  obtain ⟨view', shows, sound, becomes, steady, -⟩ := Path.keeps (fun s => s.Steady separation)
    (fun n world view => first.Becomes separation key origin n world view) member
    (fun steady step => step.steady calm steady)
    (fun steady shows _ ⟨start, later, whole, pinned, along⟩ move =>
      ⟨start, later, whole, pinned, move.along steady shows along⟩)
    (fun steady cancelled => nomatch steady.going.symm.trans cancelled)
    (fun steady other step shows _ becomes => step.becomes calm steady other shows becomes)
    path proper steady shows sound becomes
  exact ⟨view', shows, sound, becomes, steady⟩

namespace Setting

/-- A job begins its course where the run opens. -/
theorem Calm.opening_becomes (calm : setting.Calm separation store origin)
    (opens : Opens setting.config origin.now (setting.clock.at origin.now) (store.recordOf key) first) :
    first.Becomes separation key origin 0 origin first := by
  refine ⟨origin.now, Nat.le_refl _, calm.start, fun _ => rfl, ?_, ?_, fun _ => ⟨rfl, rfl⟩, fun _ => nofun,
    fun _ => nofun⟩
  · cases opens <;> exact ⟨rfl, rfl, rfl, rfl⟩
  · cases opens with
    | pending | restarts | keeps => simp [course, View.toLife, Stage.event?]
    | adopts handedOver named adopted =>
        obtain ⟨limit, -, rfl⟩ := Run.adopt_eq adopted
        rintro _ ⟨⟩
        refine Nat.le_trans ?_ (le_nextTick _)
        exact Nat.le_min.mpr ⟨Nat.le_refl _, Nat.le_add_right ..⟩

/-- Steps from the opening take every job along its course. -/
theorem Calm.becomes (calm : setting.Calm separation store origin) (opened : setting.opening store origin = .ok opening)
    (path : Path setting keys opening s) (member : key ∈ setting.batch.keys) :
    ∃ first view, Opens setting.config origin.now (setting.clock.at origin.now) (store.recordOf key) first ∧
      s.Shows key view ∧ view.Sound key ∧ first.Becomes separation key origin (keys.count key) s.world view ∧
      s.Steady separation := by
  obtain ⟨first, opens, shows⟩ := opening_shows opened member
  have begins := calm.opening_becomes opens
  have same : opening.world = origin := by
    obtain ⟨run, -, rfl⟩ := opening_eq opened
    rfl
  obtain ⟨view, shows, sound, becomes, steady⟩ := path.becomes calm member (opening_proper opened)
    (calm.opening_steady opened) shows (opens.sound (BatchStore.recordOf_userId ..)) (by rw [same]; exact begins)
  rw [Nat.zero_add] at becomes
  exact ⟨first, view, opens, shows, sound, becomes, steady⟩

end Setting

end ImageBatch.Tracker
