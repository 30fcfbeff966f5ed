import ImageBatch.Proofs.Tracker.Course

/-!
Courses that begin later.

A job that has to wait for a slot goes the same course as one that is taken at once, only that all of it happens so
much later (`course_delayed`), as long as the delay is a whole number of milliseconds. Its record then differs in the
moments that were set on the way and in what is said about a deadline (`JobRecord.Delayed`).
-/

namespace ImageBatch

/-- A moment in the records of two runs, where all that the second one does comes so much later: both have it from
before, or either has set it at its own instant. -/
inductive Clock.Delays (clock : Clock) (delay : Nat) (before : Option Timestamp) :
    Option Timestamp → Option Timestamp → Prop where
  | kept : Delays clock delay before before before
  | set (t : Nat) : Delays clock delay before (some (clock.at t)) (some (clock.at (t + delay)))

namespace JobRecord

/-- What a record has that does not hang on the time. -/
def timeless (record : JobRecord) : JobRecord :=
  { record with submittedAt := none, lastPolledAt := none, completedAt := none, error := none }

/-- The records that two runs make of one, where all that the second run does comes so much later. They agree but for
the moments that the runs have set, and for the submit time that an error about a deadline names. -/
structure Delayed (clock : Clock) (delay : Nat) (before sooner later : JobRecord) : Prop where
  timeless : later.timeless = sooner.timeless
  submittedAt : clock.Delays delay before.submittedAt sooner.submittedAt later.submittedAt
  lastPolledAt : clock.Delays delay before.lastPolledAt sooner.lastPolledAt later.lastPolledAt
  completedAt : clock.Delays delay before.completedAt sooner.completedAt later.completedAt
  error : later.error = sooner.error ∨
    sooner.error = some ⟨.deadline, sooner.deadlineMessage⟩ ∧ later.error = some ⟨.deadline, later.deadlineMessage⟩

/-- What is wrong with a job that was seen does not hang on the time. -/
theorem error_observe {sooner later : JobRecord} (same : later.error = sooner.error) (result : PollResult)
    (now then_ : Timestamp) : (later.observe result then_).error = (sooner.observe result now).error := by
  cases result with
  | queued | running => exact same
  | _ => rfl

namespace Delayed

variable {clock : Clock} {delay : Nat} {before sooner later : JobRecord}

protected theorem refl (clock : Clock) (delay : Nat) (record : JobRecord) : Delayed clock delay record record record :=
  ⟨rfl, .kept, .kept, .kept, .inl rfl⟩

theorem terminate (delayed : Delayed clock delay before sooner later) (status : JobStatus) (kind : FailureKind)
    (message : String) (now : Nat) :
    Delayed clock delay before (sooner.terminate status kind message (clock.at now))
      (later.terminate status kind message (clock.at (now + delay))) where
  timeless := congrArg (fun record => (record.terminate status kind message (clock.at now)).timeless) delayed.timeless
  submittedAt := delayed.submittedAt
  lastPolledAt := delayed.lastPolledAt
  completedAt := .set now
  error := .inl rfl

theorem expire (delayed : Delayed clock delay before sooner later) (now : Nat) :
    Delayed clock delay before (sooner.terminate .timedOut .deadline sooner.deadlineMessage (clock.at now))
      (later.terminate .timedOut .deadline later.deadlineMessage (clock.at (now + delay))) where
  timeless :=
    congrArg (fun record => (record.terminate .timedOut .deadline "" (clock.at now)).timeless) delayed.timeless
  submittedAt := delayed.submittedAt
  lastPolledAt := delayed.lastPolledAt
  completedAt := .set now
  error := .inr ⟨rfl, rfl⟩

theorem failSubmit (delayed : Delayed clock delay before sooner later) (failure : SubmitFailure) (now : Nat) :
    Delayed clock delay before (sooner.failSubmit failure (clock.at now))
      (later.failSubmit failure (clock.at (now + delay))) := by
  cases failure <;> exact delayed.terminate ..

theorem submit (delayed : Delayed clock delay before sooner later) (same : later.error = sooner.error) (jobId : String)
    (warnings : List String) (now : Nat) :
    Delayed clock delay before (sooner.submit jobId warnings (clock.at now))
      (later.submit jobId warnings (clock.at (now + delay))) where
  timeless := congrArg (fun record => (record.submit jobId warnings (clock.at now)).timeless) delayed.timeless
  submittedAt := .set now
  lastPolledAt := delayed.lastPolledAt
  completedAt := delayed.completedAt
  error := .inl same

/-- The records of jobs that were seen. -/
theorem seen (delayed : Delayed clock delay before sooner later) (same : later.error = sooner.error) (now : Nat) :
    Delayed clock delay before { sooner with lastPolledAt := some (clock.at now) }
      { later with lastPolledAt := some (clock.at (now + delay)) } where
  timeless := delayed.timeless
  submittedAt := delayed.submittedAt
  lastPolledAt := .set now
  completedAt := delayed.completedAt
  error := .inl same

theorem observe (delayed : Delayed clock delay before sooner later) (same : later.error = sooner.error)
    (result : PollResult) (now : Nat) :
    Delayed clock delay before (sooner.observe result (clock.at now))
      (later.observe result (clock.at (now + delay))) := by
  have seen := delayed.seen same now
  cases result with
  | queued | running =>
      exact { seen with timeless := congrArg (fun record => { record with status := .running }) seen.timeless }
  | done reference =>
      exact { seen with
        timeless :=
          congrArg (fun record => { record with status := .succeeded, result := some reference }) seen.timeless
        completedAt := .set now
        error := .inl rfl }
  | doneUnreadable | error | unreachable => exact seen.terminate ..

end Delayed

end JobRecord

namespace Tracker

variable {Ask : Type} {Answer : Ask → Type} {σ π : Type} {backend : Backend Ask Answer} {service : Service Ask Answer σ}

open Instant

/-- The job with all its instants so much later. -/
def InFlight.later (delay : Nat) (job : InFlight) : InFlight :=
  { job with nextPoll := job.nextPoll + delay, deadline := job.deadline + delay }

/-- The stage with all its instants so much later. -/
def Stage.later (delay : Nat) : Stage Ask Answer → Stage Ask Answer
  | .pending => .pending
  | .submitting warnings job rest resumeAt => .submitting warnings job rest (resumeAt + delay)
  | .waiting job => .waiting (job.later delay)
  | .observing job rest resumeAt => .observing (job.later delay) rest (resumeAt + delay)
  | .gone => .gone

variable {delay : Nat} {stage : Stage Ask Answer}

theorem nextTick_add (t : Nat) (whole : IsWhole delay) : nextTick (t + delay) = nextTick t + delay := by
  unfold IsWhole at whole
  unfold nextTick
  omega

theorem Stage.event?_later (whole : IsWhole delay) (stage : Stage Ask Answer) :
    (stage.later delay).event? = stage.event?.map (· + delay) := by
  cases stage with
  | pending | gone | submitting => rfl
  | waiting job =>
      have wakeAt : (job.later delay).wakeAt = job.wakeAt + delay := Nat.add_min_add_right ..
      simp only [later, event?, wakeAt, nextTick_add _ whole, Option.map_some]
  | observing job rest resumeAt =>
      have deadline : nextTick (job.later delay).deadline = nextTick job.deadline + delay := nextTick_add _ whole
      simp only [later, event?, deadline, Option.map_some, Nat.add_min_add_right]

theorem Stage.later_zero (stage : Stage Ask Answer) : stage.later 0 = stage := by
  cases stage <;> rfl

@[simp] theorem Stage.later_eq_gone : stage.later delay = .gone ↔ stage = .gone := by
  cases stage <;> simp [later]

/-- Sooner the clock can name the instants, too. -/
theorem Stage.Nameable.of_later (nameable : (stage.later delay).Nameable) : stage.Nameable := by
  cases stage with
  | waiting job => exact ⟨Nat.lt_of_le_of_lt (Nat.le_add_right ..) nameable.1,
      Nat.lt_of_le_of_lt (Nat.le_add_right ..) nameable.2⟩
  | _ => trivial

/-- Two jobs that began alike, where all that happens to the second comes so much later. -/
structure Life.Delayed (clock : Clock) (delay : Nat) (before : JobRecord) (sooner later : Life Ask Answer π) :
    Prop where
  stage : later.stage = sooner.stage.later delay
  part : later.part = sooner.part
  record : JobRecord.Delayed clock delay before sooner.record later.record
  going : sooner.stage ≠ .gone → later.record.error = sooner.record.error

variable {separation : Separation backend service π} {terms : Terms} {key : String} {before : JobRecord}
  {sooner later : Life Ask Answer π}

/-- What happens next to both jobs keeps the second one so much behind. -/
theorem Life.Delayed.next (delayed : Life.Delayed terms.clock delay before sooner later) (now : Nat) :
    Life.Delayed terms.clock delay before (sooner.next separation terms key now)
      (later.next separation terms key (now + delay)) := by
  obtain ⟨stage, record, part⟩ := sooner
  obtain ⟨stage', record', part'⟩ := later
  obtain ⟨same, parts, record, going⟩ := delayed
  dsimp only at same parts record going
  subst same parts
  cases stage with
  | pending =>
      simp only [Life.next, Stage.later]
      cases terms.built with
      | error message => exact ⟨rfl, rfl, record.terminate .., fun live => absurd rfl live⟩
      | ok built => exact ⟨rfl, rfl, record, fun _ => going (by simp)⟩
  | submitting warnings job rest resumeAt =>
      have same := going (by simp)
      cases rest with
      | ask question rest =>
          refine ⟨?_, rfl, record, fun _ => same⟩
          simp only [Life.next, Stage.later, Stage.submitting.injEq, true_and]
          exact Nat.add_right_comm ..
      | done result =>
          cases result with
          | error e => exact ⟨rfl, rfl, record.failSubmit .., fun live => absurd rfl live⟩
          | ok jobId =>
              refine ⟨?_, rfl, record.submit same .., fun _ => same⟩
              simp only [Life.next, Stage.later, InFlight.later, Stage.waiting.injEq, InFlight.mk.injEq, true_and]
              exact ⟨Nat.add_right_comm .., Nat.add_right_comm ..⟩
  | waiting job =>
      have same := going (by simp)
      simp only [Life.next, Stage.later, InFlight.later, Nat.add_le_add_iff_right]
      split
      · exact ⟨rfl, rfl, record.expire .., fun live => absurd rfl live⟩
      · exact ⟨rfl, rfl, record, fun _ => same⟩
  | observing job rest resumeAt =>
      have same := going (by simp)
      simp only [Life.next, Stage.later, Nat.add_lt_add_iff_right]
      split
      · exact ⟨rfl, rfl, record.expire .., fun live => absurd rfl live⟩
      · cases rest with
        | ask question rest =>
            refine ⟨?_, rfl, record, fun _ => same⟩
            simp only [Stage.later, Stage.observing.injEq, true_and]
            exact Nat.add_right_comm ..
        | done result =>
            refine ⟨?_, rfl, record.observe same .., fun _ => JobRecord.error_observe same ..⟩
            cases open_ : result.isOpen with
            | true =>
                simp only [open_, if_true, Stage.later, InFlight.later, Stage.waiting.injEq, InFlight.mk.injEq,
                  true_and, and_true]
                exact Nat.add_right_comm ..
            | false => simp only [open_, Bool.false_eq_true, if_false, Stage.later]
  | gone => exact ⟨rfl, rfl, record, fun live => absurd rfl live⟩

/-- A course that begins so much later has everything so much later. -/
theorem course_delayed (whole : IsWhole delay) {life : Life Ask Answer π} (still : life.stage.later delay = life.stage)
    (start n : Nat) :
    (course separation terms key (start + delay) life n).1 = (course separation terms key start life n).1 + delay ∧
      Life.Delayed terms.clock delay life.record (course separation terms key start life n).2
        (course separation terms key (start + delay) life n).2 := by
  induction n with
  | zero => exact ⟨rfl, still.symm, rfl, .refl .., fun _ => rfl⟩
  | succ n ih =>
      obtain ⟨now, delayed⟩ := ih
      have due : (course separation terms key (start + delay) life n).2.stage.event?.getD
          (course separation terms key (start + delay) life n).1 =
          (course separation terms key start life n).2.stage.event?.getD (course separation terms key start life n).1 +
            delay := by
        rw [delayed.stage, Stage.event?_later whole, now]
        cases (course separation terms key start life n).2.stage.event? <;> rfl
      rw [course_succ due, course_succ rfl]
      exact ⟨rfl, delayed.next _⟩

end Tracker

end ImageBatch
