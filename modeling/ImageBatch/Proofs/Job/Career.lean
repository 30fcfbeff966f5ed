import ImageBatch.Proofs.Job.Transitions
import Mathlib.Data.List.Infix

/-!
The career of a record.

`JobStatus.Leads` is the diagram of the states: which event leads from which state to which
(`JobRecord.leads_of_transition`). Events come to a record in any order. One that is out of turn is refused and leaves
the record as it is; a `Career` is a record with the events that it took. Whatever comes, the record counts its submits,
is submitted at most once between two resets, goes back to an earlier stage by a reset only, and at its end takes
nothing but a reset and, after a success, one failed collection (`Career.career_kept`).
-/

namespace ImageBatch

/-- The service has taken the job. -/
def JobEvent.isSubmitted : JobEvent → Bool
  | .submitted .. => true
  | _ => false

namespace JobStatus

/-- How far a job has come: it is pending, submitted, running, or at its end. -/
def stage : JobStatus → Nat
  | .pending => 0
  | .submitted => 1
  | .running => 2
  | .succeeded | .failed | .timedOut => 3

/-- An event that a record takes leads from one state to another. -/
inductive Leads : JobStatus → JobEvent → JobStatus → Prop where
  | reset {status} : Leads status .forceReset .pending
  | unbuilt {message} : Leads .pending (.constructionFailed message) .failed
  | submitted {jobId warnings} : Leads .pending (.submitted jobId warnings) .submitted
  | unsubmitted {failure status} (failed : status.isFailure = true) : Leads .pending (.submitFailed failure) status
  | watched {status result} (handedOver : status.isHandedOver = true) (open_ : result.isOpen = true) :
      Leads status (.polled result) .running
  | ended {status result next} (handedOver : status.isHandedOver = true) (closed : result.isOpen = false)
      (terminal : next.isTerminal = true) : Leads status (.polled result) next
  | expired {status} (handedOver : status.isHandedOver = true) : Leads status .deadlineExceeded .timedOut
  | uncollected {message} : Leads .succeeded (.collectionFailed message) .failed

namespace Leads

variable {status next : JobStatus} {event : JobEvent}

theorem stage_of_isTerminal (terminal : status.isTerminal = true) : status.stage = 3 := by
  cases status with
  | pending | submitted | running => cases terminal
  | succeeded | failed | timedOut => rfl

theorem stage_of_isHandedOver (handedOver : status.isHandedOver = true) : 1 ≤ status.stage ∧ status.stage ≤ 2 := by
  cases status with
  | submitted | running => exact ⟨by decide, by decide⟩
  | pending | succeeded | failed | timedOut => cases handedOver

/-- Only a reset leads back to an earlier stage. -/
theorem stage_le (leads : status.Leads event next) (goesOn : event ≠ .forceReset) : status.stage ≤ next.stage := by
  cases leads with
  | reset => exact absurd rfl goesOn
  | unbuilt | submitted | unsubmitted => exact Nat.zero_le _
  | watched handedOver => exact (stage_of_isHandedOver handedOver).2
  | ended handedOver _ terminal =>
      rw [stage_of_isTerminal terminal]
      exact (stage_of_isHandedOver handedOver).2.trans (by decide)
  | expired handedOver => exact (stage_of_isHandedOver handedOver).2.trans (by decide)
  | uncollected => exact Nat.le_refl _

/-- Only a reset leads to a pending job. -/
theorem eq_forceReset (leads : status.Leads event .pending) : event = .forceReset := by
  cases leads with
  | reset => rfl
  | unsubmitted failed => cases failed
  | ended _ _ terminal => cases terminal

theorem pending_of_isSubmitted (leads : status.Leads event next) (submitted : event.isSubmitted = true) :
    status = .pending := by
  cases leads with
  | submitted => rfl
  | reset | unbuilt | unsubmitted | watched | ended | expired | uncollected => cases submitted

theorem eq_failed {message : String} (leads : status.Leads (.collectionFailed message) next) : next = .failed := by
  cases leads with
  | uncollected => rfl

/-- A job at its end can start again, and a success can still fail. -/
theorem of_isTerminal (leads : status.Leads event next) (terminal : status.isTerminal = true) :
    event = .forceReset ∨ status = .succeeded ∧ ∃ message, event = .collectionFailed message := by
  cases leads with
  | reset => exact .inl rfl
  | @uncollected message => exact .inr ⟨rfl, message, rfl⟩
  | unbuilt | submitted | unsubmitted => cases terminal
  | watched handedOver | ended handedOver | expired handedOver =>
      cases status with
      | pending | submitted | running => cases terminal
      | succeeded | failed | timedOut => cases handedOver

end Leads

end JobStatus

namespace JobRecord

variable {record next : JobRecord} {event : JobEvent} {now : Timestamp}

/-- A record takes the events of the diagram alone. -/
theorem leads_of_transition (taken : record.transition event now = .ok next) :
    record.status.Leads event next.status := by
  unfold transition at taken
  split at taken <;> cases taken
  case h_1 => exact .reset
  case h_2 message status => exact status ▸ .unbuilt
  case h_3 status => exact status ▸ .submitted
  case h_4 failure status => exact status ▸ .unsubmitted (by cases failure <;> rfl)
  case h_5 result status | h_6 result status =>
    have handedOver : record.status.isHandedOver = true := by rw [status]; rfl
    cases result with
    | queued | running => exact .watched handedOver rfl
    | done | doneUnreadable | error | unreachable => exact .ended handedOver rfl rfl
  case h_7 status | h_8 status => exact .expired (by rw [status]; rfl)
  case h_9 message status => exact status ▸ .uncollected

/-- At its end a record takes a reset, and after a success a failed collection, and nothing else. -/
theorem exists_transition_iff (terminal : record.status.isTerminal = true) (event : JobEvent) (now : Timestamp) :
    (∃ next, record.transition event now = .ok next) ↔
      event = .forceReset ∨ record.status = .succeeded ∧ ∃ message, event = .collectionFailed message := by
  constructor
  · rintro ⟨next, taken⟩
    exact (leads_of_transition taken).of_isTerminal terminal
  · rintro (rfl | ⟨status, message, rfl⟩)
    · refine ⟨record.reset, ?_⟩
      unfold transition
      cases record.status <;> rfl
    · unfold transition
      rw [status]
      exact ⟨_, rfl⟩

/-- A submit is counted in 32 bits, and nothing else is. -/
theorem submitCount_transition (taken : record.transition event now = .ok next) : next.submitCount =
    if event.isSubmitted = true then (record.submitCount + 1) % 0x100000000 else record.submitCount := by
  unfold transition at taken
  split at taken <;> cases taken
  case h_4 failure _ => cases failure <;> rfl
  case h_5 result _ => cases result <;> rfl
  case h_6 result _ => cases result <;> rfl
  all_goals rfl

end JobRecord

/-- A record and the events that it took, the latest first. -/
structure Career where
  record : JobRecord
  taken : List JobEvent

namespace Career

/-- A job of which nothing has happened. -/
def begun (userId : String) : Career := ⟨.fresh userId, []⟩

/-- What comes of an event. If it is out of turn, nothing does. -/
def step (career : Career) (happening : JobEvent × Timestamp) : Career :=
  match career.record.transition happening.1 happening.2 with
  | .ok next => ⟨next, happening.1 :: career.taken⟩
  | .error _ => career

/-- What comes of events in turn. -/
def follow (career : Career) (happenings : List (JobEvent × Timestamp)) : Career := happenings.foldl step career

/-- How often the job was submitted. -/
def submits (events : List JobEvent) : Nat := events.countP (·.isSubmitted)

variable {career : Career} {userId : String} {happenings : List (JobEvent × Timestamp)} {happening : JobEvent × Timestamp}

theorem step_cases (career : Career) (happening : JobEvent × Timestamp) :
    career.step happening = career ∨ ∃ next, career.record.transition happening.1 happening.2 = .ok next ∧
      career.step happening = ⟨next, happening.1 :: career.taken⟩ := by
  unfold step
  cases career.record.transition happening.1 happening.2 with
  | error e => exact .inl rfl
  | ok next => exact .inr ⟨next, rfl, rfl⟩

/-- What a record remembers of the events that it took, and which events follow which. -/
structure Kept (userId : String) (career : Career) : Prop where
  user : career.record.userId = userId
  counted : career.record.submitCount = submits career.taken % 0x100000000
  /-- A pending job was not submitted since the last reset. -/
  unsubmitted : career.record.status = .pending →
    ∀ latest, latest <+: career.taken → .forceReset ∉ latest → submits latest = 0
  once : ∀ stretch, stretch <:+: career.taken → .forceReset ∉ stretch → submits stretch ≤ 1
  /-- A job whose collection was the last to fail has failed. -/
  uncollected : ∀ message earlier, career.taken = .collectionFailed message :: earlier → career.record.status = .failed
  /-- After a failed collection comes a reset. -/
  followed : ∀ later event message earlier, career.taken = later ++ event :: .collectionFailed message :: earlier →
    event = .forceReset

theorem kept_begun (userId : String) : (begun userId).Kept userId where
  user := rfl
  counted := rfl
  unsubmitted := by
    intro _ latest first _
    rw [List.prefix_nil.mp first]
    rfl
  once := by
    intro stretch within _
    rw [List.infix_nil.mp within]
    exact Nat.zero_le 1
  uncollected := by
    intro message earlier taken
    cases taken
  followed := by
    intro later event message earlier taken
    cases later <;> cases taken

/-- Of the latest events without a reset only the last one may be a submit. -/
theorem Kept.submits_latest {event : JobEvent} {now : Timestamp} {next : JobRecord} {recent : List JobEvent}
    (kept : career.Kept userId) (taken : career.record.transition event now = .ok next)
    (first : recent <+: event :: career.taken) (goesOn : .forceReset ∉ recent) : submits recent ≤ 1 := by
  rcases List.prefix_cons_iff.mp first with rfl | ⟨before, rfl, sooner⟩
  · exact Nat.zero_le 1
  · have goesOn : .forceReset ∉ before := fun member => goesOn (List.mem_cons_of_mem _ member)
    cases submitted : event.isSubmitted with
    | true =>
        have pending := (JobRecord.leads_of_transition taken).pending_of_isSubmitted submitted
        rw [submits, List.countP_cons_of_pos submitted]
        exact Nat.succ_le_succ (Nat.le_of_eq (kept.unsubmitted pending before sooner goesOn))
    | false =>
        rw [submits, List.countP_cons_of_neg (by simp [submitted])]
        exact kept.once before sooner.isInfix goesOn

/-- An event that is taken keeps what the record remembers. -/
theorem Kept.taken {event : JobEvent} {now : Timestamp} {next : JobRecord} (kept : career.Kept userId)
    (taken : career.record.transition event now = .ok next) : Kept userId ⟨next, event :: career.taken⟩ := by
  have leads := JobRecord.leads_of_transition taken
  constructor
  case user => exact (JobRecord.transition_userId taken).trans kept.user
  case counted =>
    rw [JobRecord.submitCount_transition taken, kept.counted]
    cases submitted : event.isSubmitted <;> simp [submits, submitted]
  case unsubmitted =>
    intro pending recent first goesOn
    have pending : next.status = .pending := pending
    rw [pending] at leads
    rcases List.prefix_cons_iff.mp first with rfl | ⟨before, rfl, -⟩
    · rfl
    · exact absurd (leads.eq_forceReset ▸ List.mem_cons_self) goesOn
  case once =>
    intro stretch within goesOn
    rcases List.infix_cons_iff.mp within with first | within
    · exact kept.submits_latest taken first goesOn
    · exact kept.once stretch within goesOn
  case uncollected =>
    intro message earlier same
    obtain ⟨rfl, -⟩ := List.cons.inj same
    exact leads.eq_failed
  case followed =>
    intro later other message earlier same
    cases later with
    | cons last later =>
        obtain ⟨-, same⟩ := List.cons.inj same
        exact kept.followed later other message earlier same
    | nil =>
        obtain ⟨rfl, before⟩ := List.cons.inj same
        have failed := kept.uncollected message earlier before
        rw [failed] at leads
        rcases leads.of_isTerminal rfl with reset | ⟨succeeded, -⟩
        · exact reset
        · cases succeeded

theorem Kept.follow (kept : career.Kept userId) (happenings : List (JobEvent × Timestamp)) :
    (career.follow happenings).Kept userId := by
  refine List.foldlRecOn happenings step kept fun career kept happening _ => ?_
  rcases career.step_cases happening with refused | ⟨next, taken, accepted⟩
  · rwa [refused]
  · rw [accepted]
    exact kept.taken taken

/-- Without a reset a job never goes back to an earlier stage. -/
theorem stage_le_follow (career : Career) (goesOn : ∀ happening ∈ happenings, happening.1 ≠ .forceReset) :
    career.record.status.stage ≤ (career.follow happenings).record.status.stage := by
  refine List.foldlRecOn (motive := fun later => career.record.status.stage ≤ later.record.status.stage) happenings step
    (Nat.le_refl _) fun later came happening member => ?_
  rcases later.step_cases happening with refused | ⟨next, taken, accepted⟩
  · rwa [refused]
  · rw [accepted]
    exact came.trans ((JobRecord.leads_of_transition taken).stage_le (goesOn happening member))

/-- Whatever happens to a fresh record, it stays the record of its user, and as long as it was not submitted 2³² times
it counts its submits. Between two resets it is submitted at most once, and it goes back to an earlier stage by a reset
only. At its end it takes a reset, and after a success a failed collection, and nothing else; and after a failed
collection it takes nothing but a reset. -/
theorem career_kept (userId : String) (happenings : List (JobEvent × Timestamp)) (career : Career)
    (came : (begun userId).follow happenings = career) :
    career.record.userId = userId ∧
    (submits career.taken < 0x100000000 → career.record.submitCount = submits career.taken) ∧
    (∀ stretch, stretch <:+: career.taken → .forceReset ∉ stretch → submits stretch ≤ 1) ∧
    (∀ more, (∀ happening ∈ more, happening.1 ≠ .forceReset) →
      career.record.status.stage ≤ ((begun userId).follow (happenings ++ more)).record.status.stage) ∧
    (career.record.status.isTerminal = true → ∀ event now,
      (∃ next, career.record.transition event now = .ok next) ↔
        event = .forceReset ∨ career.record.status = .succeeded ∧ ∃ message, event = .collectionFailed message) ∧
    ∀ later event message earlier, career.taken = later ++ event :: .collectionFailed message :: earlier →
      event = .forceReset := by
  have kept := (kept_begun userId).follow happenings
  rw [came] at kept
  refine ⟨kept.user, fun few => ?_, kept.once, fun more goesOn => ?_, JobRecord.exists_transition_iff, kept.followed⟩
  · rw [kept.counted, Nat.mod_eq_of_lt few]
  · have split : (begun userId).follow (happenings ++ more) = career.follow more := by
      rw [← came]
      exact List.foldl_append
    rw [split]
    exact stage_le_follow career goesOn

/-- A job is submitted, submitted once more in vain, found done, cannot be collected, is polled in vain, and is reset
and submitted again. -/
def twice : List (JobEvent × Timestamp) := [
  (.submitted "p" [], ⟨0, 0⟩), (.submitted "q" [], ⟨1, 0⟩), (.polled (.done ⟨"9", "fox.png", "", "output"⟩), ⟨2, 0⟩),
  (.collectionFailed "downloaded output is empty", ⟨3, 0⟩), (.polled .queued, ⟨4, 0⟩), (.forceReset, ⟨5, 0⟩),
  (.submitted "r" [], ⟨6, 0⟩)]

/-- The record of that job counts two submits, and the second one came after the reset. -/
theorem career_kept_twice : ∃ career, (begun "ada").follow twice = career ∧
    career.taken = [.submitted "r" [], .forceReset, .collectionFailed "downloaded output is empty",
      .polled (.done ⟨"9", "fox.png", "", "output"⟩), .submitted "p" []] ∧
    career.record.userId = "ada" ∧ career.record.submitCount = 2 ∧ career.record.jobId = some "r" := by
  obtain ⟨career, came, taken, named⟩ : ∃ career, (begun "ada").follow twice = career ∧
      career.taken = [.submitted "r" [], .forceReset, .collectionFailed "downloaded output is empty",
        .polled (.done ⟨"9", "fox.png", "", "output"⟩), .submitted "p" []] ∧ career.record.jobId = some "r" :=
    ⟨_, rfl, rfl, rfl⟩
  obtain ⟨user, counted, -⟩ := career_kept "ada" twice career came
  have submits : submits career.taken = 2 := by
    rw [taken]
    rfl
  exact ⟨career, came, taken, user, (counted (by rw [submits]; decide)).trans submits, named⟩

end Career

end ImageBatch
