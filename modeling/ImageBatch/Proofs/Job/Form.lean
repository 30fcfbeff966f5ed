import ImageBatch.Proofs.Job.Transitions

/-!
The form of a record.

`JobRecord.Formed` says for each state which fields a record has. A fresh record is formed, and so is what any
event makes of a formed record (`Formed.transition`).

A record that `JobRecord.Dated` allows has no moments but those of the events so far; if these come in the order
of time, it was submitted before it was last observed, and observed before it was at its end. An event adds its own
moment (`Dated.transition`).
-/

namespace ImageBatch

namespace Timestamp

@[simp] theorem le_refl (t : Timestamp) : t.le t = true := by simp [le]

/-- Moments, latest first, none of which comes before one that follows. -/
def InTurn (moments : List Timestamp) : Prop := moments.Pairwise fun later earlier => earlier.le later = true

end Timestamp

namespace JobRecord

/-- How a job ended without a result. It ran out of time exactly if its deadline came or the service could not be
reached for too long; a job that was never built or was refused has no id. -/
structure EndsIn (record : JobRecord) (error : ErrorDetail) : Prop where
  timedOut : record.status = .timedOut ↔ error.kind = .deadline ∨ error.kind = .retriesExhausted
  unnamed : error.kind = .construction ∨ error.kind = .backendRejected → record.jobId = none

/-- A record has the fields of its state, and no others. -/
def Formed (record : JobRecord) : Prop :=
  match record.status with
  | .pending =>
      record.jobId = none ∧ record.submittedAt = none ∧ record.lastPolledAt = none ∧ record.completedAt = none ∧
        record.result = none ∧ record.error = none ∧ record.artifact = none ∧ record.warnings = []
  | .submitted =>
      record.jobId.isSome ∧ record.submittedAt.isSome ∧ record.lastPolledAt = none ∧ record.completedAt = none ∧
        record.result = none ∧ record.error = none ∧ record.artifact = none
  | .running =>
      record.jobId.isSome ∧ record.submittedAt.isSome ∧ record.lastPolledAt.isSome ∧ record.completedAt = none ∧
        record.result = none ∧ record.error = none ∧ record.artifact = none
  | .succeeded =>
      record.jobId.isSome ∧ record.submittedAt.isSome ∧ record.lastPolledAt.isSome ∧ record.completedAt.isSome ∧
        record.result.isSome ∧ record.error = none
  | .failed | .timedOut =>
      record.completedAt.isSome ∧ record.result = none ∧ record.artifact = none ∧
        ∃ error, record.error = some error ∧ record.EndsIn error

/-- The moments of a record, in the order in which they come about. -/
def moments (record : JobRecord) : List Timestamp :=
  record.submittedAt.toList ++ record.lastPolledAt.toList ++ record.completedAt.toList

/-- A job is submitted before it is observed, and observed before it is at its end. -/
def InOrder (record : JobRecord) : Prop := record.moments.Pairwise fun earlier later => earlier.le later = true

variable {record next : JobRecord} {event : JobEvent} {now : Timestamp} {times : List Timestamp}

theorem formed_fresh (userId : String) : (fresh userId).Formed := ⟨rfl, rfl, rfl, rfl, rfl, rfl, rfl, rfl⟩

theorem formed_reset (record : JobRecord) : record.reset.Formed := ⟨rfl, rfl, rfl, rfl, rfl, rfl, rfl, rfl⟩

/-- A job that has no result yet ends in the form of its failure. -/
theorem formed_terminate {status : JobStatus} {kind : FailureKind} (message : String) (now : Timestamp)
    (failure : status.isFailure = true) (unmade : record.artifact = none)
    (timedOut : status = .timedOut ↔ kind = .deadline ∨ kind = .retriesExhausted)
    (unnamed : kind = .construction ∨ kind = .backendRejected → record.jobId = none) :
    (record.terminate status kind message now).Formed := by
  have ends : (record.terminate status kind message now).EndsIn ⟨kind, message⟩ := ⟨timedOut, unnamed⟩
  cases status with
  | failed => exact ⟨rfl, rfl, unmade, _, rfl, ends⟩
  | timedOut => exact ⟨rfl, rfl, unmade, _, rfl, ends⟩
  | pending | submitted | running | succeeded => cases failure

/-- A job that could not be handed over ends in the form of its failure. -/
theorem formed_failSubmit (failure : SubmitFailure) (now : Timestamp) (unnamed : record.jobId = none)
    (unmade : record.artifact = none) : (record.failSubmit failure now).Formed := by
  cases failure with
  | rejected message => exact formed_terminate message now rfl unmade (by simp) fun _ => unnamed
  | exhausted message => exact formed_terminate message now rfl unmade (by simp) fun _ => unnamed
  | other message => exact formed_terminate message now rfl unmade (by simp) fun _ => unnamed

/-- What an observation makes of the record of a job that the service has. -/
theorem formed_observe (result : PollResult) (now : Timestamp) (named : record.jobId.isSome = true)
    (submitted : record.submittedAt.isSome = true) (open_ : record.completedAt = none) (empty : record.result = none)
    (sound : record.error = none) (unmade : record.artifact = none) : (record.observe result now).Formed := by
  cases result with
  | queued => exact ⟨named, submitted, rfl, open_, empty, sound, unmade⟩
  | running => exact ⟨named, submitted, rfl, open_, empty, sound, unmade⟩
  | done reference => exact ⟨named, submitted, rfl, rfl, rfl, rfl⟩
  | doneUnreadable message => exact formed_terminate message now rfl unmade (by simp) (by simp)
  | error message => exact formed_terminate message now rfl unmade (by simp) (by simp)
  | unreachable message => exact formed_terminate message now rfl unmade (by simp) (by simp)

/-- What the two forms of a job that the service has are both. -/
theorem Formed.of_handedOver (formed : record.Formed) (handedOver : record.status.isHandedOver = true) :
    record.jobId.isSome = true ∧ record.submittedAt.isSome = true ∧ record.completedAt = none ∧
      record.result = none ∧ record.error = none ∧ record.artifact = none := by
  unfold Formed at formed
  rcases isHandedOver_iff.mp handedOver with status | status
  all_goals
    rw [status] at formed
    obtain ⟨named, submitted, -, rest⟩ := formed
    exact ⟨named, submitted, rest⟩

/-- Whatever happens to a record, it keeps to the form of its state. -/
theorem Formed.transition (formed : record.Formed) (taken : record.transition event now = .ok next) :
    next.Formed := by
  have pending (status : record.status = .pending) : record.jobId = none ∧ record.artifact = none := by
    unfold Formed at formed
    rw [status] at formed
    obtain ⟨unnamed, -, -, -, -, -, unmade, -⟩ := formed
    exact ⟨unnamed, unmade⟩
  have handedOver (status : record.status = .submitted ∨ record.status = .running) :=
    formed.of_handedOver (isHandedOver_iff.mpr status)
  unfold JobRecord.transition at taken
  split at taken <;> cases taken
  case h_1 => exact formed_reset record
  case h_2 message status =>
    obtain ⟨unnamed, unmade⟩ := pending status
    exact formed_terminate message now rfl unmade (by simp) fun _ => unnamed
  case h_3 jobId warnings status =>
    unfold Formed at formed
    rw [status] at formed
    obtain ⟨-, -, unpolled, open_, empty, sound, unmade, -⟩ := formed
    exact ⟨rfl, rfl, unpolled, open_, empty, sound, unmade⟩
  case h_4 failure status =>
    obtain ⟨unnamed, unmade⟩ := pending status
    exact formed_failSubmit failure now unnamed unmade
  case h_5 result status | h_6 result status =>
    obtain ⟨named, submitted, open_, empty, sound, unmade⟩ := handedOver (by simp [status])
    exact formed_observe result now named submitted open_ empty sound unmade
  case h_7 status | h_8 status =>
    obtain ⟨-, -, -, -, -, unmade⟩ := handedOver (by simp [status])
    exact formed_terminate _ now rfl unmade (by simp) (by simp)
  case h_9 message status =>
    exact @formed_terminate { record with artifact := none } .failed .collection message now rfl rfl (by simp) (by simp)

/-- An image does not change the form of the record of a success. -/
theorem Formed.withArtifact (formed : record.Formed) (succeeded : record.status = .succeeded) (artifact : Option Path) :
    ({ record with artifact } : JobRecord).Formed := by
  unfold Formed at formed ⊢
  simp only [succeeded] at formed ⊢
  exact formed

/-! ### Moments -/

/-- The moments of a record are among those of the events so far, latest first, and in order if these are. -/
structure Dated (times : List Timestamp) (record : JobRecord) : Prop where
  known : record.moments ⊆ times
  inOrder : Timestamp.InTurn times → record.InOrder

theorem dated_fresh (times : List Timestamp) (userId : String) : (fresh userId).Dated times :=
  ⟨List.nil_subset times, fun _ => .nil⟩

theorem dated_reset (times : List Timestamp) (record : JobRecord) : record.reset.Dated times :=
  ⟨List.nil_subset times, fun _ => .nil⟩

/-- Later events leave a record as it is. -/
theorem Dated.later (dated : record.Dated times) (more : List Timestamp) : record.Dated (more ++ times) := by
  constructor
  · exact List.subset_append_of_subset_right more dated.known
  · intro inTurn
    exact dated.inOrder (List.pairwise_append.mp inTurn).2.1

/-- An event keeps some of the moments of the record and adds its own. -/
theorem exists_moments_of_transition (formed : record.Formed) (taken : record.transition event now = .ok next) :
    ∃ kept n, kept.Sublist record.moments ∧ next.moments = kept ++ List.replicate n now := by
  have terminates : (record.submittedAt.toList ++ record.lastPolledAt.toList).Sublist record.moments :=
    List.sublist_append_left ..
  have observes : record.submittedAt.toList.Sublist record.moments :=
    (List.sublist_append_left ..).trans terminates
  unfold JobRecord.transition at taken
  split at taken <;> cases taken
  case h_1 => exact ⟨[], 0, List.nil_sublist _, rfl⟩
  case h_2 | h_7 | h_8 | h_9 => exact ⟨_, 1, terminates, rfl⟩
  case h_3 jobId warnings status =>
    unfold Formed at formed
    rw [status] at formed
    obtain ⟨-, -, unpolled, open_, -⟩ := formed
    refine ⟨[], 1, List.nil_sublist _, ?_⟩
    simp [moments, submit, unpolled, open_]
  case h_4 failure status =>
    refine ⟨_, 1, terminates, ?_⟩
    cases failure <;> rfl
  case h_5 result status | h_6 result status =>
    obtain ⟨-, -, open_, -⟩ := formed.of_handedOver (isHandedOver_iff.mpr (by simp [status]))
    cases result with
    | queued | running => exact ⟨_, 1, observes, by simp [moments, observe, open_]⟩
    | done | doneUnreadable | error | unreachable =>
        exact ⟨_, 2, observes, by simp [moments, observe, terminate, List.replicate]⟩

/-- An event dates the record by its own moment, which comes after all others if events come in turn. -/
theorem Dated.transition (formed : record.Formed) (dated : record.Dated times)
    (taken : record.transition event now = .ok next) : next.Dated (now :: times) := by
  obtain ⟨kept, n, sub, same⟩ := exists_moments_of_transition formed taken
  constructor
  · intro moment member
    rw [same] at member
    rcases List.mem_append.mp member with old | new
    · exact List.mem_cons_of_mem now (dated.known (sub.subset old))
    · exact List.eq_of_mem_replicate new ▸ List.mem_cons_self
  · intro inTurn
    obtain ⟨latest, before⟩ := List.pairwise_cons.mp inTurn
    unfold InOrder
    rw [same]
    refine List.pairwise_append.mpr ⟨(dated.inOrder before).sublist sub, ?_, ?_⟩
    · exact List.pairwise_replicate.mpr (.inr (Timestamp.le_refl now))
    · intro earlier old later new
      rw [List.eq_of_mem_replicate new]
      exact latest earlier (dated.known (sub.subset old))

theorem Dated.withArtifact (dated : record.Dated times) (artifact : Option Path) :
    ({ record with artifact } : JobRecord).Dated times :=
  ⟨dated.known, dated.inOrder⟩

end JobRecord

end ImageBatch
