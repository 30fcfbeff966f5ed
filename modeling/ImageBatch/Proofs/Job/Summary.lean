import ImageBatch.Job.Summary

/-!
What a summary counts.

Each status that comes up is counted once, with the number of its records (`BatchSummary.mem_tally`,
`BatchSummary.count_ofRecords`). So a summary is complete exactly if every record is at its end
(`BatchSummary.isComplete_ofRecords`).
-/

namespace ImageBatch.BatchSummary

variable {α : Type} [DecidableEq α] {values items : List α} {value : α} {n : Nat} {records : List JobRecord}

theorem mem_tally : (value, n) ∈ tally values items ↔ value ∈ values ∧ value ∈ items ∧ n = items.count value := by
  unfold tally
  rw [List.mem_filterMap]
  constructor
  · rintro ⟨counted, listed, occurs⟩
    split at occurs
    · cases occurs
    next present =>
        cases occurs
        exact ⟨listed, List.count_pos_iff.mp (Nat.pos_of_ne_zero present), rfl⟩
  · rintro ⟨listed, present, rfl⟩
    exact ⟨value, listed, if_neg (Nat.ne_of_gt (List.count_pos_iff.mpr present))⟩

theorem mem_statuses (status : JobStatus) : status ∈ JobStatus.all := by cases status <;> decide

/-- A summary counts the records of each status. -/
theorem count_ofRecords (records : List JobRecord) (status : JobStatus) :
    (ofRecords records).count status = (records.map (·.status)).count status := by
  have counted {n : Nat} : (status, n) ∈ (ofRecords records).byStatus ↔
      status ∈ records.map (·.status) ∧ n = (records.map (·.status)).count status := by
    simp [ofRecords, mem_tally, mem_statuses]
  unfold count
  split
  next other n found =>
      have same : other = status := by simpa using List.find?_some found
      subst same
      exact (counted.mp (List.mem_of_find?_eq_some found)).2
  next missing =>
      rw [List.find?_eq_none] at missing
      refine (List.count_eq_zero.mpr fun present => ?_).symm
      exact missing _ (counted.mpr ⟨present, rfl⟩) (decide_eq_true rfl)

theorem isComplete_ofRecords :
    (ofRecords records).isComplete = true ↔ ∀ record ∈ records, record.status.isTerminal = true := by
  simp only [isComplete, ofRecords, List.all_eq_true, Prod.forall, mem_tally]
  constructor
  · intro complete record present
    exact complete record.status _ ⟨mem_statuses _, List.mem_map_of_mem present, rfl⟩
  · rintro terminal status n ⟨-, occurs, -⟩
    obtain ⟨record, present, rfl⟩ := List.mem_map.mp occurs
    exact terminal record present

end ImageBatch.BatchSummary
