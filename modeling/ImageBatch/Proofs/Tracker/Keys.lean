import ImageBatch.Tracker.Run

/-!
The keys of a batch: every feature set's key once, and features for every key.
-/

namespace ImageBatch.Tracker

variable {α : Type} [DecidableEq α]

/-- Without its repetitions a list has every member once. -/
theorem count_eraseDups (a : α) (list : List α) : list.eraseDups.count a = if a ∈ list then 1 else 0 := by
  induction length : list.length using Nat.strongRecOn generalizing list with
  | ind n ih =>
      cases list with
      | nil => simp
      | cons b rest =>
          have shorter : (rest.filter fun c => !c == b).length < n := by
            have := List.length_filter_le (fun c => !c == b) rest
            rw [List.length_cons] at length
            omega
          rw [List.eraseDups_cons, List.count_cons, ih _ shorter _ rfl]
          by_cases same : b = a
          · subst same
            simp
          · simp [same, Ne.symm same]

namespace Batch

variable {batch : Batch} {key : String}

theorem mem_keys : key ∈ batch.keys ↔ ∃ features ∈ batch.features, features.key = key := by
  simp [keys]

theorem count_keys (batch : Batch) (key : String) :
    batch.keys.count key = if key ∈ batch.keys then 1 else 0 := by
  simp only [keys, count_eraseDups, List.mem_eraseDups]

theorem nodup_keys (batch : Batch) : batch.keys.Nodup := by
  refine List.nodup_iff_count.mpr fun key => ?_
  rw [batch.count_keys]
  split <;> omega

/-- Every key of the batch has features, and they are under that key. -/
theorem features?_of_mem (member : key ∈ batch.keys) :
    ∃ features, batch.features? key = some features ∧ features.key = key := by
  obtain ⟨features, present, named⟩ := mem_keys.mp member
  cases found : batch.features? key with
  | none =>
      have other := List.find?_eq_none.mp found features present
      simp [named] at other
  | some first => exact ⟨first, rfl, by simpa using List.find?_some found⟩

end Batch

end ImageBatch.Tracker
