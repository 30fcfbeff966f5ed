import ImageBatch.Proofs.Job.Summary
import ImageBatch.Proofs.Tracker.Records
import ImageBatch.Proofs.Batch.Chronicle
import ImageBatch.Proofs.Tracker.Isolation

/-!
A run that ends is complete.

Nothing is left pending when a run ends that was not cancelled, and a job is gone only once its record is at its end.
So every key of the batch has one record, at its end, and the summary counts as many of them as there are keys
(`Setting.run_complete`).
-/

namespace ImageBatch.Tracker

variable {Ask : Type} {Answer : Ask → Type} {σ : Type} {setting : Setting Ask Answer σ} {store store' : BatchStore}
  {world : World σ} {s last : Situation Ask Answer σ} {key : String}

/-- The records of a batch are those of its keys. -/
theorem Batch.mem_records {batch : Batch} {record : JobRecord} :
    record ∈ batch.records store ↔ record ∈ store.records ∧ record.userId ∈ batch.keys := by
  simp [records, mem_keys]

/-- Once each key has a record and none has two, the batch has as many records as keys. -/
theorem Batch.length_records {batch : Batch} (extended : store.Extends batch.keys store')
    (distinct : store'.Distinct) : (batch.records store').length = batch.keys.length := by
  suffices ((batch.records store').map (·.userId)).Perm batch.keys by
    rw [← this.length_eq, List.length_map]
  have once : ((batch.records store').map (·.userId)).Nodup :=
    (List.filter_sublist.map JobRecord.userId).nodup distinct
  refine (List.perm_ext_iff_of_nodup once batch.nodup_keys).mpr fun key => ?_
  rw [List.mem_map]
  constructor
  · rintro ⟨record, present, rfl⟩
    exact (mem_records.mp present).2
  · intro member
    obtain ⟨record, present, rfl⟩ := List.mem_map.mp (extended.mem_ids member)
    exact ⟨record, mem_records.mpr ⟨present, member⟩, rfl⟩

namespace Setting

/-- When a run ends that was not cancelled, the record of every key is at its end. -/
theorem Finishes.terminal (finished : setting.Finishes store world last) (going : last.cancelled = false)
    (member : key ∈ setting.batch.keys) :
    ∃ record, last.run.store.get? key = some record ∧ record.status.isTerminal = true := by
  obtain ⟨met, filled, rests⟩ := finished.meets
  obtain ⟨view, shows, sound⟩ := met.shows member
  refine ⟨view.record, shows.record, ?_⟩
  have gone := met.gone_of_rests going filled rests shows sound
  have unowed : view.owed = none := by
    rw [← shows.owed, met.proper.unmarked going]
    rfl
  have fits := sound.fits
  unfold View.Fits at fits
  rw [gone] at fits
  exact fits.resolve_right fun owing => nomatch unowed.symm.trans owing.1

/-- Wherever a run is left, its records stand where they stood, and the new ones after them. -/
theorem Leaves.extends (leaves : setting.Leaves store world s) : store.Extends setting.batch.keys s.run.store := by
  obtain ⟨t, met, same, -⟩ := leaves.meets
  rw [← same]
  exact met.extends

/-- However a run is left, the records that were there stand in their places, those of other keys than the batch's are
as they were, and the new ones come after them in the order of the batch. If it ends well and noticed no cancellation,
every key of the batch has one record, which is at its end, and the summary is complete and counts each key once. -/
theorem run_complete (setting : Setting Ask Answer σ) (store : BatchStore) (world : World σ)
    (distinct : store.Distinct) :
    (∀ s, setting.Leaves store world s → store.Extends setting.batch.keys s.run.store) ∧
      ∀ last, setting.Finishes store world last → last.cancelled = false →
        (∀ key ∈ setting.batch.keys, ∃ record, last.run.store.records.filter (·.userId == key) = [record] ∧
          record.status.isTerminal = true) ∧
        (last.summary setting).isComplete = true ∧ (last.summary setting).total = setting.batch.keys.length := by
  refine ⟨fun s leaves => leaves.extends, fun last finished going => ?_⟩
  have met := finished.meets.1
  have apart := met.changed.distinct distinct
  refine ⟨fun key member => ?_, ?_, Batch.length_records met.extends apart⟩
  · obtain ⟨record, found, terminal⟩ := finished.terminal going member
    exact ⟨record, apart.filter_eq found, terminal⟩
  · refine BatchSummary.isComplete_ofRecords.mpr fun record present => ?_
    obtain ⟨present, member⟩ := Batch.mem_records.mp present
    obtain ⟨found, kept, terminal⟩ := finished.terminal going member
    cases (apart.get?_of_mem present).symm.trans kept
    exact terminal

/-- A store with a record of a job that has failed, and one of a job of no batch. -/
def halfDone : BatchStore :=
  ⟨none, [(JobRecord.fresh "eve").terminate .failed .construction "no template" ⟨0, 0⟩, .fresh "zoe"]⟩

/-- A run of three jobs over a store that has the record of one of them. -/
theorem run_complete_halfDone : ∃ last, (prompted ["ada", "eve", "bob"]).Finishes halfDone ⟨(), ⟨[]⟩, 0⟩ last ∧
    last.run.store.records.map (·.userId) = ["eve", "zoe", "ada", "bob"] ∧
    (last.summary (prompted ["ada", "eve", "bob"])).isComplete = true ∧
    (last.summary (prompted ["ada", "eve", "bob"])).total = 3 := by
  obtain ⟨last, finished, going⟩ : ∃ last, (prompted ["ada", "eve", "bob"]).Finishes halfDone ⟨(), ⟨[]⟩, 0⟩ last ∧
      last.cancelled = false :=
    ⟨_, ⟨_, {}, .round {} (.round {} (.round {} (.round {} (.round {} (.opening rfl rfl) rfl) rfl) rfl) rfl) rfl,
      rfl⟩, rfl⟩
  obtain ⟨extends_, complete⟩ := run_complete (prompted ["ada", "eve", "bob"]) halfDone ⟨(), ⟨[]⟩, 0⟩
    (by unfold BatchStore.Distinct; decide)
  obtain ⟨-, summary⟩ := complete last finished going
  obtain ⟨s, choice, reached, ended⟩ := id finished
  have ids := (extends_ last (.inr (.inr ⟨s, choice, reached, by rw [ended]; rfl⟩))).ids
  exact ⟨last, finished, ids, summary⟩

end Setting

end ImageBatch.Tracker
