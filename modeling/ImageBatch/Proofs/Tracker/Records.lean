import ImageBatch.Proofs.Batch.Positions
import ImageBatch.Proofs.Tracker.Untouched

/-!
What a run does to the records.

A step leaves the store alone, or one record takes an event at the moment of the step (`Step.store_cases`). Opening a
run enrolls the keys of the batch and starts some records again (`Setting.opening_store`). So a run keeps every record
in its place, and appends the new ones in the order of the batch (`Setting.Meets.extends`).
-/

namespace ImageBatch.Tracker

variable {Ask : Type} {Answer : Ask → Type} {σ : Type} {setting : Setting Ask Answer σ}
  {s t : Situation Ask Answer σ} {key : String} {touched : Option String}

namespace Run

variable {config : Config} {now : Nat} {moment : Timestamp} {run run' : Run} {record : JobRecord}

/-- An event that is applied changes no record but by `JobRecord.transition`. -/
theorem apply_store (now : Nat) (moment : Timestamp) (run : Run) (key : String) (event : JobEvent) :
    (run.apply now moment key event).1.store = run.store ∨ ∃ record next, run.store.get? key = some record ∧
      record.transition event moment = .ok next ∧ (run.apply now moment key event).1.store = run.store.put next := by
  unfold apply
  cases found : run.store.get? key with
  | none => exact .inl rfl
  | some record =>
      cases taken : record.transition event moment with
      | error e => exact .inl (by simp only [taken]; rfl)
      | ok next => exact .inr ⟨record, next, rfl, taken, by simp only [taken]⟩

theorem conclude_store (config : Config) (now : Nat) (moment : Timestamp) (run : Run) (completion : Completion) :
    (run.conclude config now moment completion).store =
      (run.apply now moment completion.key completion.event).1.store := by
  obtain ⟨_, _, _, -, -, -, effect⟩ := apply_frame now moment run.store completion.key completion.event
  have same : ((((run.note now (.concluded completion)).release completion.key).drained completion.key).apply now
      moment completion.key completion.event).1.store =
      (run.apply now moment completion.key completion.event).1.store := by
    rw [effect run rfl, effect (((run.note now (.concluded completion)).release completion.key).drained _) rfl]
  unfold conclude
  simp only [settle_eq]
  split
  · split <;> exact same
  · exact same

end Run

/-- A step leaves the store alone, or the record of its job takes an event. -/
theorem Step.store_cases (step : Step setting touched s t) :
    t.run.store = s.run.store ∨ ∃ key record event next, touched = some key ∧ s.run.store.get? key = some record ∧
      record.transition event (s.moment setting) = .ok next ∧ t.run.store = s.run.store.put next := by
  have applies (run : Run) (same : run.store = s.run.store) (key : String) (event : JobEvent)
      (store : BatchStore) (applied : store = (run.apply s.world.now (s.moment setting) key event).1.store) :
      store = s.run.store ∨ ∃ other record event next, some key = some other ∧
        s.run.store.get? other = some record ∧ record.transition event (s.moment setting) = .ok next ∧
        store = s.run.store.put next := by
    rw [applied, ← same]
    refine (Run.apply_store s.world.now (s.moment setting) run key event).imp_right ?_
    rintro ⟨record, next, found, taken, put⟩
    exact ⟨key, record, event, next, rfl, found, taken, put⟩
  cases step with
  | waits | saves | notices | skips | submits | asks | polls => exact .inl rfl
  | drains cancelled =>
      rw [Run.noteCancelled_frame]
      exact .inl rfl
  | @fails _ key rest features e going queued free known unresolved =>
      exact applies (s.queue rest) rfl key (.constructionFailed e.message) _ rfl
  | @concludes _ operation others completion picked ends own nameable =>
      rw [← own]
      exact applies s.run rfl completion.key completion.event _ (Run.conclude_store ..)
  | @expires _ before job after held due =>
      exact applies (s.parked (before ++ after)) rfl job.key .deadlineExceeded _ (Run.conclude_store ..)

namespace Setting

variable {store : BatchStore} {world : World σ} {opening : Situation Ask Answer σ}

theorem opening_extends (opened : setting.opening store world = .ok opening) :
    store.Extends setting.batch.keys opening.run.store := by
  refine opening_store opened (BatchStore.extends_enroll store setting.batch.nodup_keys) ?_
  exact fun _ found member present extended => extended.put member present

/-- All through a run every record stands in its place, and the new ones after them in the order of the batch. -/
theorem Meets.extends (met : setting.Meets store world s) : store.Extends setting.batch.keys s.run.store := by
  obtain ⟨opening, keys, opened, path⟩ := met
  suffices s.keys ⊆ setting.batch.keys ∧ store.Extends setting.batch.keys s.run.store from this.2
  refine path.invariant (P := fun s => s.keys ⊆ setting.batch.keys ∧ store.Extends setting.batch.keys s.run.store)
    (fun {touched s t} ⟨within, extended⟩ step => ⟨fun _ mentioned => within (step.mentions mentioned), ?_⟩)
    ⟨opening_keys opened, opening_extends opened⟩
  obtain same | ⟨key, record, event, next, rfl, found, taken, put⟩ := step.store_cases
  · rw [same]
    exact extended
  · have named : next.userId = key := (JobRecord.transition_userId taken).trans (BatchStore.userId_of_get? found)
    rw [put]
    exact extended.put (named.symm ▸ within step.mem_keys) (by rw [named]; exact found)

end Setting

end ImageBatch.Tracker
