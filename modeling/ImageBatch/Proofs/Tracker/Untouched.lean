import ImageBatch.Proofs.Batch.Changes
import ImageBatch.Proofs.Tracker.Reach

/-!
What a run leaves alone.

A step changes at most the record of the job that it concerns (`Step.changed`), and opening a run at most those
of the batch (`Setting.opening_changed`). So in every run only the records of the batch's keys change, and the
journal mentions no other key (`Setting.Meets.changed`, `Setting.Meets.untouched`).
-/

namespace ImageBatch.Tracker

open BatchStore

variable {Ask : Type} {Answer : Ask → Type} {σ : Type} {setting : Setting Ask Answer σ}
  {s t : Situation Ask Answer σ} {key : String}

namespace Run

theorem apply_changed (now : Nat) (moment : Timestamp) (run : Run) (key : String) (event : JobEvent) :
    Changed [key] run.store (run.apply now moment key event).1.store := by
  unfold apply
  cases found : run.store.get? key with
  | none => exact .refl ..
  | some record =>
      cases taken : record.transition event moment with
      | error e => simpa [taken, note] using Changed.refl [key] run.store
      | ok next =>
          have own : next.userId = key :=
            (JobRecord.transition_userId taken).trans (BatchStore.userId_of_get? found)
          simpa [taken, own] using changed_put run.store next

theorem conclude_changed (config : Config) (now : Nat) (moment : Timestamp) (run : Run) (completion : Completion) :
    Changed [completion.key] run.store (run.conclude config now moment completion).store := by
  have applied := apply_changed now moment
    (((run.note now (.concluded completion)).release completion.key).drained completion.key) completion.key
    completion.event
  unfold conclude
  simp only [settle_eq]
  split
  · split <;> exact applied
  · exact applied

theorem place_changed {config : Config} {now : Nat} {moment : Timestamp} {run run' : Run}
    (placed : place config now moment run key = .ok run') : Changed [key] run.store run'.store := by
  cases present : run.store.get? key with
  | none =>
      obtain rfl : run = run' := by simpa [place, present] using placed
      exact .refl ..
  | some found =>
      obtain ⟨_, -, rfl⟩ := place_eq Unit (fun _ => Unit) placed present
      have own : found.userId = key := BatchStore.userId_of_get? present
      have own : found.reset.userId = key := own
      dsimp only
      split
      · exact own ▸ changed_put run.store found.reset
      · exact .refl ..

end Run

/-- A step changes at most the record of the job that it concerns. -/
theorem Step.changed {touched : Option String} (step : Step setting touched s t) :
    Changed touched.toList s.run.store t.run.store := by
  cases step with
  | waits | saves | notices | skips | submits | asks | polls => exact .refl ..
  | drains cancelled =>
      rw [Run.noteCancelled_frame]
      exact .refl ..
  | @fails _ key rest features e going queued free known unresolved =>
      exact Run.apply_changed s.world.now (s.moment setting) (s.queue rest) key (.constructionFailed e.message)
  | concludes picked ends own nameable => exact own ▸ Run.conclude_changed ..
  | @expires _ before job after held due =>
      exact Run.conclude_changed setting.config s.world.now (s.moment setting) (s.parked (before ++ after))
        (.observed job .deadlineExceeded)

/-- The job that a step concerns is one that the run has to do with. -/
theorem Step.mem_keys (step : Step setting (some key) s t) : key ∈ s.keys := by
  generalize touches : some key = touched at step
  simp only [Situation.keys, List.mem_append, List.mem_map]
  cases step with
  | waits | saves | notices | drains => cases touches
  | skips going queued | fails going queued | submits going queued =>
      cases touches
      simp [queued]
  | asks picked | concludes picked =>
      cases touches
      have present := (Situation.mem_of_picked picked).1
      grind
  | polls held | expires held =>
      cases touches
      have present : _ ∈ s.run.waiting := held ▸ List.mem_append_right _ List.mem_cons_self
      grind

/-- A path concerns keys that the run has to do with. -/
theorem Path.keys_subset {keys : List String} (path : Path setting keys s t) : keys ⊆ s.keys := by
  induction path with
  | refl => exact List.nil_subset _
  | step path step ih =>
      refine List.append_subset.mpr ⟨ih, fun key touched => ?_⟩
      obtain rfl := Option.mem_toList.mp touched
      exact path.mentions step.mem_keys

namespace Setting

variable {store : BatchStore} {world : World σ} {opening : Situation Ask Answer σ}

theorem opening_changed (opened : setting.opening store world = .ok opening) :
    Changed setting.batch.keys store opening.run.store := by
  refine opening_store opened (changed_enroll store setting.batch.keys) fun store found member _ changed => ?_
  exact changed.trans ((changed_put store found.reset).mono (List.cons_subset.mpr ⟨member, List.nil_subset _⟩))

/-- A run changes only records of its batch. -/
theorem Meets.changed (met : setting.Meets store world s) : Changed setting.batch.keys store s.run.store := by
  obtain ⟨opening, keys, opened, path⟩ := met
  have kept : Changed setting.batch.keys store s.run.store ∧ s.keys ⊆ setting.batch.keys := by
    refine path.invariant (P := fun s => Changed setting.batch.keys store s.run.store ∧ s.keys ⊆ setting.batch.keys)
      ?_ ⟨opening_changed opened, opening_keys opened⟩
    rintro touched s t ⟨changed, within⟩ step
    refine ⟨changed.trans (step.changed.mono fun key touches => ?_), fun key mentioned => ?_⟩
    · obtain rfl := Option.mem_toList.mp touches
      exact within step.mem_keys
    · exact within (step.mentions mentioned)
  exact kept.1

/-- A run has nothing to do with other keys. -/
theorem Meets.untouched (met : setting.Meets store world s) (strange : key ∉ setting.batch.keys) :
    s.run.store.recordOf key = store.recordOf key ∧ s.run.journal.filter (·.2.key == key) = [] := by
  refine ⟨by rw [recordOf, recordOf, met.changed.others key strange], ?_⟩
  simp only [List.filter_eq_nil_iff, beq_iff_eq]
  rintro entry noted rfl
  exact strange (met.keys_subset (List.mem_append_right _ (List.mem_map_of_mem noted)))

end Setting

end ImageBatch.Tracker
