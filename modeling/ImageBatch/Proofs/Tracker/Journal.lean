import ImageBatch.Proofs.Tracker.Untouched

/-!
The journal over steps.

A step only adds to the journal, and only what concerns its own job (`Step.journal`), and so does a path
(`Path.journal`). What it adds to the journal it adds to the view of the job (`Step.notes`).
-/

namespace ImageBatch.Tracker

variable {Ask : Type} {Answer : Ask → Type} {σ : Type} {setting : Setting Ask Answer σ}
  {s t : Situation Ask Answer σ} {key : String} {keys : List String} {touched : Option String}
  {view view' : View Ask Answer}

/-- What a step enters into the journal concerns its job and happens now. -/
theorem Step.journal (step : Step setting touched s t) :
    ∃ new, t.run.journal = new ++ s.run.journal ∧
      ∀ entry ∈ new, touched = some entry.2.key ∧ entry.1 = s.world.now := by
  have concludes (run : Run) (same : run.journal = s.run.journal) (completion : Completion) :
      ∃ new, (run.conclude setting.config s.world.now (s.moment setting) completion).journal = new ++ s.run.journal ∧
        ∀ entry ∈ new, entry.2.key = completion.key ∧ entry.1 = s.world.now := by
    obtain ⟨_, what, _, own, -, -, -, effect⟩ :=
      Run.conclude_frame setting.config s.world.now (s.moment setting) run completion
    refine ⟨[(s.world.now, what), (s.world.now, .concluded completion)], by simp [effect, same], ?_⟩
    simp [own]
  cases step with
  | waits | saves | notices | skips | asks => exact ⟨[], rfl, by simp⟩
  | drains cancelled =>
      rw [Run.noteCancelled_frame]
      exact ⟨[], rfl, by simp⟩
  | @fails _ first rest features e going queued free known unresolved =>
      obtain ⟨_, what, _, own, -, -, effect⟩ :=
        Run.apply_frame s.world.now (s.moment setting) s.run.store first (.constructionFailed e.message)
      exact ⟨[(s.world.now, what)], by rw [effect (s.queue rest) rfl]; rfl, by simp [own]⟩
  | @submits _ first rest features job going queued free known resolved =>
      exact ⟨[(s.world.now, .began (.submitting first (Run.warnings features job) job))], rfl, by simp [Activity.key]⟩
  | @polls _ before job after held due early =>
      exact ⟨[(s.world.now, .began (.observing job))], rfl, by simp [Activity.key]⟩
  | @concludes _ operation others completion picked ends own nameable =>
      obtain ⟨new, same, mine⟩ := concludes s.run rfl completion
      exact ⟨new, same, fun entry member => by rw [(mine entry member).1, own]; exact ⟨rfl, (mine entry member).2⟩⟩
  | @expires _ before job after held due =>
      obtain ⟨new, same, mine⟩ := concludes (s.parked (before ++ after)) rfl (.observed job .deadlineExceeded)
      exact ⟨new, same, fun entry member => by rw [(mine entry member).1]; exact ⟨rfl, (mine entry member).2⟩⟩

/-- What a path enters into the journal concerns the jobs of its steps. -/
theorem Path.journal (path : Path setting keys s t) :
    ∃ new, t.run.journal = new ++ s.run.journal ∧ ∀ entry ∈ new, entry.2.key ∈ keys := by
  induction path with
  | refl => exact ⟨[], rfl, by simp⟩
  | step path step ih =>
      obtain ⟨new, same, mine⟩ := ih
      obtain ⟨newer, same', mine'⟩ := step.journal
      refine ⟨newer ++ new, by rw [same', same, List.append_assoc], ?_⟩
      intro entry member
      rcases List.mem_append.mp member with member | member
      · exact List.mem_append_right _ (by simp [(mine' entry member).1])
      · exact List.mem_append_left _ (mine entry member)

/-- What a step of a job enters, it enters into the view of the job. -/
theorem Step.notes (shows : s.Shows key view) (shown : t.Shows key view') (step : Step setting (some key) s t) :
    ∃ new, t.run.journal = new ++ s.run.journal ∧ view'.notes = new ++ view.notes := by
  obtain ⟨new, same, mine⟩ := step.journal
  refine ⟨new, same, ?_⟩
  have own : new.filter (·.2.key == key) = new := by
    refine List.filter_eq_self.mpr fun entry member => ?_
    simpa using (Option.some.inj (mine entry member).1).symm
  rw [← shown.notes, same, List.filter_append, own, shows.notes]

/-- A step of a pending job is one of submitting, with a slot free and no cancellation noticed. -/
theorem Step.free_of_pending (member : key ∈ setting.batch.keys) (shows : s.Shows key view)
    (pending : view.place = .pending) (step : Step setting (some key) s t) :
    s.cancelled = false ∧ s.run.occupied < setting.config.slots := by
  generalize touches : some key = touched at step
  cases step with
  | waits | saves | notices | drains => cases touches
  | skips going queued unknown =>
      obtain rfl := Option.some.inj touches
      obtain ⟨features, known, -⟩ := Batch.features?_of_mem member
      rw [unknown] at known
      cases known
  | fails going queued free | submits going queued free => exact ⟨going, free⟩
  | asks picked | concludes picked =>
      obtain rfl := Option.some.inj touches
      obtain ⟨⟨_, _, place⟩ | ⟨_, place⟩, -⟩ := shows.operation_of_picked picked
      all_goals
        rw [pending] at place
        cases place
  | polls held | expires held =>
      obtain rfl := Option.some.inj touches
      obtain ⟨place, -⟩ := shows.waiting_of_held held
      rw [pending] at place
      cases place

end ImageBatch.Tracker
