import ImageBatch.Proofs.Tracker.Reach

/-!
Where a round waits.

A round that neither fails to save nor ends has one situation in which it waits for the next event:
`Situation.waits?` names it, and the rest of the round is what `await` makes of it (`Situation.round_of_waits`).
Nothing more can be submitted then (`Situation.waits_path`). A round after the cancellation submits nothing: it is
what is left of a round that has just noticed it (`Situation.round_of_noticed`).
-/

namespace ImageBatch.Tracker

variable {Ask : Type} {Answer : Ask → Type} {σ : Type} {setting : Setting Ask Answer σ} {choice : Choice}
  {s t : Situation Ask Answer σ}

namespace Situation

/-- Notes a cancellation that was noticed. -/
def noted (s : Situation Ask Answer σ) : Situation Ask Answer σ :=
  if s.cancelled then { s with run := s.run.noteCancelled } else s

theorem noted_of_cancelled (cancelled : s.cancelled = true) : s.noted = { s with run := s.run.noteCancelled } :=
  if_pos cancelled

/-- Noting a cancellation changes the marks alone. -/
theorem noted_frame (s : Situation Ask Answer σ) :
    s.noted.run.journal = s.run.journal ∧ s.noted.run.pending = s.run.pending ∧ s.noted.cancelled = s.cancelled := by
  unfold noted
  split
  · rw [Run.noteCancelled_frame]
    exact ⟨rfl, rfl, rfl⟩
  · exact ⟨rfl, rfl, rfl⟩

theorem noted_path {keys : List String} (path : Path setting keys s t) : Path setting keys s t.noted := by
  unfold noted
  split
  next cancelled => exact path.quiet (.drains cancelled)
  next => exact path

variable (setting) (choice) in
/-- The situation in which a round waits, if it gets there. -/
def waits? (s : Situation Ask Answer σ) : Option (Situation Ask Answer σ) :=
  match s.fill setting choice with
  | .goesOn filled => if filled.noted.run.isOver then none else some filled.noted
  | .over _ | .failed _ _ => none

theorem round_of_waits (waits : s.waits? setting choice = some t) :
    s.round setting choice = t.await setting choice := by
  unfold waits? at waits
  unfold round
  split at waits
  next filled same =>
      split at waits
      · cases waits
      next open_ =>
          cases waits
          rw [same]
          exact if_neg open_
  · cases waits
  · cases waits

/-- What a round submits, it submits one after another, until nothing more can be submitted, and then it saves. -/
theorem fill_goesOn (filled : s.fill setting choice = .goesOn t) :
    ∃ keys, Path setting keys s t ∧ s.run.pending = keys ++ t.run.pending ∧ t.Filled setting := by
  obtain ⟨keys, u, path, queue, settled, going | saved⟩ := fill_path setting choice s
  · cases filled.symm.trans going
    exact ⟨keys, path, queue, settled⟩
  · obtain ⟨disk, rfl⟩ := eq_of_save (saved.symm.trans filled)
    exact ⟨keys, path.quiet (.saves disk), queue, settled⟩

/-- Steps lead to the situation in which a round waits, and nothing more can be submitted there. -/
theorem waits_path (waits : s.waits? setting choice = some t) :
    ∃ keys, Path setting keys s t ∧ s.run.pending = keys ++ t.run.pending ∧ t.Filled setting := by
  unfold waits? at waits
  split at waits
  next filled same =>
      obtain ⟨keys, path, queue, settled⟩ := fill_goesOn same
      obtain ⟨-, pending, cancelled⟩ := filled.noted_frame
      split at waits
      · cases waits
      · cases waits
        refine ⟨keys, noted_path path, queue.trans (congrArg (keys ++ ·) pending.symm), ?_⟩
        cases still : filled.cancelled with
        | true => exact .inl (cancelled.trans still)
        | false =>
            rw [noted, still]
            exact settled
  · cases waits
  · cases waits

/-! ### After a cancellation -/

/-- What is left of a round that has noticed the cancellation is a round of its own. -/
theorem round_of_noticed (noticed : s.fill setting choice = .goesOn t) (cancelled : t.cancelled = true) :
    s.round setting choice = t.round setting choice := by
  unfold round
  rw [noticed, fill_of_cancelled cancelled]

/-- After the cancellation a round notes it first, and does something for a job if it goes on. -/
theorem noted_leads (setting : Setting Ask Answer σ) (choice : Choice) (proper : s.noted.Proper)
    (cancelled : s.cancelled = true) : Leads setting s.noted (s.round setting choice) := by
  have filled : s.noted.Filled setting := .inl (by rw [noted_of_cancelled cancelled]; exact cancelled)
  have same : s.round setting choice =
      if s.noted.run.isOver then .over s.noted else s.noted.await setting choice := by
    unfold round
    rw [fill_of_cancelled cancelled]
    rfl
  rw [same]
  split
  next ended => exact .ends (.refl _) filled (rests_of_isOver ended)
  next => exact await_leads proper filled

end Situation

end ImageBatch.Tracker
