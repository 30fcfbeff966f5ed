import ImageBatch.Proofs.Tracker.Reach

/-!
Time in whole milliseconds.

A run `Ticks` if it is punctual and all that sets an instant from outside sets a whole millisecond: the answers
of the service and the cancellation. Then its clock shows whole milliseconds only (`Setting.Meets.ticks`),
whatever lies between two polls and however long a job may take.
-/

namespace ImageBatch

namespace Instant

/-- The instant is a whole millisecond. -/
def IsWhole (t : Nat) : Prop := t % 1000000 = 0

instance (t : Nat) : Decidable (IsWhole t) := inferInstanceAs (Decidable (t % 1000000 = 0))

theorem isWhole_nextTick (t : Nat) : IsWhole (nextTick t) := by unfold IsWhole nextTick; omega

theorem IsWhole.nextTick_eq {t : Nat} (whole : IsWhole t) : nextTick t = t := by
  unfold IsWhole at whole
  unfold nextTick
  omega

theorem IsWhole.add {t u : Nat} (whole : IsWhole t) (more : IsWhole u) : IsWhole (t + u) := by
  unfold IsWhole at *
  omega

theorem IsWhole.min {t u : Nat} (whole : IsWhole t) (other : IsWhole u) : IsWhole (min t u) := by
  rw [Nat.min_def]
  split
  · exact whole
  · exact other

end Instant

namespace Timestamp

open Instant

theorem isWhole_plus {t : Timestamp} {d : Nat} (whole : IsWhole t.nanos) (length : IsWhole d) :
    IsWhole (t.plus d).nanos := by
  unfold IsWhole at *
  unfold plus
  dsimp only
  split
  · split <;> dsimp only <;> omega
  · dsimp only
    omega

theorem isWhole_remaining {t now : Timestamp} (whole : IsWhole t.nanos) (other : IsWhole now.nanos) :
    IsWhole (t.remaining now) := by
  unfold IsWhole at *
  unfold remaining since
  dsimp only
  generalize t.seconds - now.seconds + _ = seconds
  omega

end Timestamp

namespace Tracker

variable {Ask : Type} {Answer : Ask → Type} {σ : Type} {setting : Setting Ask Answer σ}
  {s t : Situation Ask Answer σ} {touched : Option String}

open Instant

/-- The run is punctual, and nothing outside it sets an instant that is not a whole millisecond. -/
structure Setting.Ticks (setting : Setting Ask Answer σ) : Prop where
  punctual : setting.punctual = true
  answers : ∀ question disk now state, IsWhole now →
    IsWhole (setting.service.respond question disk now state).comesAt
  cancelAt : ∀ t, setting.cancelAt = some t → IsWhole t

/-- Something happens to the operation at whole milliseconds only. -/
structure Operation.Ticks (operation : Operation Ask Answer) : Prop where
  resumeAt : IsWhole operation.resumeAt
  limit : ∀ limit ∈ operation.limit, IsWhole limit.1

theorem Operation.Ticks.eventAt {operation : Operation Ask Answer} (ticks : operation.Ticks) :
    IsWhole operation.eventAt := by
  unfold Operation.eventAt
  cases limited : operation.limit with
  | none => exact ticks.resumeAt
  | some limit => exact ticks.resumeAt.min (ticks.limit limit limited)

theorem Operation.ticks_start (backend : Backend Ask Answer) {now : Nat} (whole : IsWhole now)
    (activity : Activity) : (start backend now activity).Ticks := by
  cases activity with
  | submitting key warnings job => exact ⟨whole, by simp [start]⟩
  | observing job => exact ⟨whole, by simp [start, isWhole_nextTick]⟩

/-- The clock, all operations and the journal keep to whole milliseconds. -/
structure Situation.Ticks (s : Situation Ask Answer σ) : Prop where
  now : IsWhole s.world.now
  operations : ∀ operation ∈ s.operations, operation.Ticks
  journal : ∀ entry ∈ s.run.journal, IsWhole entry.1

theorem Step.ticks (ticking : setting.Ticks) (ticks : s.Ticks) (step : Step setting touched s t) :
    t.Ticks := by
  have begins {run activity} (same : run.journal = s.run.journal) : (s.starts setting run activity).Ticks := by
    refine ⟨ticks.now, fun operation member => ?_, fun entry member => ?_⟩
    · obtain member | member := List.mem_append.mp member
      · exact ticks.operations operation member
      · exact List.mem_singleton.mp member ▸ Operation.ticks_start _ ticks.now _
    · obtain rfl | member := List.mem_cons.mp member
      · exact ticks.now
      · exact ticks.journal entry (same ▸ member)
  have concludes {run : Run} {completion} (same : run.journal = s.run.journal) : ∀ entry ∈
      (run.conclude setting.config s.world.now (s.moment setting) completion).journal, IsWhole entry.1 := by
    obtain ⟨_, _, _, -, -, -, -, effect⟩ :=
      Run.conclude_frame setting.config s.world.now (s.moment setting) run completion
    simpa [effect, same] using And.intro ticks.now ticks.journal
  cases step with
  | saves | notices | skips => exact ⟨ticks.now, ticks.operations, ticks.journal⟩
  | drains cancelled =>
      rw [Run.noteCancelled_frame]
      exact ⟨ticks.now, ticks.operations, ticks.journal⟩
  | @fails _ key rest features e going queued free known unresolved =>
      obtain ⟨_, _, _, -, -, -, effect⟩ :=
        Run.apply_frame s.world.now (s.moment setting) s.run.store key (.constructionFailed e.message)
      refine ⟨ticks.now, ticks.operations, ?_⟩
      rw [effect (s.queue rest) rfl]
      exact List.forall_mem_cons.mpr ⟨ticks.now, ticks.journal⟩
  | submits | polls => exact begins rfl
  | waits u filled later next =>
      refine ⟨?_, ticks.operations, ticks.journal⟩
      obtain cancel | ⟨operation, member, rfl⟩ | ⟨job, -, rfl⟩ := (next ticking.punctual).event
      · exact ticking.cancelAt u cancel
      · exact (ticks.operations operation member).eventAt
      · exact isWhole_nextTick _
  | asks picked due asks replied =>
      obtain ⟨present, rest⟩ := Situation.mem_of_picked picked
      refine ⟨ticks.now, fun operation member => ?_, ticks.journal⟩
      obtain rfl | member := List.mem_cons.mp member
      · exact ⟨replied ▸ ticking.answers _ _ _ _ ticks.now, (ticks.operations _ present).limit⟩
      · exact ticks.operations operation (rest operation member)
  | concludes picked ends own nameable =>
      obtain ⟨-, rest⟩ := Situation.mem_of_picked picked
      exact ⟨ticks.now, fun operation member => ticks.operations operation (rest operation member),
        concludes rfl⟩
  | expires => exact ⟨ticks.now, ticks.operations, concludes rfl⟩

variable {store : BatchStore} {world : World σ} {opening : Situation Ask Answer σ}

theorem Setting.opening_ticks (start : IsWhole world.now) (opened : setting.opening store world = .ok opening) :
    opening.Ticks := by
  obtain ⟨run, started, rfl⟩ := opening_eq opened
  obtain ⟨_, _, _, rfl, -⟩ := Run.placeAll_frame started
  exact ⟨start, by simp [Run.still], by simp [Run.still]⟩

/-- The clock of a ticking run shows whole milliseconds. -/
theorem Setting.Meets.ticks (ticking : setting.Ticks) (start : IsWhole world.now)
    (met : setting.Meets store world s) : s.Ticks := by
  obtain ⟨opening, keys, opened, path⟩ := met
  exact path.invariant (fun ticks step => step.ticks ticking ticks) (opening_ticks start opened)

end Tracker

end ImageBatch
