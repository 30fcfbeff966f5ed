import ImageBatch.Proofs.Tracker.Effects
import ImageBatch.Proofs.Tracker.Operation

/-!
Rounds as single steps.

A round may submit several jobs, wake several more and let time pass. `Step` is one thing that happens in a
run, together with the key of the one job that it concerns, and `Path` a sequence of such steps.
`Situation.round_leads` takes every round apart into steps, whatever choices are made; so what each step keeps,
each run keeps.
-/

namespace ImageBatch.Tracker

variable {Ask : Type} {Answer : Ask → Type} {σ : Type}

namespace Situation

/-- Nothing more can be submitted now. -/
def Filled (setting : Setting Ask Answer σ) (s : Situation Ask Answer σ) : Prop :=
  s.cancelled = true ∨ s.run.pending = [] ∨ setting.config.slots ≤ s.run.occupied

/-- With every slot free, what can be submitted is submitted. -/
theorem Filled.nothing_pending {setting : Setting Ask Answer σ} {s : Situation Ask Answer σ} (filled : s.Filled setting)
    (going : s.cancelled = false) (waiting : s.run.waiting = []) (active : s.run.active = []) : s.run.pending = [] := by
  rcases filled with cancelled | none_ | occupied
  · cases going.symm.trans cancelled
  · exact none_
  · rw [Run.occupied, waiting, active] at occupied
    exact absurd occupied (Nat.not_le.mpr (Nat.lt_of_lt_of_le Nat.one_pos (Nat.le_max_right ..)))

/-- The instant is the next one at which something happens. -/
structure Next (setting : Setting Ask Answer σ) (s : Situation Ask Answer σ) (t : Nat) : Prop where
  operations : ∀ operation ∈ s.operations, t ≤ operation.eventAt
  waiting : ∀ job ∈ s.run.waiting, t ≤ Instant.nextTick job.wakeAt
  event : setting.cancelAt = some t ∨ (∃ operation ∈ s.operations, t = operation.eventAt) ∨
    ∃ job ∈ s.run.waiting, t = Instant.nextTick job.wakeAt

/-- A run with other pending keys. -/
def queue (s : Situation Ask Answer σ) (pending : List String) : Run := { s.run with pending }

/-- A run with other waiting jobs. -/
def parked (s : Situation Ask Answer σ) (waiting : List InFlight) : Run := { s.run with waiting }

/-- An operation begins in a run. -/
def starts (setting : Setting Ask Answer σ) (s : Situation Ask Answer σ) (run : Run) (activity : Activity) :
    Situation Ask Answer σ :=
  launch setting { s with run := run.begin s.world.now activity } [activity]

end Situation

/-- One thing that happens in a run, and the key of the job that it concerns, if it concerns one. -/
inductive Step (setting : Setting Ask Answer σ) :
    Option String → Situation Ask Answer σ → Situation Ask Answer σ → Prop where
  /-- Time passes, in a punctual run up to the next instant at which something happens. -/
  | waits {s} (t : Nat) (filled : s.Filled setting) (later : s.world.now ≤ t)
      (next : setting.punctual = true → s.Next setting t) :
      Step setting none s { s with world := { s.world with now := t } }
  | saves {s} (disk : Disk) : Step setting none s { s with world := { s.world with disk } }
  /-- The cancellation is noticed. -/
  | notices {s} (due : s.cancellationDue setting = true) : Step setting none s { s with cancelled := true }
  /-- All jobs under way are marked for one more outcome. -/
  | drains {s} (cancelled : s.cancelled = true) : Step setting none s { s with run := s.run.noteCancelled }
  /-- A key that the batch does not have is dropped. -/
  | skips {s key rest} (going : s.cancelled = false) (queued : s.run.pending = key :: rest)
      (unknown : setting.batch.features? key = none) :
      Step setting (some key) s { s with run := s.queue rest }
  /-- A job cannot be built. -/
  | fails {s key rest features e} (going : s.cancelled = false) (queued : s.run.pending = key :: rest)
      (free : s.run.occupied < setting.config.slots) (known : setting.batch.features? key = some features)
      (unresolved : setting.batch.template.resolve features = .error e) :
      Step setting (some key) s { s with
        run := ((s.queue rest).apply s.world.now (s.moment setting) key (.constructionFailed e.message)).1 }
  /-- A job is submitted. -/
  | submits {s key rest features job} (going : s.cancelled = false) (queued : s.run.pending = key :: rest)
      (free : s.run.occupied < setting.config.slots) (known : setting.batch.features? key = some features)
      (resolved : setting.batch.template.resolve features = .ok job) :
      Step setting (some key) s
        (s.starts setting (s.queue rest) (.submitting key (Run.warnings features job) job))
  /-- An operation asks and gets its answer. -/
  | asks {s operation others question next reply}
      (picked : (operation, others) ∈ Situation.dueOperations s.world.now s.operations)
      (due : operation.resumeAt ≤ s.world.now) (asks : operation.task = .ask question next)
      (replied : setting.service.respond question s.world.disk s.world.now s.world.state = reply) :
      Step setting (some operation.key) s { s with
        operations := { operation with task := next reply.answer, resumeAt := reply.comesAt } :: others
        world := { s.world with state := reply.state } }
  /-- An operation ends. -/
  | concludes {s operation others completion}
      (picked : (operation, others) ∈ Situation.dueOperations s.world.now s.operations)
      (ends : operation.EndsWith s.world.now completion) (own : completion.key = operation.key)
      (nameable : s.run.canConclude setting.config s.world.now (s.moment setting) completion = true) :
      Step setting (some operation.key) s { s with
        operations := others
        run := s.run.conclude setting.config s.world.now (s.moment setting) completion }
  /-- The observation of a waiting job begins. -/
  | polls {s before job after} (held : s.run.waiting = before ++ job :: after)
      (due : job.wakeAt ≤ s.world.now) (early : s.world.now < job.deadline) :
      Step setting (some job.key) s
        (s.starts setting (s.parked (before ++ after)) (.observing job))
  /-- The deadline of a waiting job has come. -/
  | expires {s before job after} (held : s.run.waiting = before ++ job :: after)
      (due : job.deadline ≤ s.world.now) :
      Step setting (some job.key) s { s with
        run := (s.parked (before ++ after)).conclude setting.config s.world.now (s.moment setting)
          (.observed job .deadlineExceeded) }

/-- Steps one after another, with the keys of the jobs that they concern. -/
inductive Path (setting : Setting Ask Answer σ) :
    List String → Situation Ask Answer σ → Situation Ask Answer σ → Prop where
  | refl (s) : Path setting [] s s
  | step {keys touched s t u} : Path setting keys s t → Step setting touched t u →
      Path setting (keys ++ touched.toList) s u

variable {setting : Setting Ask Answer σ} {s t u : Situation Ask Answer σ} {keys more : List String}

theorem Step.path {touched : Option String} (step : Step setting touched s t) :
    Path setting touched.toList s t := by
  simpa using Path.step (.refl s) step

/-- A step that concerns no job adds no key. -/
theorem Path.quiet (path : Path setting keys s t) (step : Step setting none t u) :
    Path setting keys s u := by
  simpa using path.step step

theorem Path.trans (first : Path setting keys s t) (second : Path setting more t u) :
    Path setting (keys ++ more) s u := by
  induction second with
  | refl => simpa using first
  | step path step ih => simpa [List.append_assoc] using Path.step (ih first) step

/-- What every step keeps, a path keeps. -/
theorem Path.invariant {P : Situation Ask Answer σ → Prop}
    (keeps : ∀ {touched s t}, P s → Step setting touched s t → P t) (path : Path setting keys s t)
    (start : P s) : P t := by
  induction path with
  | refl => exact start
  | step _ step ih => exact keeps (ih start) step

/-- A cancellation that was noticed stays so. -/
theorem Path.cancelled (path : Path setting keys s t) (cancelled : s.cancelled = true) : t.cancelled = true := by
  refine path.invariant (P := fun s => s.cancelled = true) (fun {touched s t} cancelled step => ?_) cancelled
  cases step with
  | notices => rfl
  | _ => exact cancelled

end ImageBatch.Tracker
