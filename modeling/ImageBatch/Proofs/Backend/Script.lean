import ImageBatch.Backend.Rehearsal
import ImageBatch.Proofs.Tracker.Separation
import ImageBatch.Proofs.Tracker.Ticks

/-!
Services that follow a script.

A `Script` has the answer to each call of each kind for each job, and how long the call takes. A service that follows it
treats every job on its own (`Script.separation`).
-/

namespace ImageBatch

/-- What a service does for each key: the answer to each call of each kind, and how long it takes. -/
structure Script where
  submits : (key : String) → (n : Nat) → Line (Except BackendError String)
  polls : (key : String) → (n : Nat) → Line (Except BackendError BackendStatus)
  fetches : (key : String) → (n : Nat) → Line (Except BackendError ResultReference)
  /-- The key of the job that the service knows by an id. -/
  owner : String → String
  owns : ∀ key n jobId, (submits key n).outcome = .ok jobId → owner jobId = key

namespace Script

/-- How many calls of each kind there were for a key. -/
structure Counts where
  submits : Nat := 0
  polls : Nat := 0
  fetches : Nat := 0

variable (script : Script)

/-- The key that a call is about. -/
def about : Rehearsal.Ask → String
  | .submit key => key
  | .poll jobId | .fetch jobId => script.owner jobId
  | .download filename => filename

/-- What comes of a call after so many for its key. -/
def answer : (question : Rehearsal.Ask) → Counts → Rehearsal.Answer question
  | .submit key, counts => (script.submits key counts.submits).outcome
  | .poll jobId, counts => (script.polls (script.owner jobId) counts.polls).outcome
  | .fetch jobId, counts => (script.fetches (script.owner jobId) counts.fetches).outcome
  | .download filename, _ => (.error (.protocol ("no output for " ++ filename)) : Except BackendError Bytes)

/-- How long a call takes after so many for its key. -/
def latency : Rehearsal.Ask → Counts → Nat
  | .submit key, counts => (script.submits key counts.submits).delay
  | .poll jobId, counts => (script.polls (script.owner jobId) counts.polls).delay
  | .fetch jobId, counts => (script.fetches (script.owner jobId) counts.fetches).delay
  | .download _, _ => 0

/-- Counts a call. -/
def count : Rehearsal.Ask → Counts → Counts
  | .submit _, counts => { counts with submits := counts.submits + 1 }
  | .poll _, counts => { counts with polls := counts.polls + 1 }
  | .fetch _, counts => { counts with fetches := counts.fetches + 1 }
  | .download _, counts => counts

/-- Follows the script. -/
def service : Service Rehearsal.Ask Rehearsal.Answer (String → Counts) where
  respond question _ now counts :=
    let key := script.about question
    ⟨script.answer question (counts key), now + script.latency question (counts key),
      fun other => if other = key then count question (counts other) else counts other⟩

/-- A service that follows a script treats every job on its own. -/
def separation : Tracker.Separation Rehearsal.backend script.service Counts where
  about question key := script.about question = key
  names jobId key := script.owner jobId = key
  part counts key := counts key
  answer := script.answer
  latency := script.latency
  after := count
  answers _ _ _ _ _ own := own ▸ rfl
  times _ _ _ _ _ own := own ▸ rfl
  parts _ _ _ _ _ own _ := own ▸ rfl
  submits job := ⟨rfl, fun _ ⟨counts, said⟩ jobId taken =>
    script.owns job.key counts.submits jobId (said.symm.trans taken)⟩
  observes jobId key own := by
    refine ⟨own, fun status _ => ?_⟩
    match status with
    | .ok .queued | .ok .running | .ok (.error _) => trivial
    | .ok .done =>
        refine ⟨own, fun reference _ => ?_⟩
        match reference with
        | .ok _ | .error _ => trivial
    | .error (.retriesExhausted ..) | .error (.unavailable _) | .error (.rejected _) | .error (.protocol _)
    | .error (.localFile ..) => trivial

/-- Calls take whole milliseconds if the script says so. -/
theorem isWhole_latency {script : Script} (submits : ∀ key n, Instant.IsWhole (script.submits key n).delay)
    (polls : ∀ key n, Instant.IsWhole (script.polls key n).delay)
    (fetches : ∀ key n, Instant.IsWhole (script.fetches key n).delay) (question : Rehearsal.Ask)
    (counts : Script.Counts) : Instant.IsWhole (script.latency question counts) := by
  cases question with
  | submit key => exact submits ..
  | poll jobId => exact polls ..
  | fetch jobId => exact fetches ..
  | download filename => rfl

end Script

end ImageBatch
