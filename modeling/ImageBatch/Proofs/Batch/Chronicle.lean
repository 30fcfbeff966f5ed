import ImageBatch.Artifact.Collect
import ImageBatch.Proofs.Job.Form
import ImageBatch.Proofs.Tracker.Places
import ImageBatch.Proofs.Tracker.Untouched

/-!
Chronicles: what becomes of a store over runs and collections.

A `Chronicle` is any sequence of runs of the tracker and of collections over a store that was empty at first,
together with the moments at which a record took an event. All its records keep to the form of their state, and
their moments are in order if the events came in turn (`Chronicle.records_formed`): applying an event, opening a
run, every step of a run and every collection keep this (`BatchStore.Kept`).
-/

namespace ImageBatch

open Tracker

/-! ### Stores -/

namespace BatchStore

variable {store : BatchStore} {record : JobRecord} {times : List Timestamp}

/-- All records have the form of their state and their moments from the events at these times. -/
def Kept (times : List Timestamp) (store : BatchStore) : Prop :=
  ∀ record ∈ store.records, record.Formed ∧ record.Dated times

theorem Kept.put {next : JobRecord} (kept : store.Kept times) (formed : next.Formed) (dated : next.Dated times) :
    (store.put next).Kept times := by
  intro record present
  rcases mem_put present with rfl | present
  · exact ⟨formed, dated⟩
  · exact kept record present

theorem Kept.later (kept : store.Kept times) (more : List Timestamp) : store.Kept (more ++ times) := by
  intro record present
  obtain ⟨formed, dated⟩ := kept record present
  exact ⟨formed, dated.later more⟩

theorem Kept.enroll (kept : store.Kept times) (userIds : List String) : (store.enroll userIds).1.Kept times := by
  intro record present
  rcases mem_enroll present with ⟨userId, rfl⟩ | present
  · exact ⟨JobRecord.formed_fresh userId, JobRecord.dated_fresh times userId⟩
  · exact kept record present

theorem Kept.of_get? {userId : String} (kept : store.Kept times) (found : store.get? userId = some record) :
    record.Formed ∧ record.Dated times :=
  kept record (List.mem_of_find?_eq_some found)

end BatchStore

open BatchStore

/-! ### Runs -/

/-- The moments at which records took the events of a journal. -/
def Clock.eventTimes (clock : Clock) (journal : List (Nat × Note)) : List Timestamp :=
  journal.filterMap fun
    | (now, .applied ..) => some (clock.at now)
    | _ => none

namespace Tracker

variable {Ask : Type} {Answer : Ask → Type} {σ : Type} {setting : Setting Ask Answer σ}
  {s t : Situation Ask Answer σ} {times : List Timestamp} {run : Run} {clock : Clock}

/-- The store of a run is kept by the events in its journal and those before it. -/
def Run.Keeps (clock : Clock) (times : List Timestamp) (run : Run) : Prop :=
  run.store.Kept (clock.eventTimes run.journal ++ times)

theorem Run.Keeps.apply (keeps : run.Keeps clock times) (now : Nat) (key : String) (event : JobEvent) :
    (run.apply now (clock.at now) key event).1.Keeps clock times := by
  unfold Run.apply
  cases found : run.store.get? key with
  | none => exact keeps
  | some record =>
      cases taken : record.transition event (clock.at now) with
      | error e =>
          simp only [taken]
          exact keeps
      | ok next =>
          simp only [taken]
          obtain ⟨formed, dated⟩ := keeps.of_get? found
          have kept := Kept.put (keeps.later [clock.at now]) (formed.transition taken) (dated.transition formed taken)
          exact kept

theorem Run.Keeps.conclude (keeps : run.Keeps clock times) (config : Config) (now : Nat) (completion : Completion) :
    (run.conclude config now (clock.at now) completion).Keeps clock times := by
  have noted : (((run.note now (.concluded completion)).release completion.key).drained completion.key).Keeps
      clock times := keeps
  have applied := noted.apply now completion.key completion.event
  unfold Run.conclude
  simp only [settle_eq]
  split
  · split <;> exact applied
  · exact applied

/-- Every step keeps the form of all records. -/
theorem Step.keeps {touched : Option String} (keeps : s.run.Keeps setting.clock times)
    (step : Step setting touched s t) : t.run.Keeps setting.clock times := by
  cases step with
  | waits | saves | notices | skips | asks => exact keeps
  | submits | polls => exact keeps
  | drains cancelled =>
      rw [Run.noteCancelled_frame]
      exact keeps
  | @fails _ key rest features e going queued free known unresolved =>
      have queued : (s.queue rest).Keeps setting.clock times := keeps
      exact queued.apply s.world.now key (.constructionFailed e.message)
  | @concludes _ operation others completion picked ends own nameable =>
      exact keeps.conclude setting.config s.world.now completion
  | @expires _ before job after held due =>
      have parked : (s.parked (before ++ after)).Keeps setting.clock times := keeps
      exact parked.conclude setting.config s.world.now (.observed job .deadlineExceeded)

namespace Setting

variable {store : BatchStore} {world : World σ}

/-- A run may be left like this: as it opens, before any round or after it, whether it goes on, is over or
fails. -/
def Leaves (setting : Setting Ask Answer σ) (store : BatchStore) (world : World σ)
    (s : Situation Ask Answer σ) : Prop :=
  setting.opening store world = .ok s ∨ setting.Arises store world s

/-- However a run is left, it looks like a situation that came up. -/
theorem Leaves.meets (leaves : setting.Leaves store world s) :
    ∃ t, setting.Meets store world t ∧ t.run = s.run ∧ t.world.now = s.world.now := by
  rcases leaves with opened | arises
  · exact ⟨s, ⟨s, [], opened, .refl s⟩, rfl, rfl⟩
  · exact arises.meets

theorem opening_keeps (kept : store.Kept times) (opened : setting.opening store world = .ok s) :
    s.run.Keeps setting.clock times := by
  have keeps : s.run.store.Kept times := opening_store opened (kept.enroll setting.batch.keys)
    fun _ found _ _ kept => kept.put (JobRecord.formed_reset found) (JobRecord.dated_reset _ found)
  unfold Run.Keeps
  rwa [opening_journal opened]

/-- Wherever a run is left, its records keep the form of their state. -/
theorem Leaves.keeps (kept : store.Kept times) (leaves : setting.Leaves store world s) :
    s.run.Keeps setting.clock times := by
  rcases leaves with opened | arises
  · exact opening_keeps kept opened
  · obtain ⟨t, ⟨opening, keys, opened, path⟩, same, -⟩ := arises.meets
    rw [← same]
    exact path.invariant Step.keeps (opening_keeps kept opened)

end Setting

end Tracker

/-! ### Collections -/

namespace Collector

variable {Ask : Type} {Answer : Ask → Type} {σ : Type} {store : BatchStore} {times : List Timestamp}

/-- The moment at which a job turns out to have failed when its output is collected. -/
def demotion? (c : Collector Ask Answer σ) (features : FeatureSet) (batch : BatchStore) (world : World σ) :
    Option Timestamp :=
  match batch.get? features.key with
  | none => none
  | some record =>
    if record.status = .succeeded then
      match c.collect record features.fileStem world with
      | (.ok _, _) => none
      | (.error _, world) => some (c.clock.at world.now)
    else none

/-- The moments at which jobs turn out to have failed while a batch is collected, latest first. -/
def eventTimes (c : Collector Ask Answer σ) (batch : BatchStore) (entries : Entries ArtifactEntry)
    (world : World σ) : List FeatureSet → List Timestamp
  | [] => []
  | features :: rest =>
    let (next, entries, after) := c.collectOne features batch entries world
    eventTimes c next entries after rest ++ (c.demotion? features batch world).toList

/-- Collecting for one feature set keeps the form of all records. -/
theorem collectOne_kept (c : Collector Ask Answer σ) (features : FeatureSet) (entries : Entries ArtifactEntry)
    (world : World σ) (kept : store.Kept times) :
    (c.collectOne features store entries world).1.Kept ((c.demotion? features store world).toList ++ times) := by
  unfold collectOne demotion?
  cases found : store.get? features.key with
  | none => exact kept
  | some record =>
      obtain ⟨formed, dated⟩ := kept.of_get? found
      by_cases succeeded : record.status = .succeeded
      · simp only [if_pos succeeded]
        rcases collected : c.collect record features.fileStem world with ⟨path | path, after⟩
        · dsimp only
          split
          · exact Kept.put (kept.later [_]) (formed.transition ‹_›) (dated.transition formed ‹_›)
          · exact kept.later [_]
        · exact kept.put (formed.withArtifact succeeded _) (dated.withArtifact _)
      · simp only [if_neg succeeded]
        exact kept

theorem collectEach_kept (c : Collector Ask Answer σ) (entries : Entries ArtifactEntry) (world : World σ)
    (features : List FeatureSet) (kept : store.Kept times) :
    (c.collectEach store entries world features).1.Kept (c.eventTimes store entries world features ++ times) := by
  induction features generalizing store entries world times with
  | nil => exact kept
  | cons first rest ih =>
      have one := c.collectOne_kept first entries world kept
      have all := ih (c.collectOne first store entries world).2.1 (c.collectOne first store entries world).2.2 one
      rw [← List.append_assoc] at all
      exact all

end Collector

/-! ### Chronicles -/

/-- Runs and collections one after another over a store that was empty at first, with the moments of all events
that a record took, latest first. Each run has its own batch, configuration, backend, clock, cancellation and
start, and is left anywhere. -/
inductive Chronicle : BatchStore → List Timestamp → Prop where
  | opens (path : Option Path) : Chronicle ⟨path, []⟩ []
  | runs {Ask : Type} {Answer : Ask → Type} {σ : Type} {setting : Setting Ask Answer σ} {store : BatchStore}
      {times : List Timestamp} {world : World σ} {s : Situation Ask Answer σ} (before : Chronicle store times)
      (leaves : setting.Leaves store world s) :
      Chronicle s.run.store (setting.clock.eventTimes s.run.journal ++ times)
  | collects {Ask : Type} {Answer : Ask → Type} {σ : Type} {store : BatchStore} {times : List Timestamp}
      (before : Chronicle store times) (c : Collector Ask Answer σ) (features : List FeatureSet) (world : World σ) :
      Chronicle (c.collectBatch store features world).2.1 (c.eventTimes store [] world features ++ times)

namespace Chronicle

variable {store : BatchStore} {times : List Timestamp}

theorem kept (chronicle : Chronicle store times) : store.Kept times := by
  induction chronicle with
  | opens path => exact fun record present => absurd present List.not_mem_nil
  | runs before leaves ih => exact leaves.keeps ih
  | collects before c features world ih => exact c.collectEach_kept [] world features ih

/-- Whatever is run and collected, each record has the fields of its state and no others; and if the events came
in turn, each job was submitted before it was observed, and observed before it was at its end. -/
theorem records_formed (chronicle : Chronicle store times) :
    ∀ record ∈ store.records, record.Formed ∧ (Timestamp.InTurn times → record.InOrder) := by
  intro record present
  obtain ⟨formed, dated⟩ := chronicle.kept record present
  exact ⟨formed, dated.inOrder⟩

/-- A collector whose downloads are empty. -/
def emptyHanded : Collector Empty (fun _ => Unit) Unit where
  backend := prompt
  service := ⟨fun question => nomatch question⟩
  clock := ⟨⟨0, 0⟩⟩
  imagesDir := ⟨"images"⟩

/-- The record of a job that was submitted at once, was found done after two seconds and whose output could not be
collected after five. -/
def uncollected : JobRecord where
  userId := "ada"
  jobId := some "ada"
  status := .failed
  submittedAt := some ⟨0, 0⟩
  lastPolledAt := some ⟨2, 0⟩
  completedAt := some ⟨5, 0⟩
  submitCount := 1
  result := none
  error := some ⟨.collection, "downloaded output is empty"⟩
  warnings := []
  artifact := none

/-- The world five seconds after the start. -/
def later : World Unit := ⟨(), ⟨[]⟩, Duration.ofSeconds 5⟩

/-- A run in which a job succeeds, and a collection in which it fails after all. -/
theorem records_formed_prompted : ∃ store times, Chronicle store times ∧ store = ⟨none, [uncollected]⟩ ∧
    Timestamp.InTurn times ∧ uncollected.Formed ∧ uncollected.InOrder := by
  obtain ⟨s, reached, taken, failed, left⟩ : ∃ s, (prompted ["ada"]).Reaches .inMemory ⟨(), ⟨[]⟩, 0⟩ s ∧
      (prompted ["ada"]).clock.eventTimes s.run.journal = [⟨2, 0⟩, ⟨0, 0⟩] ∧
      emptyHanded.eventTimes s.run.store [] later (prompted ["ada"]).batch.features = [⟨5, 0⟩] ∧
      (emptyHanded.collectBatch s.run.store (prompted ["ada"]).batch.features later).2.1 = ⟨none, [uncollected]⟩ :=
    ⟨_, .round {} (.round {} (.round {} (.opening rfl rfl) rfl) rfl) rfl, rfl, rfl, rfl⟩
  have chronicle := Chronicle.collects (.runs (.opens none) (.inr (.inl reached))) emptyHanded
    (prompted ["ada"]).batch.features later
  have inTurn : Timestamp.InTurn [⟨5, 0⟩, ⟨2, 0⟩, ⟨0, 0⟩] := by
    unfold Timestamp.InTurn
    decide
  rw [left, failed, taken] at chronicle
  obtain ⟨formed, inOrder⟩ := records_formed chronicle uncollected (List.mem_singleton_self uncollected)
  exact ⟨_, _, chronicle, rfl, inTurn, formed, inOrder inTurn⟩

end Chronicle

end ImageBatch
