import ImageBatch.Proofs.Artifact.Agreement

/-!
A whole run counts the same in its manifest and in its summary.

A tracker that is followed to its end leaves the store as a run may leave it (`Tracker.Setting.finishes_of_run`), so users
stay distinct. A whole run that succeeds has prepared a batch and opened a store, tracked the batch and collected its
images (`Runner.stages_of_run`). What holds of collections (`Collector.agrees_of_collectBatch`) thus holds of the one at
the end of the run, and its summary is made of the store that the collection leaves.
-/

namespace ImageBatch

/-! ### The tracker -/

namespace Tracker

variable {Ask : Type} {Answer : Ask → Type} {σ : Type} {setting : Setting Ask Answer σ} {store : BatchStore}
  {world : World σ} {s last : Situation Ask Answer σ} {summary : BatchSummary} {rounds : Nat}

/-- A run that is followed to its end ends as a run may. -/
theorem Setting.Reaches.finishes (reached : setting.Reaches store world s)
    (followed : s.follow setting rounds = (.ok summary, last)) : setting.Finishes store world last := by
  induction rounds generalizing s with
  | zero => cases followed
  | succ rounds ih =>
      unfold Situation.follow at followed
      split at followed
      next next goes => exact ih (.round {} reached goes) followed
      next last ended =>
          cases followed
          exact ⟨s, {}, reached, ended⟩
      next => cases followed

/-- A run that gives a summary leaves the store of a situation in which it may end. -/
theorem Setting.finishes_of_run (done : (setting.run rounds store world).result = .ok summary) :
    ∃ last, setting.Finishes store world last ∧ (setting.run rounds store world).store = last.run.store := by
  unfold Setting.run at done ⊢
  cases opened : setting.opening store world with
  | error e =>
      rw [opened] at done
      cases done
  | ok opening =>
      simp only [opened] at done ⊢
      rcases saved : opening.save with s | s | ⟨fault, s⟩
      · simp only [saved] at done ⊢
        exact ⟨_, Reaches.finishes (.opening opened saved) (Prod.ext done rfl), rfl⟩
      · rw [saved] at done
        cases done
      · rw [saved] at done
        cases done

/-- Users that are distinct before a run are distinct at its end. -/
theorem Setting.Finishes.distinct (finished : setting.Finishes store world last) (distinct : store.Distinct) :
    last.run.store.Distinct :=
  finished.meets.1.changed.distinct distinct

end Tracker

/-! ### Whole runs -/

namespace Runner

variable {σ : Type} {α β : Type} {runner : Runner σ} {world next last : World σ} {batch : Tracker.Batch}
  {store after : BatchStore} {manifest : ArtifactManifest} {outcome : RunOutcome}

/-- Steps that succeed together succeed one after the other. -/
theorem Act.bind_ok {first : Act σ α} {rest : α → Act σ β} {b : β}
    (ran : (first >>= rest).run.run world = (.ok b, last)) :
    ∃ a mid, first.run.run world = (.ok a, mid) ∧ (rest a).run.run mid = (.ok b, last) := by
  have run : (first >>= rest).run.run world =
      ExceptT.bindCont (fun a => ExceptT.mk (rest a).run) (first.run.run world).1 (first.run.run world).2 := rfl
  rw [run] at ran
  generalize first.run.run world = ended at ran
  obtain ⟨e | a, mid⟩ := ended
  · cases ran
  · exact ⟨a, mid, rfl, ran⟩

/-- All that comes before the tracker: the batch, and the store that is opened. -/
def prepare (runner : Runner σ) : Act σ (Tracker.Batch × BatchStore) := do
  let config := runner.config
  runner.checkHealth
  let batch ← look (Tracker.Batch.load config)
  onDisk (.outputDir config.outputDir) (OnDisk.makeFolders config.outputDir)
  onDisk (fun e => .batch (.io config.featuresPath e)) (FeatureSet.write config.featuresPath batch.features)
  let store ← look fun disk => BatchStore.load disk config.statePath
  return (batch, store)

theorem run_eq (runner : Runner σ) : runner.run = do
    let (batch, store) ← runner.prepare
    let store ← runner.track batch store
    let (manifest, store) ← runner.collect batch store
    onDisk (fun e => .batch (.io runner.config.manifestPath e)) (manifest.write runner.config.manifestPath)
    return ⟨BatchSummary.ofRecords (batch.records store), manifest⟩ := by
  simp [run, prepare, bind_assoc]

theorem distinct_of_track {tracked : BatchStore} (ran : (runner.track batch store).run.run world = (.ok tracked, next))
    (distinct : store.Distinct) : tracked.Distinct := by
  obtain ⟨setting, same⟩ : ∃ setting : Tracker.Setting Server.Ask Server.Answer σ,
      (runner.track batch store).run.run world =
        (((setting.run runner.rounds store world).result.map
          fun _ => (setting.run runner.rounds store world).store).mapError .tracker,
          (setting.run runner.rounds store world).world) := ⟨_, rfl⟩
  obtain ⟨result, -⟩ := Prod.mk.inj (same.symm.trans ran)
  cases done : (setting.run runner.rounds store world).result with
  | error fault =>
      rw [done] at result
      cases result
  | ok summary =>
      rw [done] at result
      cases result
      obtain ⟨last, finished, left⟩ := Tracker.Setting.finishes_of_run done
      rw [left]
      exact finished.distinct distinct

theorem agrees_of_collect (ran : (runner.collect batch store).run.run world = (.ok (manifest, after), next))
    (distinct : store.Distinct) :
    ∃ tried, Collector.Agrees (batch.features.map (·.key)) tried store after manifest.entries := by
  obtain ⟨c, same⟩ : ∃ c : Collector Server.Ask Server.Answer σ, (runner.collect batch store).run.run world =
      (((c.collectBatch store batch.features world).1.map
        fun manifest => (manifest, (c.collectBatch store batch.features world).2.1)).mapError .batch,
        (c.collectBatch store batch.features world).2.2) := ⟨_, rfl⟩
  obtain ⟨result, -⟩ := Prod.mk.inj (same.symm.trans ran)
  cases done : (c.collectBatch store batch.features world).1 with
  | error e =>
      rw [done] at result
      cases result
  | ok found =>
      rw [done] at result
      cases result
      exact ⟨_, Collector.agrees_of_collectBatch distinct (Prod.ext done rfl)⟩

/-- A whole run that succeeds has prepared, tracked and collected, and its summary is of the store after that. -/
theorem stages_of_run (ran : runner.run.run.run world = (.ok outcome, last)) :
    ∃ batch opened first tracked second after third, runner.prepare.run.run world = (.ok (batch, opened), first) ∧
      (runner.track batch opened).run.run first = (.ok tracked, second) ∧
      (runner.collect batch tracked).run.run second = (.ok (outcome.manifest, after), third) ∧
      outcome.summary = BatchSummary.ofRecords (batch.records after) := by
  rw [run_eq] at ran
  obtain ⟨⟨batch, opened⟩, first, prepared, ran⟩ := Act.bind_ok ran
  obtain ⟨tracked, second, track, ran⟩ := Act.bind_ok ran
  obtain ⟨⟨manifest, after⟩, third, collected, ran⟩ := Act.bind_ok ran
  obtain ⟨_, _, -, ran⟩ := Act.bind_ok ran
  cases ran
  exact ⟨batch, opened, first, tracked, second, after, third, prepared, track, collected, rfl⟩

end Runner

/-! ### Agreement -/

/-- A collection that succeeds leaves a manifest that agrees with the store, whatever was downloaded and written. So at
the end of a whole run there are as many ready entries as jobs that succeeded, and as many entries as the summary has
jobs. -/
theorem collection_agrees :
    (∀ {Ask : Type} {Answer : Ask → Type} {σ : Type} (c : Collector Ask Answer σ) (before after : BatchStore)
      (features : List FeatureSet) (world left : World σ) (manifest : ArtifactManifest), before.Distinct →
      c.collectBatch before features world = (.ok manifest, after, left) →
        Collector.Agrees (features.map (·.key)) (c.attempts before [] world features) before after manifest.entries) ∧
    ∀ {σ : Type} (runner : Runner σ) (world last : World σ) (outcome : RunOutcome),
      runner.run.run.run world = (.ok outcome, last) →
        ∃ batch opened first, runner.prepare.run.run world = (.ok (batch, opened), first) ∧
          (opened.Distinct → outcome.manifest.readyCount = outcome.summary.count .succeeded ∧
            outcome.manifest.entries.length = outcome.summary.total) := by
  constructor
  · intro Ask Answer σ c before after features world left manifest distinct collected
    exact Collector.agrees_of_collectBatch distinct collected
  · intro σ runner world last outcome ran
    obtain ⟨batch, opened, first, tracked, second, after, third, prepared, track, collected, summary⟩ :=
      Runner.stages_of_run ran
    refine ⟨batch, opened, first, prepared, fun distinct => ?_⟩
    have apart := Runner.distinct_of_track track distinct
    obtain ⟨tried, agrees⟩ := Runner.agrees_of_collect collected apart
    rw [summary]
    exact agrees.counts apart outcome.manifest.generatedAt

/-- A file that begins as an image does. -/
def blankPng : Bytes := [0x89, 0x50, 0x4e, 0x47, 0x0d, 0x0a, 0x1a, 0x0a]

/-- A collector that is given an image for one job and nothing for any other. -/
def gallery : Collector Empty (fun _ => Unit) Unit where
  backend := { Tracker.prompt with
    download := fun reference => .done (.ok (if reference.filename = "ada" then blankPng else [])) }
  service := ⟨fun question => nomatch question⟩
  clock := ⟨⟨0, 0⟩⟩
  imagesDir := ⟨"images"⟩

/-- Two jobs that succeeded, one that failed, and one of no batch. -/
def exhibits : BatchStore where
  path := none
  records := [
    { JobRecord.fresh "ada" with status := .succeeded, result := some ⟨"1", "ada", "", "output"⟩ },
    (JobRecord.fresh "eve").terminate .failed .construction "no template" ⟨0, 0⟩,
    { JobRecord.fresh "bob" with status := .succeeded, result := some ⟨"1", "bob", "", "output"⟩ },
    .fresh "zoe"]

/-- Features of three jobs, one of which comes up twice. -/
def shown : List FeatureSet := ["ada", "bob", "ada", "eve", "dan"].map fun key => ⟨key, none, key, [], []⟩

/-- The files of a batch of two jobs, one of which has its image already. -/
def workshop : Disk := ⟨[
  (["users"], .file (Text.toBytes "number\na\nb\n")),
  (["mapping"], .file (Text.toBytes "\x7b\x7d")),
  (["template"], .file (Text.toBytes "\x7b\"name\":\"t\",\"graph\":\x7b\"1\":\x7b\"class_type\":\"\"\x7d\x7d\x7d")),
  (["a"], .file blankPng),
  (["out"], .folder),
  (["out", "batch_state.json"], .file (Text.toBytes
    "\x7b\"version\":1,\"records\":[\x7b\"user_id\":\"a\",\"status\":\"succeeded\",\"result\":\x7b\"node_id\":\"\",\"filename\":\"\",\"type\":\"\"\x7d,\"artifact\":\"a\"\x7d]\x7d"))]⟩

/-- A run over these files, with a service that gives every request the same answer. -/
def worker : Runner Unit where
  config := {
    serviceUrl := "http://[::1]"
    requestTimeout := Duration.ofSeconds 30
    userTable := ⟨"users"⟩
    mappingPath := ⟨"mapping"⟩
    templatePath := ⟨"template"⟩
    userImagesDir := ⟨"portraits"⟩
    seedsDir := ⟨"seeds"⟩
    styleSeedId := none
    outputDir := ⟨"out"⟩
    tracker := {}
    retry := {}
    runLimit := none
    runUsers := none
    logFormat := .text }
  service := {
    respond := fun question disk now _ =>
      match question with
      | .send _ => ⟨.ok ⟨200, Text.toBytes "\x7b\x7d"⟩, now, ()⟩
      | .pause length => ⟨(), Instant.afterWait now length, ()⟩
      | .read path => ⟨disk.read path, now, ()⟩
      | .isUploaded _ => ⟨false, now, ()⟩
      | .markUploaded _ => ⟨(), now, ()⟩
      | .newClientId => ⟨"", now, ()⟩ }
  clock := ⟨⟨0, 0⟩⟩
  cancelAt := none
  rounds := 6

theorem collection_agrees_worker :
    (∃ manifest after left, gallery.collectBatch exhibits shown ⟨(), ⟨[]⟩, 0⟩ = (.ok manifest, after, left) ∧
      exhibits.Distinct ∧ manifest.entries = [("ada", .ready ⟨"images/ada.png"⟩),
        ("bob", .failed .failed "downloaded output is empty"), ("eve", .failed .failed "construction: no template")] ∧
      Collector.Agrees (shown.map (·.key)) (gallery.attempts exhibits [] ⟨(), ⟨[]⟩, 0⟩ shown) exhibits after
        manifest.entries) ∧
    ∃ outcome last, worker.run.run.run ⟨(), workshop, 0⟩ = (.ok outcome, last) ∧
      outcome.summary.count .succeeded = 1 ∧ outcome.summary.total = 2 := by
  constructor
  · have distinct : exhibits.Distinct := by
      unfold BatchStore.Distinct
      decide
    obtain ⟨manifest, after, left, collected, entries⟩ : ∃ manifest after left,
        gallery.collectBatch exhibits shown ⟨(), ⟨[]⟩, 0⟩ = (.ok manifest, after, left) ∧
          manifest.entries = [("ada", .ready ⟨"images/ada.png"⟩), ("bob", .failed .failed "downloaded output is empty"),
            ("eve", .failed .failed "construction: no template")] := ⟨_, _, _, rfl, rfl⟩
    exact ⟨manifest, after, left, collected, distinct, entries,
      collection_agrees.1 gallery exhibits after shown _ left manifest distinct collected⟩
  · have counted : (worker.run.run.run ⟨(), workshop, 0⟩).1.toOption.map (fun outcome =>
        (outcome.manifest.readyCount, outcome.manifest.entries.length)) = some (1, 2) := by decide +kernel
    have opens : (worker.prepare.run.run ⟨(), workshop, 0⟩).1.toOption.map (fun prepared =>
        prepared.2.records.map (·.userId)) = some ["a"] := by decide +kernel
    generalize ran : worker.run.run.run ⟨(), workshop, 0⟩ = ended at counted
    obtain ⟨e | outcome, last⟩ := ended
    · cases counted
    · obtain ⟨batch, opened, first, prepared, agree⟩ := collection_agrees.2 worker _ last outcome ran
      rw [prepared] at opens
      have users : opened.records.map (·.userId) = ["a"] := Option.some.inj opens
      have distinct : opened.Distinct := by
        rw [BatchStore.Distinct, users]
        decide
      obtain ⟨ready, all⟩ := agree distinct
      obtain ⟨one, two⟩ := Prod.mk.inj (Option.some.inj counted)
      exact ⟨outcome, last, rfl, ready.symm.trans one, all.symm.trans two⟩

end ImageBatch
