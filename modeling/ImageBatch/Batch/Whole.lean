import ImageBatch.Artifact.Collect
import ImageBatch.Batch.Load
import ImageBatch.Server.Backend
import ImageBatch.Tracker.Timeline

/-!
A whole run: inputs to feature sets, feature sets to jobs, jobs to images.
-/

namespace ImageBatch

/-- What a whole run gives: where the jobs stand after collection, and what there is of each. -/
structure RunOutcome where
  summary : BatchSummary
  manifest : ArtifactManifest
deriving DecidableEq, Repr

/-- Why a whole run ends early. -/
inductive RunError where
  /-- The service does not answer. -/
  | unreachable (url : String) (cause : BackendError)
  | batch (cause : BatchError)
  /-- The folder for the results cannot be made. -/
  | outputDir (path : Path) (cause : IoError)
  | tracker (fault : Tracker.Fault)
deriving Repr

def RunError.message : RunError → String
  | .unreachable url _ => "ComfyUI at " ++ url ++ " is not reachable"
  | .batch cause => cause.message
  | .outputDir path _ => "failed to create " ++ path.text
  | .tracker (.batch cause) => cause.message
  | .tracker .overflow => "time past the end of the calendar"
  | .tracker .unfinished => "run not followed to its end"

/-- A whole run: what it needs beside its configuration. -/
structure Runner (σ : Type) where
  config : RunnerConfig
  service : Service Server.Ask Server.Answer σ
  clock : Clock
  /-- When the run is cancelled, if it is. -/
  cancelAt : Option Nat
  /-- How many rounds of the tracker are followed. -/
  rounds : Nat

namespace Runner

variable {σ : Type}

/-- A step of a whole run: it may fail, and leaves a world either way. -/
abbrev Act (σ α : Type) := ExceptT RunError (StateM (World σ)) α

/-- The service of a run. -/
def connection (runner : Runner σ) : Server.Connection :=
  ⟨Server.Client.ofUrl runner.config.serviceUrl, .uniform runner.config.retry⟩

/-- A file operation as a step. -/
def onDisk {α : Type} (onError : IoError → RunError) (operation : OnDisk α) : Act σ α :=
  ExceptT.mk fun world =>
    let (result, world) := operation.inWorld world
    (result.mapError onError, world)

/-- The service answers. -/
def checkHealth (runner : Runner σ) : Act σ Unit :=
  ExceptT.mk fun world =>
    let (result, world) := runner.connection.health.perform runner.service world
    ((result.map fun _ => ()).mapError (.unreachable runner.config.serviceUrl), world)

/-- A question about the files as a step. -/
def look {α : Type} (question : Disk → Except BatchError α) : Act σ α :=
  ExceptT.mk fun world => ((question world.disk).mapError .batch, world)

/-- Runs the tracker. -/
def track (runner : Runner σ) (batch : Tracker.Batch) (store : BatchStore) : Act σ BatchStore :=
  ExceptT.mk fun world =>
    let setting : Tracker.Setting Server.Ask Server.Answer σ := {
      config := runner.config.tracker
      batch
      backend := runner.connection.backend
      service := runner.service
      clock := runner.clock
      cancelAt := runner.cancelAt }
    let ending := setting.run runner.rounds store world
    ((ending.result.map fun _ => ending.store).mapError .tracker, ending.world)

/-- Collects the images. -/
def collect (runner : Runner σ) (batch : Tracker.Batch) (store : BatchStore) :
    Act σ (ArtifactManifest × BatchStore) :=
  ExceptT.mk fun world =>
    let collector : Collector Server.Ask Server.Answer σ := {
      backend := runner.connection.backend
      service := runner.service
      clock := runner.clock
      imagesDir := runner.config.imagesDir }
    let (result, store, world) := collector.collectBatch store batch.features world
    ((result.map fun manifest => (manifest, store)).mapError .batch, world)

/-- Runs the configured batch. -/
def run (runner : Runner σ) : Act σ RunOutcome := do
  let config := runner.config
  runner.checkHealth
  let batch ← look (Tracker.Batch.load config)
  onDisk (.outputDir config.outputDir) (OnDisk.makeFolders config.outputDir)
  onDisk (fun e => .batch (.io config.featuresPath e)) (FeatureSet.write config.featuresPath batch.features)
  let store ← look fun disk => BatchStore.load disk config.statePath
  let store ← runner.track batch store
  let (manifest, store) ← runner.collect batch store
  onDisk (fun e => .batch (.io config.manifestPath e)) (manifest.write config.manifestPath)
  return ⟨BatchSummary.ofRecords (batch.records store), manifest⟩

end Runner

end ImageBatch
