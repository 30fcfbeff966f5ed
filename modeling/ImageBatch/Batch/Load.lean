import ImageBatch.Config
import ImageBatch.Input.Documents
import ImageBatch.Input.Seeds
import ImageBatch.Input.Users

/-!
Loading a batch: every selected user with every style seed, or with none where there is no seed.
-/

namespace ImageBatch

/-- The ids of the style seeds of a run. -/
def RunnerConfig.seedIds (config : RunnerConfig) (disk : Disk) : Except BatchError (List String) :=
  match config.styleSeedId with
  | some id => .ok [id]
  | none => Seeds.ids disk config.seedsDir

/-- The contexts in which every user's features are built. -/
def RunnerConfig.contexts (config : RunnerConfig) (seeds : List StyleSeed) : List MapperContext :=
  if seeds.isEmpty then [⟨some config.userImagesDir, none⟩]
  else seeds.map fun seed => ⟨some config.userImagesDir, some seed⟩

namespace Tracker.Batch

/-- Loads the template and maps users and seeds to feature sets: user by user, and for each seed by seed. -/
def load (config : RunnerConfig) (disk : Disk) : Except BatchError Batch := do
  let mapping ← KeywordMapping.load disk config.mappingPath
  let template ← WorkflowTemplate.load disk config.templatePath
  let table ← Users.load disk config.userTable mapping.idColumn
  let users := Users.select table config.runUsers config.runLimit
  let ids ← config.seedIds disk
  let seeds ← ids.mapM (Seeds.load disk config.seedsDir)
  let contexts := config.contexts seeds
  return {
    template
    features := users.flatMap fun user => contexts.map fun context =>
      FeatureSet.build disk mapping context user }

end Tracker.Batch

end ImageBatch
