import ImageBatch.Entries
import ImageBatch.File.Disk
import ImageBatch.Job.Record
import ImageBatch.Json.Printer

/-!
Manifests: for every job of a batch its local image, or why it has none.
-/

namespace ImageBatch

inductive ArtifactEntry where
  | ready (path : Path)
  | failed (status : JobStatus) (reason : String)
deriving DecidableEq, Repr

structure ArtifactManifest where
  generatedAt : Timestamp
  /-- The entries under the keys of their jobs. -/
  entries : Entries ArtifactEntry
deriving DecidableEq, Repr

namespace ArtifactEntry

def isReady : ArtifactEntry → Bool
  | .ready _ => true
  | .failed _ _ => false

def toJson : ArtifactEntry → Json
  | .ready path => .object [("state", .text "ready"), ("path", .text path.text)]
  | .failed status reason =>
    .object [("state", .text "failed"), ("status", .text status.word), ("reason", .text reason)]

end ArtifactEntry

namespace ArtifactManifest

def readyCount (manifest : ArtifactManifest) : Nat := (manifest.entries.values.filter (·.isReady)).length

def toJson (manifest : ArtifactManifest) : Json :=
  .object [
    ("generated_at", .text manifest.generatedAt.toText),
    ("entries", .ofEntries ArtifactEntry.toJson manifest.entries)]

/-- Writes a manifest. -/
def write (manifest : ArtifactManifest) (path : Path) : OnDisk Unit :=
  OnDisk.write path (Text.toBytes manifest.toJson.pretty)

end ArtifactManifest

end ImageBatch
