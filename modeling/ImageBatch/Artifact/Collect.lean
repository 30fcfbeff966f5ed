import ImageBatch.Artifact.Format
import ImageBatch.Artifact.Manifest
import ImageBatch.Backend.Basic
import ImageBatch.Batch.Store
import ImageBatch.File.Name
import ImageBatch.Job.Transition

/-!
Collecting: the outputs of jobs that succeeded become local images.

An image that is there already is kept. Otherwise the output is downloaded and looked at before anything is
written; a job whose output cannot be collected has failed after all.
-/

namespace ImageBatch

/-- Why an output did not become a local image. -/
inductive CollectionError where
  | notSucceeded (status : JobStatus)
  | missingReference
  | download (cause : BackendError)
  | empty
  | unsupportedFormat
  | unsafeName (stem : String)
  | write (path : Path) (cause : IoError)
deriving DecidableEq, Repr

def CollectionError.message : CollectionError → String
  | .notSucceeded status => "job is " ++ status.word ++ ", only succeeded jobs can be collected"
  | .missingReference => "succeeded job has no result reference"
  | .download cause => "download failed: " ++ cause.message
  | .empty => "downloaded output is empty"
  | .unsupportedFormat => "output is not a PNG, JPEG or WebP image"
  | .unsafeName stem => "'" ++ stem ++ "' is not a plain file name"
  | .write path cause => "failed to write " ++ path.text ++ ": " ++ cause.message

/-- The format of an output. -/
def imageFormat (bytes : Bytes) : Except CollectionError ImageFormat :=
  if bytes.isEmpty then .error .empty
  else
    match ImageFormat.ofBytes? bytes with
    | some format => .ok format
    | none => .error .unsupportedFormat

/-- A file holds an image. -/
def Disk.isArtifact (disk : Disk) (path : Path) : Bool :=
  match disk.read path with
  | .ok bytes => !bytes.isEmpty && (ImageFormat.ofBytes? bytes).isSome
  | .error _ => false

/-- The stem of the image of a feature set: its prefix, or else its key. -/
def FeatureSet.fileStem (features : FeatureSet) : String :=
  match features.get? "filename_prefix" with
  | some (.text stem) => if stem = "" then features.key else stem
  | _ => features.key

/-- Who collects, with whom, and where the images go. -/
structure Collector (Ask : Type) (Answer : Ask → Type) (σ : Type) where
  backend : Backend Ask Answer
  service : Service Ask Answer σ
  clock : Clock
  imagesDir : Path

namespace Collector

variable {Ask : Type} {Answer : Ask → Type} {σ : Type}

/-- What is known before a download: an image that is there, a reason against it, or what to download. -/
inductive Prospect where
  | present (path : Path)
  | refused (e : CollectionError)
  | wanted (reference : ResultReference)
deriving DecidableEq, Repr

/-- Looks at a record and the files. -/
def prospect (disk : Disk) (record : JobRecord) (stem : String) : Prospect :=
  if record.status ≠ .succeeded then .refused (.notSucceeded record.status)
  else
    match record.result, record.artifact with
    | none, _ => .refused .missingReference
    | some reference, artifact =>
      match artifact.filter disk.isArtifact with
      | some path => .present path
      | none => if FileName.isPlainStem stem then .wanted reference else .refused (.unsafeName stem)

/-- Where an image of a format goes. -/
def target (imagesDir : Path) (stem : String) (format : ImageFormat) : Path :=
  imagesDir.join (stem ++ "." ++ format.extension)

/-- Writes an image into its folder. -/
def store (imagesDir target : Path) (bytes : Bytes) (disk : Disk) : Except CollectionError Path × Disk :=
  match (OnDisk.makeFolders imagesDir).run.run disk with
  | (.error e, disk) => (.error (.write imagesDir e), disk)
  | (.ok (), disk) =>
    match (OnDisk.write target bytes).run.run disk with
    | (.error e, disk) => (.error (.write target e), disk)
    | (.ok (), disk) => (.ok target, disk)

/-- Turns a download into an image. -/
def keep (imagesDir : Path) (stem : String) (download : Except BackendError Bytes) (disk : Disk) :
    Except CollectionError Path × Disk :=
  match download with
  | .error e => (.error (.download e), disk)
  | .ok bytes =>
    match imageFormat bytes with
    | .error e => (.error e, disk)
    | .ok format => store imagesDir (target imagesDir stem format) bytes disk

/-- Collects the output of one record. -/
def collect (c : Collector Ask Answer σ) (record : JobRecord) (stem : String) (world : World σ) :
    Except CollectionError Path × World σ :=
  match prospect world.disk record stem with
  | .present path => (.ok path, world)
  | .refused e => (.error e, world)
  | .wanted reference =>
    let (download, world) := (c.backend.download reference).perform c.service world
    let (result, disk) := keep c.imagesDir stem download world.disk
    (result, { world with disk })

/-- The entry of a job that did not succeed. -/
def failedEntry (record : JobRecord) : ArtifactEntry :=
  .failed record.status (match record.error with
    | some e => e.kind.word ++ ": " ++ e.message
    | none => "job is " ++ record.status.word)

/-- Collects for one feature set: the store and the entry after it, and the world. -/
def collectOne (c : Collector Ask Answer σ) (features : FeatureSet) (batch : BatchStore)
    (entries : Entries ArtifactEntry) (world : World σ) :
    BatchStore × Entries ArtifactEntry × World σ :=
  match batch.get? features.key with
  | none => (batch, entries, world)
  | some record =>
    if record.status = .succeeded then
      match c.collect record features.fileStem world with
      | (.ok path, world) =>
        (batch.put { record with artifact := some path }, Entries.insert features.key (.ready path) entries,
          world)
      | (.error e, world) =>
        let moment := c.clock.at world.now
        let batch := match record.transition (.collectionFailed e.message) moment with
          | .ok demoted => batch.put demoted
          | .error _ => batch
        (batch, Entries.insert features.key (.failed .failed e.message) entries, world)
    else (batch, Entries.insert features.key (failedEntry record) entries, world)

/-- Collects for feature sets in turn. -/
def collectEach (c : Collector Ask Answer σ) (batch : BatchStore) (entries : Entries ArtifactEntry)
    (world : World σ) : List FeatureSet → BatchStore × Entries ArtifactEntry × World σ
  | [] => (batch, entries, world)
  | features :: rest =>
    let (batch, entries, world) := c.collectOne features batch entries world
    collectEach c batch entries world rest

/-- Collects the outputs of a batch, saves the store and tells what there is. -/
def collectBatch (c : Collector Ask Answer σ) (batch : BatchStore) (features : List FeatureSet)
    (world : World σ) : Except BatchError ArtifactManifest × BatchStore × World σ :=
  let (batch, entries, world) := c.collectEach batch [] world features
  let (result, disk) := batch.save world.disk
  (result.map fun _ => ⟨c.clock.at world.now, entries⟩, batch, { world with disk })

end Collector

end ImageBatch
