import ImageBatch.Batch.Error
import ImageBatch.Feature.Mapping
import ImageBatch.Feature.Set
import ImageBatch.Json.Printer

/-!
The mapping and the template of a batch, from files, and its feature sets, to one.
-/

namespace ImageBatch

/-- Reads a keyword mapping. -/
def KeywordMapping.load (disk : Disk) (path : Path) : Except BatchError KeywordMapping :=
  match disk.readText path with
  | .error e => .error (.io path e)
  | .ok text =>
    match Document.read? KeywordMapping.ofDocument? (Text.toBytes text) with
    | some mapping => .ok mapping
    | none => .error (.malformedJson path)

/-- Reads a workflow template. -/
def WorkflowTemplate.load (disk : Disk) (path : Path) : Except BatchError WorkflowTemplate :=
  match disk.readText path with
  | .error e => .error (.io path e)
  | .ok text => (WorkflowTemplate.ofText text).mapError .template

/-- The document of feature sets. -/
def FeatureSet.document (features : List FeatureSet) : String :=
  (Json.ofList FeatureSet.toJson features).pretty

/-- Writes feature sets for inspection. -/
def FeatureSet.write (path : Path) (features : List FeatureSet) : OnDisk Unit :=
  OnDisk.write path (Text.toBytes (document features))

end ImageBatch
