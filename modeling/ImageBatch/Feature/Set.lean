import ImageBatch.Entries
import ImageBatch.File.Path
import ImageBatch.Json.Basic

/-!
Feature sets: the values that one job binds into a template, under their names.
-/

namespace ImageBatch

/-- One value. A path names a local file that the service must have before the job starts. -/
inductive FeatureValue where
  | text (value : String)
  | integer (value : Int)
  | float (value : Double)
  | path (value : Path)
deriving DecidableEq, Repr

/-- The values of one job, the key it is tracked under, and notes about what was missing. -/
structure FeatureSet where
  userId : String
  styleSeed : Option String
  key : String
  values : Entries FeatureValue
  notes : List String
deriving Repr

namespace FeatureValue

/-- The name of a kind of value in documents. -/
def kindName : FeatureValue → String
  | .text _ => "text"
  | .integer _ => "integer"
  | .float _ => "float"
  | .path _ => "path"

/-- A value alone in a document. -/
def content : FeatureValue → Json
  | .text s => .text s
  | .integer n => .integer n
  | .float x => .ofDouble x
  | .path p => .text p.text

def toJson (value : FeatureValue) : Json :=
  .object [("type", .text value.kindName), ("value", value.content)]

/-- What a value is, in a message. -/
def description : FeatureValue → String
  | .text _ => "text"
  | .integer _ => "an integer"
  | .float _ => "a float"
  | .path _ => "a file path"

end FeatureValue

namespace FeatureSet

/-- A set of given values without a style; of equal names the last one stays. -/
def ofValues (userId : String) (values : List (String × FeatureValue)) : FeatureSet where
  userId := userId
  styleSeed := none
  key := userId
  values := Entries.ofList values
  notes := []

def get? (features : FeatureSet) (name : String) : Option FeatureValue := features.values.get? name

def toJson (features : FeatureSet) : Json :=
  .object [
    ("user_id", .text features.userId),
    ("style_seed", .ofOption .text features.styleSeed),
    ("key", .text features.key),
    ("values", .ofEntries FeatureValue.toJson features.values),
    ("notes", .ofList .text features.notes)]

end FeatureSet

end ImageBatch
