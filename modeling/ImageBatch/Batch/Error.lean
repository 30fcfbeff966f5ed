import ImageBatch.File.Disk
import ImageBatch.Template.Basic

/-!
What ends a batch as a whole. What goes wrong with one job never does; it stands in the job's record.
-/

namespace ImageBatch

/-- The version of store files. -/
def storeVersion : Nat := 1

inductive BatchError where
  | io (path : Path) (cause : IoError)
  | malformedJson (path : Path)
  | malformedCsv (path : Path)
  /-- The user table lacks its column of ids. -/
  | missingColumn (path : Path) (column : String)
  /-- The id of a style seed cannot be part of a file name. -/
  | unusableSeedId (id : String)
  /-- The store was written in another format. -/
  | foreignStore (path : Path) (version : Nat)
  | template (cause : TemplateError)
deriving Repr

def BatchError.message : BatchError → String
  | .io path cause => "I/O error on " ++ path.text ++ ": " ++ cause.message
  | .malformedJson path => "Malformed JSON in " ++ path.text ++ ": not the expected document"
  | .malformedCsv path => "Malformed CSV in " ++ path.text ++ ": not a readable table"
  | .missingColumn path column => "Invalid input: " ++ path.text ++ " has no '" ++ column ++ "' column"
  | .unusableSeedId id =>
    "Invalid input: style seed id '" ++ id ++ "' cannot be used in a file name"
  | .foreignStore path version =>
    "Invalid input: " ++ path.text ++ " has store format version " ++ toString version ++
      ", expected " ++ toString storeVersion
  | .template cause => cause.message

end ImageBatch
