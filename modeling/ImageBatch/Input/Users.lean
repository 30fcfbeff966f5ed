import ImageBatch.Batch.Error
import ImageBatch.Feature.Build
import ImageBatch.File.Name
import ImageBatch.Input.Csv

/-!
The users of a batch, from a table with a column of ids.
-/

namespace ImageBatch.Users

/-- The fields of a record as texts without blanks at their ends, if all are well-formed. -/
def texts? (record : List Bytes) : Option (List String) :=
  record.mapM fun field => (Text.fromBytes? field).map Text.trim

/-- The fields of a row under the names of the columns; of equal names the last one stays. -/
def fieldsOf (columns row : List String) : Entries String := Entries.ofList (columns.zip row)

/-- The user of a row, if its id is not empty and can be part of a file name. -/
def ofFields? (idColumn : String) (fields : Entries String) : Option UserRecord :=
  match fields.get? idColumn with
  | some id => if FileName.isSafeId id then some ⟨id, fields⟩ else none
  | none => none

/-- Users without those whose id came up before. -/
def distinct (users : List UserRecord) : List UserRecord :=
  users.foldl (fun kept user => if kept.any (·.userId == user.userId) then kept else kept ++ [user]) []

/-- Reads the users of a table. Rows without a usable id are skipped, and repeated ids too. -/
def load (disk : Disk) (path : Path) (idColumn : String) : Except BatchError (List UserRecord) := do
  let bytes ← match disk.read path with
    | .ok bytes => pure bytes
    | .error _ => throw (.malformedCsv path)
  let (header, rows) := match Csv.records bytes with
    | [] => ([], [])
    | header :: rows => (header, rows)
  let columns ← match texts? header with
    | some columns => pure columns
    | none => throw (.malformedCsv path)
  if !columns.contains idColumn then throw (.missingColumn path idColumn)
  match rows.mapM texts? with
  | none => throw (.malformedCsv path)
  | some rows => return distinct (rows.filterMap fun row => ofFields? idColumn (fieldsOf columns row))

/-- The users asked for, in the order of the table, up to a number. -/
def select (users : List UserRecord) (only : Option (List String)) (limit : Option Nat) :
    List UserRecord :=
  let asked := match only with
    | some ids => users.filter fun user => ids.contains user.userId
    | none => users
  match limit with
  | some n => asked.take n
  | none => asked

end ImageBatch.Users
