import ImageBatch.Batch.Error
import ImageBatch.Job.Record
import ImageBatch.Json.Printer
import ImageBatch.Json.Scan

/-!
The batch store: the record of every job, in the order in which the jobs were first enrolled.

A store with a path is saved in steps: its folder is made, the document is written beside its place, and then
moved there. Since moving is one step, the path always holds a whole document.
-/

namespace ImageBatch

/-- The records of a batch, and where they are saved. -/
structure BatchStore where
  path : Option Path
  records : List JobRecord
deriving DecidableEq, Repr

namespace BatchStore

/-- A store that is not saved. -/
def inMemory : BatchStore := ⟨none, []⟩

/-- The record of a user in a list. -/
def find? (userId : String) (records : List JobRecord) : Option JobRecord :=
  records.find? (·.userId == userId)

/-- The record of a user. -/
def get? (store : BatchStore) (userId : String) : Option JobRecord := find? userId store.records

/-- A list with a fresh record at its end for a user without one. -/
def enrollOne (records : List JobRecord) (userId : String) : List JobRecord :=
  if (find? userId records).isSome then records else records ++ [JobRecord.fresh userId]

/-- The store with a record for every user, and how many were added. -/
def enroll (store : BatchStore) (userIds : List String) : BatchStore × Nat :=
  let records := userIds.foldl enrollOne store.records
  ({ store with records }, records.length - store.records.length)

/-- A list with a record in the place of the one of its user, or at the end. -/
def replace (record : JobRecord) : List JobRecord → List JobRecord
  | [] => [record]
  | old :: rest => if old.userId = record.userId then record :: rest else old :: replace record rest

/-- The store with a record. -/
def put (store : BatchStore) (record : JobRecord) : BatchStore :=
  { store with records := replace record store.records }

/-! ### Documents -/

/-- The document of a list of records. -/
def document (records : List JobRecord) : Json :=
  .object [("version", .integer storeVersion), ("records", .ofList JobRecord.toJson records)]

/-- The bytes that are saved. -/
def contents (store : BatchStore) : Bytes := Text.toBytes (document store.records).pretty

open Document in
/-- Version and records of a document. -/
def ofDocument? (d : Document) : Option (Nat × List JobRecord) := do
  let found ← d.asRecord [must "version", must "records"]
  return (← found.required "version" (asNat Natural.max32),
    ← found.required "records" (asList JobRecord.ofDocument?))

/-- The store at a path; where nothing is there yet, an empty one. -/
def load (disk : Disk) (path : Path) : Except BatchError BatchStore :=
  match disk.read path with
  | .error .notFound => .ok ⟨some path, []⟩
  | .error e => .error (.io path e)
  | .ok bytes =>
    match Document.read? ofDocument? bytes with
    | none => .error (.malformedJson path)
    | some (version, records) =>
      if version = storeVersion then .ok ⟨some path, records⟩
      else .error (.foreignStore path version)

/-! ### Saving -/

/-- A step of saving. -/
inductive SaveStep where
  | makeFolders (path : Path)
  | write (path : Path) (bytes : Bytes)
  | move (source target : Path)
deriving DecidableEq, Repr

namespace SaveStep

def perform : SaveStep → OnDisk Unit
  | .makeFolders path => OnDisk.makeFolders path
  | .write path bytes => OnDisk.write path bytes
  | .move source target => OnDisk.rename source target

/-- The path that is named when the step fails. -/
def subject : SaveStep → Path
  | .makeFolders path => path
  | .write path _ => path
  | .move _ target => target

end SaveStep

/-- Where the document is written before it is moved to its place. -/
def temporary (path : Path) : Path := path.withExtension "json.tmp"

/-- The steps of saving. -/
def saveSteps (store : BatchStore) : List SaveStep :=
  match store.path with
  | none => []
  | some path =>
    let folder := path.parent?.filter (·.text != "")
    (folder.map SaveStep.makeFolders).toList ++
      [.write (temporary path) store.contents, .move (temporary path) path]

/-- Performs steps up to the first that fails. -/
def performAll : List SaveStep → Disk → Except BatchError Unit × Disk
  | [], disk => (.ok (), disk)
  | step :: rest, disk =>
    match step.perform.run.run disk with
    | (.ok (), next) => performAll rest next
    | (.error e, next) => (.error (.io step.subject e), next)

/-- Saves the store. -/
def save (store : BatchStore) (disk : Disk) : Except BatchError Unit × Disk :=
  performAll store.saveSteps disk

end BatchStore

end ImageBatch
