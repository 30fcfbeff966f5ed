import ImageBatch.Batch.Error
import ImageBatch.Entries
import ImageBatch.File.Name
import ImageBatch.Style.Keywords
import ImageBatch.Style.Seed
import ImageBatch.Text.Lowercase

/-!
The style seeds of a folder.

A seed has a text `texts/<id>.txt`, or a folder `images/<id>` with images named after it, or both.
-/

namespace ImageBatch.Seeds

/-- The extensions of a seed's images. -/
def imageExtensions : List String := ["png", "jpg", "jpeg", "webp"]

/-- What stands in a folder; nothing if it is missing. -/
def listFolder (disk : Disk) (folder : Path) : Except BatchError (List Path) :=
  match disk.list folder with
  | .ok paths => .ok paths
  | .error .notFound => .ok []
  | .error e => .error (.io folder e)

/-- The id of a seed that has a text. -/
def textId? (disk : Disk) (path : Path) : Option String :=
  if path.extension? = some "txt" ∧ disk.isFile path then path.stem? else none

/-- The id of a seed that has a folder. -/
def folderId? (disk : Disk) (path : Path) : Option String :=
  if disk.isFolder path then path.fileName? else none

/-- Texts in their order, each once. -/
def sorted (texts : List String) : List String := (Entries.ofList (texts.map fun t => (t, ()))).names

/-- The usable ids of a folder's seeds, in their order. -/
def ids (disk : Disk) (folder : Path) : Except BatchError (List String) := do
  let texts ← listFolder disk (folder.join "texts")
  let images ← listFolder disk (folder.join "images")
  let found := texts.filterMap (textId? disk) ++ images.filterMap (folderId? disk)
  return sorted (found.filter FileName.isSafeId)

/-- A file is an image of a seed. -/
def isImage (disk : Disk) (id : String) (path : Path) : Bool :=
  path.stem? == some id &&
    (match path.extension? with
      | some extension => imageExtensions.contains (Text.lowercaseAscii extension)
      | none => false) &&
    disk.isFile path

/-- Reads a seed; a part that is missing is empty. -/
def load (disk : Disk) (folder : Path) (id : String) : Except BatchError StyleSeed := do
  if !FileName.isSafeId id then throw (.unusableSeedId id)
  let found ← listFolder disk ((folder.join "images").join id)
  let images := (sorted ((found.filter (isImage disk id)).map (·.text))).map Path.mk
  let text := (folder.join "texts").join (id ++ ".txt")
  match disk.readText text with
  | .ok said => return ⟨id, images, Keywords.ofText said⟩
  | .error .notFound => return ⟨id, images, []⟩
  | .error e => throw (.io text e)

end ImageBatch.Seeds
