import ImageBatch.File.Path
import ImageBatch.Text.Utf8

/-!
Files and folders below the working folder.

A `Disk` says what stands at each location; a location is the list of names that lead to it, and the working
folder itself is the empty one. A path is followed segment by segment: nothing exists outside the working
folder, a segment after which more follow must be a folder. Operations are functions of `OnDisk`: one that
fails leaves what it had done before.
-/

namespace ImageBatch

/-- Why the file system refuses. -/
inductive IoError where
  | notFound
  | notAFolder
  | isAFolder
  | exists
  | busy
  | nameTooLong
  | nulInName
  | notText
deriving DecidableEq, Repr

/-- The wording of a refusal. -/
def IoError.message : IoError → String
  | .notFound => "No such file or directory (os error 2)"
  | .notAFolder => "Not a directory (os error 20)"
  | .isAFolder => "Is a directory (os error 21)"
  | .exists => "File exists (os error 17)"
  | .busy => "Device or resource busy (os error 16)"
  | .nameTooLong => "File name too long (os error 36)"
  | .nulInName => "file name contained an unexpected NUL byte"
  | .notText => "stream did not contain valid UTF-8"

/-- What stands at a location. -/
inductive Node where
  | folder
  | file (bytes : Bytes)
deriving DecidableEq, Repr

/-- The names that lead to a file or folder. -/
abbrev Location := List String

/-- What stands where. The working folder is always there. -/
structure Disk where
  nodes : List (Location × Node)
deriving DecidableEq, Repr

namespace Disk

def empty : Disk := ⟨[]⟩

/-- The node at a location in a list. -/
def find? (at_ : Location) : List (Location × Node) → Option Node
  | [] => none
  | (location, node) :: rest => if location = at_ then some node else find? at_ rest

/-- What stands at a location. -/
def node? (disk : Disk) (at_ : Location) : Option Node :=
  if at_ = [] then some .folder else find? at_ disk.nodes

/-- A list with `node` at a location. -/
def replace (at_ : Location) (node : Node) : List (Location × Node) → List (Location × Node)
  | [] => [(at_, node)]
  | (location, old) :: rest =>
    if location = at_ then (at_, node) :: rest else (location, old) :: replace at_ node rest

/-- The disk with `node` at a location. -/
def put (disk : Disk) (at_ : Location) (node : Node) : Disk := ⟨replace at_ node disk.nodes⟩

/-- The disk with nothing at a location. -/
def remove (disk : Disk) (at_ : Location) : Disk := ⟨disk.nodes.filter fun (l, _) => l != at_⟩

@[simp] theorem find?_replace (at_ other : Location) (node : Node) (nodes : List (Location × Node)) :
    find? other (replace at_ node nodes) = if other = at_ then some node else find? other nodes := by
  induction nodes with
  | nil => simp only [replace, find?, eq_comm]
  | cons entry rest ih =>
    obtain ⟨location, old⟩ := entry
    unfold replace
    by_cases h : location = at_
    · subst h
      by_cases g : location = other
      · simp [find?, g]
      · simp [find?, g, Ne.symm g]
    · by_cases g : location = other <;> simp_all [find?]

/-- After a change at a location, that location has the new node and every other what it had. -/
theorem node?_put {disk : Disk} {at_ : Location} (node : Node) (ne : at_ ≠ []) (other : Location) :
    (disk.put at_ node).node? other = if other = at_ then some node else disk.node? other := by
  unfold node? put
  by_cases h : other = [] <;> by_cases g : other = at_ <;> simp_all

/-! ### Following a path -/

/-- The most bytes that a name may have. -/
def maxName : Nat := 255

/-- The most bytes that a path may have. -/
def maxPath : Nat := 4095

/-- What a last segment names: a folder that was reached already, or a name in a folder. -/
inductive Goal where
  | reached (folder : Location)
  | entry (folder : Location) (name : String)
deriving DecidableEq, Repr

/-- The folder that a segment leads to from a folder. -/
def enter (disk : Disk) (folder : Location) (segment : String) : Except IoError Location :=
  if segment = "" ∨ segment = "." then .ok folder
  else if segment = ".." then if folder = [] then .error .notFound else .ok folder.dropLast
  else if maxName < segment.utf8ByteSize then .error .nameTooLong
  else
    match disk.node? (folder ++ [segment]) with
    | none => .error .notFound
    | some (.file _) => .error .notAFolder
    | some .folder => .ok (folder ++ [segment])

/-- Follows all segments but the last, and looks at that. -/
def follow (disk : Disk) (folder : Location) : List String → Except IoError Goal
  | [] => .ok (.reached folder)
  | [segment] =>
    if segment = "." ∨ segment = ".." then (disk.enter folder segment).map .reached
    else if maxName < segment.utf8ByteSize then .error .nameTooLong
    else .ok (.entry folder segment)
  | segment :: rest =>
    match disk.enter folder segment with
    | .ok next => follow disk next rest
    | .error e => .error e

/-- Where a path leads, and whether a slash at its end asks for a folder. -/
def locate (disk : Disk) (p : Path) : Except IoError (Goal × Bool) :=
  if p.text.toList.contains '\x00' then .error .nulInName
  else if p.text = "" then .error .notFound
  else if maxPath < p.text.utf8ByteSize then .error .nameTooLong
  else if p.isAbsolute then .error .notFound
  else
    let named := (p.segments.reverse.dropWhile (· == "")).reverse
    (disk.follow [] named).map fun goal => (goal, named.length < p.segments.length)

/-- The location and the node that a path names. -/
def lookup (disk : Disk) (p : Path) : Except IoError (Location × Node) := do
  match ← disk.locate p with
  | (.reached folder, _) => .ok (folder, .folder)
  | (.entry folder name, asFolder) =>
    match disk.node? (folder ++ [name]) with
    | none => .error .notFound
    | some .folder => .ok (folder ++ [name], .folder)
    | some (.file bytes) => if asFolder then .error .notAFolder else .ok (folder ++ [name], .file bytes)

/-! ### Questions -/

def isFile (disk : Disk) (p : Path) : Bool :=
  match disk.lookup p with
  | .ok (_, .file _) => true
  | _ => false

def isFolder (disk : Disk) (p : Path) : Bool :=
  match disk.lookup p with
  | .ok (_, .folder) => true
  | _ => false

/-- The contents of a file. -/
def read (disk : Disk) (p : Path) : Except IoError Bytes := do
  match ← disk.lookup p with
  | (_, .folder) => .error .isAFolder
  | (_, .file bytes) => .ok bytes

/-- The contents of a file as text. -/
def readText (disk : Disk) (p : Path) : Except IoError String := do
  match Text.fromBytes? (← disk.read p) with
  | some text => .ok text
  | none => .error .notText

/-- The name of a node that stands directly in a folder. -/
def childName? (folder location : Location) : Option String :=
  match location.reverse with
  | name :: rest => if rest.reverse = folder then some name else none
  | [] => none

/-- The paths of what stands in a folder. -/
def list (disk : Disk) (p : Path) : Except IoError (List Path) := do
  match ← disk.lookup p with
  | (_, .file _) => .error .notAFolder
  | (folder, .folder) => .ok (disk.nodes.filterMap fun (l, _) => (childName? folder l).map p.join)

/-- The location and contents of every file. -/
def files (disk : Disk) : List (Location × Bytes) :=
  disk.nodes.filterMap fun (location, node) =>
    match node with
    | .file bytes => some (location, bytes)
    | .folder => none

end Disk

/-- A file operation: it changes the disk and may fail. -/
abbrev OnDisk (α : Type) := ExceptT IoError (StateM Disk) α

namespace OnDisk

/-- Asks the disk. -/
def ask {α : Type} (question : Disk → Except IoError α) : OnDisk α := do
  ExceptT.mk (pure (question (← get)))

/-- Makes `bytes` the contents of a file, which is created if it is missing. -/
def write (p : Path) (bytes : Bytes) : OnDisk Unit := do
  match ← ask (·.locate p) with
  | (.reached _, _) => throw .isAFolder
  | (.entry folder name, asFolder) =>
    if asFolder then throw .isAFolder
    match (← get).node? (folder ++ [name]) with
    | some .folder => throw .isAFolder
    | _ => modify (·.put (folder ++ [name]) (.file bytes))

/-- Creates a folder in a folder that is there. -/
def makeFolder (p : Path) : OnDisk Unit := do
  match ← ask (·.locate p) with
  | (.reached _, _) => throw .exists
  | (.entry folder name, _) =>
    match (← get).node? (folder ++ [name]) with
    | some _ => throw .exists
    | none => modify (·.put (folder ++ [name]) .folder)

/-- Creates the folders of a path, nearest to the root last in the list `above`. -/
def makeEach : List Path → OnDisk Unit
  | [] => pure ()
  | p :: above => do
    if p.text = "" then return
    try makeFolder p
    catch e =>
      if e = .notFound then
        makeEach above
        try makeFolder p
        catch e => unless (← get).isFolder p do throw e
      else unless (← get).isFolder p do throw e

/-- A path and the paths that hold it, at most `count`. -/
def ancestors (p : Path) : (count : Nat) → List Path
  | 0 => []
  | count + 1 =>
    match p.parent? with
    | none => [p]
    | some parent => p :: ancestors parent count

/-- Creates a folder and all folders on the way to it. -/
def makeFolders (p : Path) : OnDisk Unit := makeEach (ancestors p (p.components.length + 1))

/-- Moves a file to another path in one step; a file that stands there is replaced. -/
def rename (source target : Path) : OnDisk Unit := do
  match ← ask (·.lookup source) with
  | (_, .folder) => throw .busy
  | (origin, .file bytes) =>
    match ← ask (·.locate target) with
    | (.reached _, _) => throw .busy
    | (.entry folder name, asFolder) =>
      if asFolder then throw .notAFolder
      match (← get).node? (folder ++ [name]) with
      | some .folder => throw .isAFolder
      | _ => modify fun disk => (disk.remove origin).put (folder ++ [name]) (.file bytes)

end OnDisk

end ImageBatch
