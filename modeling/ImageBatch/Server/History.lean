import ImageBatch.Job.Record
import ImageBatch.Text.Blank

/-!
The history of the service: how a prompt ended and what it put out.
-/

namespace ImageBatch.Server

/-- An image that a node put out. -/
structure OutputImage where
  filename : String
  subfolder : String
  area : String
deriving DecidableEq, Repr

/-- The storage area of final images. -/
def outputArea : String := "output"

/-- How a prompt ended. -/
structure HistoryStatus where
  word : Option String
  completed : Bool
  /-- Names and contents of what was reported on the way. -/
  messages : List (String × Json)
deriving Repr

/-- One prompt in the history. -/
structure HistoryEntry where
  /-- The images of each node. -/
  outputs : Entries (List OutputImage)
  status : Option HistoryStatus
deriving Repr

open Document

namespace OutputImage

def ofDocument? (d : Document) : Option OutputImage := do
  let found ← d.asRecord [must "filename", may "subfolder", may "type"]
  return {
    filename := ← found.required "filename" asText
    subfolder := ← found.withDefault "subfolder" "" asText
    area := ← found.withDefault "type" outputArea asText }

end OutputImage

/-- The images of a node. -/
def asImages (d : Document) : Option (List OutputImage) := do
  let found ← d.asRecord [may "images"]
  found.withDefault "images" [] (asList OutputImage.ofDocument?)

/-- A pair of a name and a value. -/
def asMessage : Document → Option (String × Json)
  | .array [name, value] => do return (← name.asText, ← value.toJson? maxDepth)
  | _ => none

namespace HistoryStatus

def ofDocument? (d : Document) : Option HistoryStatus := do
  let found ← d.asRecord [may "status_str", may "completed", may "messages"]
  return {
    word := ← found.nullable "status_str" asText
    completed := ← found.withDefault "completed" false asBool
    messages := ← found.withDefault "messages" [] (asList asMessage) }

end HistoryStatus

/-- What the service reports about an error. -/
structure ExecutionError where
  nodeId : Option String
  nodeType : Option String
  exceptionType : Option String
  exceptionMessage : Option String
deriving DecidableEq, Repr

namespace ExecutionError

def ofDocument? (d : Document) : Option ExecutionError := do
  let found ← d.asRecord [may "node_id", may "node_type", may "exception_type", may "exception_message"]
  return {
    nodeId := ← found.nullable "node_id" asText
    nodeType := ← found.nullable "node_type" asText
    exceptionType := ← found.nullable "exception_type" asText
    exceptionMessage := ← found.nullable "exception_message" asText }

/-- The error in words: what happened, and at which node. -/
def message (e : ExecutionError) : String :=
  let story := match e.exceptionType, e.exceptionMessage with
    | some kind, some said => kind ++ ": " ++ Text.trim said
    | none, some said => Text.trim said
    | some kind, none => kind
    | none, none => "execution failed"
  let place := match e.nodeId, e.nodeType with
    | some node, some kind => " (node " ++ node ++ " " ++ kind ++ ")"
    | some node, none => " (node " ++ node ++ ")"
    | none, _ => ""
  story ++ place

end ExecutionError

/-- The order of node ids: numbers first by their value, then all others, each by their text. -/
def nodeBefore (a b : String) : Bool :=
  let rank (id : String) : Nat := (Natural.read? Natural.max64 id).getD Natural.max64
  rank a < rank b || (rank a == rank b && a ≤ b)

namespace HistoryEntry

def ofDocument? (d : Document) : Option HistoryEntry := do
  let found ← d.asRecord [may "outputs", may "status"]
  return {
    outputs := ← found.withDefault "outputs" [] (asEntries asImages)
    status := ← found.nullable "status" HistoryStatus.ofDocument? }

/-- The prompt ended with an error. -/
def isError (entry : HistoryEntry) : Bool := (entry.status.bind (·.word)) == some "error"

/-- The prompt ended well. -/
def isCompleted (entry : HistoryEntry) : Bool :=
  (match entry.status with
    | some status => status.completed
    | none => false) && !entry.isError

/-- What the first report of an error says. -/
def errorMessage (entry : HistoryEntry) : String :=
  let messages := match entry.status with
    | some status => status.messages
    | none => []
  let report := messages.find? fun (name, _) => name == "execution_error"
  match report.bind fun (_, payload) => ExecutionError.ofDocument? (Document.ofJson payload) with
  | some e => e.message
  | none => "execution failed without error detail"

/-- The first final image of a node. -/
def finalImage? (nodeId : String) (images : List OutputImage) : Option ResultReference :=
  (images.find? (·.area == outputArea)).map fun image =>
    ⟨nodeId, image.filename, image.subfolder, image.area⟩

/-- The first final image in the order of the nodes. -/
def firstOutputImage? (entry : HistoryEntry) : Option ResultReference :=
  (entry.outputs.mergeSort fun a b => nodeBefore a.1 b.1).findSome? fun (id, images) =>
    finalImage? id images

/-- The entry of a prompt in an answer: none before the prompt has ended, an error if it cannot be read. -/
def find? (promptId : String) (body : Json) : Option (Option HistoryEntry) :=
  match body.field? promptId with
  | some entry => (ofDocument? (Document.ofJson entry)).map some
  | none => some none

end HistoryEntry

end ImageBatch.Server
