import ImageBatch.Json.Scan
import ImageBatch.Server.Exchange
import ImageBatch.Server.Queue

/-!
The calls that the service offers, as tasks.

A call asks for one request to be sent and reads the answer: an answer without success is an error that keeps
the body's text, a body that is not the expected document is an error too.
-/

namespace ImageBatch.Server

/-- What the client asks of the outside world. -/
inductive Ask where
  | send (request : Request)
  | pause (length : Nat)
  | read (path : Path)
  /-- A file has been uploaded. -/
  | isUploaded (path : Path)
  | markUploaded (path : Path)
  /-- A new name for a client. -/
  | newClientId

/-- What it is told. -/
def Answer : Ask → Type
  | .send _ => Except TransportError Response
  | .pause _ => Unit
  | .read _ => Except IoError Bytes
  | .isUploaded _ => Bool
  | .markUploaded _ => Unit
  | .newClientId => String

/-- A task of the client. -/
abbrev Work (α : Type) := Task Ask Answer α

/-- The service at an address. -/
structure Client where
  /-- The address without slashes at its end. -/
  baseUrl : String
deriving DecidableEq, Repr

/-- The answer to a handed-over graph. -/
structure Submission where
  promptId : String
  nodeErrors : Json
deriving Repr

open Document

namespace Submission

def ofDocument? (d : Document) : Option Submission := do
  let found ← d.asRecord [must "prompt_id", may "number", may "node_errors"]
  let _ ← found.withDefault "number" 0 (asInteger Double.int64Min Double.int64Max)
  return {
    promptId := ← found.required "prompt_id" asText
    nodeErrors := ← found.withDefault "node_errors" .null (toJson? (maxDepth - 1)) }

/-- The service found faults in the graph. -/
def hasErrors (s : Submission) : Bool :=
  match s.nodeErrors with
  | .null => false
  | .object fields => !fields.isEmpty
  | _ => true

end Submission

/-- The answer to an upload: the name under which the file is kept. -/
def asUpload (d : Document) : Option String := do
  let found ← d.asRecord [must "name", may "subfolder", may "type"]
  let _ ← found.withDefault "subfolder" "" asText
  let _ ← found.withDefault "type" "" asText
  found.required "name" asText

namespace Client

/-- The service at an address that may end in slashes. -/
def ofUrl (url : String) : Client :=
  ⟨String.ofList (url.toList.reverse.dropWhile (· == '/')).reverse⟩

/-- The address of a call, which must name a host. A user named in it is not part of what is asked for. -/
def url (client : Client) (path : String) : Except TransportError Url :=
  match Url.ofText? (client.baseUrl ++ path) with
  | none => .error .noAddress
  | some url => if url.hasHost then .ok url.withoutUser else .error (.unfitAddress url)

/-- Sends a request and takes an answer of success. -/
def exchange (method : Method) (url : Except TransportError Url) (payload : Payload) :
    Work (Except CallError Response) := do
  match url with
  | .error e => return .error (.transport e)
  | .ok url =>
    if !url.isAskable then return .error (.transport (.unfitAddress url))
    match ← Task.question (Ask.send ⟨method, url, payload⟩) with
    | .error e => return .error (.transport e)
    | .ok response =>
      if response.isSuccess then return .ok response
      else return .error (.status response.status (Text.decodeBody response.body))

/-- Reads the body of an answer. -/
def parsed {α : Type} (read : Document → Option α) (call : Work (Except CallError Response)) :
    Work (Except CallError α) := do
  match ← call with
  | .error e => return .error e
  | .ok response =>
    match Document.read? read response.body with
    | some value => return .ok value
    | none => return .error (.transport .unreadableBody)

/-- Hands over a graph. -/
def submit (client : Client) (graph : Json) (clientId : String) : Work (Except CallError Submission) :=
  let body : Json := .object [("prompt", graph), ("client_id", .text clientId)]
  parsed Submission.ofDocument? (exchange .post (client.url "/prompt") (.json body))

/-- The history of a prompt. -/
def history (client : Client) (promptId : String) : Work (Except CallError Json) :=
  parsed (toJson? maxDepth) (exchange .get (client.url ("/history/" ++ promptId)) .nothing)

/-- The queue. -/
def queue (client : Client) : Work (Except CallError QueueSnapshot) :=
  parsed QueueSnapshot.ofDocument? (exchange .get (client.url "/queue") .nothing)

/-- An output file. -/
def view (client : Client) (reference : ResultReference) : Work (Except CallError Bytes) := do
  let fields := [("filename", reference.filename), ("subfolder", reference.subfolder),
    ("type", reference.area)]
  match ← exchange .get ((client.url "/view").map (·.withForm fields)) .nothing with
  | .error e => return .error e
  | .ok response => return .ok response.body

/-- Puts a local file into the input folder of the service, over any file of its name. -/
def upload (client : Client) (path : Path) : Work (Except CallError String) := do
  match ← Task.question (Ask.read path) with
  | .error e => return .error (.upload path e)
  | .ok bytes =>
    let parts : List Part := [
      .file "image" (path.fileName?.getD "upload.png") bytes,
      .field "type" "input",
      .field "overwrite" "true"]
    parsed asUpload (exchange .post (client.url "/upload/image") (.form parts))

/-- What the service says about itself. -/
def systemStats (client : Client) : Work (Except CallError Json) :=
  parsed (toJson? maxDepth) (exchange .get (client.url "/system_stats") .nothing)

end Client

end ImageBatch.Server
