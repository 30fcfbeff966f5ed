import ImageBatch.Backend.Retry
import ImageBatch.Json.Printer
import ImageBatch.Server.Client
import ImageBatch.Server.History

/-!
The service as a backend.

Every call is tried as often as the policy of its operation allows. Files are uploaded once before the first
graph that needs them is handed over. A poll looks at the history first, then at the queue, and, for a prompt
in neither, at the history again, because it may have ended in between.
-/

namespace ImageBatch.Server

/-- One policy for each kind of operation. -/
structure RetryPolicies where
  /-- Uploads and graphs. -/
  submit : RetryPolicy
  poll : RetryPolicy
  /-- Results and downloads. -/
  fetch : RetryPolicy
deriving DecidableEq, Repr

def RetryPolicies.uniform (policy : RetryPolicy) : RetryPolicies := ⟨policy, policy, policy⟩

/-- A service and how often its calls are tried. -/
structure Connection where
  client : Client
  retry : RetryPolicies

def pause (length : Nat) : Work Unit := Task.question (Ask.pause length)

def isUploaded (path : Path) : Work Bool := Task.question (Ask.isUploaded path)

/-- A call as an operation. -/
def operation {α : Type} (call : Work (Except CallError α)) : Work (Except BackendError α) := do
  return (← call).mapError CallError.toBackend

/-- How a prompt ended, if it has. -/
def terminalStatus? (entry : HistoryEntry) : Option BackendStatus :=
  if entry.isError then some (.error entry.errorMessage)
  else if entry.isCompleted then some .done
  else none

namespace Connection

/-- The service answers. -/
def health (c : Connection) : Work (Except BackendError Json) := operation c.client.systemStats

/-- A prompt's entry in the history. -/
def historyEntry (c : Connection) (promptId : String) : Work (Except BackendError (Option HistoryEntry)) := do
  match ← operation (c.client.history promptId) with
  | .error e => return .error e
  | .ok body =>
    match HistoryEntry.find? promptId body with
    | some entry => return .ok entry
    | none => return .error (.protocol ("malformed history for " ++ promptId ++ ": unexpected fields"))

/-- Uploads a file unless that has been done. -/
def uploadOnce (c : Connection) (path : Path) : Work (Except BackendError Unit) := do
  if ← isUploaded path then return .ok ()
  match ← Task.withRetry pause "upload" c.retry.submit (operation (c.client.upload path)) with
  | .error e => return .error e
  | .ok _ => do
    Task.question (Ask.markUploaded path)
    return .ok ()

/-- Uploads files in turn up to the first that fails. -/
def uploadAll (c : Connection) : List Path → Work (Except BackendError Unit)
  | [] => return .ok ()
  | path :: rest => do
    match ← c.uploadOnce path with
    | .error e => return .error e
    | .ok () => uploadAll c rest

/-- Hands over a job. -/
def submit (c : Connection) (job : ResolvedJob) : Work (Except BackendError String) := do
  match ← c.uploadAll job.uploads with
  | .error e => return .error e
  | .ok () =>
    let clientId ← Task.question Ask.newClientId
    let call := operation (c.client.submit job.graph clientId)
    match ← Task.withRetry pause "submit" c.retry.submit call with
    | .error e => return .error e
    | .ok submission =>
      if submission.hasErrors then
        return .error (.rejected ("node errors: " ++ submission.nodeErrors.compact))
      else return .ok submission.promptId

/-- The history of a prompt that is not in the queue decides. -/
def afterQueue (promptId : String) : Option HistoryEntry → BackendStatus
  | some entry =>
    (terminalStatus? entry).getD (.error "execution ended without a final status")
  | none => .error ("prompt " ++ promptId ++ " is unknown to the backend")

/-- How a prompt stands in the queue, or else in the history. -/
def pollQueue (c : Connection) (promptId : String) : Work (Except BackendError BackendStatus) := do
  match ← Task.withRetry pause "poll" c.retry.poll (operation c.client.queue) with
  | .error e => return .error e
  | .ok queue =>
    match queue.position promptId with
    | .running => return .ok .running
    | .pending => return .ok .queued
    | .absent =>
      match ← Task.withRetry pause "poll" c.retry.poll (c.historyEntry promptId) with
      | .error e => return .error e
      | .ok entry => return .ok (afterQueue promptId entry)

/-- How a prompt stands. -/
def poll (c : Connection) (promptId : String) : Work (Except BackendError BackendStatus) := do
  match ← Task.withRetry pause "poll" c.retry.poll (c.historyEntry promptId) with
  | .error e => return .error e
  | .ok entry =>
    match entry.bind terminalStatus? with
    | some status => return .ok status
    | none => c.pollQueue promptId

/-- The output of a prompt that is done. -/
def fetchResult (c : Connection) (promptId : String) : Work (Except BackendError ResultReference) := do
  match ← Task.withRetry pause "fetch_result" c.retry.fetch (c.historyEntry promptId) with
  | .error e => return .error e
  | .ok none => return .error (.protocol ("no history entry for " ++ promptId))
  | .ok (some entry) =>
    match entry.firstOutputImage? with
    | some reference => return .ok reference
    | none => return .error (.protocol ("no output image recorded for " ++ promptId))

/-- An output file. -/
def download (c : Connection) (reference : ResultReference) : Work (Except BackendError Bytes) :=
  Task.withRetry pause "download" c.retry.fetch (operation (c.client.view reference))

/-- The service as a backend. -/
def backend (c : Connection) : Backend Ask Answer where
  submit := c.submit
  poll := c.poll
  fetchResult := c.fetchResult
  download := c.download

end Connection

end ImageBatch.Server
