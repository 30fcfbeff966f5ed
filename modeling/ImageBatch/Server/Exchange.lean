import ImageBatch.Backend.Basic
import ImageBatch.Url.Basic

/-!
Requests to the service and its answers.
-/

namespace ImageBatch.Server

inductive Method where
  | get
  | post
deriving DecidableEq, Repr

def Method.word : Method → String
  | .get => "GET"
  | .post => "POST"

/-- A part of a form with files. -/
inductive Part where
  | file (name filename : String) (bytes : Bytes)
  | field (name text : String)
deriving DecidableEq, Repr

/-- A name of a file as it stands between the quotes in the head of its part: characters that would end it, or
its line, follow a backslash. -/
def quotedFilename (name : String) : String :=
  String.ofList (name.toList.flatMap fun c =>
    if ['\\', '"', '\r', '\n'].contains c then ['\\', c] else [c])

/-- What a request carries. -/
inductive Payload where
  | nothing
  | json (value : Json)
  | form (parts : List Part)
deriving Repr

structure Request where
  method : Method
  url : Url
  payload : Payload
deriving Repr

structure Response where
  status : Nat
  body : Bytes
deriving DecidableEq, Repr

/-- The request was understood and done. -/
def Response.isSuccess (r : Response) : Bool := 200 ≤ r.status && r.status < 300

/-- Why there is no answer that can be read. -/
inductive TransportError where
  /-- There is no absolute address to send the request to. -/
  | noAddress
  /-- No request can ask for the address. -/
  | unfitAddress (url : Url)
  /-- The connection broke. -/
  | dropped (url : Url)
  /-- The body is not the document that was expected. -/
  | unreadableBody
deriving DecidableEq, Repr

def TransportError.message : TransportError → String
  | .noAddress => "builder error"
  | .unfitAddress url => "builder error for url (" ++ url.text ++ ")"
  | .dropped url => "error sending request for url (" ++ url.text ++ ")"
  | .unreadableBody => "error decoding response body"

/-- Why a call to the service failed. -/
inductive CallError where
  | transport (cause : TransportError)
  /-- The service answered, but not with success. -/
  | status (code : Nat) (body : String)
  /-- A local file to upload cannot be read. -/
  | upload (path : Path) (cause : IoError)
deriving DecidableEq, Repr

def CallError.message : CallError → String
  | .transport cause => "HTTP request failed: " ++ cause.message
  | .status code body => "ComfyUI API error (" ++ toString code ++ "): " ++ body
  | .upload path cause => "Failed to read " ++ path.text ++ ": " ++ cause.message

/-- What a failed call means for a job. Overload and broken connections may pass; a refusal is final; an
answer that cannot be read is neither. -/
def CallError.toBackend : CallError → BackendError
  | .transport (.dropped url) => .unavailable (TransportError.dropped url).message
  | .transport cause => .protocol cause.message
  | .status code body =>
    let message := "HTTP " ++ toString code ++ ": " ++ body
    if 500 ≤ code ∨ code = 429 then .unavailable message
    else if 400 ≤ code then .rejected message
    else .protocol message
  | .upload path cause => .localFile path cause

end ImageBatch.Server
