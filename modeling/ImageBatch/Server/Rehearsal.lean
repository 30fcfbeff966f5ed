import ImageBatch.Server.Client
import ImageBatch.Time.Basic

/-!
A service whose answers are written down beforehand: the first request gets the first answer, and so on.
-/

namespace ImageBatch.Server

/-- What becomes of a request: an answer, or a broken connection. -/
inductive Scripted where
  | answer (response : Response)
  | drop
deriving DecidableEq, Repr

/-- The answers that are left, the files that were uploaded, and the requests so far, latest first. -/
structure Stage where
  /-- The name of the host that gives the answers. -/
  host : String
  script : List Scripted
  uploaded : List Path := []
  requests : List Request := []

namespace Stage

/-- The answer after the last one that is written down. -/
def exhausted : Response := ⟨500, Text.toBytes "script exhausted"⟩

/-- What arrives of an answer by the rules of the protocol. Its status has three digits. One below 200 only
announces the answer proper, which does not come, except for a change of the protocol; some statuses have no
body. -/
def arriving? (r : Response) : Option Response :=
  if r.status = 101 ∨ r.status = 204 ∨ r.status = 304 then some { r with body := [] }
  else if 200 ≤ r.status ∧ r.status ≤ 999 then some r
  else none

/-- The address leads to the host that gives the answers: no other name, and no place of its own choice. -/
def reaches (stage : Stage) (url : Url) : Bool :=
  url.scheme = "http" &&
    url.authority.any fun a => a.host == .name stage.host && a.portNumber.isNone

/-- The name of every client. -/
def clientId : String := "<uuid>"

/-- Follows the script. -/
def service : Service Ask Answer Stage where
  respond question disk now stage :=
    match question with
    | .send request =>
      let lost := Except.error (TransportError.dropped request.url)
      if !stage.reaches request.url then ⟨lost, now, stage⟩
      else
        let noted := { stage with script := stage.script.drop 1, requests := request :: stage.requests }
        match stage.script.head? with
        | none => ⟨.ok exhausted, now, noted⟩
        | some .drop => ⟨lost, now, noted⟩
        | some (.answer response) =>
          match arriving? response with
          | some arrived => ⟨.ok arrived, now, noted⟩
          | none => ⟨lost, now, noted⟩
    | .pause length => ⟨(), Instant.afterWait now length, stage⟩
    | .read path => ⟨disk.read path, now, stage⟩
    | .isUploaded path => ⟨stage.uploaded.any (·.sameAs path), now, stage⟩
    | .markUploaded path => ⟨(), now, { stage with uploaded := path :: stage.uploaded }⟩
    | .newClientId => ⟨clientId, now, stage⟩

end Stage

end ImageBatch.Server
