import ImageBatch.Proofs.Backend.Exchanges
import ImageBatch.Proofs.Backend.Questions
import ImageBatch.Server.Backend

/-!
The phases of a submit.

A submit takes up one file after another and then hands over its graph (`Phase`). Of each file it asks whether it has
been uploaded; if not it reads the file and sends it, and may pause and do so again, until the service has taken the
file, and then it has that recorded. What is left of a submit in a phase (`Submits`) asks the question of that phase,
and whatever it is answered, it goes on in a phase that may follow (`Submits.asks`).
-/

namespace ImageBatch.Server

/-- The name under which a file is uploaded. -/
def uploadName (path : Path) : String := path.fileName?.getD "upload.png"

/-- The form that carries the contents of a file. -/
def uploadForm (path : Path) (bytes : Bytes) : Payload :=
  .form [.file "image" (uploadName path) bytes, .field "type" "input", .field "overwrite" "true"]

/-- The request that carries the contents of a file. -/
def uploadRequest (url : Url) (path : Path) (bytes : Bytes) : Request := ⟨.post, url, uploadForm path bytes⟩

/-- A request that carries no file, or a pause, or the name of a client. -/
def HandsOver : Ask → Prop
  | .send request => ∃ value, request.payload = .json value
  | .pause _ | .newClientId => True
  | _ => False

/-- How far a submit has come, with the files that are still to be looked at after the one at hand. -/
inductive Phase where
  /-- It is about to ask whether a file has been uploaded. -/
  | checks (path : Path) (later : List Path)
  | reads (path : Path) (later : List Path)
  | sends (path : Path) (bytes : Bytes) (url : Url) (later : List Path)
  /-- An upload failed, and it is about to wait before it tries again. -/
  | waits (path : Path) (delay : Nat) (later : List Path)
  /-- The service has taken the file, and it is about to have that recorded. -/
  | records (path : Path) (later : List Path)
  /-- The files are there. -/
  | names
  /-- It hands over the graph, or is done with that. -/
  | hands
  /-- It has failed because of a file. -/
  | ended

namespace Phase

/-- The phase in which a submit is when these files are still to be looked at. -/
def ofFiles : List Path → Phase
  | [] => .names
  | path :: later => .checks path later

/-- The files that are not settled, with the one at hand. -/
def remaining : Phase → List Path
  | .checks path later | .reads path later | .sends path _ _ later | .waits path _ later | .records path later =>
    path :: later
  | .names | .hands | .ended => []

/-- The file that it tries to upload. -/
def trying? : Phase → Option Path
  | .reads path _ | .sends path _ _ _ | .waits path _ _ => some path
  | _ => none

/-- What it asks next, as far as the phase tells. -/
def question? : Phase → Option Ask
  | .checks path _ => some (.isUploaded path)
  | .reads path _ => some (.read path)
  | .sends path bytes url _ => some (.send (uploadRequest url path bytes))
  | .waits _ delay _ => some (.pause delay)
  | .records path _ => some (.markUploaded path)
  | .names => some .newClientId
  | .hands | .ended => none

/-- The phases after an attempt at a file that failed. -/
inductive AfterFailure (path : Path) (later : List Path) : Phase → Prop where
  | again {delay} : AfterFailure path later (.waits path delay later)
  | ended : AfterFailure path later .ended

/-- The phase that may follow a phase after a question and its answer. -/
inductive Step (c : Connection) : Phase → (question : Ask) → Answer question → Phase → Prop where
  | known {path later} : Step c (.checks path later) (.isUploaded path) true (.ofFiles later)
  | unknown {path later} : Step c (.checks path later) (.isUploaded path) false (.reads path later)
  | read {path later bytes url} (address : c.client.url "/upload/image" = .ok url) :
      Step c (.reads path later) (.read path) (.ok bytes : Except IoError Bytes) (.sends path bytes url later)
  /-- The file cannot be read, or there is nowhere to send it. -/
  | unread {path later phase} {answer : Except IoError Bytes} (unsent : ∀ bytes url, answer = .ok bytes →
      c.client.url "/upload/image" = .ok url → url.isAskable = false) (failed : AfterFailure path later phase) :
      Step c (.reads path later) (.read path) answer phase
  | taken {path bytes url later} {response : Response} (address : c.client.url "/upload/image" = .ok url)
      (success : response.isSuccess = true) :
      Step c (.sends path bytes url later) (.send (uploadRequest url path bytes))
        (.ok response : Except TransportError Response) (.records path later)
  | refused {path bytes url later phase} {answer : Except TransportError Response}
      (refused : ∀ response, answer = .ok response → response.isSuccess = false)
      (failed : AfterFailure path later phase) :
      Step c (.sends path bytes url later) (.send (uploadRequest url path bytes)) answer phase
  /-- The service has taken the file, but its answer cannot be read. -/
  | lost {path bytes url later} {response : Response} (success : response.isSuccess = true)
      (unreadable : Document.read? asUpload response.body = none) :
      Step c (.sends path bytes url later) (.send (uploadRequest url path bytes))
        (.ok response : Except TransportError Response) .ended
  | waited {path delay later} : Step c (.waits path delay later) (.pause delay) () (.reads path later)
  | recorded {path later} : Step c (.records path later) (.markUploaded path) () (.ofFiles later)
  | named {clientId : String} : Step c .names .newClientId clientId .hands
  | hands {question answer} (handsOver : HandsOver question) : Step c .hands question answer .hands

variable {c : Connection} {phase phase' : Phase} {question : Ask} {answer : Answer question} {path : Path}
  {files later : List Path}

theorem remaining_ofFiles : (ofFiles files).remaining = files := by
  cases files <;> rfl

theorem trying?_ofFiles : (ofFiles files).trying? = none := by
  cases files <;> rfl

namespace Step

/-- No file is looked at that was not to be looked at before. -/
theorem remaining_subset (step : Step c phase question answer phase') : phase'.remaining ⊆ phase.remaining := by
  cases step with
  | known | recorded =>
      rw [remaining_ofFiles]
      exact List.subset_cons_self ..
  | unknown | read | taken | waited => exact List.Subset.refl _
  | unread _ failed | refused _ failed =>
      cases failed with
      | again => exact List.Subset.refl _
      | ended => exact List.nil_subset _
  | lost | named | hands => exact List.nil_subset _

/-- What is read is a file that is to be looked at. -/
theorem mem_of_read {answer : Answer (.read path)} (step : Step c phase (.read path) answer phase') :
    path ∈ phase.remaining := by
  cases step with
  | read | unread => exact List.mem_cons_self
  | hands handsOver => exact handsOver.elim

/-- What is recorded is the file that was to be recorded. -/
theorem eq_of_markUploaded {answer : Answer (.markUploaded path)}
    (step : Step c phase (.markUploaded path) answer phase') : ∃ later, phase = .records path later := by
  cases step with
  | recorded => exact ⟨_, rfl⟩
  | hands handsOver => exact handsOver.elim

/-- What is sent is what has just been read. -/
theorem eq_of_sends {bytes : Bytes} {url : Url} (step : Step c phase question answer phase')
    (sends : phase' = .sends path bytes url later) (askedAt comesAt : Nat) :
    (⟨question, answer, askedAt, comesAt⟩ : Exchange Ask Answer) =
      ⟨.read path, (.ok bytes : Except IoError Bytes), askedAt, comesAt⟩ := by
  cases step with
  | read address =>
      cases sends
      rfl
  | known | recorded =>
      rename_i later
      cases later <;> cases sends
  | unknown | taken | lost | waited | named | hands => cases sends
  | unread _ failed | refused _ failed => cases failed <;> cases sends

/-- What is to be recorded is what the service has just taken. -/
theorem eq_of_records (step : Step c phase question answer phase') (records : phase' = .records path later)
    (askedAt comesAt : Nat) :
    ∃ bytes url response, c.client.url "/upload/image" = .ok url ∧ response.isSuccess = true ∧
      phase = .sends path bytes url later ∧ (⟨question, answer, askedAt, comesAt⟩ : Exchange Ask Answer) =
        ⟨.send (uploadRequest url path bytes), (.ok response : Except TransportError Response), askedAt, comesAt⟩ := by
  cases step with
  | taken address success =>
      cases records
      exact ⟨_, _, _, address, success, rfl, rfl⟩
  | known | recorded =>
      rename_i later
      cases later <;> cases records
  | unknown | read | lost | waited | named | hands => cases records
  | unread _ failed | refused _ failed => cases failed <;> cases records

/-- What is to be recorded is recorded next. -/
theorem markUploaded_of_records (step : Step c (.records path later) question answer phase') :
    question = .markUploaded path := by
  cases step
  rfl

theorem ne_ended (step : Step c phase question answer phase') : phase ≠ .ended := by
  rintro rfl
  cases step

/-- A file is tried because it is not known, and as long as it is nothing is recorded. -/
theorem eq_of_trying? (step : Step c phase question answer phase') (trying : phase'.trying? = some path)
    (askedAt comesAt : Nat) :
    (⟨question, answer, askedAt, comesAt⟩ : Exchange Ask Answer) = ⟨.isUploaded path, false, askedAt, comesAt⟩ ∨
      phase.trying? = some path ∧ ∀ known, question ≠ .markUploaded known := by
  cases step with
  | unknown =>
      cases trying
      exact .inl rfl
  | read | waited => exact .inr ⟨trying, fun _ asked => nomatch asked⟩
  | unread _ failed | refused _ failed =>
      cases failed with
      | again => exact .inr ⟨trying, fun _ asked => nomatch asked⟩
      | ended => cases trying
  | known | recorded =>
      rw [trying?_ofFiles] at trying
      cases trying
  | taken | lost | named | hands => cases trying

/-- A file is sent only in its own phase. -/
theorem eq_of_upload {bytes : Bytes} {url : Url} (step : Step c phase question answer phase')
    (sent : question = .send (uploadRequest url path bytes)) :
    ∃ path' bytes' url' later, phase = .sends path' bytes' url' later := by
  cases step with
  | taken | lost | refused => exact ⟨_, _, _, _, rfl⟩
  | hands handsOver =>
      rw [sent] at handsOver
      obtain ⟨value, ⟨⟩⟩ := handsOver
  | known | unknown | read | unread | waited | recorded | named => cases sent

/-- A graph is sent only when all files are there. -/
theorem eq_of_graph {request : Request} {value : Json} (step : Step c phase question answer phase')
    (sent : question = .send request) (graph : request.payload = .json value) : phase = .hands := by
  cases step with
  | hands => rfl
  | taken | lost | refused =>
      cases sent
      cases graph
  | known | unknown | read | unread | waited | recorded | named => cases sent

/-- When the service has taken a file, the submit has that recorded, or it has failed. -/
theorem eq_of_success {bytes : Bytes} {url : Url} {response : Response} (step : Step c phase question answer phase')
    (askedAt comesAt : Nat) (sent : (⟨question, answer, askedAt, comesAt⟩ : Exchange Ask Answer) =
      ⟨.send (uploadRequest url path bytes), (.ok response : Except TransportError Response), askedAt, comesAt⟩)
    (success : response.isSuccess = true) :
    ∃ path' bytes' url' later, phase = .sends path' bytes' url' later ∧
      (phase' = .records path' later ∨ phase' = .ended) := by
  obtain ⟨asked, answered, -, -⟩ := Exchange.mk.inj sent
  obtain ⟨path', bytes', url', later, rfl⟩ := step.eq_of_upload asked
  refine ⟨path', bytes', url', later, rfl, ?_⟩
  cases step with
  | taken => exact .inl rfl
  | lost => exact .inr rfl
  | refused refused =>
      have failed := refused response (eq_of_heq answered)
      cases success.symm.trans failed

end Step

end Phase

namespace Connection

variable {α β : Type}

/-- Goes on if all went well so far. -/
def andThen (next : Work (Except BackendError β)) : Except BackendError α → Work (Except BackendError β)
  | .error e => .done (.error e)
  | .ok _ => next

/-- Hands over the graph of a job, once there is a name to do it under. -/
def handOverAs (c : Connection) (job : ResolvedJob) (clientId : String) : Work (Except BackendError String) := do
  match ← Task.withRetry pause "submit" c.retry.submit (operation (c.client.submit job.graph clientId)) with
  | .error e => return .error e
  | .ok submission =>
    if submission.hasErrors then
      return .error (.rejected ("node errors: " ++ submission.nodeErrors.compact))
    else return .ok submission.promptId

/-- Hands over the graph of a job. -/
def handOver (c : Connection) (job : ResolvedJob) : Work (Except BackendError String) :=
  .ask .newClientId (c.handOverAs job)

/-- A file is being uploaded, and that is to be recorded. -/
def recordAfter (path : Path) (attempts : Work (Except BackendError String)) : Work (Except BackendError Unit) :=
  attempts.bind (andThen (.ask (.markUploaded path) fun _ => .done (.ok ())))

/-- A file is taken care of, and other files are still to be. -/
def submitAfter (c : Connection) (job : ResolvedJob) (later : List Path) (file : Work (Except BackendError Unit)) :
    Work (Except BackendError String) :=
  (file.bind (andThen (c.uploadAll later))).bind (andThen (c.handOver job))

/-- What the answer to an upload says. -/
def uploadResult : Except TransportError Response → Except BackendError String
  | .error e => .error (CallError.transport e).toBackend
  | .ok response =>
    if response.isSuccess then
      match Document.read? asUpload response.body with
      | some name => .ok name
      | none => .error (CallError.transport .unreadableBody).toBackend
    else .error (CallError.status response.status (Text.decodeBody response.body)).toBackend

/-- Sends a file. -/
def sendUpload (url : Url) (path : Path) (bytes : Bytes) : Work (Except BackendError String) :=
  .ask (.send (uploadRequest url path bytes)) fun answer => .done (uploadResult answer)

/-- The attempts at a file. -/
def tryUpload (c : Connection) (path : Path) (attempt delay left : Nat) : Work (Except BackendError String) :=
  Task.retryFrom pause "upload" c.retry.submit (operation (c.client.upload path)) attempt delay left

/-- What follows an attempt at a file. -/
def afterUpload (c : Connection) (path : Path) (attempt delay left : Nat) :
    Except BackendError String → Work (Except BackendError String) :=
  Task.afterTry pause "upload" c.retry.submit (operation (c.client.upload path)) attempt delay left

theorem submit_eq (c : Connection) (job : ResolvedJob) :
    c.submit job = (c.uploadAll job.uploads).bind (andThen (c.handOver job)) := by
  refine congrArg (Task.bind _) (funext fun result => ?_)
  cases result <;> rfl

theorem uploadAll_cons (c : Connection) (path : Path) (later : List Path) :
    c.uploadAll (path :: later) = (c.uploadOnce path).bind (andThen (c.uploadAll later)) := by
  refine congrArg (Task.bind _) (funext fun result => ?_)
  cases result <;> rfl

theorem uploadOnce_eq (c : Connection) (path : Path) :
    c.uploadOnce path = .ask (.isUploaded path) fun known =>
      match known with
      | true => .done (.ok ())
      | false =>
        recordAfter path (c.tryUpload path 1 c.retry.submit.initialDelay (c.retry.submit.maxAttempts - 1)) := by
  refine congrArg (Task.ask (Ask.isUploaded path)) (funext fun known => ?_)
  cases known with
  | true => rfl
  | false =>
      refine congrArg (Task.bind (c.tryUpload path 1 c.retry.submit.initialDelay _)) (funext fun result => ?_)
      cases result <;> rfl

/-- An upload that has somewhere to go. -/
theorem operation_exchange_eq {url : Url} (askable : url.isAskable = true) (path : Path) (bytes : Bytes) :
    operation (Client.parsed asUpload (Client.exchange .post (.ok url) (uploadForm path bytes))) =
      sendUpload url path bytes := by
  unfold Client.exchange
  simp only [askable, Bool.not_true, Bool.false_eq_true, if_false]
  refine congrArg (Task.ask (Ask.send (uploadRequest url path bytes))) (funext fun answer => ?_)
  cases answer with
  | error e => rfl
  | ok response =>
      simp only [Task.bind, uploadResult]
      cases response.isSuccess with
      | false => rfl
      | true =>
          simp only [if_true, pure, Task.bind]
          cases Document.read? asUpload response.body <;> rfl

/-- An answer without success gives an error. -/
theorem exists_of_refused {answer : Except TransportError Response}
    (refused : ∀ response, answer = .ok response → response.isSuccess = false) :
    ∃ e, uploadResult answer = .error e := by
  cases answer with
  | error e => exact ⟨_, rfl⟩
  | ok response =>
      refine ⟨(CallError.status response.status (Text.decodeBody response.body)).toBackend, ?_⟩
      simp only [uploadResult, refused response rfl, Bool.false_eq_true, if_false]

/-- A submit that has a name sends the graph, if there is somewhere to send it. -/
theorem exists_handOverAs_eq {c : Connection} {url : Url} (address : c.client.url "/prompt" = .ok url)
    (askable : url.isAskable = true) (job : ResolvedJob) (clientId : String) :
    ∃ body next, c.handOverAs job clientId = .ask (.send ⟨.post, url, .json body⟩) next := by
  let body : Json := .object [("prompt", job.graph), ("client_id", .text clientId)]
  have call : c.client.submit job.graph clientId =
      Client.parsed Submission.ofDocument? (Client.exchange .post (.ok url) (.json body)) := by
    rw [← address]
    rfl
  unfold handOverAs Task.withRetry
  rw [Task.retryFrom_eq_bind, call]
  unfold Client.exchange
  simp only [askable, Bool.not_true, Bool.false_eq_true, if_false]
  exact ⟨body, _, rfl⟩

/-- An attempt reads the file and sends it, if there is somewhere to send it. -/
theorem tryUpload_eq (c : Connection) (path : Path) (attempt delay left : Nat) :
    c.tryUpload path attempt delay left = .ask (.read path) fun
      | .error e => c.afterUpload path attempt delay left (.error (CallError.upload path e).toBackend)
      | .ok bytes =>
        (operation (Client.parsed asUpload (Client.exchange .post (c.client.url "/upload/image")
          (uploadForm path bytes)))).bind (c.afterUpload path attempt delay left) := by
  rw [tryUpload, Task.retryFrom_eq_bind]
  refine congrArg (Task.ask (Ask.read path)) (funext fun answer => ?_)
  cases answer <;> rfl

end Connection

/-- What is left of a submit in a phase. -/
inductive Submits (c : Connection) (job : ResolvedJob) : Phase → Work (Except BackendError String) → Prop where
  | checks {path later} : Submits c job (.checks path later) (c.submitAfter job later (c.uploadOnce path))
  | reads {path later attempt delay left} :
      Submits c job (.reads path later)
        (c.submitAfter job later (Connection.recordAfter path (c.tryUpload path attempt delay left)))
  | sends {path bytes url later attempt delay left} (address : c.client.url "/upload/image" = .ok url) :
      Submits c job (.sends path bytes url later) (c.submitAfter job later (Connection.recordAfter path
        ((Connection.sendUpload url path bytes).bind (c.afterUpload path attempt delay left))))
  | waits {path delay later attempt delay' left} :
      Submits c job (.waits path delay later) (c.submitAfter job later (Connection.recordAfter path
        ((pause delay).bind fun _ => c.tryUpload path attempt delay' left)))
  | records {path later} :
      Submits c job (.records path later) (c.submitAfter job later (.ask (.markUploaded path) fun _ => .done (.ok ())))
  | names : Submits c job .names (c.handOver job)
  | hands {work} (only : work.OnlyAsks HandsOver) : Submits c job .hands work
  | ended {e} : Submits c job .ended (.done (.error e))

theorem onlyAsks_exchange (method : Method) (address : Except TransportError Url) (value : Json) :
    (Client.exchange method address (.json value)).OnlyAsks HandsOver := by
  cases address with
  | error e => trivial
  | ok url =>
      unfold Client.exchange
      by_cases askable : url.isAskable = true
      · simp only [askable, Bool.not_true, Bool.false_eq_true, if_false]
        refine ⟨⟨value, rfl⟩, fun answer => ?_⟩
        cases answer with
        | error e => trivial
        | ok response => simp only [Task.bind]; split <;> trivial
      · simp only [askable, Bool.not_false, if_true]
        trivial

namespace Submits

variable {c : Connection} {job : ResolvedJob} {phase : Phase} {work : Work (Except BackendError String)}
  {path : Path} {later : List Path} {attempt delay left : Nat}

/-- When a file is settled, the next one is looked at. -/
theorem settled : Submits c job (.ofFiles later) (c.submitAfter job later (.done (.ok ()))) := by
  cases later with
  | nil => exact .names
  | cons path later =>
      have next : c.submitAfter job (path :: later) (.done (.ok ())) = c.submitAfter job later (c.uploadOnce path) := by
        change (c.uploadAll (path :: later)).bind _ = _
        rw [Connection.uploadAll_cons]
        rfl
      rw [next]
      exact .checks

theorem begun (c : Connection) {files : List Path} (uploads : job.uploads = files) :
    Submits c job (.ofFiles files) (c.submit job) := by
  rw [Connection.submit_eq, uploads]
  exact settled

/-- After an attempt that failed the file may be tried again. -/
theorem exists_afterFailure (c : Connection) (job : ResolvedJob) (path : Path) (later : List Path)
    (attempt delay left : Nat) (e : BackendError) :
    ∃ phase, Phase.AfterFailure path later phase ∧ Submits c job phase
      (c.submitAfter job later (Connection.recordAfter path (c.afterUpload path attempt delay left (.error e)))) := by
  obtain ⟨last, same⟩ | ⟨more, same⟩ := Task.afterTry_error pause "upload" c.retry.submit
    (operation (c.client.upload path)) attempt delay left e
  · rw [Connection.afterUpload, same]
    exact ⟨.ended, .ended, .ended⟩
  · rw [Connection.afterUpload, same]
    exact ⟨.waits path delay later, .again, .waits⟩

/-- A file whose contents have been read is sent, or there is nowhere to send it. -/
theorem exists_read (bytes : Bytes) :
    ∃ phase, Phase.Step c (.reads path later) (.read path) (.ok bytes : Except IoError Bytes) phase ∧
      Submits c job phase (c.submitAfter job later (Connection.recordAfter path
        ((operation (Client.parsed asUpload (Client.exchange .post (c.client.url "/upload/image")
          (uploadForm path bytes)))).bind (c.afterUpload path attempt delay left)))) := by
  cases address : c.client.url "/upload/image" with
  | error e =>
      obtain ⟨phase, failed, goesOn⟩ := exists_afterFailure c job path later attempt delay left
        (CallError.transport e).toBackend
      refine ⟨phase, .unread ?_ failed, goesOn⟩
      intro _ url _ also
      cases address.symm.trans also
  | ok url =>
      by_cases askable : url.isAskable = true
      · rw [Connection.operation_exchange_eq askable]
        exact ⟨.sends path bytes url later, .read address, .sends address⟩
      · obtain ⟨phase, failed, goesOn⟩ := exists_afterFailure c job path later attempt delay left
          (CallError.transport (.unfitAddress url)).toBackend
        have refused : Client.exchange .post (.ok url) (uploadForm path bytes) =
            .done (.error (.transport (.unfitAddress url))) := by
          unfold Client.exchange
          simp only [askable, Bool.not_false, if_true]
          rfl
        rw [refused]
        refine ⟨phase, .unread ?_ failed, goesOn⟩
        intro _ other _ also
        cases address.symm.trans also
        simpa using askable

/-- After it has a name, a submit sends the graph and nothing else. -/
theorem onlyAsks_handOverAs (clientId : String) : (c.handOverAs job clientId).OnlyAsks HandsOver := by
  have call : (operation (c.client.submit job.graph clientId)).OnlyAsks HandsOver := by
    refine ((onlyAsks_exchange ..).bind fun answer => ?_).bind fun _ => trivial
    cases answer with
    | error e => trivial
    | ok response => dsimp only; split <;> trivial
  have pauses (length : Nat) : (pause length).OnlyAsks HandsOver := ⟨trivial, fun _ => trivial⟩
  refine (Task.OnlyAsks.withRetry pauses call).bind fun result => ?_
  cases result with
  | error e => trivial
  | ok submission => dsimp only; split <;> trivial

/-- Once a file has been sent, it is to be recorded, or tried again, or the submit has failed. -/
theorem exists_sent {bytes : Bytes} {url : Url} (address : c.client.url "/upload/image" = .ok url)
    (answer : Except TransportError Response) :
    ∃ phase, Phase.Step c (.sends path bytes url later) (.send (uploadRequest url path bytes)) answer phase ∧
      Submits c job phase (c.submitAfter job later (Connection.recordAfter path
        (c.afterUpload path attempt delay left (Connection.uploadResult answer)))) := by
  have outcome : (∀ response, answer = .ok response → response.isSuccess = false) ∨
      ∃ response, answer = .ok response ∧ response.isSuccess = true := by
    cases answer with
    | error e => exact .inl fun _ given => nomatch given
    | ok response =>
        cases success : response.isSuccess with
        | true => exact .inr ⟨response, rfl, success⟩
        | false =>
            refine .inl ?_
            rintro _ ⟨⟩
            exact success
  obtain refused | ⟨response, rfl, success⟩ := outcome
  · obtain ⟨e, same⟩ := Connection.exists_of_refused refused
    obtain ⟨phase, failed, goesOn⟩ := exists_afterFailure c job path later attempt delay left e
    rw [same]
    exact ⟨phase, .refused refused failed, goesOn⟩
  · simp only [Connection.uploadResult, success, if_true]
    cases readable : Document.read? asUpload response.body with
    | some name => exact ⟨_, .taken address success, .records⟩
    | none =>
        -- A body that cannot be read is no reason to try again.
        refine ⟨.ended, .lost success readable, ?_⟩
        cases left <;> exact .ended

/-- What is left of a submit that asks a question goes on, whatever it is answered. -/
theorem asks {question : Ask} {next : Answer question → Work (Except BackendError String)}
    (submits : Submits c job phase work) (asks : work = .ask question next) (answer : Answer question) :
    ∃ phase', Phase.Step c phase question answer phase' ∧ Submits c job phase' (next answer) := by
  cases submits with
  | checks =>
      rw [Connection.uploadOnce_eq] at asks
      obtain ⟨rfl, rfl⟩ := Task.ask.inj asks
      cases answer with
      | true => exact ⟨_, .known, settled⟩
      | false => exact ⟨_, .unknown, .reads⟩
  | reads =>
      rw [Connection.tryUpload_eq] at asks
      obtain ⟨rfl, rfl⟩ := Task.ask.inj asks
      cases answer with
      | error e =>
          obtain ⟨phase, failed, goesOn⟩ := exists_afterFailure c job _ _ _ _ _ _
          exact ⟨phase, .unread (fun _ _ given => nomatch given) failed, goesOn⟩
      | ok bytes => exact exists_read bytes
  | sends address =>
      obtain ⟨rfl, rfl⟩ := Task.ask.inj asks
      exact exists_sent address answer
  | waits =>
      obtain ⟨rfl, rfl⟩ := Task.ask.inj asks
      exact ⟨_, .waited, .reads⟩
  | records =>
      obtain ⟨rfl, rfl⟩ := Task.ask.inj asks
      exact ⟨_, .recorded, settled⟩
  | names =>
      obtain ⟨rfl, rfl⟩ := Task.ask.inj asks
      exact ⟨_, .named, .hands (onlyAsks_handOverAs answer)⟩
  | hands only =>
      subst asks
      obtain ⟨handsOver, others⟩ := only
      exact ⟨_, .hands handsOver, .hands (others answer)⟩
  | ended => cases asks

/-- What is left of a submit asks the question of its phase. -/
theorem exists_asks {question : Ask} (submits : Submits c job phase work) (asks : phase.question? = some question) :
    ∃ next, work = .ask question next := by
  cases submits with
  | checks =>
      cases asks
      rw [Connection.uploadOnce_eq]
      exact ⟨_, rfl⟩
  | reads =>
      cases asks
      rw [Connection.tryUpload_eq]
      exact ⟨_, rfl⟩
  | sends | waits | records | names =>
      cases asks
      exact ⟨_, rfl⟩
  | hands | ended => cases asks

end Submits

end ImageBatch.Server
