import ImageBatch.Proofs.Server.Submits

/-!
What an answer to a request gives.

A call sends one request and reads the answer to it, or there is nowhere to send it (`Client.call_cases`). What it then
gives is told by the answer alone (`resultOf`): a value, only if the answer is one of success whose body is read
(`resultOf_eq_ok`), or else an error, on which the call is tried again only if the connection broke or the service has
too much to do (`passing_of_isTransient`).
-/

namespace ImageBatch.Server

variable {α : Type} {read : Document → Option α} {answer : Except TransportError Response} {value : α}
  {e : BackendError}

/-- What a call gives whose request was answered so. -/
def resultOf (read : Document → Option α) : Except TransportError Response → Except BackendError α
  | .error e => .error (CallError.transport e).toBackend
  | .ok response =>
    if response.isSuccess then
      match Document.read? read response.body with
      | some value => .ok value
      | none => .error (CallError.transport .unreadableBody).toBackend
    else .error (CallError.status response.status (Text.decodeBody response.body)).toBackend

/-- The connection broke, or the service has too much to do. -/
def Passing (answer : Except TransportError Response) : Prop :=
  (∃ url, answer = .error (.dropped url)) ∨
    ∃ response, answer = .ok response ∧ (500 ≤ response.status ∨ response.status = 429)

/-- A call gives what is read from an answer of success. -/
theorem resultOf_eq_ok : resultOf read answer = .ok value ↔ ∃ response, answer = .ok response ∧
    response.isSuccess = true ∧ Document.read? read response.body = some value := by
  cases answer with
  | error e => simp [resultOf]
  | ok response =>
      cases success : response.isSuccess with
      | false => simp [resultOf, success]
      | true =>
          cases readable : Document.read? read response.body with
          | none => simp [resultOf, success, readable]
          | some found => simp [resultOf, success, readable]

/-- Only failures that may pass are reasons to try again. -/
theorem passing_of_isTransient (failed : resultOf read answer = .error e) (transient : e.isTransient = true) :
    Passing answer := by
  cases answer with
  | error cause =>
      cases failed
      cases cause with
      | dropped url => exact .inl ⟨url, rfl⟩
      | noAddress | unfitAddress | unreadableBody => cases transient
  | ok response =>
      refine .inr ⟨response, rfl, Decidable.by_contra fun final => ?_⟩
      simp only [resultOf] at failed
      split at failed
      · split at failed <;> cases failed
        cases transient
      · cases failed
        simp only [CallError.toBackend, if_neg final] at transient
        split at transient <;> cases transient

namespace Client

/-- An address that cannot be asked is no reason to try again. -/
theorem not_isTransient_of_url {client : Client} {path : String} {cause : TransportError}
    (address : client.url path = .error cause) : (CallError.transport cause).toBackend.isTransient = false := by
  unfold url at address
  split at address
  · cases address
    rfl
  · split at address
    · cases address
    · cases address
      rfl

/-- A call sends its request and reads the answer, or there is nowhere to send it. -/
theorem call_cases (client : Client) (path : String) (method : Method) (payload : Payload)
    (read : Document → Option α) :
    (∃ e : BackendError, e.isTransient = false ∧
      operation (parsed read (exchange method (client.url path) payload)) = .done (.error e)) ∨
    ∃ url, client.url path = .ok url ∧ operation (parsed read (exchange method (client.url path) payload)) =
      .ask (.send ⟨method, url, payload⟩) fun answer => .done (resultOf read answer) := by
  cases address : client.url path with
  | error cause => exact .inl ⟨_, not_isTransient_of_url address, rfl⟩
  | ok url =>
      unfold exchange
      cases askable : url.isAskable with
      | false => exact .inl ⟨(CallError.transport (.unfitAddress url)).toBackend, rfl, by simp [askable]; rfl⟩
      | true =>
          refine .inr ⟨url, rfl, ?_⟩
          simp only [askable, Bool.not_true, Bool.false_eq_true, if_false]
          refine congrArg (Task.ask (Ask.send ⟨method, url, payload⟩)) (funext fun answer => ?_)
          cases answer with
          | error e => rfl
          | ok response =>
              simp only [Task.bind, resultOf]
              cases response.isSuccess with
              | false => rfl
              | true =>
                  simp only [if_true, pure, Task.bind]
                  cases Document.read? read response.body <;> rfl

end Client

end ImageBatch.Server
