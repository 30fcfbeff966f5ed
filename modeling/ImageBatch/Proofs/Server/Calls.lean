import ImageBatch.Proofs.Backend.Exchanges
import ImageBatch.Server.Backend

/-!
Calls to the service.

What a call that went well was answered: one request was sent and had an answer of success (`Client.exchange_yields`),
and what the call gives was read from it (`Client.parsed_yields`).
-/

namespace ImageBatch.Server

variable {α : Type} {exchanges : List (Exchange Ask Answer)}

namespace Client

theorem exchange_yields {method : Method} {address : Except TransportError Url} {payload : Payload}
    {response : Response} (yields : (exchange method address payload).Yields exchanges (.ok response)) :
    ∃ url askedAt comesAt, address = .ok url ∧ response.isSuccess = true ∧ exchanges =
      [⟨.send ⟨method, url, payload⟩, (.ok response : Except TransportError Response), askedAt, comesAt⟩] := by
  cases address with
  | error e =>
      obtain ⟨-, ⟨⟩⟩ := Task.yields_done yields
  | ok url =>
      unfold exchange at yields
      by_cases askable : url.isAskable = true
      · simp only [askable, Bool.not_true, Bool.false_eq_true, if_false] at yields
        obtain ⟨received, earlier, later, rfl, sent, ended⟩ := Task.Yields.of_bind_ok yields fun _ => ⟨_, rfl⟩
        obtain ⟨askedAt, comesAt, rfl⟩ := Task.yields_question sent
        by_cases success : received.isSuccess = true
        · simp only [success, if_true] at ended
          obtain ⟨rfl, ⟨⟩⟩ := Task.yields_done ended
          exact ⟨url, askedAt, comesAt, rfl, success, rfl⟩
        · simp only [success] at ended
          obtain ⟨-, ⟨⟩⟩ := Task.yields_done ended
      · simp only [askable, Bool.not_false, if_true] at yields
        obtain ⟨-, ⟨⟩⟩ := Task.yields_done yields

theorem parsed_yields {read : Document → Option α} {call : Work (Except CallError Response)} {value : α}
    (yields : (parsed read call).Yields exchanges (.ok value)) :
    ∃ response, call.Yields exchanges (.ok response) ∧ Document.read? read response.body = some value := by
  obtain ⟨response, earlier, later, rfl, sent, ended⟩ := Task.Yields.of_bind_ok yields fun _ => ⟨_, rfl⟩
  cases readable : Document.read? read response.body with
  | none =>
      simp only [readable] at ended
      obtain ⟨-, ⟨⟩⟩ := Task.yields_done ended
  | some found =>
      simp only [readable] at ended
      obtain ⟨rfl, ⟨⟩⟩ := Task.yields_done ended
      exact ⟨response, sent, readable⟩

end Client

theorem operation_yields {call : Work (Except CallError α)} {value : α}
    (yields : (operation call).Yields exchanges (.ok value)) : call.Yields exchanges (.ok value) := by
  obtain ⟨found, earlier, later, rfl, called, ended⟩ := Task.Yields.of_bind_ok yields fun _ => ⟨_, rfl⟩
  obtain ⟨rfl, ⟨⟩⟩ := Task.yields_done ended
  exact called

end ImageBatch.Server
