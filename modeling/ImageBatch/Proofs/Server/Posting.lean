import ImageBatch.Proofs.Server.Files

/-!
How a submit hands over its graph.

When its files are there, a submit sends its graph, and sends it again only if the answer to it was one that may pass
and it has not been sent as often as the policy allows; it comes to a name exactly if the last answer takes the graph
under that name (`Posting.of_handOver`).
-/

namespace ImageBatch.Server

open Document

/-! ### What is handed over, and what the service says to it -/

/-- The answer to a request that carries a graph, and not a file. -/
def posted? : Exchange Ask Answer → Option (Except TransportError Response)
  | ⟨.send ⟨_, _, .json _⟩, answer, _, _⟩ => some answer
  | _ => none

/-- The answers to the graph, the latest of them first. -/
def posts (log : Talk) : List (Except TransportError Response) := log.filterMap posted?

theorem posts_append (later earlier : Talk) : posts (later ++ earlier) = posts later ++ posts earlier :=
  List.filterMap_append ..

/-- The request that hands over the graph of a job under the name of some client. -/
def IsPrompt (c : Connection) (job : ResolvedJob) (request : Request) : Prop :=
  ∃ url clientId, c.client.url "/prompt" = .ok url ∧
    request = ⟨.post, url, .json (.object [("prompt", job.graph), ("client_id", .text clientId)])⟩

/-- Nothing is said of the faults of a graph, or null, or an object without fields. -/
def NamesNoFaults (found : Found) : Prop :=
  ∀ d, found "node_errors" = some d →
    d.toJson? (maxDepth - 1) = some .null ∨ d.toJson? (maxDepth - 1) = some (.object [])

/-- An answer of success takes the graph under a name, and names no faults. -/
def TakesAs (answer : Except TransportError Response) (promptId : String) : Prop :=
  ∃ response d submission found, answer = .ok response ∧ response.isSuccess = true ∧ scan? response.body = some d ∧
    Submission.ofDocument? d = some submission ∧ submission.promptId = promptId ∧
    d.asRecord [must "prompt_id", may "number", may "node_errors"] = some found ∧ NamesNoFaults found

/-- A graph has faults if any are named. -/
theorem hasErrors_eq_false {d : Document} {submission : Submission}
    (read : Submission.ofDocument? d = some submission) : submission.hasErrors = false ↔ ∃ found,
      d.asRecord [must "prompt_id", may "number", may "node_errors"] = some found ∧ NamesNoFaults found := by
  unfold Submission.ofDocument? at read
  obtain ⟨found, record, read⟩ := Option.bind_eq_some_iff.mp read
  obtain ⟨number, -, read⟩ := Option.bind_eq_some_iff.mp read
  obtain ⟨promptId, -, read⟩ := Option.bind_eq_some_iff.mp read
  obtain ⟨errors, named, read⟩ := Option.bind_eq_some_iff.mp read
  cases read
  have faultless : NamesNoFaults found ↔ errors = .null ∨ errors = .object [] := by
    unfold NamesNoFaults
    unfold Found.withDefault at named
    split at named
    next missing =>
        cases named
        exact iff_of_true (fun d there => nomatch missing.symm.trans there) (.inl rfl)
    next d there =>
        simp only [there, Option.some.injEq, forall_eq', named]
  rw [record]
  simp only [Option.some.injEq, exists_eq_left', faultless]
  cases errors with
  | object fields => cases fields <;> simp [Submission.hasErrors]
  | null | bool | integer | float | text | array => simp [Submission.hasErrors]

/-- What is read of an answer. -/
def ReadAs (answer : Except TransportError Response) (submission : Submission) : Prop :=
  resultOf Submission.ofDocument? answer = .ok submission

/-- An answer takes a graph if it is read and says that the graph has no faults. -/
theorem takesAs_iff {answer : Except TransportError Response} {promptId : String} :
    TakesAs answer promptId ↔ ∃ submission, ReadAs answer submission ∧ submission.hasErrors = false ∧
      submission.promptId = promptId := by
  constructor
  · rintro ⟨response, d, submission, found, rfl, success, scanned, read, named, record, faultless⟩
    refine ⟨submission, resultOf_eq_ok.mpr ⟨response, rfl, success, ?_⟩, ?_, named⟩
    · exact Option.bind_eq_some_iff.mpr ⟨d, scanned, read⟩
    · exact (hasErrors_eq_false read).mpr ⟨found, record, faultless⟩
  · rintro ⟨submission, read, faultless, named⟩
    obtain ⟨response, rfl, success, readable⟩ := resultOf_eq_ok.mp read
    obtain ⟨d, scanned, read⟩ := Option.bind_eq_some_iff.mp readable
    obtain ⟨found, record, faultless⟩ := (hasErrors_eq_false read).mp faultless
    exact ⟨response, d, submission, found, rfl, success, scanned, read, named, record, faultless⟩

/-! ### The attempts -/

/-- What a submit makes of the answer to its graph. -/
def verdict : Except BackendError Submission → Except BackendError String
  | .error e => .error e
  | .ok submission =>
    if submission.hasErrors then .error (.rejected ("node errors: " ++ submission.nodeErrors.compact))
    else .ok submission.promptId

theorem verdict_eq_ok {outcome : Except BackendError Submission} {promptId : String} :
    verdict outcome = .ok promptId ↔
      ∃ submission, outcome = .ok submission ∧ submission.hasErrors = false ∧ submission.promptId = promptId := by
  cases outcome with
  | error e => simp [verdict]
  | ok submission => cases faulty : submission.hasErrors <;> simp [verdict, faulty]

theorem handOverAs_eq (c : Connection) (job : ResolvedJob) (clientId : String) :
    c.handOverAs job clientId = (Task.withRetry pause "submit" c.retry.submit
      (operation (c.client.submit job.graph clientId))).bind fun outcome => .done (verdict outcome) := by
  refine congrArg (Task.bind _) (funext fun outcome => ?_)
  cases outcome with
  | error e => rfl
  | ok submission => cases faulty : submission.hasErrors <;> simp [verdict, faulty, pure]

/-- What has been answered to a graph and what is left: the graph is sent only so often, and again only while the
answers may pass, and there is a result exactly if the last answer gives it. -/
structure Posting {α : Type} (c : Connection) (job : ResolvedJob) (gives : Except TransportError Response → α → Prop)
    (limit : Nat) (answers : List (Except TransportError Response)) (rest : Work (Except BackendError α)) : Prop where
  count : answers.length ≤ limit
  asks : ∀ request next, rest = .ask (.send request) next →
    IsPrompt c job request ∧ answers.length < limit ∧ ∀ answer ∈ answers, Passing answer
  done : ∀ value, rest = .done (.ok value) ↔ ∃ answer, answers.head? = some answer ∧ gives answer value

namespace Posting

variable {α : Type} {c : Connection} {job : ResolvedJob} {gives : Except TransportError Response → α → Prop}
  {limit : Nat} {answers : List (Except TransportError Response)} {rest : Work (Except BackendError α)}
  {answer : Except TransportError Response} {log : Talk} {clientId : String}

/-- The graph has not been sent, and will not be. -/
theorem unsent {e : BackendError} : Posting c job gives limit [] (.done (.error e)) where
  count := Nat.zero_le limit
  asks := nofun
  done value := by simp

/-- The graph has not been sent, but may be now. -/
theorem first {question : Ask} {next : Answer question → Work (Except BackendError α)} (room : 0 < limit)
    (prompts : ∀ request, question = .send request → IsPrompt c job request) :
    Posting c job gives limit [] (.ask question next) where
  count := Nat.zero_le limit
  asks := by
    rintro request _ ⟨⟩
    exact ⟨prompts request rfl, room, nofun⟩
  done value := by simp

/-- The answer to the graph decides. -/
theorem decided {result : Except BackendError α} (room : 0 < limit)
    (same : ∀ value, result = .ok value ↔ gives answer value) : Posting c job gives limit [answer] (.done result) where
  count := room
  asks := nofun
  done value := by simp [same]

/-- The answer to the graph gives nothing, and it is waited. -/
theorem waiting {delay : Nat} {next : Unit → Work (Except BackendError α)} (room : 0 < limit)
    (gave : ∀ value, ¬ gives answer value) : Posting c job gives limit [answer] (.ask (.pause delay) next) where
  count := room
  asks := nofun
  done value := by simp [gave]

/-- Before its last attempts there was one whose answer may pass. -/
theorem again (posting : Posting c job gives limit answers rest) (passing : Passing answer)
    (gave : ∀ value, ¬ gives answer value) : Posting c job gives (limit + 1) (answers ++ [answer]) rest where
  count := by
    rw [List.length_append]
    exact Nat.succ_le_succ posting.count
  asks := by
    intro request next asks
    obtain ⟨prompt, room, others⟩ := posting.asks request next asks
    refine ⟨prompt, ?_, List.forall_mem_append.mpr ⟨others, List.forall_mem_singleton.mpr passing⟩⟩
    rw [List.length_append]
    exact Nat.succ_lt_succ room
  done value := by
    rw [posting.done]
    cases answers with
    | nil => simp [gave]
    | cons last before => simp

/-- An attempt sends the graph and goes on with the answer, or there is nowhere to send it. -/
theorem of_attempt {follows : Except BackendError Submission → Work (Except BackendError α)} (room : 0 < limit)
    (final : ∀ e : BackendError, e.isTransient = false → follows (.error e) = .done (.error e))
    (reached : ((operation (c.client.submit job.graph clientId)).bind follows).After log rest) :
    Posting c job gives limit (posts log) rest ∨ ∃ answer exchange more, log = more ++ [exchange] ∧
      posts [exchange] = [answer] ∧ (follows (resultOf Submission.ofDocument? answer)).After more rest := by
  rw [Client.submit] at reached
  rcases c.client.call_cases "/prompt" .post _ Submission.ofDocument? with ⟨e, lasting, done⟩ | ⟨url, address, asks⟩
  · rw [done] at reached
    change (follows (.error e)).After log rest at reached
    rw [final e lasting] at reached
    obtain ⟨rfl, rfl⟩ := Task.after_done reached
    exact .inl unsent
  · rw [asks] at reached
    rcases Task.After.of_ask reached with ⟨rfl, rfl⟩ | ⟨answer, sentAt, answeredAt, more, rfl, goesOn⟩
    · refine .inl (first room ?_)
      rintro _ ⟨⟩
      exact ⟨url, clientId, address, rfl⟩
    · exact .inr ⟨answer, _, more, rfl, rfl, goesOn⟩

/-- The attempts at a graph. -/
theorem of_retryFrom {attempt delay left : Nat} {rest : Work (Except BackendError Submission)}
    (reached : (Task.retryFrom pause "submit" c.retry.submit (operation (c.client.submit job.graph clientId)) attempt
      delay left).After log rest) :
    Posting c job ReadAs (left + 1) (posts log) rest := by
  induction left using Nat.strong_induction_on generalizing attempt delay log with
  | _ left ih =>
      rw [Task.retryFrom_eq_bind] at reached
      rcases of_attempt (Nat.succ_pos left) (fun e final => Task.afterTry_of_final final) reached with
        posting | ⟨answer, exchange, more, rfl, sent, goesOn⟩
      · exact posting
      rw [posts_append, sent]
      rcases Task.After.of_afterTry goesOn with ⟨rfl, result, rfl, same⟩ | ⟨e, less, gave, transient, rfl, waits⟩
      · exact decided (Nat.succ_pos left) same
      · have failed (submission : Submission) : ¬ ReadAs answer submission := by
          intro read
          cases gave.symm.trans read
        rcases Task.After.of_ask waits with ⟨rfl, rfl⟩ | ⟨waited, askedAt, comesAt, further, rfl, retried⟩
        · exact waiting (Nat.succ_pos _) failed
        · have paused : posts [⟨.pause delay, waited, askedAt, comesAt⟩] = [] := rfl
          rw [posts_append, paused, List.append_nil]
          exact (ih less (Nat.lt_succ_self less) retried).again (passing_of_isTransient gave transient) failed

/-- The last answer takes the graph if what is read of it has a good verdict. -/
theorem exists_takesAs_iff {rest : Work (Except BackendError Submission)}
    (posting : Posting c job ReadAs limit answers rest) {promptId : String} :
    (∃ answer, answers.head? = some answer ∧ TakesAs answer promptId) ↔
      ∃ outcome, rest = .done outcome ∧ verdict outcome = .ok promptId := by
  simp only [verdict_eq_ok, takesAs_iff]
  constructor
  · rintro ⟨answer, last, submission, read, good⟩
    exact ⟨.ok submission, (posting.done submission).mpr ⟨answer, last, read⟩, submission, rfl, good⟩
  · rintro ⟨_, ended, submission, rfl, good⟩
    obtain ⟨answer, last, read⟩ := (posting.done submission).mp ended
    exact ⟨answer, last, submission, read, good⟩

/-- How a graph is handed over under the name of a client. -/
theorem of_handOverAs {rest : Work (Except BackendError String)}
    (reached : (c.handOverAs job clientId).After log rest) :
    Posting c job TakesAs (max 1 c.retry.submit.maxAttempts) (posts log) rest := by
  have limit : c.retry.submit.maxAttempts - 1 + 1 = max 1 c.retry.submit.maxAttempts := by omega
  rw [handOverAs_eq, Task.withRetry] at reached
  rw [← limit]
  rcases Task.After.of_bind_asking reached with ⟨_, next, busy, rfl⟩ | ⟨outcome, earlier, later, rfl, ended, done⟩
  · have posting := of_retryFrom busy
    refine ⟨posting.count, ?_, fun promptId => ?_⟩
    · rintro request _ ⟨⟩
      exact posting.asks request next rfl
    · simp [posting.exists_takesAs_iff]
  · obtain ⟨rfl, rfl⟩ := Task.after_done done
    have posting := of_retryFrom ended
    refine ⟨posting.count, nofun, fun promptId => ?_⟩
    rw [List.nil_append, posting.exists_takesAs_iff]
    simp

/-- How a graph is handed over. -/
theorem of_handOver {rest : Work (Except BackendError String)} (reached : (c.handOver job).After log rest) :
    Posting c job TakesAs (max 1 c.retry.submit.maxAttempts) (posts log) rest := by
  rcases Task.After.of_ask reached with ⟨rfl, rfl⟩ | ⟨name, askedAt, comesAt, more, rfl, goesOn⟩
  · exact first (by omega) nofun
  · have named : posts [⟨.newClientId, name, askedAt, comesAt⟩] = [] := rfl
    rw [posts_append, named, List.append_nil]
    exact of_handOverAs goesOn

end Posting

end ImageBatch.Server
