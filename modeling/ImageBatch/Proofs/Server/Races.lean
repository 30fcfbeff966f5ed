import ImageBatch.Proofs.Backend.Retry
import ImageBatch.Proofs.Server.Calls
import Mathlib.Data.List.Chain
import Mathlib.Data.List.Forall2
import Mathlib.Logic.Relation

/-!
Polls while the prompt goes on.

A prompt waits, runs, and ends (`Standing.Next`), and it may do so between any two requests of a poll. A `Race` is what
a client does while that happens: each request that succeeds is answered from how the prompt stands at its instant
(`Truthful`), and others fail. A poll looks at three moments, each of them as often as its policy allows. It reports
how the prompt stood at one of them (`Connection.poll_shows`): a prompt that is in the queue no more has ended, and has
an entry at the last look.
-/

namespace ImageBatch.Server

open Document

/-- How a prompt stands with the service. One that has ended has an entry in the history, which says how. -/
inductive Standing where
  | pending
  | running
  | ended (entry : HistoryEntry) (final : entry.isError = true ∨ entry.isCompleted = true)

namespace Standing

/-- What happens to a prompt. -/
inductive Next : Standing → Standing → Prop where
  | starts : Next .pending .running
  | ends (entry : HistoryEntry) (final : entry.isError = true ∨ entry.isCompleted = true) :
      Next .running (.ended entry final)

/-- What happens to a prompt over some time. -/
abbrev Leads : Standing → Standing → Prop := Relation.ReflTransGen Next

/-- The status that tells how a prompt stands. -/
inductive Shows : Standing → BackendStatus → Prop where
  | pending : Shows .pending .queued
  | running : Shows .running .running
  | completed {entry final} (completed : entry.isCompleted = true) : Shows (.ended entry final) .done
  | failed {entry final} (failed : entry.isError = true) : Shows (.ended entry final) (.error entry.errorMessage)

/-- The prompt's entry in the history. -/
def entry? : Standing → Option HistoryEntry
  | .pending | .running => none
  | .ended entry _ => some entry

/-- The prompt's place in the queue. -/
def position : Standing → QueuePosition
  | .pending => .pending
  | .running => .running
  | .ended .. => .absent

/-- A history that has the prompt's entry exactly if the prompt has ended. -/
def IsToldBy (standing : Standing) (promptId : String) (history : Json) : Prop :=
  match standing with
  | .pending | .running => history.field? promptId = none
  | .ended entry _ =>
    ∃ written, history.field? promptId = some written ∧ HistoryEntry.ofDocument? (ofJson written) = some entry

/-- A queue that has the prompt where it stands. -/
def IsQueuedIn (standing : Standing) (promptId : String) (queue : QueueSnapshot) : Prop :=
  ((∃ item ∈ queue.running, item[1]? = some (.text promptId)) ↔ standing = .running) ∧
    ((∃ item ∈ queue.pending, item[1]? = some (.text promptId)) ↔ standing = .pending)

end Standing

/-- If a request succeeds, its answer is well-formed and tells how the prompt stands. -/
def Truthful (client : Client) (promptId : String) (standing : Standing) : (question : Ask) → Answer question → Prop
  | .send request, answer => ∀ response, answer = .ok response → response.isSuccess = true →
      (client.url ("/history/" ++ promptId) = .ok request.url →
        ∃ history, read? (toJson? maxDepth) response.body = some history ∧ standing.IsToldBy promptId history) ∧
      (client.url "/queue" = .ok request.url →
        ∃ queue, read? QueueSnapshot.ofDocument? response.body = some queue ∧ standing.IsQueuedIn promptId queue)
  | _, _ => True

/-- An exchange, and how the prompt stood at its instant. -/
abbrev Watched := Standing × Exchange Ask Answer

/-- It was a request to the service. -/
def Watched.IsRequest (watched : Watched) : Prop := ∃ request, watched.2.question = .send request

/-- A client does a task while a prompt goes on: the exchanges so far, the latest first, how the prompt stands now, and
what is left of the task. -/
inductive Race {α : Type} (client : Client) (promptId : String) (first : Standing) (task : Work α) :
    List Watched → Standing → Work α → Prop where
  | begun : Race client promptId first task [] first task
  /-- The prompt goes on. -/
  | moves {seen standing standing' rest} (before : Race client promptId first task seen standing rest)
      (next : standing.Next standing') : Race client promptId first task seen standing' rest
  /-- The client is answered. -/
  | answers {seen standing question next} (before : Race client promptId first task seen standing (.ask question next))
      (answer : Answer question) (truthful : Truthful client promptId standing question answer)
      (askedAt comesAt : Nat) :
      Race client promptId first task ((standing, ⟨question, answer, askedAt, comesAt⟩) :: seen) standing (next answer)

/-! ### Standings -/

namespace Standing

variable {standing later : Standing} {promptId : String}

/-- A prompt that has ended stays as it is. -/
theorem eq_of_ended {entry : HistoryEntry} {final : entry.isError = true ∨ entry.isCompleted = true}
    (leads : (ended entry final).Leads later) : later = .ended entry final := by
  induction leads with
  | refl => rfl
  | tail _ next ih =>
      subst ih
      cases next

theorem find?_of_isToldBy {history : Json} (told : standing.IsToldBy promptId history) :
    HistoryEntry.find? promptId history = some standing.entry? := by
  unfold HistoryEntry.find?
  cases standing with
  | pending | running => rw [show history.field? promptId = none from told]; rfl
  | ended entry final =>
      obtain ⟨written, there, read⟩ := told
      rw [there]
      exact congrArg (Option.map some) read

theorem holds_iff {items : List (List Json)} :
    QueueSnapshot.holds items promptId = true ↔ ∃ item ∈ items, item[1]? = some (.text promptId) := by
  have text (value : Option Json) :
      (value.bind Json.asText? == some promptId) = true ↔ value = some (.text promptId) := by
    rw [beq_iff_eq]
    cases value with
    | none => simp
    | some value => cases value <;> simp [Json.asText?]
  simp only [QueueSnapshot.holds, List.any_eq_true, text]

theorem position_of_isQueuedIn {queue : QueueSnapshot} (queued : standing.IsQueuedIn promptId queue) :
    queue.position promptId = standing.position := by
  obtain ⟨runs, waits⟩ := queued
  rw [← holds_iff] at runs waits
  unfold QueueSnapshot.position
  cases standing <;> simp [position, runs, waits]

/-- The entry of a prompt that has ended tells how. -/
theorem exists_terminalStatus (entry : HistoryEntry) (final : entry.isError = true ∨ entry.isCompleted = true) :
    ∃ status, terminalStatus? entry = some status ∧ (ended entry final).Shows status := by
  unfold terminalStatus?
  by_cases failed : entry.isError = true
  · rw [if_pos failed]
    exact ⟨_, rfl, .failed failed⟩
  · have completed := final.resolve_left failed
    rw [if_neg failed, if_pos completed]
    exact ⟨_, rfl, .completed completed⟩

end Standing

/-! ### Accounts of a race -/

section Looks

variable {α β : Type} {client : Client} {promptId : String} {first last : Standing} {task rest : Work α}
  {seen : List Watched}

/-- What is watched was truthful. -/
def Watched.IsTruthful (client : Client) (promptId : String) (watched : Watched) : Prop :=
  Truthful client promptId watched.1 watched.2.question watched.2.answer

theorem Race.after (race : Race client promptId first task seen last rest) :
    task.After (seen.map (·.2)) rest := by
  induction race with
  | begun => exact .begun
  | moves _ _ ih => exact ih
  | answers _ answer _ askedAt comesAt ih => exact ih.answered answer askedAt comesAt

theorem Race.truthful (race : Race client promptId first task seen last rest) :
    ∀ watched ∈ seen, watched.IsTruthful client promptId := by
  induction race with
  | begun => exact List.forall_mem_nil _
  | moves _ _ ih => exact ih
  | answers _ _ truthful _ _ ih => exact List.forall_mem_cons.mpr ⟨truthful, ih⟩

/-- How the prompt stands at an exchange leads to how it stands at any later one. -/
theorem Race.inOrder (race : Race client promptId first task seen last rest) :
    (∀ watched ∈ seen, watched.1.Leads last) ∧ seen.Pairwise fun later earlier => earlier.1.Leads later.1 := by
  induction race with
  | begun => exact ⟨List.forall_mem_nil _, List.Pairwise.nil⟩
  | moves _ next ih =>
      obtain ⟨leads, ordered⟩ := ih
      exact ⟨fun watched member => (leads watched member).tail next, ordered⟩
  | answers _ _ _ _ _ ih =>
      obtain ⟨leads, ordered⟩ := ih
      exact ⟨List.forall_mem_cons.mpr ⟨.refl, leads⟩, List.pairwise_cons.mpr ⟨leads, ordered⟩⟩

/-- What was watched of a task that has succeeded, and fails wherever another does, divides into what was watched of
either. -/
theorem split_of_bind {ε δ : Type} {call : Work (Except ε α)} {after : Except ε α → Work (Except δ β)} {result : β}
    (yields : (call.bind after).Yields (seen.map (·.2)) (.ok result))
    (fails : ∀ e, ∃ d, after (.error e) = .done (.error d)) :
    ∃ value earlier later, seen = later ++ earlier ∧ call.Yields (earlier.map (·.2)) (.ok value) ∧
      (after (.ok value)).Yields (later.map (·.2)) (.ok result) := by
  obtain ⟨value, before, behind, split, looked, went⟩ := Task.Yields.of_bind_ok yields fails
  obtain ⟨later, earlier, rfl, rfl, rfl⟩ := List.map_eq_append_iff.mp split
  exact ⟨value, earlier, later, rfl, looked, went⟩

/-- If a task succeeds, its value tells how the prompt stood at one of the task's requests. -/
def Reveals (client : Client) (promptId : String) (task : Work (Except BackendError α))
    (tells : Standing → α → Prop) : Prop :=
  ∀ (seen : List Watched) value, (∀ watched ∈ seen, watched.IsTruthful client promptId) →
    task.Yields (seen.map (·.2)) (.ok value) → ∃ watched ∈ seen, watched.IsRequest ∧ tells watched.1 value

/-- So it does if it is tried again and again. -/
theorem Reveals.withRetry {look : Work (Except BackendError α)} {tells : Standing → α → Prop}
    (reveals : Reveals client promptId look tells) (operation : String) (policy : RetryPolicy) :
    Reveals client promptId (Task.withRetry pause operation policy look) tells := by
  intro seen value truthful yields
  obtain ⟨before, attempt, split, succeeded⟩ := Task.Yields.of_withRetry yields
  obtain ⟨later, earlier, rfl, rfl, rfl⟩ := List.map_eq_append_iff.mp split
  obtain ⟨watched, member, told⟩ :=
    reveals later value (fun watched member => truthful watched (List.mem_append_left _ member)) succeeded
  exact ⟨watched, List.mem_append_left _ member, told⟩

end Looks

/-! ### Looks at the service -/

section Looks

variable {c : Connection} {client : Client} {promptId : String} {status : BackendStatus}

/-- A call that succeeds had an answer of success, which told how the prompt stood. -/
theorem exists_of_call {α : Type} {read : Document → Option α} {address : Except TransportError Url} {value : α}
    {seen : List Watched} (truthful : ∀ watched ∈ seen, watched.IsTruthful client promptId)
    (yields : (operation (Client.parsed read (Client.exchange .get address .nothing))).Yields (seen.map (·.2))
      (.ok value)) :
    ∃ watched ∈ seen, watched.IsRequest ∧ ∃ request response, address = .ok request.url ∧
      response.isSuccess = true ∧ read? read response.body = some value ∧
      Truthful client promptId watched.1 (.send request) (.ok response : Except TransportError Response) := by
  obtain ⟨response, sent, readable⟩ := Client.parsed_yields (operation_yields yields)
  obtain ⟨url, askedAt, comesAt, address, success, one⟩ := Client.exchange_yields sent
  obtain ⟨⟨standing, exchange⟩, rfl, same⟩ := List.map_eq_singleton_iff.mp one
  cases same
  refine ⟨_, List.mem_singleton_self _, ⟨_, rfl⟩, ⟨.get, url, .nothing⟩, response, address, success, readable, ?_⟩
  exact truthful _ (List.mem_singleton_self _)

/-- The history tells whether the prompt has ended. -/
theorem reveals_historyEntry : Reveals c.client promptId (c.historyEntry promptId)
    fun standing entry => entry = standing.entry? := by
  intro seen entry truthful yields
  obtain ⟨history, earlier, later, rfl, called, ended⟩ := split_of_bind yields fun _ => ⟨_, rfl⟩
  obtain ⟨watched, member, asked, request, response, address, success, readable, told⟩ :=
    exists_of_call (fun watched member => truthful watched (List.mem_append_right _ member)) called
  obtain ⟨found, read, standing⟩ := (told response rfl success).1 address
  obtain rfl : found = history := Option.some.inj (read.symm.trans readable)
  simp only [Standing.find?_of_isToldBy standing] at ended
  obtain ⟨-, ⟨⟩⟩ := Task.yields_done ended
  exact ⟨watched, List.mem_append_right _ member, asked, rfl⟩

/-- The queue tells whether it waits or runs. -/
theorem reveals_queue : Reveals c.client promptId (operation c.client.queue)
    fun standing queue => queue.position promptId = standing.position := by
  intro seen queue truthful yields
  obtain ⟨watched, member, asked, request, response, address, success, readable, told⟩ :=
    exists_of_call truthful yields
  obtain ⟨found, read, standing⟩ := (told response rfl success).2 address
  obtain rfl : found = queue := Option.some.inj (read.symm.trans readable)
  exact ⟨watched, member, asked, Standing.position_of_isQueuedIn standing⟩

end Looks

/-! ### Scripts -/

section Script

variable {α : Type} {client : Client} {promptId : String} {first standing : Standing} {task rest : Work α}
  {seen : List Watched} {value : α}

/-- The addresses that a task asks, and what it comes to, if its requests are answered in turn. -/
def told? : Work α → List (Except TransportError Response) → Option (List Url × α)
  | .done value, [] => some ([], value)
  | .ask (.send request) next, answer :: later =>
    (told? (next answer) later).map fun told => (request.url :: told.1, told.2)
  | .ask (.pause _) next, answers => told? (next ()) answers
  | _, _ => none

/-- A look at the history that is no look at the queue. -/
theorem truthful_history {request : Request} {response : Response} {history : Json}
    (apart : client.url "/queue" ≠ .ok request.url) (readable : read? (toJson? maxDepth) response.body = some history)
    (told : standing.IsToldBy promptId history) :
    Truthful client promptId standing (.send request) (.ok response : Except TransportError Response) := by
  rintro _ ⟨⟩ -
  exact ⟨fun _ => ⟨history, readable, told⟩, fun address => absurd address apart⟩

/-- A look at the queue that is no look at the history. -/
theorem truthful_queue {request : Request} {response : Response} {queue : QueueSnapshot}
    (apart : client.url ("/history/" ++ promptId) ≠ .ok request.url)
    (readable : read? QueueSnapshot.ofDocument? response.body = some queue)
    (queued : standing.IsQueuedIn promptId queue) :
    Truthful client promptId standing (.send request) (.ok response : Except TransportError Response) := by
  rintro _ ⟨⟩ -
  exact ⟨fun address => absurd address apart, fun _ => ⟨queue, readable, queued⟩⟩

theorem Race.leads {later : Standing} (race : Race client promptId first task seen standing rest)
    (leads : standing.Leads later) : Race client promptId first task seen later rest := by
  induction leads with
  | refl => exact race
  | tail _ next ih => exact ih.moves next

/-- A script of truthful answers makes a race. -/
theorem Race.of_told {script : List (Standing × Except TransportError Response)} {urls : List Url}
    (race : Race client promptId first task seen standing rest)
    (told : told? rest (script.map (·.2)) = some (urls, value))
    (truthful : List.Forall₂ (fun line url => ∀ request : Request, request.url = url →
      Truthful client promptId line.1 (.send request) line.2) script urls)
    (ordered : List.IsChain Standing.Leads (standing :: script.map (·.1))) :
    ∃ seen last, Race client promptId first task seen last (.done value) := by
  induction rest generalizing script urls seen standing with
  | done given =>
      cases script with
      | nil =>
          cases told
          exact ⟨seen, standing, race⟩
      | cons line later => cases told
  | ask question next ih =>
      cases question with
      | send request =>
          cases script with
          | nil => cases told
          | cons line later =>
              obtain ⟨⟨urls, value⟩, goesOn, ⟨⟩⟩ := Option.map_eq_some_iff.mp told
              obtain ⟨answered, others⟩ := List.forall₂_cons.mp truthful
              obtain ⟨leads, ordered⟩ := List.isChain_cons_cons.mp ordered
              exact ih line.2 ((race.leads leads).answers line.2 (answered request rfl) 0 0) goesOn others ordered
      | pause => exact ih () (race.answers () trivial 0 0) told truthful ordered
      | read | isUploaded | markUploaded | newClientId => cases script <;> cases told

end Script

namespace Connection

/-! ### A service -/

/-- A service at an address in numbers. What fails is tried once more. -/
def desk : Connection := ⟨.ofUrl "http://[::1]", .uniform { maxAttempts := 2 }⟩

/-- An address of the service. -/
def deskUrl (path : String) : Url := ⟨"http", some ⟨"", "", .ipv6 [0, 0, 0, 0, 0, 0, 0, 1], none⟩, path, none, none⟩

/-- What the service writes of a prompt before it ends, and of one that ended well. -/
def unended : Bytes := Text.toBytes "\x7b\x7d"
def completed : Bytes := Text.toBytes "\x7b\"p\":\x7b\"status\":\x7b\"completed\":true\x7d\x7d\x7d"

/-- What it writes of an empty queue. -/
def empty : Bytes := Text.toBytes "\x7b\"queue_running\":[],\"queue_pending\":[]\x7d"

theorem desk_url_ne {path : String} {url : Url} (address : (desk.client.url path).toOption = some (deskUrl path))
    (apart : deskUrl path ≠ url) : desk.client.url path ≠ .ok url := by
  intro same
  rw [same] at address
  exact apart (Option.some.inj address).symm

theorem queue_ne : desk.client.url "/queue" ≠ .ok (deskUrl "/history/p") :=
  desk_url_ne (by decide +kernel) (by decide)

theorem history_ne : desk.client.url ("/history/" ++ "p") ≠ .ok (deskUrl "/queue") :=
  desk_url_ne (by decide +kernel) (by decide)

theorem exists_unended :
    ∃ history, read? (toJson? maxDepth) unended = some history ∧ Standing.running.IsToldBy "p" history := by
  have blank : (read? (toJson? maxDepth) unended).any (fun history => (history.field? "p").isNone) = true := by
    decide +kernel
  obtain ⟨history, readable, nothing⟩ := (Option.any_eq_true ..).mp blank
  exact ⟨history, readable, Option.isNone_iff_eq_none.mp nothing⟩

theorem exists_completed : ∃ entry, ∃ done : entry.isCompleted = true, ∃ history,
    read? (toJson? maxDepth) completed = some history ∧ (Standing.ended entry (.inr done)).IsToldBy "p" history := by
  have well : ((read? (toJson? maxDepth) completed).bind fun history => (history.field? "p").bind fun written =>
      HistoryEntry.ofDocument? (ofJson written)).any (·.isCompleted) = true := by
    decide +kernel
  obtain ⟨entry, there, done⟩ := (Option.any_eq_true ..).mp well
  obtain ⟨history, readable, there⟩ := Option.bind_eq_some_iff.mp there
  obtain ⟨written, given, readEntry⟩ := Option.bind_eq_some_iff.mp there
  exact ⟨entry, done, history, readable, written, given, readEntry⟩

/-- An empty queue tells of a prompt that has ended. -/
theorem exists_empty (entry : HistoryEntry) (final : entry.isError = true ∨ entry.isCompleted = true) :
    ∃ queue, read? QueueSnapshot.ofDocument? empty = some queue ∧
      (Standing.ended entry final).IsQueuedIn "p" queue := by
  have nobody : (read? QueueSnapshot.ofDocument? empty).any
      (fun queue => queue.running.isEmpty && queue.pending.isEmpty) = true := by
    decide +kernel
  obtain ⟨queue, readable, clear⟩ := (Option.any_eq_true ..).mp nobody
  simp only [Bool.and_eq_true, List.isEmpty_iff] at clear
  exact ⟨queue, readable, by simp [Standing.IsQueuedIn, clear]⟩

/-- A poll there, with an answer without success, a history without the prompt, and after that an empty queue and a
history in which the prompt has ended well. -/
theorem told_desk : told? (desk.poll "p") [.ok ⟨503, []⟩, .ok ⟨200, unended⟩, .ok ⟨200, empty⟩, .ok ⟨200, completed⟩] =
    some ([deskUrl "/history/p", deskUrl "/history/p", deskUrl "/queue", deskUrl "/history/p"], .ok .done) := by
  have polled : (told? (desk.poll "p") [.ok ⟨503, []⟩, .ok ⟨200, unended⟩, .ok ⟨200, empty⟩,
      .ok ⟨200, completed⟩]).map (fun told => (told.1, told.2.toOption)) =
      some ([deskUrl "/history/p", deskUrl "/history/p", deskUrl "/queue", deskUrl "/history/p"], some .done) := by
    decide +kernel
  obtain ⟨⟨urls, value⟩, told, same⟩ := Option.map_eq_some_iff.mp polled
  obtain ⟨rfl, isDone⟩ := Prod.mk.inj same
  cases value with
  | error e => cases isDone
  | ok status =>
      cases isDone
      exact told

/-! ### Polls -/

variable {c : Connection} {promptId : String} {status : BackendStatus} {seen : List Watched}

/-- After the first look, the queue or the history shows how the prompt stood. -/
theorem pollQueue_shows (truthful : ∀ watched ∈ seen, watched.IsTruthful c.client promptId)
    (ordered : seen.Pairwise fun later earlier => earlier.1.Leads later.1)
    (polled : (c.pollQueue promptId).Yields (seen.map (·.2)) (.ok status)) :
    ∃ watched ∈ seen, watched.IsRequest ∧ watched.1.Shows status := by
  obtain ⟨queue, earlier, later, rfl, looked, went⟩ := split_of_bind polled fun _ => ⟨_, rfl⟩
  obtain ⟨truthfulLater, truthfulEarlier⟩ := List.forall_mem_append.mp truthful
  obtain ⟨⟨standing, exchange⟩, member, asked, position⟩ :=
    (reveals_queue.withRetry "poll" c.retry.poll) earlier queue truthfulEarlier looked
  have inSeen := List.mem_append_right later member
  simp only [position] at went
  cases standing with
  | pending =>
      obtain ⟨-, ⟨⟩⟩ := Task.yields_done went
      exact ⟨_, inSeen, asked, .pending⟩
  | running =>
      obtain ⟨-, ⟨⟩⟩ := Task.yields_done went
      exact ⟨_, inSeen, asked, .running⟩
  | ended entry final =>
      -- The prompt had left the queue, so it had ended, and still has at the second look at the history.
      obtain ⟨found, before, behind, rfl, lookedAgain, decided⟩ := split_of_bind went fun _ => ⟨_, rfl⟩
      obtain ⟨-, truthfulBefore⟩ := List.forall_mem_append.mp truthfulLater
      obtain ⟨again, there, askedAgain, rfl⟩ :=
        (reveals_historyEntry.withRetry "poll" c.retry.poll) before found truthfulBefore lookedAgain
      have inLater := List.mem_append_right behind there
      have same := Standing.eq_of_ended ((List.pairwise_append.mp ordered).2.2 again inLater _ member)
      obtain ⟨shown, terminal, shows⟩ := Standing.exists_terminalStatus entry final
      simp only [same, Standing.entry?, afterQueue, terminal, Option.getD_some] at decided
      obtain ⟨-, ⟨⟩⟩ := Task.yields_done decided
      exact ⟨again, List.mem_append_left _ inLater, askedAgain, same ▸ shows⟩

/-- A poll that has an answer reports how the prompt stood at one of its requests, whatever happened to the prompt in
between and however often requests failed. Only a prompt that ended with an error is reported as one, and with the
message of its own entry. -/
theorem poll_shows {first last : Standing}
    (race : Race c.client promptId first (c.poll promptId) seen last (.done (.ok status))) :
    (∃ watched ∈ seen, watched.IsRequest ∧ watched.1.Shows status) ∧
    ∀ message, status = .error message →
      ∃ watched ∈ seen, ∃ entry final, watched.1 = .ended entry final ∧ entry.isError = true ∧
        message = entry.errorMessage := by
  suffices shown : ∃ watched ∈ seen, watched.IsRequest ∧ watched.1.Shows status by
    refine ⟨shown, ?_⟩
    rintro message rfl
    obtain ⟨⟨standing, exchange⟩, member, -, shows⟩ := shown
    cases shows with
    | failed failed => exact ⟨_, member, _, _, rfl, failed, rfl⟩
  have truthful := race.truthful
  obtain ⟨-, ordered⟩ := race.inOrder
  obtain ⟨found, earlier, later, rfl, looked, went⟩ := split_of_bind race.after fun _ => ⟨_, rfl⟩
  obtain ⟨truthfulLater, truthfulEarlier⟩ := List.forall_mem_append.mp truthful
  obtain ⟨⟨standing, exchange⟩, member, asked, rfl⟩ :=
    (reveals_historyEntry.withRetry "poll" c.retry.poll) earlier found truthfulEarlier looked
  have queued : ∀ went : (c.pollQueue promptId).Yields (later.map (·.2)) (.ok status),
      ∃ watched ∈ later ++ earlier, watched.IsRequest ∧ watched.1.Shows status := by
    intro went
    obtain ⟨shown, there, told⟩ := pollQueue_shows truthfulLater (List.pairwise_append.mp ordered).1 went
    exact ⟨shown, List.mem_append_left _ there, told⟩
  cases standing with
  | pending => exact queued went
  | running => exact queued went
  | ended entry final =>
      obtain ⟨shown, terminal, shows⟩ := Standing.exists_terminalStatus entry final
      simp only [Standing.entry?, Option.bind_some, terminal] at went
      obtain ⟨-, ⟨⟩⟩ := Task.yields_done went
      exact ⟨_, List.mem_append_right _ member, asked, shows⟩

/-- The prompt ends between the looks at the history and at the queue. The first request fails and is sent again. -/
theorem poll_shows_between : ∃ seen last,
    Race desk.client "p" .running (desk.poll "p") seen last (.done (.ok .done)) ∧
      ∃ watched ∈ seen, watched.IsRequest ∧ watched.1.Shows .done := by
  obtain ⟨blank, readBlank, running⟩ := exists_unended
  obtain ⟨entry, done, history, readHistory, told⟩ := exists_completed
  obtain ⟨queue, readQueue, left⟩ := exists_empty entry (.inr done)
  have ends : Standing.running.Leads (.ended entry (.inr done)) := .single (.ends entry _)
  let script : List (Standing × Except TransportError Response) := [(.running, .ok ⟨503, []⟩),
    (.running, .ok ⟨200, unended⟩), (.ended entry (.inr done), .ok ⟨200, empty⟩),
    (.ended entry (.inr done), .ok ⟨200, completed⟩)]
  have ordered : List.IsChain Standing.Leads (.running :: script.map (·.1)) := by
    simp [script, Relation.ReflTransGen.refl, ends]
  have truthful : List.Forall₂ (fun line url => ∀ request : Request, request.url = url →
      Truthful desk.client "p" line.1 (.send request) line.2) script
      [deskUrl "/history/p", deskUrl "/history/p", deskUrl "/queue", deskUrl "/history/p"] := by
    refine .cons ?_ (.cons ?_ (.cons ?_ (.cons ?_ .nil)))
    · rintro request - _ ⟨⟩ success
      cases success
    · rintro request asked
      exact truthful_history (asked ▸ queue_ne) readBlank running
    · rintro request asked
      exact truthful_queue (asked ▸ history_ne) readQueue left
    · rintro request asked
      exact truthful_history (asked ▸ queue_ne) readHistory told
  obtain ⟨seen, last, race⟩ := Race.of_told .begun told_desk truthful ordered
  exact ⟨seen, last, race, (poll_shows race).1⟩

end Connection

end ImageBatch.Server
