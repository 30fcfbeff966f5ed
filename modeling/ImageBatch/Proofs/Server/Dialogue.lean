import ImageBatch.Proofs.Server.Posting
import ImageBatch.Proofs.Server.Uploads

/-!
A whole submit.

A submit is busy with its files, or has failed because of one of them, or hands over its graph
(`Dialogue.phases`). So its graph is sent only when each of its files has been delivered, in the same submit or in an
earlier one on the connection (`Calls`), only so often, and again only after an answer that may pass; it has a result
exactly if the last answer takes the graph; and the files that are recorded are those that were delivered, also when
one of them failed (`Dialogue.posts_in_order`).
-/

namespace ImageBatch.Server

/-- A submit of a job when some files are known to have been uploaded: its exchanges so far, and what is left. -/
structure Dialogue (c : Connection) (job : ResolvedJob) (known : List Path) (log : Talk)
    (rest : Work (Except BackendError String)) : Prop where
  after : (c.submit job).After log rest
  recalls : Recalls known log

/-- Submits on a new connection, one after another, each of them done or broken off: the files that are recorded, and
all exchanges. -/
inductive Calls (c : Connection) : List Path → Talk → Prop where
  | fresh : Calls c [] []
  | call {known past job log rest} (before : Calls c known past) (dialogue : Dialogue c job known log rest) :
      Calls c (gained log ++ known) (log ++ past)

/-- A request is being sent or has been sent, after these exchanges. -/
inductive Sends (log : Talk) (rest : Work (Except BackendError String)) (request : Request) : Talk → Prop where
  | pending {next} (asks : rest = .ask (.send request) next) : Sends log rest request log
  | answered {later earlier answer sentAt answeredAt}
      (within : log = later ++ ⟨.send request, answer, sentAt, answeredAt⟩ :: earlier) : Sends log rest request earlier

/-- A request that sends the contents of a file. -/
def IsUpload (c : Connection) (request : Request) : Prop :=
  ∃ url path bytes, c.client.url "/upload/image" = .ok url ∧ request = uploadRequest url path bytes

/-- After these exchanges it is time to send the graph of a job. -/
structure MayPost (c : Connection) (job : ResolvedJob) (known : List Path) (earlier : Talk) (request : Request) :
    Prop where
  prompt : IsPrompt c job request
  /-- Each of its files was known, or has been delivered. -/
  files : ∀ path ∈ job.uploads,
    Among known path ∨ ∃ uploaded, uploaded.sameAs path = true ∧ Delivered c uploaded earlier
  /-- So each of them has been delivered, now or in an earlier submit. -/
  delivered : ∀ past, Calls c known past → ∀ path ∈ job.uploads,
    ∃ uploaded, uploaded.sameAs path = true ∧ Delivered c uploaded (earlier ++ past)
  room : (posts earlier).length < max 1 c.retry.submit.maxAttempts
  passing : ∀ answer ∈ posts earlier, Passing answer

section Files

variable {c : Connection} {log : Talk}

/-- A question that is no request, unless it is an upload. -/
def UploadsOnly (c : Connection) (question : Ask) : Prop := ∀ request, question = .send request → IsUpload c request

theorem onlyAsks_uploadAll (c : Connection) (files : List Path) : (c.uploadAll files).OnlyAsks (UploadsOnly c) := by
  induction files with
  | nil => trivial
  | cons path more ih =>
      have tries (attempt delay left : Nat) : (c.tryUpload path attempt delay left).OnlyAsks (UploadsOnly c) := by
        refine onlyAsks_tryUpload nofun (fun _ => nofun) ?_ attempt delay left
        rintro url bytes address _ ⟨⟩
        exact ⟨url, path, bytes, address, rfl⟩
      have once : (c.uploadOnce path).OnlyAsks (UploadsOnly c) := by
        rw [Connection.uploadOnce_eq]
        constructor
        · rintro _ ⟨⟩
        intro told
        cases told with
        | true => trivial
        | false =>
            apply (tries ..).bind
            intro outcome
            cases outcome with
            | error e => trivial
            | ok name => exact ⟨nofun, fun _ => trivial⟩
      rw [Connection.uploadAll_cons]
      apply once.bind
      intro outcome
      cases outcome with
      | error e => trivial
      | ok _ => exact ih

theorem posts_eq_nil (silent : ∀ exchange ∈ log, UploadsOnly c exchange.question) : posts log = [] := by
  apply List.filterMap_eq_nil_iff.mpr
  intro exchange member
  unfold posted?
  split
  next =>
      obtain ⟨url, path, bytes, -, same⟩ := silent _ member _ rfl
      cases same
  next => rfl

/-- To hand over a graph is to record no file and to deliver none. -/
theorem Deals.of_handsOver (asked : ∀ exchange ∈ log, HandsOver exchange.question) : Deals c log [] [] := by
  have unsent (exchange) (member : exchange ∈ log) (url path bytes) :
      exchange.question ≠ .send (uploadRequest url path bytes) := by
    intro sent
    have handsOver := asked exchange member
    rw [sent] at handsOver
    obtain ⟨value, same⟩ := handsOver
    cases same
  constructor
  · intro exchange last
    exact unsent exchange (List.mem_of_getLast? last)
  · apply gained_eq_nil
    intro exchange member path marked
    have handsOver := asked exchange member
    rw [marked] at handsOver
    exact handsOver
  · intro path
    apply iff_of_false
    · rintro ⟨bytes, url, _, _, _, _, _, _, -, -, -, pair⟩
      exact unsent _ (pair.subset List.mem_cons_self) url path bytes rfl
    · exact List.not_mem_nil

end Files

namespace Dialogue

variable {c : Connection} {job : ResolvedJob} {known : List Path} {log : Talk}
  {rest : Work (Except BackendError String)} {request : Request}

/-- A submit is busy with its files, or has failed because of one of them, or hands over its graph. -/
theorem phases (dialogue : Dialogue c job known log rest) :
    (∃ question next, (c.uploadAll job.uploads).After log (.ask question next) ∧
      rest = .ask question fun answer => (next answer).bind (Connection.andThen (c.handOver job))) ∨
    (∃ e, (c.uploadAll job.uploads).Yields log (.error e) ∧ rest = .done (.error e)) ∨
    ∃ earlier later, log = later ++ earlier ∧ (c.uploadAll job.uploads).Yields earlier (.ok ()) ∧
      (c.handOver job).After later rest := by
  have left := dialogue.after
  rw [Connection.submit_eq] at left
  rcases Task.After.of_bind_asking left with busy | ⟨outcome, earlier, later, rfl, looked, goesOn⟩
  · exact .inl busy
  · cases outcome with
    | error e =>
        obtain ⟨rfl, rfl⟩ := Task.after_done goesOn
        exact .inr (.inl ⟨e, looked, rfl⟩)
    | ok _ => exact .inr (.inr ⟨earlier, later, rfl, looked, goesOn⟩)

/-- As long as a submit is busy with its files, it sends no graph. -/
theorem posts_of_uploadAll {left : Work (Except BackendError Unit)}
    (looked : (c.uploadAll job.uploads).After log left) : posts log = [] :=
  posts_eq_nil (Task.OnlyAsks.of_after (onlyAsks_uploadAll c job.uploads) looked).1

theorem deals_of_handOver (reached : (c.handOver job).After log rest) : Deals c log [] [] :=
  have asks : (c.handOver job).OnlyAsks HandsOver := ⟨trivial, fun clientId => Submits.onlyAsks_handOverAs clientId⟩
  .of_handsOver (Task.OnlyAsks.of_after asks reached).1

/-- How the graph is handed over, if it is. -/
theorem posting (dialogue : Dialogue c job known log rest) :
    (∀ request next, rest = .ask (.send request) next → IsUpload c request) ∧ posts log = [] ∧
      (∀ promptId, rest ≠ .done (.ok promptId)) ∨
    ∃ earlier later, log = later ++ earlier ∧ (c.uploadAll job.uploads).Yields earlier (.ok ()) ∧
      Posting c job TakesAs (max 1 c.retry.submit.maxAttempts) (posts log) rest := by
  rcases dialogue.phases with ⟨question, next, busy, rfl⟩ | ⟨e, failed, rfl⟩ | ⟨earlier, later, rfl, looked, hands⟩
  · left
    refine ⟨?_, posts_of_uploadAll busy, nofun⟩
    rintro request _ ⟨⟩
    exact (Task.OnlyAsks.of_after (onlyAsks_uploadAll c job.uploads) busy).2.1 request rfl
  · exact .inl ⟨nofun, posts_of_uploadAll failed, nofun⟩
  · right
    refine ⟨earlier, later, rfl, looked, ?_⟩
    rw [posts_append, posts_of_uploadAll looked, List.append_nil]
    exact .of_handOver hands

/-- What is recorded has been delivered. -/
theorem delivered_of_gained (dialogue : Dialogue c job known log rest) : ∀ path ∈ gained log, Delivered c path log := by
  rcases dialogue.phases with ⟨question, next, busy, -⟩ | ⟨e, failed, -⟩ | ⟨earlier, later, rfl, looked, hands⟩
  · exact delivered_of_uploadAll busy
  · exact delivered_of_uploadAll failed
  · intro path member
    rw [gained_append, (deals_of_handOver hands).gained_eq] at member
    exact (delivered_of_uploadAll looked path member).mono (List.suffix_append ..).isInfix

/-- When a submit is done, those files are recorded that have been delivered. -/
theorem mem_gained_iff {result : Except BackendError String} (dialogue : Dialogue c job known log (.done result))
    (path : Path) : path ∈ gained log ↔ Delivered c path log := by
  have balanced {paths : List Path} (deals : Deals c log paths paths) : path ∈ gained log ↔ Delivered c path log := by
    rw [deals.delivered, deals.gained_eq]
  rcases dialogue.phases with ⟨_, _, _, ⟨⟩⟩ | ⟨e, failed, -⟩ | ⟨earlier, later, rfl, looked, hands⟩
  · obtain ⟨paths, deals, -⟩ := Deals.of_uploadAll failed
    exact balanced deals
  · obtain ⟨paths, deals, -⟩ := Deals.of_uploadAll looked
    exact balanced ((deals_of_handOver hands).append deals)

end Dialogue

/-- What is recorded on a connection has been delivered. -/
theorem Calls.delivered {c : Connection} {known : List Path} {past : Talk} (calls : Calls c known past) :
    ∀ path ∈ known, Delivered c path past := by
  induction calls with
  | fresh => exact fun _ => nofun
  | call before dialogue ih =>
      intro path member
      rcases List.mem_append.mp member with new | old
      · exact (dialogue.delivered_of_gained path new).mono (List.prefix_append ..).isInfix
      · exact (ih path old).mono (List.suffix_append ..).isInfix

namespace Dialogue

variable {c : Connection} {job : ResolvedJob} {known : List Path} {log : Talk}
  {rest : Work (Except BackendError String)} {request : Request}

/-- A submit is at any earlier point a submit. -/
theorem of_sends (dialogue : Dialogue c job known log rest) {earlier : Talk} (sends : Sends log rest request earlier) :
    ∃ next, Dialogue c job known earlier (.ask (.send request) next) := by
  cases sends with
  | pending asks =>
      subst asks
      exact ⟨_, dialogue⟩
  | answered within =>
      subst within
      obtain ⟨next, asked⟩ := Task.After.exists_asked dialogue.after
      exact ⟨next, asked, (recalls_append.mp dialogue.recalls).1.2⟩

/-- A submit that is about to send something sends a file, or it is time to send its graph. -/
theorem mayPost {next : Answer (.send request) → Work (Except BackendError String)}
    (dialogue : Dialogue c job known log (.ask (.send request) next)) :
    IsUpload c request ∨ MayPost c job known log request := by
  rcases dialogue.posting with ⟨uploads, -⟩ | ⟨earlier, later, rfl, looked, posting⟩
  · exact .inl (uploads request next rfl)
  · right
    obtain ⟨prompt, room, passing⟩ := posting.asks request next rfl
    obtain ⟨paths, deals, there⟩ := Deals.of_uploadAll looked
    have found (path) (member : path ∈ job.uploads) : Among known path ∨
        ∃ uploaded, uploaded.sameAs path = true ∧ Delivered c uploaded (later ++ earlier) := by
      obtain ⟨uploaded, among, same⟩ := there rfl known (recalls_append.mp dialogue.recalls).1 path member
      rcases List.mem_append.mp among with new | old
      · exact .inr ⟨uploaded, same, (deals.delivered_of_gained uploaded new).mono (List.suffix_append ..).isInfix⟩
      · exact .inl ⟨uploaded, old, same⟩
    refine ⟨prompt, found, ?_, room, passing⟩
    intro past calls path member
    rcases found path member with ⟨uploaded, old, same⟩ | ⟨uploaded, same, delivered⟩
    · exact ⟨uploaded, same, (calls.delivered uploaded old).mono (List.suffix_append ..).isInfix⟩
    · exact ⟨uploaded, same, delivered.mono (List.prefix_append ..).isInfix⟩

/-- What a submit sends are files, or it is time to send its graph: each file of the job has been delivered in this or
an earlier submit, the graph has not been sent as often as the policy allows, and the answers to it so far may pass. A
submit has a result exactly if the last answer takes the graph. It records those files that it delivers; and if one of
the uploads fails, it has failed and has not sent its graph. -/
theorem posts_in_order (dialogue : Dialogue c job known log rest) :
    (∀ request earlier, Sends log rest request earlier → IsUpload c request ∨ MayPost c job known earlier request) ∧
    (posts log).length ≤ max 1 c.retry.submit.maxAttempts ∧
    (∀ promptId, rest = .done (.ok promptId) ↔ ∃ answer, (posts log).head? = some answer ∧ TakesAs answer promptId) ∧
    (∀ path ∈ gained log, Delivered c path log) ∧
    (∀ result, rest = .done result → ∀ path, path ∈ gained log ↔ Delivered c path log) ∧
    ∀ earlier later e, log = later ++ earlier → (c.uploadAll job.uploads).Yields earlier (.error e) →
      later = [] ∧ rest = .done (.error e) ∧ posts log = [] ∧ ∀ path, path ∈ gained log ↔ Delivered c path log := by
  refine ⟨?_, ?_, ?_, dialogue.delivered_of_gained, ?_, ?_⟩
  · intro request earlier sends
    obtain ⟨next, asking⟩ := dialogue.of_sends sends
    exact asking.mayPost
  · rcases dialogue.posting with ⟨-, silent, -⟩ | ⟨_, _, -, -, posting⟩
    · rw [silent]
      exact Nat.zero_le _
    · exact posting.count
  · intro promptId
    rcases dialogue.posting with ⟨-, silent, none⟩ | ⟨_, _, -, -, posting⟩
    · simp [silent, none]
    · exact posting.done promptId
  · rintro result rfl
    exact dialogue.mem_gained_iff
  · rintro earlier later e rfl failed
    have ended : (c.submit job).Yields earlier (.error e) := by
      rw [Connection.submit_eq]
      exact Task.After.bind failed (Connection.andThen (c.handOver job))
    obtain rfl := Task.Yields.last ended dialogue.after
    obtain rfl := Task.After.unique dialogue.after ended
    exact ⟨rfl, rfl, posts_of_uploadAll failed, dialogue.mem_gained_iff⟩

end Dialogue

/-! ### Services that keep a record -/

section Services

variable {σ α : Type} {service : Service Ask Answer σ} {recorded : σ → List Path}

/-- A service tells which files have been recorded, and records those that it is told to. -/
def KeepsRecord (service : Service Ask Answer σ) (recorded : σ → List Path) : Prop :=
  ∀ question disk now state, let reply := service.respond question disk now state
    ToldBy (recorded state) question reply.answer ∧
      recorded reply.state = gained [⟨question, reply.answer, now, reply.comesAt⟩] ++ recorded state

/-- A service that follows a script does so. -/
theorem Stage.keepsRecord : KeepsRecord Stage.service Stage.uploaded := by
  intro question disk now stage
  cases question with
  | send request =>
      refine ⟨trivial, ?_⟩
      simp only [Stage.service]
      split
      · rfl
      · split
        · rfl
        · rfl
        · split <;> rfl
  | isUploaded path => exact ⟨rfl, rfl⟩
  | pause | read | markUploaded | newClientId => exact ⟨trivial, rfl⟩

/-- What is recorded in the end is what the exchanges say, and until then each of them agrees with it. -/
theorem KeepsRecord.recalls (keeps : KeepsRecord service recorded) (task : Work α) (world : World σ) :
    Recalls (recorded world.state) (task.transcript service world) ∧
      recorded (task.perform service world).2.state =
        gained (task.transcript service world) ++ recorded world.state := by
  induction task generalizing world with
  | done value => exact ⟨trivial, rfl⟩
  | ask question next ih =>
      obtain ⟨told, records⟩ := keeps question world.disk world.now world.state
      obtain ⟨recalls, others⟩ := ih _ ⟨(service.respond question world.disk world.now world.state).state, world.disk,
        (service.respond question world.disk world.now world.state).comesAt⟩
      rw [records] at recalls others
      constructor
      · exact recalls_append.mpr ⟨⟨told, trivial⟩, recalls⟩
      · rw [Task.transcript, gained_append, List.append_assoc]
        exact others

/-- A submit to such a service is a dialogue. -/
theorem KeepsRecord.dialogue (keeps : KeepsRecord service recorded) (c : Connection) (job : ResolvedJob)
    (world : World σ) :
    Dialogue c job (recorded world.state) ((c.submit job).transcript service world)
      (.done ((c.submit job).perform service world).1) where
  after := Task.yields_transcript service (c.submit job) world
  recalls := (keeps.recalls (c.submit job) world).1

end Services

/-! ### A submit that goes well in the end -/

/-- Answers that are given in turn, and the files that are recorded. -/
structure Shift where
  answers : List Response
  uploaded : List Path := []

/-- A service that gives its answers in turn. -/
def Shift.service : Service Ask Answer Shift where
  respond question _ now shift :=
    match question with
    | .send _ => ⟨.ok (shift.answers.headD ⟨500, []⟩), now, { shift with answers := shift.answers.tail }⟩
    | .pause length => ⟨(), now + length, shift⟩
    | .read _ => ⟨.ok [], now, shift⟩
    | .isUploaded path => ⟨shift.uploaded.any (·.sameAs path), now, shift⟩
    | .markUploaded path => ⟨(), now, { shift with uploaded := path :: shift.uploaded }⟩
    | .newClientId => ⟨"", now, shift⟩

theorem Shift.keepsRecord : KeepsRecord Shift.service Shift.uploaded := by
  intro question disk now shift
  cases question with
  | isUploaded path => exact ⟨rfl, rfl⟩
  | send | pause | read | markUploaded | newClientId => exact ⟨trivial, rfl⟩

/-- A job that shows a fox. -/
def foxJob : ResolvedJob := ⟨"ada", "ada", .object [], [], [], [⟨"fox/x.png"⟩]⟩

/-- A service that takes the fox, has too much to do, and then takes the graph. -/
def foxShift : World Shift :=
  ⟨⟨[Traffic.takenFile, ⟨503, []⟩, ⟨200, Text.toBytes "\x7b\"prompt_id\":\"p\"\x7d"⟩], []⟩, .empty, 0⟩

/-- The fox is delivered, and its graph is taken when it is sent for the second time. -/
theorem posts_in_order_fox : ∃ log, Dialogue Connection.desk foxJob [] log (.done (.ok "p")) ∧
    Delivered Connection.desk ⟨"fox/x.png"⟩ log ∧ (posts log).length = 2 ∧
    ∃ answer, (posts log).head? = some answer ∧ TakesAs answer "p" := by
  have named : ((Connection.desk.submit foxJob).perform Shift.service foxShift).1.toOption = some "p" := by
    decide +kernel
  have gains : ⟨"fox/x.png"⟩ ∈ gained ((Connection.desk.submit foxJob).transcript Shift.service foxShift) := by
    decide +kernel
  have twice : (posts ((Connection.desk.submit foxJob).transcript Shift.service foxShift)).length = 2 := by
    decide +kernel
  have dialogue := Shift.keepsRecord.dialogue Connection.desk foxJob foxShift
  cases result : ((Connection.desk.submit foxJob).perform Shift.service foxShift).1 with
  | error e =>
      rw [result] at named
      cases named
  | ok promptId =>
      rw [result] at named dialogue
      cases named
      obtain ⟨-, -, takes, -, records, -⟩ := dialogue.posts_in_order
      exact ⟨_, dialogue, (records _ rfl _).mp gains, twice, (takes "p").mp rfl⟩

end ImageBatch.Server
