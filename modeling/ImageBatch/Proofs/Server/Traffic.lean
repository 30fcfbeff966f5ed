import ImageBatch.Proofs.Backend.Exchanges
import ImageBatch.Proofs.Server.Submits
import ImageBatch.Server.Rehearsal
import Mathlib.Data.List.Infix
import Mathlib.Logic.Function.Basic

/-!
Submits side by side.

Several submits share a service and a record of the files that have been uploaded. In a `Traffic` any of them may be
answered next, and however the service answers, a submit that asks about a file is told what the record says
(`Remembers`). An account is kept of each submit (`Account`), which every answer carries on (`Traffic.accounts`).
-/

namespace ImageBatch.Server

variable {ι : Type}

/-- The exchanges of all submits, the latest first. -/
abbrev Log (ι : Type) := List (ι × Exchange Ask Answer)

/-- The file that an exchange records as uploaded. -/
def recorded? (entry : ι × Exchange Ask Answer) : Option Path :=
  match entry.2.question with
  | .markUploaded path => some path
  | _ => none

/-- The files that are recorded. -/
def recordedFiles (log : Log ι) : List Path := log.filterMap recorded?

/-- A question about a file is answered by what is recorded. -/
def Remembers (log : Log ι) : (question : Ask) → Answer question → Prop
  | .isUploaded path, known => (recordedFiles log).any (·.sameAs path) = known
  | _, _ => True

/-- A service that follows a script keeps such a record. -/
theorem Stage.remembers {stage : Stage} {log : Log ι} (same : stage.uploaded = recordedFiles log) (question : Ask)
    (disk : Disk) (now : Nat) (i : ι) :
    Remembers log question (Stage.service.respond question disk now stage).answer ∧
      (Stage.service.respond question disk now stage).state.uploaded = recordedFiles
        ((i, ⟨question, (Stage.service.respond question disk now stage).answer, now,
          (Stage.service.respond question disk now stage).comesAt⟩) :: log) := by
  cases question with
  | send request =>
      refine ⟨trivial, ?_⟩
      change _ = recordedFiles log
      rw [← same]
      simp only [Stage.service]
      split
      · rfl
      · split
        · rfl
        · rfl
        · split <;> rfl
  | isUploaded path => exact ⟨congrArg (fun uploaded : List Path => uploaded.any (·.sameAs path)) same.symm, same⟩
  | markUploaded path => exact ⟨trivial, congrArg (path :: ·) same⟩
  | pause | read | newClientId => exact ⟨trivial, same⟩

/-- What is recorded stays recorded. -/
theorem exists_recordedFiles_cons {log : Log ι} {path : Path} (entry : ι × Exchange Ask Answer)
    (there : ∃ known ∈ recordedFiles log, known.sameAs path = true) :
    ∃ known ∈ recordedFiles (entry :: log), known.sameAs path = true := by
  obtain ⟨known, member, same⟩ := there
  refine ⟨known, ?_, same⟩
  unfold recordedFiles at member ⊢
  rw [List.filterMap_cons]
  split
  · exact member
  · exact List.mem_cons_of_mem _ member

/-- A file that is not to be looked at any more has been found recorded, or is recorded now. -/
theorem Phase.Step.settles {c : Connection} {log : Log ι} {phase phase' : Phase} {question : Ask}
    {answer : Answer question} (step : phase.Step c question answer phase') (remembers : Remembers log question answer)
    (i : ι) (askedAt comesAt : Nat) :
    phase' = .ended ∨ ∀ path ∈ phase.remaining, path ∈ phase'.remaining ∨
      ∃ known ∈ recordedFiles ((i, ⟨question, answer, askedAt, comesAt⟩) :: log), known.sameAs path = true := by
  cases step with
  | known =>
      rw [Phase.remaining_ofFiles]
      refine .inr fun path member => ?_
      obtain rfl | member := List.mem_cons.mp member
      · exact .inr (List.any_eq_true.mp remembers)
      · exact .inl member
  | recorded =>
      rw [Phase.remaining_ofFiles]
      refine .inr fun path member => ?_
      obtain rfl | member := List.mem_cons.mp member
      · exact .inr ⟨path, List.mem_cons_self, beq_self_eq_true _⟩
      · exact .inl member
  | unknown | read | taken | waited => exact .inr fun path member => .inl member
  | unread _ failed | refused _ failed =>
      cases failed with
      | again => exact .inr fun path member => .inl member
      | ended => exact .inl rfl
  | lost => exact .inl rfl
  | named | hands => exact .inr fun path member => nomatch member

variable [DecidableEq ι]

/-- The exchanges of one submit. -/
def own (i : ι) (log : Log ι) : List (Exchange Ask Answer) := (log.filter (·.1 = i)).map (·.2)

/-- Submits of several jobs on one connection: their exchanges so far, and what is left of each. -/
inductive Traffic (c : Connection) (jobs : ι → ResolvedJob) :
    Log ι → (ι → Work (Except BackendError String)) → Prop where
  | begun : Traffic c jobs [] fun i => c.submit (jobs i)
  /-- One of them is answered. -/
  | answers {log rest question next} (before : Traffic c jobs log rest) (i : ι) (asks : rest i = .ask question next)
      (answer : Answer question) (remembers : Remembers log question answer) (askedAt comesAt : Nat) :
      Traffic c jobs ((i, ⟨question, answer, askedAt, comesAt⟩) :: log) (Function.update rest i (next answer))

/-! ### The log -/

section Log

variable {c : Connection} {i k : ι} {log : Log ι} {exchange : Exchange Ask Answer} {question : Ask} {path : Path}
  {bytes : Bytes} {answer : Except TransportError Response}

theorem own_cons_self : own i ((i, exchange) :: log) = exchange :: own i log := by
  simp [own]

theorem own_cons_of_ne (other : k ≠ i) : own i ((k, exchange) :: log) = own i log := by
  simp [own, other]

/-- A submit has asked a question. -/
def Asked (i : ι) (question : Ask) (log : Log ι) : Prop := ∃ exchange ∈ own i log, exchange.question = question

theorem asked_cons_self :
    Asked i question ((i, exchange) :: log) ↔ exchange.question = question ∨ Asked i question log := by
  simp only [Asked, own_cons_self, List.exists_mem_cons_iff]

theorem asked_cons_of_ne (other : k ≠ i) : Asked i question ((k, exchange) :: log) ↔ Asked i question log := by
  simp only [Asked, own_cons_of_ne other]

theorem mem_recordedFiles : path ∈ recordedFiles log ↔ ∃ i, Asked i (.markUploaded path) log := by
  have marks (entry : ι × Exchange Ask Answer) :
      recorded? entry = some path ↔ entry.2.question = .markUploaded path := by
    unfold recorded?
    split
    next asked => simp [asked]
    next other => exact iff_of_false (fun none_ => nomatch none_) (other path)
  simp only [recordedFiles, List.mem_filterMap, marks, Asked, own, List.mem_map, List.mem_filter, decide_eq_true_eq]
  constructor
  · rintro ⟨⟨i, exchange⟩, member, asked⟩
    exact ⟨i, exchange, ⟨_, ⟨member, rfl⟩, rfl⟩, asked⟩
  · rintro ⟨i, exchange, ⟨entry, ⟨member, -⟩, rfl⟩, asked⟩
    exact ⟨entry, member, asked⟩

/-- The latest exchange is the one in which a submit sends the contents of a file, right after it has read them. -/
inductive Uploads (c : Connection) (i : ι) (path : Path) (bytes : Bytes) (answer : Except TransportError Response) :
    Log ι → Prop where
  | intro {log url readAt cameAt askedAt comesAt earlier} (address : c.client.url "/upload/image" = .ok url)
      (contents : own i log = ⟨.read path, (.ok bytes : Except IoError Bytes), readAt, cameAt⟩ :: earlier) :
      Uploads c i path bytes answer ((i, ⟨.send (uploadRequest url path bytes), answer, askedAt, comesAt⟩) :: log)

theorem uploads_cons_cons {url : Url} {readAt cameAt askedAt comesAt : Nat}
    (address : c.client.url "/upload/image" = .ok url) :
    Uploads c i path bytes answer ((i, ⟨.send (uploadRequest url path bytes), answer, askedAt, comesAt⟩) ::
      (i, ⟨.read path, (.ok bytes : Except IoError Bytes), readAt, cameAt⟩) :: log) :=
  .intro address own_cons_self

/-- The service answers with success. -/
def Succeeds (answer : Except TransportError Response) : Prop :=
  ∃ response, answer = .ok response ∧ response.isSuccess = true

/-- A submit has sent a file, and the service has answered with success. -/
def HasUploaded (c : Connection) (i : ι) (path : Path) (log : Log ι) : Prop :=
  ∃ bytes answer first, first <:+ log ∧ Uploads c i path bytes answer first ∧ Succeeds answer

theorem HasUploaded.mono {later : Log ι} (uploaded : HasUploaded c i path log) (suffix : log <:+ later) :
    HasUploaded c i path later := by
  obtain ⟨bytes, answer, first, within, uploads, succeeds⟩ := uploaded
  exact ⟨bytes, answer, first, within.trans suffix, uploads, succeeds⟩

theorem hasUploaded_cons {entry : ι × Exchange Ask Answer} : HasUploaded c i path (entry :: log) ↔
    (∃ bytes answer, Uploads c i path bytes answer (entry :: log) ∧ Succeeds answer) ∨ HasUploaded c i path log := by
  constructor
  · rintro ⟨bytes, answer, first, within, uploads, succeeds⟩
    obtain rfl | within := List.suffix_cons_iff.mp within
    · exact .inl ⟨bytes, answer, uploads, succeeds⟩
    · exact .inr ⟨bytes, answer, first, within, uploads, succeeds⟩
  · rintro (⟨bytes, answer, uploads, succeeds⟩ | uploaded)
    · exact ⟨bytes, answer, _, List.suffix_rfl, uploads, succeeds⟩
    · exact uploaded.mono (List.suffix_cons ..)

theorem hasUploaded_cons_of_ne (other : k ≠ i) :
    HasUploaded c i path ((k, exchange) :: log) ↔ HasUploaded c i path log := by
  rw [hasUploaded_cons, or_iff_right]
  rintro ⟨bytes, answer, uploads, -⟩
  cases uploads
  exact other rfl

end Log

/-! ### Accounts -/

/-- An account of a submit in a phase. -/
structure Account (c : Connection) (job : ResolvedJob) (i : ι) (log : Log ι) (phase : Phase) : Prop where
  /-- The files that are still to be looked at are files of the job. -/
  remaining : phase.remaining ⊆ job.uploads
  /-- The files that it has read are files of the job. -/
  reads : ∀ path, Asked i (.read path) log → path ∈ job.uploads
  /-- What it is about to send is what it has just read. -/
  sends : ∀ path bytes url later, phase = .sends path bytes url later → ∃ readAt cameAt earlier,
    own i log = ⟨.read path, (.ok bytes : Except IoError Bytes), readAt, cameAt⟩ :: earlier
  /-- The files that are not to be looked at any more are recorded. -/
  settled : phase = .ended ∨ ∀ path ∈ job.uploads,
    path ∈ phase.remaining ∨ ∃ known ∈ recordedFiles log, known.sameAs path = true
  /-- It records only what it has uploaded. -/
  uploaded : ∀ path, (∃ later, phase = .records path later) ∨ Asked i (.markUploaded path) log →
    HasUploaded c i path log
  /-- It records what it has uploaded, unless it has failed. -/
  recorded : ∀ path, HasUploaded c i path log →
    Asked i (.markUploaded path) log ∨ (∃ later, phase = .records path later) ∨ phase = .ended
  /-- When it asked about the file that it tries to upload, that was not recorded, and it has not recorded it since. -/
  trying : ∀ path, phase.trying? = some path →
    (∃ askedAt comesAt before,
      (i, ⟨.isUploaded path, false, askedAt, comesAt⟩) :: before <:+ log ∧
        ∀ known ∈ recordedFiles before, known.sameAs path = false) ∧
      ∀ known, Asked i (.markUploaded known) log → known.sameAs path = false

namespace Account

variable {c : Connection} {job : ResolvedJob} {i k : ι} {log : Log ι} {phase phase' : Phase} {question : Ask}
  {answer : Answer question} {askedAt comesAt : Nat}

theorem begun (c : Connection) (job : ResolvedJob) (i : ι) : Account c job i [] (.ofFiles job.uploads) where
  remaining := by rw [Phase.remaining_ofFiles]; exact List.Subset.refl _
  reads := by
    rintro path ⟨exchange, member, -⟩
    cases member
  sends := by
    intro path bytes url later sends
    cases files : job.uploads <;> rw [files] at sends <;> cases sends
  settled := by
    rw [Phase.remaining_ofFiles]
    exact .inr fun path member => .inl member
  uploaded := by
    rintro path (⟨later, records⟩ | ⟨exchange, member, -⟩)
    · cases files : job.uploads <;> rw [files] at records <;> cases records
    · cases member
  recorded := by
    rintro path ⟨bytes, answer, first, within, uploads, -⟩
    cases List.suffix_nil.mp within
    cases uploads
  trying := by
    intro path trying
    rw [Phase.trying?_ofFiles] at trying
    cases trying

/-- The answer to one submit leaves the accounts of the others as they are. -/
theorem others (account : Account c job i log phase) (other : k ≠ i) (exchange : Exchange Ask Answer) :
    Account c job i ((k, exchange) :: log) phase where
  remaining := account.remaining
  reads := by
    intro path read
    exact account.reads path ((asked_cons_of_ne other).mp read)
  sends := by
    rw [own_cons_of_ne other]
    exact account.sends
  settled := account.settled.imp_right fun settled path member =>
    (settled path member).imp_right (exists_recordedFiles_cons _)
  uploaded := by
    intro path given
    rw [asked_cons_of_ne other] at given
    rw [hasUploaded_cons_of_ne other]
    exact account.uploaded path given
  recorded := by
    intro path uploaded
    rw [hasUploaded_cons_of_ne other] at uploaded
    rw [asked_cons_of_ne other]
    exact account.recorded path uploaded
  trying := by
    intro path trying
    obtain ⟨⟨askedAt, comesAt, before, suffix, new⟩, unrecorded⟩ := account.trying path trying
    refine ⟨⟨askedAt, comesAt, before, suffix.trans (List.suffix_cons ..), new⟩, ?_⟩
    intro known asked
    exact unrecorded known ((asked_cons_of_ne other).mp asked)

/-- An answer to a submit carries its account on. -/
theorem step (account : Account c job i log phase) (remembers : Remembers log question answer)
    (step : phase.Step c question answer phase') (askedAt comesAt : Nat) :
    Account c job i ((i, ⟨question, answer, askedAt, comesAt⟩) :: log) phase' where
  remaining := List.Subset.trans step.remaining_subset account.remaining
  reads := by
    intro path read
    obtain rfl | read := asked_cons_self.mp read
    · exact account.remaining step.mem_of_read
    · exact account.reads path read
  sends := by
    intro path bytes url later sends
    rw [own_cons_self, step.eq_of_sends sends askedAt comesAt]
    exact ⟨askedAt, comesAt, own i log, rfl⟩
  settled := by
    obtain ended | settles := step.settles remembers i askedAt comesAt
    · exact .inl ended
    · refine .inr fun path member => ?_
      obtain remains | known := account.settled.resolve_left step.ne_ended path member
      · exact settles path remains
      · exact .inr (exists_recordedFiles_cons _ known)
  uploaded := by
    rintro path (⟨later, records⟩ | asked)
    · obtain ⟨bytes, url, response, address, success, rfl, sent⟩ := step.eq_of_records records askedAt comesAt
      obtain ⟨readAt, cameAt, earlier, contents⟩ := account.sends path bytes url later rfl
      rw [sent]
      exact hasUploaded_cons.mpr (.inl ⟨bytes, _, .intro address contents, response, rfl, success⟩)
    · refine HasUploaded.mono ?_ (List.suffix_cons ..)
      obtain rfl | asked := asked_cons_self.mp asked
      · exact account.uploaded path (.inl step.eq_of_markUploaded)
      · exact account.uploaded path (.inr asked)
  recorded := by
    intro path uploaded
    obtain ⟨bytes, _, uploads, response, rfl, success⟩ | uploaded := hasUploaded_cons.mp uploaded
    · cases uploads with
      | intro address contents =>
          obtain ⟨path', bytes', url', later, sends, outcome⟩ := step.eq_of_success askedAt comesAt rfl success
          obtain ⟨readAt, cameAt, earlier, also⟩ := account.sends _ _ _ _ sends
          cases contents.symm.trans also
          exact .inr (outcome.imp_left fun records => ⟨later, records⟩)
    · left
      obtain asked | ⟨later, rfl⟩ | ended := account.recorded path uploaded
      · exact asked_cons_self.mpr (.inr asked)
      · exact asked_cons_self.mpr (.inl step.markUploaded_of_records)
      · exact absurd ended step.ne_ended
  trying := by
    intro path trying
    obtain same | ⟨trying, other⟩ := step.eq_of_trying? trying askedAt comesAt
    · cases same
      have new : ∀ known ∈ recordedFiles log, known.sameAs path = false := by
        simpa using List.any_eq_false.mp remembers
      refine ⟨⟨askedAt, comesAt, log, List.suffix_rfl, new⟩, ?_⟩
      intro known asked
      obtain other | asked := asked_cons_self.mp asked
      · cases other
      · exact new known (mem_recordedFiles.mpr ⟨i, asked⟩)
    · obtain ⟨⟨checkedAt, toldAt, before, suffix, new⟩, unrecorded⟩ := account.trying path trying
      refine ⟨⟨checkedAt, toldAt, before, suffix.trans (List.suffix_cons ..), new⟩, ?_⟩
      intro known asked
      obtain asked | asked := asked_cons_self.mp asked
      · exact absurd asked (other known)
      · exact unrecorded known asked

end Account

/-! ### Traffic -/

namespace Traffic

variable {c : Connection} {jobs : ι → ResolvedJob} {log : Log ι} {rest : ι → Work (Except BackendError String)}

/-- Every submit is in some phase, and has an account. -/
theorem accounts (traffic : Traffic c jobs log rest) (i : ι) :
    ∃ phase, Submits c (jobs i) phase (rest i) ∧ Account c (jobs i) i log phase := by
  induction traffic with
  | begun => exact ⟨_, .begun c rfl, .begun c (jobs i) i⟩
  | @answers log rest question next before k asks answer remembers askedAt comesAt ih =>
      obtain ⟨phase, submits, account⟩ := ih
      by_cases same : k = i
      · subst same
        obtain ⟨phase', step, goesOn⟩ := submits.asks asks answer
        rw [Function.update_self]
        exact ⟨phase', goesOn, account.step remembers step askedAt comesAt⟩
      · rw [Function.update_of_ne (Ne.symm same)]
        exact ⟨phase, submits, account.others same _⟩

/-- What has been exchanged so far was so once. -/
theorem exists_of_suffix {earlier : Log ι} (traffic : Traffic c jobs log rest) (suffix : earlier <:+ log) :
    ∃ rest, Traffic c jobs earlier rest := by
  induction traffic with
  | begun =>
      obtain rfl := List.suffix_nil.mp suffix
      exact ⟨_, .begun⟩
  | answers before i asks answer remembers askedAt comesAt ih =>
      obtain rfl | suffix := List.suffix_cons_iff.mp suffix
      · exact ⟨_, before.answers i asks answer remembers askedAt comesAt⟩
      · exact ih suffix

/-- A submit may be answered the question of its phase. -/
theorem exists_answers (traffic : Traffic c jobs log rest) {i : ι} {phase : Phase} {question : Ask}
    (submits : Submits c (jobs i) phase (rest i)) (asks : phase.question? = some question) (answer : Answer question)
    (remembers : Remembers log question answer) :
    ∃ phase' rest', phase.Step c question answer phase' ∧ Submits c (jobs i) phase' (rest' i) ∧
      (∀ k, k ≠ i → rest' k = rest k) ∧ Traffic c jobs ((i, ⟨question, answer, 0, 0⟩) :: log) rest' := by
  obtain ⟨next, left⟩ := submits.exists_asks asks
  obtain ⟨phase', step, goesOn⟩ := submits.asks left answer
  refine ⟨phase', _, step, ?_, ?_, traffic.answers i left answer remembers 0 0⟩
  · rw [Function.update_self]
    exact goesOn
  · intro k other
    exact Function.update_of_ne other ..

/-- A file that is not recorded is to be read. -/
theorem exists_unknown (traffic : Traffic c jobs log rest) {i : ι} {path : Path} {later : List Path}
    (submits : Submits c (jobs i) (.checks path later) (rest i))
    (new : (recordedFiles log).any (·.sameAs path) = false) :
    ∃ rest', Submits c (jobs i) (.reads path later) (rest' i) ∧ (∀ k, k ≠ i → rest' k = rest k) ∧
      Traffic c jobs ((i, ⟨.isUploaded path, false, 0, 0⟩) :: log) rest' := by
  obtain ⟨phase', rest', step, goesOn, others, traffic⟩ := traffic.exists_answers submits rfl false new
  cases step
  exact ⟨rest', goesOn, others, traffic⟩

/-- A file that can be read and sent is uploaded, if the service answers as it should. -/
theorem exists_uploads (traffic : Traffic c jobs log rest) {i : ι} {path : Path} {later : List Path} {url : Url}
    {response : Response} {name : String} (submits : Submits c (jobs i) (.reads path later) (rest i))
    (address : c.client.url "/upload/image" = .ok url) (askable : url.isAskable = true)
    (success : response.isSuccess = true) (readable : Document.read? asUpload response.body = some name)
    (bytes : Bytes) :
    ∃ rest', Submits c (jobs i) (.records path later) (rest' i) ∧ (∀ k, k ≠ i → rest' k = rest k) ∧
      Traffic c jobs (
        (i, ⟨.send (uploadRequest url path bytes), (.ok response : Except TransportError Response), 0, 0⟩) ::
          (i, ⟨.read path, (.ok bytes : Except IoError Bytes), 0, 0⟩) :: log) rest' := by
  obtain ⟨phase, reading, step, goesOn, others, traffic⟩ :=
    traffic.exists_answers submits rfl (.ok bytes : Except IoError Bytes) trivial
  cases step with
  | unread unsent =>
      cases askable.symm.trans (unsent bytes url rfl address)
  | read also =>
      cases address.symm.trans also
      obtain ⟨phase, sending, step, sent, others', traffic⟩ :=
        traffic.exists_answers goesOn rfl (.ok response : Except TransportError Response) trivial
      refine ⟨sending, ?_, fun k other => (others' k other).trans (others k other), traffic⟩
      cases step with
      | taken => exact sent
      | refused refused => cases success.symm.trans (refused response rfl)
      | lost _ unreadable => cases readable.symm.trans unreadable

/-- A submit asks about a file, reads it, sends it, and has it recorded. -/
def settling (i : ι) (path : Path) (bytes : Bytes) (url : Url) (response : Response) (log : Log ι) : Log ι :=
  (i, ⟨.markUploaded path, (), 0, 0⟩) ::
    (i, ⟨.send (uploadRequest url path bytes), (.ok response : Except TransportError Response), 0, 0⟩) ::
    (i, ⟨.read path, (.ok bytes : Except IoError Bytes), 0, 0⟩) :: (i, ⟨.isUploaded path, false, 0, 0⟩) :: log

/-- A file that is not recorded is settled, if all goes well. -/
theorem exists_settles (traffic : Traffic c jobs log rest) {i : ι} {path : Path} {later : List Path} {url : Url}
    {response : Response} {name : String} (submits : Submits c (jobs i) (.checks path later) (rest i))
    (new : (recordedFiles log).any (·.sameAs path) = false) (address : c.client.url "/upload/image" = .ok url)
    (askable : url.isAskable = true) (success : response.isSuccess = true)
    (readable : Document.read? asUpload response.body = some name) (bytes : Bytes) :
    ∃ rest', Submits c (jobs i) (.ofFiles later) (rest' i) ∧ (∀ k, k ≠ i → rest' k = rest k) ∧
      Traffic c jobs (settling i path bytes url response log) rest' := by
  obtain ⟨asked, reads, others, traffic⟩ := traffic.exists_unknown submits new
  obtain ⟨sent, records, others', traffic⟩ := traffic.exists_uploads reads address askable success readable bytes
  obtain ⟨phase, rest', step, goesOn, others'', traffic⟩ := traffic.exists_answers records rfl () trivial
  cases step
  refine ⟨rest', goesOn, ?_, traffic⟩
  intro k other
  exact (others'' k other).trans ((others' k other).trans (others k other))

/-- A submit whose files are there posts its graph. -/
theorem exists_posts (traffic : Traffic c jobs log rest) {i : ι} {url : Url}
    (submits : Submits c (jobs i) .names (rest i)) (address : c.client.url "/prompt" = .ok url)
    (askable : url.isAskable = true) :
    ∃ rest' body next, rest' i = .ask (.send ⟨.post, url, .json body⟩) next ∧
      Traffic c jobs ((i, ⟨.newClientId, "", 0, 0⟩) :: log) rest' := by
  generalize left : rest i = work at submits
  cases submits
  obtain ⟨body, next, posts⟩ := Connection.exists_handOverAs_eq address askable (jobs i) ""
  refine ⟨_, body, next, ?_, traffic.answers i left "" trivial 0 0⟩
  rw [Function.update_self]
  exact posts

end Traffic

end ImageBatch.Server
