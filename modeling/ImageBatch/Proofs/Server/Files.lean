import ImageBatch.Proofs.Backend.Asking
import ImageBatch.Proofs.Server.Answers

/-!
The files of a submit.

Of the exchanges of a submit some record a file (`gained`), and some, two by two, deliver one: its contents are read,
sent, and taken by the service (`Delivered`). An account of some exchanges (`Deals`) says which files they record and
which they deliver, and accounts of exchanges that follow one another are put together (`Deals.append`). So an attempt
delivers its file if it succeeds (`Deals.of_tryUpload`), the file is recorded then (`Deals.of_uploadOnce`), and when the
files have been looked at in turn, those are recorded that were delivered, and each file is there unless one of them
failed (`Deals.of_uploadAll`).
-/

namespace ImageBatch.Server

/-- The exchanges of a submit, the latest of them first. -/
abbrev Talk := List (Exchange Ask Answer)

/-- The file that an exchange has recorded. -/
def marked? (exchange : Exchange Ask Answer) : Option Path :=
  match exchange.question with
  | .markUploaded path => some path
  | _ => none

/-- The files that are recorded, the latest of them first. -/
def gained (log : Talk) : List Path := log.filterMap marked?

/-- A file is one of some files. -/
def Among (files : List Path) (path : Path) : Prop := ∃ known ∈ files, known.sameAs path = true

/-- A question about a file is answered by which files are recorded. -/
def ToldBy (recorded : List Path) : (question : Ask) → Answer question → Prop
  | .isUploaded path, told => recorded.any (·.sameAs path) = told
  | _, _ => True

/-- Recorded are the files that were known before and those that have been recorded since. -/
def Recalls (known : List Path) : Talk → Prop
  | [] => True
  | ⟨question, answer, _, _⟩ :: earlier => ToldBy (gained earlier ++ known) question answer ∧ Recalls known earlier

/-- The contents of a file are read and sent, and the service says under which name it keeps them. -/
def Delivered (c : Connection) (path : Path) (log : Talk) : Prop :=
  ∃ bytes url response name readAt cameAt sentAt answeredAt, c.client.url "/upload/image" = .ok url ∧
    response.isSuccess = true ∧ Document.read? asUpload response.body = some name ∧
    [⟨.send (uploadRequest url path bytes), (.ok response : Except TransportError Response), sentAt, answeredAt⟩,
      ⟨.read path, (.ok bytes : Except IoError Bytes), readAt, cameAt⟩] <:+: log

section Talk

variable {c : Connection} {earlier later log : Talk} {known files : List Path} {path : Path}

theorem gained_append : gained (later ++ earlier) = gained later ++ gained earlier :=
  List.filterMap_append ..

theorem Among.of_mem (member : path ∈ files) : Among files path := ⟨path, member, beq_self_eq_true _⟩

theorem Among.mono {more : List Path} (among : Among files path) (sub : files ⊆ more) : Among more path := by
  obtain ⟨known, member, same⟩ := among
  exact ⟨known, sub member, same⟩

theorem recalls_append :
    Recalls known (later ++ earlier) ↔ Recalls known earlier ∧ Recalls (gained earlier ++ known) later := by
  induction later with
  | nil => simp [Recalls]
  | cons exchange later ih =>
      simp only [List.cons_append, Recalls, ih, gained_append, List.append_assoc]
      exact and_left_comm

theorem Delivered.mono (delivered : Delivered c path log) {more : Talk} (part : log <:+: more) :
    Delivered c path more := by
  obtain ⟨bytes, url, response, name, readAt, cameAt, sentAt, answeredAt, address, success, readable, pair⟩ := delivered
  exact ⟨bytes, url, response, name, readAt, cameAt, sentAt, answeredAt, address, success, readable, pair.trans part⟩

/-- Two neighbours in a list are neighbours in one of its parts, or the first of them ends a part. -/
theorem pair_infix_append {α : Type} {a b : α} {xs ys : List α} (pair : [a, b] <:+: xs ++ ys) :
    xs.getLast? = some a ∨ [a, b] <:+: xs ∨ [a, b] <:+: ys := by
  induction xs with
  | nil => exact .inr (.inr pair)
  | cons x xs ih =>
      obtain first | further := List.infix_cons_iff.mp pair
      · obtain ⟨rfl, second⟩ := List.cons_prefix_cons.mp first
        cases xs with
        | nil => exact .inl rfl
        | cons y xs =>
            obtain ⟨rfl, -⟩ := List.cons_prefix_cons.mp second
            exact .inr (.inl (List.IsPrefix.isInfix (List.prefix_append ..)))
      · rcases ih further with last | within | within
        · refine .inl ?_
          rw [List.getLast?_cons, last]
          rfl
        · exact .inr (.inl (List.infix_cons within))
        · exact .inr (.inr within)

/-- A file is not sent in the first exchange. -/
def SendsLater (log : Talk) : Prop :=
  ∀ exchange, log.getLast? = some exchange → ∀ url path bytes, exchange.question ≠ .send (uploadRequest url path bytes)

theorem delivered_append (opens : SendsLater later) :
    Delivered c path (later ++ earlier) ↔ Delivered c path later ∨ Delivered c path earlier := by
  constructor
  · rintro ⟨bytes, url, response, name, readAt, cameAt, sentAt, answeredAt, address, success, readable, pair⟩
    rcases pair_infix_append pair with last | within | within
    · cases opens _ last _ _ _ rfl
    · exact .inl ⟨bytes, url, response, name, readAt, cameAt, sentAt, answeredAt, address, success, readable, within⟩
    · exact .inr ⟨bytes, url, response, name, readAt, cameAt, sentAt, answeredAt, address, success, readable, within⟩
  · rintro (delivered | delivered)
    · exact delivered.mono (List.prefix_append ..).isInfix
    · exact delivered.mono (List.suffix_append ..).isInfix

end Talk

/-- Which files some exchanges record and which they deliver. -/
structure Deals (c : Connection) (log : Talk) (marks sent : List Path) : Prop where
  opens : SendsLater log
  gained_eq : gained log = marks
  delivered : ∀ path, Delivered c path log ↔ path ∈ sent

/-- The file of an attempt that succeeds. -/
def sentBy {α : Type} (path : Path) : Except BackendError α → List Path
  | .ok _ => [path]
  | .error _ => []

theorem mem_sentBy {α : Type} {path other : Path} {result : Except BackendError α} :
    other ∈ sentBy path result ↔ other = path ∧ ∃ value, result = .ok value := by
  cases result <;> simp [sentBy]

/-- An attempt at a file reads it and sends what it has read. -/
theorem operation_upload_eq (client : Client) (path : Path) :
    operation (client.upload path) = .ask (.read path) fun
      | .error e => .done (.error (CallError.upload path e).toBackend)
      | .ok bytes =>
        operation (Client.parsed asUpload (Client.exchange .post (client.url "/upload/image")
          (uploadForm path bytes))) := by
  refine congrArg (Task.ask (Ask.read path)) (funext fun answer => ?_)
  cases answer <;> rfl

namespace Deals

variable {c : Connection} {earlier later log : Talk} {marks marks' sent sent' files : List Path} {path : Path}

theorem nil : Deals c [] [] [] where
  opens := by
    rintro exchange ⟨⟩
  gained_eq := rfl
  delivered path := by
    apply iff_of_false
    · rintro ⟨_, _, _, _, _, _, _, _, -, -, -, pair⟩
      simpa using pair.length_le
    · exact List.not_mem_nil

/-- What comes first and what comes later. -/
theorem append (second : Deals c later marks' sent') (first : Deals c earlier marks sent) :
    Deals c (later ++ earlier) (marks' ++ marks) (sent' ++ sent) where
  opens := by
    intro exchange last
    rw [List.getLast?_append] at last
    cases given : earlier.getLast? with
    | none =>
        rw [given] at last
        exact second.opens exchange last
    | some opening =>
        rw [given] at last
        obtain rfl : opening = exchange := Option.some.inj last
        exact first.opens opening given
  gained_eq := by rw [gained_append, second.gained_eq, first.gained_eq]
  delivered path := by rw [delivered_append second.opens, second.delivered, first.delivered, List.mem_append]

/-- An exchange that sends nothing. -/
theorem single {exchange : Exchange Ask Answer} (unsent : ∀ request, exchange.question ≠ .send request) :
    Deals c [exchange] (gained [exchange]) [] where
  opens := by
    rintro _ ⟨⟩ url path bytes
    exact unsent _
  gained_eq := rfl
  delivered path := by
    apply iff_of_false
    · rintro ⟨_, _, _, _, _, _, _, _, -, -, -, pair⟩
      simpa using pair.length_le
    · exact List.not_mem_nil

/-- To wait is to send nothing. -/
theorem paused {delay : Nat} {answer : Unit} {askedAt comesAt : Nat} :
    Deals c [⟨.pause delay, answer, askedAt, comesAt⟩] [] [] := by
  apply single
  rintro request ⟨⟩

/-- A file that is read and sent is delivered if the service says under which name it keeps it. -/
theorem pair {bytes : Bytes} {url : Url} {answer : Except TransportError Response}
    {readAt cameAt sentAt answeredAt : Nat} (address : c.client.url "/upload/image" = .ok url) :
    Deals c [⟨.send (uploadRequest url path bytes), answer, sentAt, answeredAt⟩,
      ⟨.read path, (.ok bytes : Except IoError Bytes), readAt, cameAt⟩] []
      (sentBy path (resultOf asUpload answer)) where
  opens := by
    rintro _ ⟨⟩ _ _ _ ⟨⟩
  gained_eq := rfl
  delivered other := by
    rw [mem_sentBy]
    constructor
    · rintro ⟨_, _, response, name, _, _, _, _, also, success, readable, whole⟩
      obtain ⟨sent, read⟩ := List.cons.inj (whole.eq_of_length rfl)
      cases read
      cases address.symm.trans also
      cases sent
      exact ⟨rfl, name, resultOf_eq_ok.mpr ⟨response, rfl, success, readable⟩⟩
    · rintro ⟨rfl, name, taken⟩
      obtain ⟨response, rfl, success, readable⟩ := resultOf_eq_ok.mp taken
      exact ⟨bytes, url, response, name, _, _, _, _, address, success, readable, List.infix_rfl⟩

/-- An attempt at a file delivers it if it succeeds. -/
theorem of_upload {result : Except BackendError String}
    (yields : (operation (c.client.upload path)).Yields log result) : Deals c log [] (sentBy path result) := by
  rw [operation_upload_eq] at yields
  obtain ⟨contents, readAt, cameAt, further, rfl, sends⟩ := Task.Yields.of_ask yields
  have read : Deals c [⟨.read path, contents, readAt, cameAt⟩] [] [] := single nofun
  cases contents with
  | error e =>
      obtain ⟨rfl, rfl⟩ := Task.yields_done sends
      exact read
  | ok bytes =>
      change (operation _).Yields further result at sends
      rcases c.client.call_cases "/upload/image" .post (uploadForm path bytes) asUpload with
        ⟨e, -, done⟩ | ⟨url, address, asks⟩
      · rw [done] at sends
        obtain ⟨rfl, rfl⟩ := Task.yields_done sends
        exact read
      · rw [asks] at sends
        obtain ⟨answer, sentAt, answeredAt, _, rfl, ended⟩ := Task.Yields.of_ask sends
        obtain ⟨rfl, rfl⟩ := Task.yields_done ended
        exact pair address

/-- Of all attempts at a file the last one delivers it, if that succeeds. -/
theorem of_tryUpload {attempt delay left : Nat} {result : Except BackendError String}
    (yields : (c.tryUpload path attempt delay left).Yields log result) : Deals c log [] (sentBy path result) := by
  induction left using Nat.strong_induction_on generalizing attempt delay log with
  | _ left ih =>
      rw [Connection.tryUpload, Task.retryFrom_eq_bind] at yields
      obtain ⟨outcome, earlier, later, rfl, tried, ended⟩ := Task.Yields.of_bind yields
      have first := of_upload tried
      rcases Task.After.of_afterTry ended with ⟨rfl, _, ⟨⟩, same⟩ | ⟨e, more, rfl, -, rfl, waits⟩
      · rw [List.nil_append]
        refine ⟨first.opens, first.gained_eq, ?_⟩
        intro other
        rw [first.delivered]
        simp only [mem_sentBy, same]
      · obtain ⟨answer, askedAt, comesAt, again, rfl, retried⟩ := Task.Yields.of_ask waits
        simpa [sentBy] using ((ih more (Nat.lt_succ_self more) retried).append paused).append first

/-- A file that is taken care of is recorded if it is delivered, and it is there then. -/
theorem of_uploadOnce {result : Except BackendError Unit} (yields : (c.uploadOnce path).Yields log result) :
    ∃ paths, Deals c log paths paths ∧
      (result = .ok () → ∀ known, Recalls known log → Among (gained log ++ known) path) := by
  rw [Connection.uploadOnce_eq] at yields
  obtain ⟨told, askedAt, comesAt, further, rfl, goesOn⟩ := Task.Yields.of_ask yields
  have asked : Deals c [⟨.isUploaded path, told, askedAt, comesAt⟩] [] [] := single nofun
  cases told with
  | true =>
      obtain ⟨rfl, rfl⟩ := Task.yields_done goesOn
      refine ⟨[], asked, ?_⟩
      intro _ known recalls
      exact List.any_eq_true.mp recalls.1
  | false =>
      obtain ⟨outcome, earlier, later, rfl, tried, ended⟩ := Task.Yields.of_bind goesOn
      have attempts := (of_tryUpload tried).append asked
      cases outcome with
      | error e =>
          obtain ⟨rfl, rfl⟩ := Task.yields_done ended
          exact ⟨[], attempts, nofun⟩
      | ok name =>
          obtain ⟨answer, markedAt, doneAt, _, rfl, recorded⟩ := Task.Yields.of_ask ended
          obtain ⟨rfl, rfl⟩ := Task.yields_done recorded
          have marked : Deals c [⟨.markUploaded path, answer, markedAt, doneAt⟩] [path] [] := single nofun
          refine ⟨[path], ?_, ?_⟩
          · simpa [sentBy] using marked.append attempts
          · intro _ known _
            exact .of_mem List.mem_cons_self

/-- Files that are looked at in turn are recorded if they are delivered, and they are there if none fails. -/
theorem of_uploadAll {result : Except BackendError Unit} (yields : (c.uploadAll files).Yields log result) :
    ∃ paths, Deals c log paths paths ∧
      (result = .ok () → ∀ known, Recalls known log → ∀ path ∈ files, Among (gained log ++ known) path) := by
  induction files generalizing log with
  | nil =>
      obtain ⟨rfl, rfl⟩ := Task.yields_done yields
      exact ⟨[], nil, fun _ _ _ _ => nofun⟩
  | cons path more ih =>
      rw [Connection.uploadAll_cons] at yields
      obtain ⟨outcome, earlier, later, rfl, first, goesOn⟩ := Task.Yields.of_bind yields
      obtain ⟨paths, deals, there⟩ := of_uploadOnce first
      cases outcome with
      | error e =>
          obtain ⟨rfl, rfl⟩ := Task.yields_done goesOn
          exact ⟨paths, deals, nofun⟩
      | ok _ =>
          obtain ⟨others, rest, found⟩ := ih goesOn
          refine ⟨others ++ paths, rest.append deals, ?_⟩
          intro success known recalls
          obtain ⟨recalled, further⟩ := recalls_append.mp recalls
          rw [List.forall_mem_cons, gained_append, List.append_assoc]
          constructor
          · exact (there rfl known recalled).mono (List.subset_append_right ..)
          · exact found success _ further

theorem delivered_of_gained (deals : Deals c log marks marks) : ∀ path ∈ gained log, Delivered c path log := by
  intro path member
  rw [deals.gained_eq] at member
  exact (deals.delivered path).mpr member

end Deals

/-! ### While the files are being looked at -/

section Pending

variable {c : Connection} {path : Path} {files : List Path} {log : Talk} {question : Ask}

/-- The attempts at a file read it, send what they have read, and wait. -/
theorem onlyAsks_tryUpload {allowed : Ask → Prop} (reads : allowed (.read path))
    (pauses : ∀ length, allowed (.pause length))
    (sends : ∀ url bytes, c.client.url "/upload/image" = .ok url → allowed (.send (uploadRequest url path bytes)))
    (attempt delay left : Nat) : (c.tryUpload path attempt delay left).OnlyAsks allowed := by
  have waits (length : Nat) : (pause length).OnlyAsks allowed := ⟨pauses length, fun _ => trivial⟩
  have attempts : (operation (c.client.upload path)).OnlyAsks allowed := by
    rw [operation_upload_eq]
    constructor
    · exact reads
    intro contents
    cases contents with
    | error e => trivial
    | ok bytes =>
        change (operation _).OnlyAsks allowed
        rcases c.client.call_cases "/upload/image" .post (uploadForm path bytes) asUpload with
          ⟨e, -, done⟩ | ⟨url, address, asks⟩
        · rw [done]
          trivial
        · rw [asks]
          exact ⟨sends url bytes address, fun _ => trivial⟩
  exact Task.OnlyAsks.retryFrom waits attempts attempt delay left

/-- A question that has nothing recorded. -/
def MarksNothing (question : Ask) : Prop := ∀ path, question ≠ .markUploaded path

theorem gained_eq_nil (silent : ∀ exchange ∈ log, MarksNothing exchange.question) : gained log = [] := by
  apply List.filterMap_eq_nil_iff.mpr
  intro exchange member
  unfold marked?
  split
  next path asked => exact absurd asked (silent exchange member path)
  next => rfl

/-- As long as a file is being taken care of nothing is recorded. -/
theorem gained_eq_nil_of_uploadOnce {next : Answer question → Work (Except BackendError Unit)}
    (left : (c.uploadOnce path).After log (.ask question next)) : gained log = [] := by
  rw [Connection.uploadOnce_eq] at left
  rcases Task.After.of_ask left with ⟨rfl, -⟩ | ⟨told, askedAt, comesAt, more, rfl, goesOn⟩
  · rfl
  rw [gained_append, List.append_eq_nil_iff]
  refine ⟨?_, rfl⟩
  cases told with
  | true => cases (Task.after_done goesOn).2
  | false =>
      rcases Task.After.of_bind_asking goesOn with ⟨_, _, busy, -⟩ | ⟨outcome, earlier, later, rfl, tried, ended⟩
      · have silent (attempt delay left : Nat) : (c.tryUpload path attempt delay left).OnlyAsks MarksNothing :=
          onlyAsks_tryUpload nofun (fun _ => nofun) (fun _ _ _ => nofun) attempt delay left
        exact gained_eq_nil (Task.OnlyAsks.of_after (silent ..) busy).1
      · rw [gained_append, (Deals.of_tryUpload tried).gained_eq, List.append_nil]
        cases outcome with
        | error e => cases (Task.after_done ended).2
        | ok name =>
            rcases Task.After.of_ask ended with ⟨rfl, -⟩ | ⟨_, _, _, _, rfl, done⟩
            · rfl
            · cases (Task.after_done done).2

/-- What is recorded has been delivered. -/
theorem delivered_of_uploadAll {rest : Work (Except BackendError Unit)} (left : (c.uploadAll files).After log rest) :
    ∀ path ∈ gained log, Delivered c path log := by
  induction files generalizing log with
  | nil =>
      obtain ⟨rfl, -⟩ := Task.after_done left
      exact fun _ => nofun
  | cons first more ih =>
      rw [Connection.uploadAll_cons] at left
      rcases Task.After.of_bind_asking left with ⟨_, _, busy, -⟩ | ⟨outcome, earlier, later, rfl, done, goesOn⟩
      · rw [gained_eq_nil_of_uploadOnce busy]
        exact fun _ => nofun
      · obtain ⟨paths, deals, -⟩ := Deals.of_uploadOnce done
        cases outcome with
        | error e =>
            obtain ⟨rfl, -⟩ := Task.after_done goesOn
            exact deals.delivered_of_gained
        | ok _ =>
            intro path member
            rw [gained_append] at member
            rcases List.mem_append.mp member with new | old
            · exact (ih goesOn path new).mono (List.prefix_append ..).isInfix
            · exact (deals.delivered_of_gained path old).mono (List.suffix_append ..).isInfix

end Pending

end ImageBatch.Server
