import ImageBatch.Proofs.Tracker.Tale

/-!
Why jobs end.

A job ends in a run because it could not be built, because its submit failed, because an observation showed it at its
end, or because its deadline came. `Cause.Grounds` says for each cause what was told of the job just before: the
exchanges of its own submit, or of its own observation under the id which the service gave for this key, and nothing of
any other job. What was told leaves one verdict (`Cause.Grounds.verdict_unique`). `View.Told` is what the tale of a job
has to do with its view, and whatever happens to the job keeps it (`Move.told`). So each outcome of a run has its cause,
and the record says so (`Setting.Recounts.outcomes_grounded`).
-/

namespace ImageBatch

/-- The status of a job that ended without a result. -/
def FailureKind.status : FailureKind → JobStatus
  | .deadline | .retriesExhausted => .timedOut
  | .construction | .backendRejected | .backendRuntime | .resultUnreadable | .collection => .failed

namespace Tracker

/-- Why a job came to its end. -/
inductive Cause where
  /-- It could not be built. -/
  | unresolved (e : ConstructionError)
  /-- Its submit failed. -/
  | refused (e : BackendError)
  /-- The answer to a poll for the id. -/
  | seen (jobId : String) (answer : Except BackendError BackendStatus)
  /-- The answer to a look at the output of the id, which a poll found done. -/
  | fetched (jobId : String) (answer : Except BackendError ResultReference)
  /-- Its deadline came. -/
  | overdue (jobId : String)

namespace Cause

/-- What a cause makes of the job. -/
def verdict : Cause → Except FailureKind ResultReference
  | .unresolved _ => .error .construction
  | .refused (.rejected _) => .error .backendRejected
  | .refused (.unavailable _) | .refused (.retriesExhausted ..) => .error .retriesExhausted
  | .refused (.protocol _) | .refused (.localFile ..) => .error .backendRuntime
  | .seen _ (.error (.unavailable _)) | .seen _ (.error (.retriesExhausted ..)) => .error .retriesExhausted
  | .seen _ _ => .error .backendRuntime
  | .fetched _ (.ok reference) => .ok reference
  | .fetched _ (.error _) => .error .resultUnreadable
  | .overdue _ => .error .deadline

/-- The id under which the service has the job, if it has come to have it. -/
def jobId? : Cause → Option String
  | .unresolved _ | .refused _ => none
  | .seen jobId _ | .fetched jobId _ | .overdue jobId => some jobId

end Cause

end Tracker

namespace JobRecord

/-- The record says that the job ended so. -/
def EndedWith (record : JobRecord) : Except FailureKind ResultReference → Prop
  | .ok reference => record.status = .succeeded ∧ record.result = some reference ∧ record.error = none
  | .error kind => record.status = kind.status ∧ record.result = none ∧ record.error.map (·.kind) = some kind

/-- The record says that the job ended by the cause, and has the id under which the service has the job. -/
structure EndsBy (record : JobRecord) (cause : Tracker.Cause) : Prop where
  verdict : record.EndedWith cause.verdict
  named : ∀ jobId, cause.jobId? = some jobId → record.jobId = some jobId

end JobRecord

namespace Tracker

/-- A run builds the job of such a record itself. -/
def Run.Builds (config : Config) (found : JobRecord) : Prop := found.status = .pending ∨ needsReset config found = true

variable {Ask : Type} {Answer : Ask → Type} {σ : Type}

section

variable (setting : Setting Ask Answer σ) (store : BatchStore) (world : World σ) (key : String)

/-- The job of the key was built from its features, its submit began, and these are the exchanges since. -/
inductive Submitting : (warnings : List String) → ResolvedJob → List (Tiding Ask Answer) →
    List (Exchange Ask Answer) → Prop where
  | begun {began features warnings job} (known : setting.batch.features? key = some features)
      (resolved : setting.batch.template.resolve features = .ok job) (warns : warnings = Run.warnings features job) :
      Submitting warnings job [.noted (began, .began (.submitting key warnings job))] []
  | answered {warnings job tale exchanges} (before : Submitting warnings job tale exchanges)
      (exchange : Exchange Ask Answer) :
      Submitting warnings job (.exchanged key exchange :: tale) (exchange :: exchanges)

/-- The service has the job of the key under the id, and its deadline is this: it was handed over so before, or its
submit was answered with the id. -/
inductive Tracked : List (Tiding Ask Answer) → (jobId : String) → (deadline : Nat) → Prop where
  | adopted {jobId job} (handedOver : (store.recordOf key).status.isHandedOver = true)
      (named : (store.recordOf key).jobId = some jobId)
      (adopted : Run.adopt setting.config world.now (setting.clock.at world.now) (store.recordOf key) jobId = .ok job) :
      Tracked [] jobId job.deadline
  | submitted {tale warnings job exchanges jobId acknowledged}
      (submitting : Submitting setting key warnings job tale exchanges)
      (answered : (setting.backend.submit job).Yields exchanges (.ok jobId)) :
      Tracked
        (.noted (acknowledged, .applied key (.submitted jobId warnings)) ::
          .noted (acknowledged, .concluded (.submitted key warnings (.ok jobId))) :: tale)
        jobId (acknowledged + setting.config.maxJobDuration)
  | still {tale jobId deadline} (before : Tracked tale jobId deadline) (tiding : Tiding Ask Answer) :
      Tracked (tiding :: tale) jobId deadline

/-- An observation of a tracked job began before its deadline, and these are the exchanges since. -/
inductive Observing (job : InFlight) : List (Tiding Ask Answer) → List (Exchange Ask Answer) → Prop where
  | begun {began tale} (tracked : Tracked setting store world key tale job.jobId job.deadline)
      (early : began < job.deadline) : Observing job (.noted (began, .began (.observing job)) :: tale) []
  | answered {tale exchanges} (before : Observing job tale exchanges) (exchange : Exchange Ask Answer) :
      Observing job (.exchanged key exchange :: tale) (exchange :: exchanges)

/-- No operation is under way: nothing was told yet, or an event was taken last. -/
def Idle : List (Tiding Ask Answer) → Prop
  | [] => True
  | tiding :: _ => ∃ t event, tiding = .noted (t, .applied key event)

/-- The answers of an observation have come by an instant. In a run that wakes on time this is no later than at the tick
of the deadline. -/
structure Heard (job : InFlight) (t : Nat) (exchanges : List (Exchange Ask Answer)) : Prop where
  came : ∀ exchange ∈ exchanges.head?, exchange.comesAt ≤ t
  timely : setting.punctual = true → t ≤ Instant.nextTick job.deadline

/-- The exchanges of an observation by an instant let the job end. -/
inductive Cause.Observed (job : InFlight) (t : Nat) : Cause → List (Exchange Ask Answer) → Prop where
  | seen {exchanges answer result} (answered : (setting.backend.poll job.jobId).Yields exchanges answer)
      (shown : shownBy answer = some result) (ended : result.isOpen = false) (heard : Heard setting job t exchanges) :
      Observed job t (.seen job.jobId answer) exchanges
  | fetched {earlier later answer} (polled : (setting.backend.poll job.jobId).Yields earlier (.ok .done))
      (answered : (setting.backend.fetchResult job.jobId).Yields later answer)
      (heard : Heard setting job t (later ++ earlier)) : Observed job t (.fetched job.jobId answer) (later ++ earlier)
  /-- The deadline came before the answer. -/
  | brokenOff {exchange earlier} (due : job.deadline ≤ t) (waits : t < exchange.comesAt) :
      Observed job t (.overdue job.jobId) (exchange :: earlier)

/-- All that was told of the job of the key by an instant is a cause for its end. -/
inductive Cause.Grounds (t : Nat) : Cause → List (Tiding Ask Answer) → Prop where
  | unresolved {features e} (builds : Run.Builds setting.config (store.recordOf key))
      (known : setting.batch.features? key = some features)
      (unresolved : setting.batch.template.resolve features = .error e) : Grounds t (.unresolved e) []
  | refused {warnings job tale exchanges e completion}
      (submitting : Submitting setting key warnings job tale exchanges)
      (answered : (setting.backend.submit job).Yields exchanges (.error e)) :
      Grounds t (.refused e) (.noted (t, .concluded completion) :: tale)
  | observed {job tale exchanges cause completion} (observing : Observing setting store world key job tale exchanges)
      (observed : Observed setting job t cause exchanges) :
      Grounds t cause (.noted (t, .concluded completion) :: tale)
  | expired {jobId deadline tale completion} (tracked : Tracked setting store world key tale jobId deadline)
      (idle : Idle key tale) (due : deadline ≤ t) :
      Grounds t (.overdue jobId) (.noted (t, .concluded completion) :: tale)

/-- What was told of a job whose place is this. -/
def Place.Told (tale : List (Tiding Ask Answer)) : Place Ask Answer → Prop
  | .pending => tale = [] ∧ Run.Builds setting.config (store.recordOf key)
  | .submitting warnings job operation =>
      ∃ exchanges rest, Submitting setting key warnings job tale exchanges ∧
        (setting.backend.submit job).After exchanges rest ∧
        operation.task = rest.bind fun result => .done (.submitted key warnings result)
  | .waiting job => Tracked setting store world key tale job.jobId job.deadline ∧ Idle key tale
  | .observing job operation =>
      ∃ exchanges rest, Observing setting store world key job tale exchanges ∧
        (observation setting.backend job.jobId).After exchanges rest ∧
        operation.task = rest.bind (fun result => .done (.observed job (.polled result))) ∧
        match exchanges with
        | [] => ∃ entry, .noted entry ∈ tale ∧ operation.resumeAt = entry.1
        | exchange :: _ => operation.resumeAt = exchange.comesAt
  | .gone => True

/-- What was told of a job accounts for its view: its place, and its end if it is at its end. -/
structure View.Told (tale : List (Tiding Ask Answer)) (view : View Ask Answer) : Prop where
  noted : ∀ entry, .noted entry ∈ tale ↔ entry ∈ view.notes
  place : view.place.Told setting store world key tale
  ended : ∀ t event, .noted (t, .applied key event) ∈ tale → event.ends = true →
    view.place = .gone ∧ ∃ earlier cause, tale = .noted (t, .applied key event) :: earlier ∧
      Cause.Grounds setting store world key t cause earlier ∧ view.record.EndsBy cause

end

variable {setting : Setting Ask Answer σ} {store : BatchStore} {world : World σ} {key jobId : String} {t deadline : Nat}
  {cause other : Cause} {event : JobEvent} {tale more : List (Tiding Ask Answer)}
  {exchanges others : List (Exchange Ask Answer)} {warnings : List String} {made : ResolvedJob} {job : InFlight}
  {view later : View Ask Answer} {from_ next : World σ} {new : List (Nat × Note)} {s : Situation Ask Answer σ}

/-! ### One verdict -/

/-- What was told of a job that is submitted says what was asked for and answered. -/
theorem Submitting.unique {named : List String} {built : ResolvedJob}
    (submitting : Submitting setting key warnings made tale exchanges)
    (also : Submitting setting key named built tale others) : built = made ∧ others = exchanges := by
  induction submitting generalizing others with
  | begun => cases also; exact ⟨rfl, rfl⟩
  | answered _ exchange ih =>
      cases also with
      | answered before =>
          obtain ⟨rfl, rfl⟩ := ih before
          exact ⟨rfl, rfl⟩

/-- What was told of a job that is observed says which job it is and what was answered. -/
theorem Observing.unique {watched : InFlight} (observing : Observing setting store world key job tale exchanges)
    (also : Observing setting store world key watched tale others) : watched = job ∧ others = exchanges := by
  induction observing generalizing others with
  | begun => cases also; exact ⟨rfl, rfl⟩
  | answered _ exchange ih =>
      cases also with
      | answered before =>
          obtain ⟨rfl, rfl⟩ := ih before
          exact ⟨rfl, rfl⟩

/-- A job that is submitted is not observed. -/
theorem Submitting.not_observing (submitting : Submitting setting key warnings made tale exchanges) :
    ¬ Observing setting store world key job tale others := by
  intro observing
  induction submitting generalizing others with
  | begun => cases observing
  | answered _ exchange ih =>
      cases observing with
      | answered before => exact ih before

theorem Submitting.not_idle (submitting : Submitting setting key warnings made tale exchanges) : ¬ Idle key tale := by
  cases submitting <;> exact fun ⟨_, _, same⟩ => nomatch same

theorem Observing.not_idle (observing : Observing setting store world key job tale exchanges) : ¬ Idle key tale := by
  cases observing <;> exact fun ⟨_, _, same⟩ => nomatch same

/-- The exchanges of an observation let the job end in one way at most. -/
theorem Cause.Observed.verdict_unique (observed : cause.Observed setting job t exchanges)
    (also : other.Observed setting job t exchanges) : other.verdict = cause.verdict := by
  -- An answer that the observation waits for has not come.
  have waits {exchange : Exchange Ask Answer} {earlier : List (Exchange Ask Answer)}
      (heard : Heard setting job t (exchange :: earlier)) : ¬ t < exchange.comesAt :=
    Nat.not_lt.mpr (heard.came exchange rfl)
  cases observed with
  | @seen _ answer _ answered shown ended heard =>
      generalize whole : exchanges = all at also
      cases also with
      | seen answered' =>
          subst whole
          obtain rfl := answered.unique answered'
          rfl
      | @fetched earlier later _ polled =>
          obtain ⟨-, -, rfl⟩ := Task.Yields.eq_of_append (show [] ++ exchanges = _ from whole) answered polled
          cases shown
      | brokenOff due early =>
          subst whole
          exact absurd early (waits heard)
  | @fetched earlier later answer polled answered heard =>
      generalize whole : later ++ earlier = all at also
      cases also with
      | seen answered' shown =>
          obtain ⟨-, -, rfl⟩ := Task.Yields.eq_of_append (show _ = [] ++ all from whole) polled answered'
          cases shown
      | fetched polled' answered' =>
          obtain ⟨rfl, rfl, -⟩ := Task.Yields.eq_of_append whole polled polled'
          obtain rfl := answered.unique answered'
          rfl
      | brokenOff due early => exact absurd early (waits (whole ▸ heard))
  | brokenOff due early =>
      generalize whole : _ :: _ = all at also
      cases also with
      | seen _ _ _ heard | fetched _ _ heard => exact absurd early (waits (whole ▸ heard))
      | brokenOff => rfl

/-- All that was told of a job leaves one verdict. -/
theorem Cause.Grounds.verdict_unique (grounds : cause.Grounds setting store world key t tale)
    (also : other.Grounds setting store world key t tale) : other.verdict = cause.verdict := by
  cases grounds with
  | unresolved builds known unresolved =>
      cases also with
      | unresolved builds' known' unresolved' =>
          obtain rfl := Option.some.inj (known.symm.trans known')
          obtain rfl := Except.error.inj (unresolved.symm.trans unresolved')
          rfl
  | refused submitting answered =>
      cases also with
      | refused submitting' answered' =>
          obtain ⟨rfl, rfl⟩ := submitting.unique submitting'
          obtain rfl := Except.error.inj (answered.unique answered')
          rfl
      | observed observing => exact absurd observing submitting.not_observing
      | expired tracked idle => exact absurd idle submitting.not_idle
  | observed observing observed =>
      cases also with
      | refused submitting => exact absurd observing submitting.not_observing
      | observed observing' observed' =>
          obtain ⟨rfl, rfl⟩ := observing.unique observing'
          exact observed.verdict_unique observed'
      | expired tracked idle => exact absurd idle observing.not_idle
  | expired tracked idle due =>
      cases also with
      | refused submitting => exact absurd idle submitting.not_idle
      | observed observing => exact absurd idle observing.not_idle
      | expired => rfl

/-! ### Records -/

/-- A job that a poll showed at its end has the verdict of the answer. -/
theorem endedWith_of_shown {answer : Except BackendError BackendStatus} {result : PollResult} {record : JobRecord}
    (shown : shownBy answer = some result) (ended : result.isOpen = false) (jobId : String) (moment : Timestamp) :
    (record.observe result moment).EndedWith (Cause.seen jobId answer).verdict := by
  cases answer with
  | ok standing =>
      cases standing with
      | queued | running =>
          obtain rfl := Option.some.inj shown
          cases ended
      | done => cases shown
      | error message =>
          obtain rfl := Option.some.inj shown
          exact ⟨rfl, rfl, rfl⟩
  | error e => cases e <;> obtain rfl := Option.some.inj shown <;> exact ⟨rfl, rfl, rfl⟩

/-! ### Moves -/

/-- An observed job is tracked. -/
theorem Observing.tracked (observing : Observing setting store world key job tale exchanges) :
    Tracked setting store world key tale job.jobId job.deadline := by
  induction observing with
  | begun tracked _ => exact tracked.still _
  | answered _ _ ih => exact ih.still _

/-- Nothing was told yet of the end of a job that is not gone. -/
theorem View.Told.goes (told : view.Told setting store world key tale) (going : view.place ≠ .gone)
    (entered : .noted (t, .applied key event) ∈ tale) : event.ends = false := by
  cases ends : event.ends with
  | false => rfl
  | true => exact absurd (told.ended t event entered ends).1 going

/-- What is told next is entered next. -/
theorem View.Told.noted_append (told : view.Told setting store world key tale)
    (entered : later.notes = new ++ view.notes) (entry : Nat × Note) :
    (.noted entry ∈ new.map (.noted : _ → Tiding Ask Answer) ++ tale) ↔ entry ∈ later.notes := by
  simp [entered, told.noted]

/-- Entries that end nothing leave a job that goes on as it was, but for its place. -/
theorem View.Told.goesOn (told : view.Told setting store world key tale) (going : view.place ≠ .gone)
    (entered : later.notes = new ++ view.notes)
    (quiet : ∀ t event, (t, .applied key event) ∈ new → event.ends = false)
    (place : later.place.Told setting store world key (new.map .noted ++ tale)) :
    later.Told setting store world key (new.map .noted ++ tale) where
  noted := told.noted_append entered
  place := place
  ended := by
    intro t event member ends
    rcases List.mem_append.mp member with fresh | old
    · obtain ⟨_, present, same⟩ := List.mem_map.mp fresh
      have ended := quiet t event (Tiding.noted.inj same ▸ present)
      cases ends.symm.trans ended
    · cases ends.symm.trans (told.goes going old)

/-- The end of a job comes with its cause. -/
theorem View.Told.ends (told : view.Told setting store world key tale) (going : view.place ≠ .gone)
    (entered : later.notes = (t, .applied key event) :: new ++ view.notes)
    (single : ∀ t event, (t, .applied key event) ∉ new) (gone : later.place = .gone)
    (grounds : cause.Grounds setting store world key t (new.map .noted ++ tale)) (ends : later.record.EndsBy cause) :
    later.Told setting store world key (((t, .applied key event) :: new).map .noted ++ tale) where
  noted := told.noted_append entered
  place := by
    rw [gone]
    trivial
  ended := by
    intro t' event' member last
    rcases List.mem_append.mp member with fresh | old
    · obtain ⟨_, present, same⟩ := List.mem_map.mp fresh
      obtain rfl := Tiding.noted.inj same
      rcases List.mem_cons.mp present with same | more
      · cases same
        exact ⟨gone, _, cause, rfl, grounds, ends⟩
      · exact absurd more (single t' event')
    · cases last.symm.trans (told.goes going old)

/-- A submit that ends gives what it was answered. -/
theorem Place.Told.submitted {named : List String} {operation : Operation Ask Answer}
    {now : Nat} {result : Except BackendError String}
    (told : (Place.submitting warnings made operation).Told setting store world key tale)
    (serves : operation.Serves (.submitting key warnings made))
    (ends : operation.EndsWith now (.submitted key named result)) :
    ∃ exchanges, Submitting setting key warnings made tale exchanges ∧
      (setting.backend.submit made).Yields exchanges result := by
  obtain ⟨exchanges, rest, submitting, after, task⟩ := told
  obtain ⟨value, rfl, same⟩ := ends.of_submitting task serves.2.1
  cases same
  exact ⟨exchanges, submitting, after⟩

/-- An observation that ends with a look at the job shows what it was answered. -/
theorem Place.Told.polled {operation : Operation Ask Answer} {now : Nat} {result : PollResult}
    (told : (Place.observing job operation).Told setting store world key tale)
    (serves : operation.Serves (.observing job)) (ends : operation.EndsWith now (.observed job (.polled result))) :
    ∃ exchanges, Observing setting store world key job tale exchanges ∧
      (observation setting.backend job.jobId).Yields exchanges result ∧
      ∀ exchange ∈ exchanges.head?, exchange.comesAt ≤ now := by
  obtain ⟨exchanges, rest, observing, after, task, resumes⟩ := told
  rcases ends.of_observing task serves.2.1 with ⟨resumed, value, rfl, same⟩ | ⟨-, -, same⟩
  · cases same
    refine ⟨exchanges, observing, after, ?_⟩
    cases exchanges with
    | nil => exact fun _ none_ => nomatch none_
    | cons exchange earlier =>
        rintro _ ⟨⟩
        exact resumes ▸ resumed
  · cases same

/-- An observation that is broken off waits for an answer. -/
theorem Place.Told.brokenOff {operation : Operation Ask Answer} {now : Nat}
    (told : (Place.observing job operation).Told setting store world key tale)
    (past : ∀ entry, .noted entry ∈ tale → entry.1 ≤ now)
    (ends : operation.EndsWith now (.observed job .deadlineExceeded)) :
    ∃ exchange earlier, Observing setting store world key job tale (exchange :: earlier) ∧ now < exchange.comesAt := by
  obtain ⟨exchanges, rest, observing, -, task, resumes⟩ := told
  rcases ends with ⟨-, done⟩ | ⟨waits, -⟩
  · obtain ⟨_, -, same⟩ := Task.bind_eq_done (task.symm.trans done)
    cases same
  · cases exchanges with
    | nil =>
        obtain ⟨entry, noted, begun⟩ := resumes
        exact absurd (begun ▸ past entry noted) (Nat.not_le.mpr waits)
    | cons exchange earlier => exact ⟨exchange, earlier, observing, resumes ▸ waits⟩

/-- A tracked job may rest. -/
theorem Place.Told.resting {owed : Option Bool} (tracked : Tracked setting store world key tale job.jobId job.deadline)
    (idle : Idle key tale) : (Place.resting owed job : Place Ask Answer).Told setting store world key tale := by
  unfold Place.resting
  split
  · trivial
  · exact ⟨tracked, idle⟩

/-- An observation that shows the job at its end is the cause of it. -/
theorem Observing.grounds {result : PollResult} {completion : Completion}
    (observing : Observing setting store world key job tale exchanges)
    (answered : (observation setting.backend job.jobId).Yields exchanges result) (ended : result.isOpen = false)
    (heard : Heard setting job t exchanges) (record : JobRecord) (moment : Timestamp) :
    ∃ cause, Cause.Grounds setting store world key t cause (.noted (t, .concluded completion) :: tale) ∧
      (record.observe result moment).EndedWith cause.verdict ∧ cause.jobId? = some job.jobId := by
  obtain ⟨answer, polled, shown⟩ | ⟨answer, earlier, later, rfl, polled, fetched, rfl⟩ := observation_yields answered
  · exact ⟨_, .observed observing (.seen polled shown ended heard), endedWith_of_shown shown ended .., rfl⟩
  · refine ⟨_, .observed observing (.fetched polled fetched heard), ?_, rfl⟩
    cases answer <;> exact ⟨rfl, rfl, rfl⟩

/-- Whatever happens to a job, what is told of it accounts for its view. -/
theorem Move.told (move : Move setting key from_ next view later) (told : view.Told setting store world key tale)
    (sound : view.Sound key) (timely : view.Timely setting from_.now) (entered : later.notes = new ++ view.notes)
    (loud : new ≠ []) : later.Told setting store world key (new.map .noted ++ tale) := by
  cases move with
  | asksSubmitting | asksObserving => exact absurd (@List.append_cancel_right _ [] _ _ entered).symm loud
  | fails known unresolved =>
      obtain rfl := @List.append_cancel_right _ [_] _ _ entered
      obtain ⟨rfl, builds⟩ := told.place
      exact told.ends (by simp) rfl (by simp) rfl (.unresolved builds known unresolved)
        ⟨⟨rfl, rfl, rfl⟩, fun _ named => by cases named⟩
  | submits known resolved begins =>
      subst begins
      obtain rfl := @List.append_cancel_right _ [_] _ _ entered
      obtain ⟨rfl, -⟩ := told.place
      refine told.goesOn (by simp) rfl (by simp) ?_
      exact ⟨[], _, .begun known resolved rfl, .begun, rfl⟩
  | @accepted warnings job operation record owed notes jobId due ends nameable =>
      obtain rfl := @List.append_cancel_right _ [_, _] _ _ entered
      obtain ⟨exchanges, submitting, answered⟩ := told.place.submitted sound.fits.2 ends
      refine told.goesOn (by simp) rfl (by simp [JobEvent.ends]) ?_
      exact .resting (.submitted submitting answered) ⟨_, _, rfl⟩
  | @declined _ _ _ _ _ _ e due ends =>
      obtain rfl := @List.append_cancel_right _ [_, _] _ _ entered
      obtain ⟨exchanges, submitting, answered⟩ := told.place.submitted sound.fits.2 ends
      exact told.ends (by simp) rfl (by simp) rfl (.refused submitting answered)
        ⟨by cases e <;> exact ⟨rfl, rfl, rfl⟩, fun _ named => by cases named⟩
  | polls due early =>
      obtain rfl := @List.append_cancel_right _ [_] _ _ entered
      obtain ⟨tracked, -⟩ := told.place
      refine told.goesOn (by simp) rfl (by simp) ?_
      exact ⟨[], _, .begun tracked early, .begun, rfl, _, List.mem_cons_self, rfl⟩
  | @observed job operation record owed notes result due ends nameable =>
      obtain rfl := @List.append_cancel_right _ [_, _] _ _ entered
      obtain ⟨-, -, named, serves⟩ := sound.fits
      obtain ⟨exchanges, observing, answered, came⟩ := told.place.polled serves ends
      cases going : result.isOpen with
      | true =>
          refine told.goesOn (by simp) rfl (by simp [JobEvent.ends, going]) ?_
          simp only [if_pos]
          exact .resting ((observing.tracked.still _).still _) ⟨_, _, rfl⟩
      | false =>
          have heard : Heard setting job from_.now exchanges :=
            ⟨came, fun punctual => timely.early punctual job operation rfl⟩
          obtain ⟨cause, grounds, ended, identifies⟩ :=
            observing.grounds answered going heard record (setting.clock.at from_.now)
          refine told.ends (by simp) rfl (by simp) rfl grounds ⟨ended, ?_⟩
          simpa [identifies] using named
  | @timesOut job operation record owed notes due ends =>
      obtain rfl := @List.append_cancel_right _ [_, _] _ _ entered
      obtain ⟨-, -, named, serves⟩ := sound.fits
      obtain ⟨exchange, earlier, observing, waits⟩ :=
        told.place.brokenOff (fun entry noted => timely.past entry ((told.noted entry).mp noted)) ends
      have due : job.deadline ≤ from_.now := Nat.le_trans (Instant.le_nextTick _) (serves.deadline_le ends)
      refine told.ends (by simp) rfl (by simp) rfl (.observed observing (.brokenOff due waits)) ⟨⟨rfl, rfl, rfl⟩, ?_⟩
      rintro _ ⟨⟩
      exact named
  | expires due =>
      obtain rfl := @List.append_cancel_right _ [_, _] _ _ entered
      obtain ⟨-, -, named⟩ := sound.fits
      obtain ⟨tracked, idle⟩ := told.place
      refine told.ends (by simp) rfl (by simp) rfl (.expired tracked idle due) ⟨⟨rfl, rfl, rfl⟩, ?_⟩
      rintro _ ⟨⟩
      exact named

/-- A question of the operation and its answer leave the job in its place. -/
theorem View.Told.asks {operation : Operation Ask Answer} {question : Ask}
    {rest : Answer question → Task Ask Answer Completion} (told : view.Told setting store world key tale)
    (under : view.place.operations = [operation]) (asks : operation.task = .ask question rest)
    (answer : Answer question) (askedAt comesAt : Nat) :
    View.Told setting store world key (.exchanged key ⟨question, answer, askedAt, comesAt⟩ :: tale)
      { view with place := view.place.resumed { operation with task := rest answer, resumeAt := comesAt } } := by
  obtain ⟨place, record, owed, notes⟩ := view
  refine ⟨by simpa using told.noted, ?_, ?_⟩
  · cases place with
    | pending | waiting | gone => cases under
    | submitting warnings job operation =>
        cases under
        obtain ⟨exchanges, left, submitting, after, task⟩ := told.place
        obtain ⟨next, rfl, rfl⟩ := Task.bind_eq_ask (task.symm.trans asks) (fun _ => nofun)
        exact ⟨_, _, submitting.answered _, after.answered answer askedAt comesAt, rfl⟩
    | observing job operation =>
        cases under
        obtain ⟨exchanges, left, observing, after, task, -⟩ := told.place
        obtain ⟨next, rfl, rfl⟩ := Task.bind_eq_ask (task.symm.trans asks) (fun _ => nofun)
        exact ⟨_, _, observing.answered _, after.answered answer askedAt comesAt, rfl, rfl⟩
  · intro t event member ends
    have going : place ≠ .gone := by
      rintro rfl
      cases under
    have entered : .noted (t, .applied key event) ∈ tale := by simpa using member
    cases ends.symm.trans (told.goes going entered)

/-- Whatever is told of a job accounts for its view, if it did so before. -/
theorem View.Tells.told (tells : view.Tells setting key more later) (told : view.Told setting store world key tale) :
    later.Told setting store world key (more ++ tale) := by
  induction tells with
  | begins => exact told
  | marks _ _ ih => exact ⟨ih.noted, ih.place, ih.ended⟩
  | moves _ sound timely move entered loud ih =>
      rw [List.append_assoc]
      exact move.told ih sound timely entered loud
  | asks _ sound under asks answer askedAt comesAt ih => exact ih.asks under asks answer askedAt comesAt

/-! ### Runs -/

/-- Nothing was told yet when a run opens. -/
theorem Opens.told (opens : Opens setting.config world.now (setting.clock.at world.now) (store.recordOf key) view) :
    view.Told setting store world key [] where
  noted := by cases opens <;> simp
  place := by
    cases opens with
    | pending pending => exact ⟨rfl, .inl pending⟩
    | restarts reset => exact ⟨rfl, .inr reset⟩
    | keeps => trivial
    | adopts handedOver named adopted =>
        obtain ⟨_, -, rfl⟩ := Run.adopt_eq adopted
        exact ⟨.adopted handedOver named adopted, trivial⟩
  ended := by simp

namespace Setting

/-- All that a run has told of a job accounts for its view. -/
theorem Recounts.told (recounts : setting.Recounts store world tale s) (member : key ∈ setting.batch.keys) :
    ∃ view, s.Shows key view ∧ view.Told setting store world key (Tiding.ofKey key tale) := by
  induction recounts with
  | @opening opening s opened saved =>
      obtain ⟨view, opens, shows⟩ := opening_shows opened member
      obtain ⟨disk, rfl⟩ := Situation.eq_of_save saved
      exact ⟨view, { shows with }, opens.told⟩
  | round choice before goes ih =>
      obtain ⟨view, shows, told⟩ := ih
      obtain ⟨t, -, -, next, tells⟩ := before.reaches.meets.round_tells choice
      obtain rfl := next _ goes
      obtain ⟨later, shown, tells⟩ := tells key member view shows
      rw [Tiding.ofKey_append]
      exact ⟨later, shown, tells.told told⟩

/-- Each outcome of a run has its cause. Whatever brings the job of a key to its end, it was told last, and all that was
told of this job before is a cause for it and leaves no other verdict. The record has this verdict, and the id that the
service gave for this key. -/
theorem Recounts.outcomes_grounded (recounts : setting.Recounts store world tale s) (choice : Choice)
    (applied : (t, .applied key event) ∈ (s.round setting choice).situation.run.journal) (ends : event.ends = true) :
    ∃ earlier cause record,
      Tiding.ofKey key (s.tidings setting choice ++ tale) = .noted (t, .applied key event) :: earlier ∧
      Cause.Grounds setting store world key t cause earlier ∧
      (∀ other : Cause, other.Grounds setting store world key t earlier → other.verdict = cause.verdict) ∧
      (s.round setting choice).situation.run.store.get? key = some record ∧ record.EndsBy cause := by
  obtain ⟨u, met, same, -, tells⟩ := recounts.reaches.meets.round_tells choice
  rw [same] at applied ⊢
  have member : key ∈ setting.batch.keys :=
    met.keys_subset (List.mem_append_right _ (List.mem_map.mpr ⟨_, applied, rfl⟩))
  obtain ⟨view, shows, told⟩ := recounts.told member
  obtain ⟨later, shown, tells⟩ := tells key member view shows
  have told := tells.told told
  rw [← Tiding.ofKey_append] at told
  have noted : (t, .applied key event) ∈ later.notes := by
    rw [← shown.notes, List.mem_filter]
    exact ⟨applied, by simp⟩
  obtain ⟨-, earlier, cause, last, grounds, byCause⟩ := told.ended t event ((told.noted _).mpr noted) ends
  exact ⟨earlier, cause, later.record, last, grounds, fun other also => grounds.verdict_unique also, shown.record,
    byCause⟩

/-- A run of one job over a backend that answers a poll only after a while: the job is done. -/
def lingering (delay : Nat) : Setting Unit (fun _ => Unit) Unit where
  config := { maxJobDuration := Duration.ofSeconds 10 }
  batch := (prompted ["ada"]).batch
  backend :=
    { submit := fun job => .done (.ok job.key)
      poll := fun _ => .ask () fun _ => .done (.ok .done)
      fetchResult := fun jobId => .done (.ok ⟨"1", jobId, "", "output"⟩)
      download := fun _ => .done (.ok []) }
  service := ⟨fun _ _ now state => ⟨(), now + delay, state⟩⟩
  clock := ⟨⟨1700000000, 0⟩⟩
  cancelAt := none

/-- A store with one job, which was handed over half a millisecond less than five seconds before the run. -/
def halfOver : BatchStore := ⟨none, [(JobRecord.fresh "ada").submit "old" [] ⟨1699999995, 500000⟩]⟩

/-- An answer that comes before the deadline lets the adopted job succeed. -/
theorem outcomes_grounded_lingering : ∃ s tale t reference earlier cause, ∃ record : JobRecord,
    (lingering (Duration.ofMillis 4000)).Recounts halfOver ⟨(), ⟨[]⟩, 0⟩ tale s ∧
      Tiding.ofKey "ada" (s.tidings (lingering (Duration.ofMillis 4000)) {} ++ tale) =
        .noted (t, .applied "ada" (.polled (.done reference))) :: earlier ∧ earlier.length = 3 ∧
      Cause.Grounds (lingering (Duration.ofMillis 4000)) halfOver ⟨(), ⟨[]⟩, 0⟩ "ada" t cause earlier ∧
      record.status = .succeeded ∧ record.EndsBy cause := by
  obtain ⟨s, tale, t, reference, recounts, applied, status, told⟩ : ∃ s tale t reference,
      (lingering (Duration.ofMillis 4000)).Recounts halfOver ⟨(), ⟨[]⟩, 0⟩ tale s ∧
        (s.round (lingering (Duration.ofMillis 4000)) {}).situation.run.journal.head? =
          some (t, .applied "ada" (.polled (.done reference))) ∧
        ((s.round (lingering (Duration.ofMillis 4000)) {}).situation.run.store.get? "ada").map (·.status) =
          some .succeeded ∧
        (Tiding.ofKey "ada" (s.tidings (lingering (Duration.ofMillis 4000)) {} ++ tale)).length = 4 :=
    ⟨_, _, _, _, .round {} (.round {} (.opening rfl rfl) rfl) rfl, rfl, rfl, rfl⟩
  obtain ⟨earlier, cause, record, last, grounds, -, found, byCause⟩ :=
    Recounts.outcomes_grounded recounts {} (List.mem_of_head? applied) rfl
  rw [found] at status
  rw [last] at told
  exact ⟨s, tale, t, reference, earlier, cause, record, recounts, last, Nat.succ.inj told, grounds,
    Option.some.inj status, byCause⟩

/-- Time ticks in whole milliseconds, so an answer that comes within the tick of the deadline still counts: here the
deadline is half a millisecond before the observation ends, and the job succeeds. -/
theorem answered_after_deadline : ∃ s job t reference,
    (lingering (Duration.ofMillis 5001)).Reaches halfOver ⟨(), ⟨[]⟩, 0⟩ s ∧
      (lingering (Duration.ofMillis 5001)).AdoptedUntil halfOver ⟨(), ⟨[]⟩, 0⟩ "ada" job.deadline ∧
      (t, .concluded (.observed job (.polled (.done reference)))) ∈
        (s.round (lingering (Duration.ofMillis 5001)) {}).situation.run.journal ∧
      job.deadline < t ∧
      ((s.round (lingering (Duration.ofMillis 5001)) {}).situation.run.store.get? "ada").map (·.status) =
        some .succeeded :=
  ⟨_, ⟨"ada", "old", 0, 5000500000⟩, Duration.ofMillis 5001, _, .round {} (.round {} (.opening rfl rfl) rfl) rfl,
    ⟨_, "old", ⟨1699999995, 500000⟩, rfl, rfl, rfl, rfl, by decide⟩, List.mem_of_getElem? (rfl : _[1]? = _), by decide,
    rfl⟩

end Setting

end Tracker

end ImageBatch
