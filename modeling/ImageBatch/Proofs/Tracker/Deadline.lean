import ImageBatch.Proofs.Tracker.Places
import ImageBatch.Proofs.Tracker.Ticks

/-!
Deadlines are kept exactly.

A job that is submitted in a run has its deadline so long after its acknowledgement as a job may take; an adopted
job has what is left of its time (`Setting.IsDeadline`). Two things end a job in time: an observation is broken
off at the deadline, and a waiting job is woken then. `View.OnTime` is what both keep: the clock does not pass
the deadline of a job that is still watched. `Setting.Meets.onTime` has it of every punctual run, and
`Setting.Arises.deadline_exact` reads it off the journal.
-/

namespace ImageBatch.Tracker

variable {Ask : Type} {Answer : Ask → Type} {σ : Type}

open Instant

/-- An entry of the journal keeps to the deadline of the job: no observation begins at or after it, nothing that
was observed is applied after it, and the job runs out of time at no other instant. -/
def Note.Within (deadline : Nat) : Nat × Note → Prop
  | (t, .began (.observing _)) => t < deadline
  | (t, .applied _ (.polled _)) => t ≤ deadline
  | (t, .applied _ .deadlineExceeded) => t = deadline
  | _ => True

/-- Nothing was observed yet, and no submit was acknowledged. -/
def Note.IsEarly : Note → Prop
  | .began (.submitting ..) => True
  | _ => False

/-- The job of an earlier run is adopted, and its time is over then: as long after its submission as a job may
take, or at the start if that is past. -/
def Setting.AdoptedUntil (setting : Setting Ask Answer σ) (store : BatchStore) (world : World σ) (key : String)
    (deadline : Nat) : Prop :=
  ∃ record jobId submittedAt, store.get? key = some record ∧ record.status.isHandedOver = true ∧
    record.jobId = some jobId ∧ record.submittedAt = some submittedAt ∧
    deadline = world.now +
      (submittedAt.plus setting.config.maxJobDuration).remaining (setting.clock.at world.now)

/-- The job was acknowledged, as these entries have it, and its time is over then. -/
def Config.AcceptedUntil (config : Config) (journal : List (Nat × Note)) (key : String) (deadline : Nat) : Prop :=
  ∃ acknowledged warnings jobId,
    (acknowledged, .concluded (.submitted key warnings (.ok jobId))) ∈ journal ∧
      deadline = acknowledged + config.maxJobDuration

/-- The deadline of a job, if it has one: it was adopted or it was submitted in the run. -/
def Setting.IsDeadline (setting : Setting Ask Answer σ) (store : BatchStore) (world : World σ)
    (journal : List (Nat × Note)) (key : String) (deadline : Nat) : Prop :=
  setting.AdoptedUntil store world key deadline ∨ setting.config.AcceptedUntil journal key deadline

/-- A watched job with this deadline has no other, and its journal keeps to it if it is a whole
millisecond. -/
structure Watched (config : Config) (adopted : Nat → Prop) (key : String) (deadline : Nat)
    (notes : List (Nat × Note)) : Prop where
  only : ∀ other, adopted other ∨ config.AcceptedUntil notes key other → other = deadline
  within : IsWhole deadline → ∀ entry ∈ notes, Note.Within deadline entry

/-- A job is on time: as long as it is not watched it has no deadline and nothing was observed, and the deadline
of a job that is watched is not past. -/
def View.OnTime (config : Config) (adopted : Nat → Prop) (key : String) (now : Nat) (view : View Ask Answer) :
    Prop :=
  match view.place with
  | .pending | .submitting .. => (∀ deadline, ¬ adopted deadline) ∧ ∀ entry ∈ view.notes, entry.2.IsEarly
  | .waiting job | .observing job _ =>
      now ≤ nextTick job.deadline ∧ Watched config adopted key job.deadline view.notes
  | .gone =>
      ∀ deadline, adopted deadline ∨ config.AcceptedUntil view.notes key deadline → IsWhole deadline →
        ∀ entry ∈ view.notes, Note.Within deadline entry

section View

variable {setting : Setting Ask Answer σ} {adopted : Nat → Prop} {key : String} {now t deadline : Nat}
  {world world' : World σ} {view view' : View Ask Answer} {config : Config} {notes : List (Nat × Note)}
  {entry : Nat × Note} {record : JobRecord} {owed : Option Bool}

/-- Only an acknowledgement sets a deadline. -/
theorem acceptedUntil_cons (other : ∀ warnings jobId, entry.2 ≠ .concluded (.submitted key warnings (.ok jobId))) :
    config.AcceptedUntil (entry :: notes) key deadline ↔ config.AcceptedUntil notes key deadline := by
  constructor
  · rintro ⟨acknowledged, warnings, jobId, member, same⟩
    obtain rfl | member := List.mem_cons.mp member
    · exact absurd rfl (other warnings jobId)
    · exact ⟨acknowledged, warnings, jobId, member, same⟩
  · rintro ⟨acknowledged, warnings, jobId, member, same⟩
    exact ⟨acknowledged, warnings, jobId, List.mem_cons_of_mem _ member, same⟩

theorem not_acceptedUntil (early : ∀ entry ∈ notes, entry.2.IsEarly) :
    ¬ config.AcceptedUntil notes key deadline := by
  rintro ⟨_, _, _, member, -⟩
  exact early _ member

theorem Note.IsEarly.within (early : entry.2.IsEarly) : Note.Within deadline entry := by
  obtain ⟨t, note⟩ := entry
  cases note with
  | began activity => cases activity <;> trivial
  | concluded | applied | refused => cases early

theorem Watched.cons (watched : Watched config adopted key deadline notes)
    (other : ∀ warnings jobId, entry.2 ≠ .concluded (.submitted key warnings (.ok jobId)))
    (within : IsWhole deadline → Note.Within deadline entry) :
    Watched config adopted key deadline (entry :: notes) where
  only := by simpa only [acceptedUntil_cons other] using watched.only
  within := fun whole => List.forall_mem_cons.mpr ⟨within whole, watched.within whole⟩

/-- An outcome is entered together with the event that it means. -/
theorem Watched.concluded {job : InFlight} {event : JobEvent}
    (watched : Watched config adopted key deadline notes)
    (within : IsWhole deadline → Note.Within deadline (t, .applied key event)) :
    Watched config adopted key deadline
      ((t, .applied key event) :: (t, .concluded (.observed job event)) :: notes) := by
  refine Watched.cons (watched.cons (by simp) fun _ => ?_) (by simp) within
  trivial

/-- The acknowledgement sets the deadline. -/
theorem watched_of_accepted {warnings : List String} {jobId : String}
    (never : ∀ deadline, ¬ adopted deadline) (early : ∀ entry ∈ notes, entry.2.IsEarly) :
    Watched config adopted key (t + config.maxJobDuration)
      ((t, .applied key (.submitted jobId warnings)) ::
        (t, .concluded (.submitted key warnings (.ok jobId))) :: notes) where
  only := by
    rintro other (adopts | accepted)
    · exact absurd adopts (never other)
    · rw [acceptedUntil_cons (by simp)] at accepted
      obtain ⟨acknowledged, warnings, jobId, member, rfl⟩ := accepted
      obtain same | member := List.mem_cons.mp member
      · rw [(Prod.mk.inj same).1]
      · exact absurd (early _ member) id
  within := fun _ => List.forall_mem_cons.mpr ⟨trivial, List.forall_mem_cons.mpr
    ⟨trivial, fun entry member => (early entry member).within⟩⟩

/-- What is no longer watched stays on time. -/
theorem Watched.gone (watched : Watched config adopted key deadline notes) :
    View.OnTime config adopted key now (⟨.gone, record, owed, notes⟩ : View Ask Answer) := by
  intro other isDeadline whole
  obtain rfl := watched.only other isDeadline
  exact watched.within whole

theorem Watched.resting {before : Option Bool} {job : InFlight} (early : now ≤ nextTick job.deadline)
    (watched : Watched config adopted key job.deadline notes) :
    View.OnTime config adopted key now (⟨.resting before job, record, owed, notes⟩ : View Ask Answer) := by
  unfold Place.resting
  split
  · exact watched.gone
  · exact ⟨early, watched⟩

/-- An unwatched job that ends has no deadline. -/
theorem View.onTime_gone (never : ∀ deadline, ¬ adopted deadline)
    (unaccepted : ∀ deadline, ¬ config.AcceptedUntil notes key deadline) :
    View.OnTime config adopted key now (⟨.gone, record, owed, notes⟩ : View Ask Answer) :=
  fun deadline isDeadline => absurd isDeadline (not_or.mpr ⟨never deadline, unaccepted deadline⟩)

/-- Whatever happens to a job, it stays on time. -/
theorem Move.onTime (sound : view.Sound key) (onTime : view.OnTime setting.config adopted key world.now)
    (move : Move setting key world world' view view') :
    view'.OnTime setting.config adopted key world'.now := by
  have fits := sound.fits
  cases move with
  | fails known unresolved =>
      obtain ⟨never, early⟩ := onTime
      refine View.onTime_gone never fun deadline => ?_
      rw [acceptedUntil_cons (by simp)]
      exact not_acceptedUntil early
  | submits known resolved begins =>
      obtain ⟨never, early⟩ := onTime
      exact ⟨never, List.forall_mem_cons.mpr ⟨by rw [begins]; trivial, early⟩⟩
  | asksSubmitting due asks replied => exact onTime
  | accepted due ends nameable =>
      obtain ⟨never, early⟩ := onTime
      exact (watched_of_accepted never early).resting (Nat.le_trans (Nat.le_add_right ..) (le_nextTick _))
  | declined due ends =>
      obtain ⟨never, early⟩ := onTime
      refine View.onTime_gone never fun deadline => ?_
      rw [acceptedUntil_cons (by simp), acceptedUntil_cons (by simp)]
      exact not_acceptedUntil early
  | polls due before =>
      obtain ⟨early, watched⟩ := onTime
      exact ⟨early, watched.cons (by simp) fun _ => before⟩
  | asksObserving due asks replied => exact onTime
  | @observed job operation record owed notes result due ends nameable =>
      obtain ⟨early, watched⟩ := onTime
      have within (whole : IsWhole job.deadline) :
          Note.Within job.deadline (world.now, .applied key (.polled result)) := whole.nextTick_eq ▸ early
      cases result.isOpen with
      | true => exact (watched.concluded within).resting early
      | false => exact (watched.concluded within).gone
  | timesOut due ends =>
      obtain ⟨early, watched⟩ := onTime
      obtain ⟨-, -, -, serves⟩ := fits
      have reached := serves.deadline_le ends
      exact (watched.concluded fun whole => by
        rw [whole.nextTick_eq] at early reached
        exact Nat.le_antisymm early reached).gone
  | expires due =>
      obtain ⟨early, watched⟩ := onTime
      exact (watched.concluded fun whole => by
        rw [whole.nextTick_eq] at early
        exact Nat.le_antisymm early due).gone

/-- Time may pass as far as the view lets it. -/
theorem View.OnTime.passes (sound : view.Sound key) (onTime : view.OnTime config adopted key now)
    (operations : ∀ operation ∈ view.place.operations, t ≤ operation.eventAt)
    (jobs : ∀ job ∈ view.place.jobs, t ≤ nextTick job.wakeAt) : view.OnTime config adopted key t := by
  have fits := sound.fits
  obtain ⟨place, record, owed, notes⟩ := view
  cases place with
  | pending | submitting | gone => exact onTime
  | waiting job =>
      have alarm := jobs job (by simp [Place.jobs])
      exact ⟨Nat.le_trans alarm (nextTick_mono job.wakeAt_le_deadline), onTime.2⟩
  | observing job operation =>
      obtain ⟨-, -, -, -, limited, -⟩ := fits
      have event := operations operation (by simp [Place.operations])
      simp only [Operation.eventAt, limited] at event
      exact ⟨Nat.le_trans event (Nat.min_le_right ..), onTime.2⟩

end View

namespace Setting

variable {setting : Setting Ask Answer σ} {store : BatchStore} {world : World σ} {s : Situation Ask Answer σ}
  {key : String} {view : View Ask Answer}

/-- What a job has left of its time when a run opens sets its deadline. -/
theorem opens_onTime (representable : setting.config.maxJobDuration ≤ Duration.maxSpan)
    (opens : Opens setting.config world.now (setting.clock.at world.now) (store.recordOf key) view) :
    view.OnTime setting.config (setting.AdoptedUntil store world key) key world.now := by
  have unaccepted (deadline) : ¬ setting.config.AcceptedUntil [] key deadline :=
    not_acceptedUntil (by simp)
  -- A deadline means that the record found is that of a job that the service has.
  have found {deadline} (adopted : setting.AdoptedUntil store world key deadline) :
      ∃ jobId submittedAt, (store.recordOf key).status.isHandedOver = true ∧
        (store.recordOf key).jobId = some jobId ∧ (store.recordOf key).submittedAt = some submittedAt ∧
        deadline = world.now +
          (submittedAt.plus setting.config.maxJobDuration).remaining (setting.clock.at world.now) := by
    obtain ⟨record, jobId, submittedAt, present, handedOver, named, submitted, same⟩ := adopted
    have known : store.recordOf key = record := by simp [BatchStore.recordOf, present]
    exact ⟨jobId, submittedAt, known ▸ handedOver, known ▸ named, known ▸ submitted, same⟩
  cases opens with
  | pending pending =>
      refine ⟨fun deadline adopted => ?_, by simp⟩
      obtain ⟨_, _, handedOver, -⟩ := found adopted
      simp [pending, JobStatus.isHandedOver] at handedOver
  | restarts reset =>
      refine ⟨fun deadline adopted => ?_, by simp⟩
      obtain ⟨_, _, handedOver, named, -⟩ := found adopted
      obtain status | status := JobRecord.isHandedOver_iff.mp handedOver <;>
        simp [Run.needsReset, named, status, JobStatus.isTerminal] at reset
  | adopts handedOver named adopted =>
      obtain ⟨limit, due, rfl⟩ := Run.adopt_eq adopted
      refine ⟨Nat.le_trans (Nat.le_add_right ..) (le_nextTick _), ⟨?_, by simp⟩⟩
      rintro other (adopts | accepted)
      · obtain ⟨_, submittedAt, -, -, submitted, rfl⟩ := found adopts
        simp only [JobRecord.deadline, submitted, representable, if_true, Timestamp.add] at due
        split at due <;> simp only [Except.map, Except.ok.injEq, reduceCtorEq] at due
        subst due
        rfl
      · exact absurd accepted (unaccepted other)
  | keeps terminal kept => exact fun _ _ _ => by simp

/-- In a punctual run every job is on time. -/
theorem Meets.onTime (punctual : setting.punctual = true)
    (representable : setting.config.maxJobDuration ≤ Duration.maxSpan) (met : setting.Meets store world s)
    (member : key ∈ setting.batch.keys) :
    ∃ view, s.Shows key view ∧ view.Sound key ∧
      view.OnTime setting.config (setting.AdoptedUntil store world key) key s.world.now := by
  obtain ⟨opening, keys, opened, path⟩ := met
  obtain ⟨view, opens, shows⟩ := opening_shows opened member
  have onTime := opens_onTime representable opens
  have start := opening_world opened
  obtain ⟨view', shows, sound, onTime, -⟩ := Path.keeps (fun _ => True)
    (fun _ world' view => view.OnTime setting.config (setting.AdoptedUntil store world key) key world'.now)
    member (fun _ _ => trivial) (fun _ _ sound onTime move => move.onTime sound onTime)
    (fun _ _ _ onTime => onTime)
    (fun _ _ step shows sound onTime => by
      obtain same | ⟨-, -, -, bounds⟩ := step.now_cases shows
      · rw [same]
        exact onTime
      · exact onTime.passes sound (bounds punctual).1 (bounds punctual).2)
    path (opening_proper opened) trivial shows (opens.sound (BatchStore.recordOf_userId ..)) (start ▸ onTime) (n := 0)
  exact ⟨view', shows, sound, onTime⟩

/-- Time in whole milliseconds that the clock and the calendar can name: the run ticks from its start on, and so
do the submit times of the records and the time that a job may take. -/
structure InMillis (setting : Setting Ask Answer σ) (store : BatchStore) (world : World σ) : Prop
    extends setting.Ticks where
  start : IsWhole world.now
  maxJobDuration : IsWhole setting.config.maxJobDuration
  representable : setting.config.maxJobDuration ≤ Duration.maxSpan
  origin : IsWhole setting.clock.origin.nanos
  submittedAt : ∀ record ∈ store.records, ∀ submittedAt ∈ record.submittedAt, IsWhole submittedAt.nanos

/-- Every deadline is a whole millisecond. -/
theorem InMillis.isWhole (millis : setting.InMillis store world) (met : setting.Meets store world s)
    {deadline : Nat} (isDeadline : setting.IsDeadline store world s.run.journal key deadline) :
    IsWhole deadline := by
  obtain ⟨record, jobId, submittedAt, present, -, -, submitted, rfl⟩ |
    ⟨acknowledged, warnings, jobId, member, rfl⟩ := isDeadline
  · have stored := millis.submittedAt record (List.mem_of_find?_eq_some present) submittedAt submitted
    exact millis.start.add (Timestamp.isWhole_remaining (Timestamp.isWhole_plus stored millis.maxJobDuration)
      (Timestamp.isWhole_plus millis.origin millis.start))
  · exact ((met.ticks millis.toTicks millis.start).journal _ member).add millis.maxJobDuration

/-- The deadlines of a run are exact. No observation of a job begins at or after its deadline, nothing that was
observed is applied later, and it runs out of time at that instant only. When the clock is past the deadline its
record is at its end, or it was drained after the cancellation, whatever else is under way. -/
theorem Arises.deadline_exact (millis : setting.InMillis store world) (arises : setting.Arises store world s)
    (member : key ∈ setting.batch.keys) {deadline : Nat}
    (isDeadline : setting.IsDeadline store world s.run.journal key deadline) :
    (∀ entry ∈ s.run.journal, entry.2.key = key → Note.Within deadline entry) ∧
      (deadline < s.world.now → ∃ record, s.run.store.get? key = some record ∧
        (record.status.isTerminal = true ∨ ∃ keys, s.run.drain = some keys ∧ key ∉ keys)) := by
  obtain ⟨t, met, run, now⟩ := arises.meets
  rw [← run] at isDeadline ⊢
  rw [← now]
  have whole := millis.isWhole met isDeadline
  obtain ⟨view, shows, sound, onTime⟩ := met.onTime millis.punctual millis.representable member
  have noted {entry : Nat × Note} : entry ∈ view.notes ↔ entry ∈ t.run.journal ∧ entry.2.key = key := by
    rw [← shows.notes]
    simp
  have known : setting.AdoptedUntil store world key deadline ∨
      setting.config.AcceptedUntil view.notes key deadline := by
    refine isDeadline.imp id fun ⟨acknowledged, warnings, jobId, entry, same⟩ => ?_
    exact ⟨acknowledged, warnings, jobId, noted.mpr ⟨entry, rfl⟩, same⟩
  -- A job with a deadline is watched, and then the clock is not past the deadline, or it is gone.
  have watched {limit : Nat} (early : t.world.now ≤ nextTick limit)
      (watched : Watched setting.config (setting.AdoptedUntil store world key) key limit view.notes) :
      t.world.now ≤ deadline ∧ ∀ entry ∈ view.notes, Note.Within deadline entry := by
    obtain rfl := watched.only deadline known
    exact ⟨whole.nextTick_eq ▸ early, watched.within whole⟩
  have unwatched (unwatched : (∀ deadline, ¬ setting.AdoptedUntil store world key deadline) ∧
      ∀ entry ∈ view.notes, entry.2.IsEarly) : False :=
    known.elim (unwatched.1 deadline) (not_acceptedUntil unwatched.2)
  suffices (∀ entry ∈ view.notes, Note.Within deadline entry) ∧ (deadline < t.world.now →
      view.record.status.isTerminal = true ∨ view.owed = some false) by
    refine ⟨fun entry member own => this.1 entry (noted.mpr ⟨member, own⟩), fun past => ?_⟩
    refine ⟨view.record, shows.record, (this.2 past).imp id fun drained => ?_⟩
    obtain ⟨keys, drain, absent⟩ := Option.map_eq_some_iff.mp (shows.owed.trans drained)
    exact ⟨keys, drain, by simpa using absent⟩
  have fits := sound.fits
  unfold View.OnTime at onTime
  unfold View.Fits at fits
  cases place : view.place <;> simp only [place] at onTime fits
  case pending => exact (unwatched onTime).elim
  case submitting => exact (unwatched onTime).elim
  case waiting job =>
    obtain ⟨early, within⟩ := watched onTime.1 onTime.2
    exact ⟨within, fun past => absurd past (Nat.not_lt.mpr early)⟩
  case observing job operation =>
    obtain ⟨early, within⟩ := watched onTime.1 onTime.2
    exact ⟨within, fun past => absurd past (Nat.not_lt.mpr early)⟩
  case gone => exact ⟨onTime deadline known whole, fun _ => fits.imp id And.left⟩

/-- A job that is submitted at once is observed once, two seconds later and well before its deadline. -/
theorem prompted_deadline : ∃ s, (prompted ["ada"]).Arises .inMemory ⟨(), ⟨[]⟩, 0⟩ s ∧
    s.world.now = Duration.ofSeconds 2 ∧ s.run.journal.length = 6 ∧
    (∀ entry ∈ s.run.journal, entry.2.key = "ada" → Note.Within (Duration.ofSeconds 300) entry) ∧
    (Duration.ofSeconds 300 < s.world.now → ∃ record, s.run.store.get? "ada" = some record ∧
      (record.status.isTerminal = true ∨ ∃ keys, s.run.drain = some keys ∧ "ada" ∉ keys)) := by
  obtain ⟨s, reached, now, length, acknowledged⟩ : ∃ s, (prompted ["ada"]).Reaches .inMemory ⟨(), ⟨[]⟩, 0⟩ s ∧
      s.world.now = Duration.ofSeconds 2 ∧ s.run.journal.length = 6 ∧
      s.run.journal[4]? = some (0, .concluded (.submitted "ada" [] (.ok "ada"))) :=
    ⟨_, .round {} (.round {} (.round {} (.opening rfl rfl) rfl) rfl) rfl, rfl, rfl, rfl⟩
  have millis : (prompted ["ada"]).InMillis .inMemory ⟨(), ⟨[]⟩, 0⟩ :=
    { punctual := rfl
      answers := fun question => nomatch question
      cancelAt := fun _ never => nomatch never
      start := rfl
      maxJobDuration := rfl
      representable := by decide
      origin := rfl
      submittedAt := by simp [BatchStore.inMemory] }
  have accepted : (prompted ["ada"]).IsDeadline .inMemory ⟨(), ⟨[]⟩, 0⟩ s.run.journal "ada"
      (Duration.ofSeconds 300) :=
    .inr ⟨0, [], "ada", List.mem_of_getElem? acknowledged, by decide⟩
  exact ⟨s, .inl reached, now, length, Arises.deadline_exact millis (.inl reached) (by decide) accepted⟩

end Setting

end ImageBatch.Tracker
