import ImageBatch.Proofs.Time.Elapsed
import ImageBatch.Proofs.Tracker.Deadline
import ImageBatch.Proofs.Tracker.Untouched

/-!
Jobs of earlier runs.

A run takes over the jobs that an earlier one handed over, and polls them at once. Such a job waits for nothing but its
first look: at the instant of that look it is observed, or its time is over (`Setting.Meets.looked`). How much of its
time is left is found out in moments of the calendar, and this gives the deadline that the job had, as long as it may
take no longer than the calendar can add and its deadline is in the calendar (`Setting.adopted_deadline`). If jobs may
take longer, the time of each that a run takes over is over at once (`Setting.patient_expires`).
-/

namespace ImageBatch

namespace JobRecord

variable {record : JobRecord} {submittedAt : Timestamp} {d : Nat}

/-- A deadline that the calendar has. -/
theorem deadline_eq (submitted : record.submittedAt = some submittedAt) (representable : d ≤ Duration.maxSpan)
    (named : record.deadline d ≠ .error .overflow) : record.deadline d = .ok (some (submittedAt.plus d)) := by
  simp only [deadline, submitted, representable, if_true, Timestamp.add] at named ⊢
  split at named
  next inRange => rw [if_pos inRange]; rfl
  next => exact absurd rfl named

/-- A length of time that cannot be added to a moment sets no deadline. -/
theorem deadline_of_too_long (record : JobRecord) (long : Duration.maxSpan < d) : record.deadline d = .ok none := by
  unfold deadline
  split
  · exact if_neg (Nat.not_le.mpr long)
  · rfl

end JobRecord

namespace Tracker

open Instant

variable {Ask : Type} {Answer : Ask → Type} {σ : Type} {setting : Setting Ask Answer σ} {store : BatchStore}
  {world world' : World σ} {s t last opening : Situation Ask Answer σ} {key : String} {record : JobRecord}
  {view view' : View Ask Answer} {config : Config} {now : Nat} {moment : Timestamp} {job : InFlight} {start : Nat}

/-! ### The first look -/

/-- What is noted at the first look at a job: that its time is over, or that it is observed. -/
def InFlight.firstNote (job : InFlight) (t : Nat) : Note :=
  if job.deadline ≤ t then .concluded (.observed job .deadlineExceeded) else .began (.observing job)

/-- The first note on a job is from the first look at it. -/
def FirstNoted (setting : Setting Ask Answer σ) (start : Nat) (job : InFlight) (notes : List (Nat × Note)) : Prop :=
  ∃ t, start ≤ t ∧ (setting.punctual = true → t ≤ nextTick start) ∧ notes.getLast? = some (t, job.firstNote t)

/-- The job waits for the first look at it, or had it. -/
def View.Looked (setting : Setting Ask Answer σ) (start : Nat) (job : InFlight) (now : Nat)
    (view : View Ask Answer) : Prop :=
  (view.place = .waiting job ∧ view.notes = [] ∧ start ≤ now ∧ (setting.punctual = true → now ≤ nextTick start)) ∨
    FirstNoted setting start job view.notes

/-- What is noted later does not change the first note. -/
theorem FirstNoted.cons {notes : List (Nat × Note)} (noted : FirstNoted setting start job notes)
    (entry : Nat × Note) : FirstNoted setting start job (entry :: notes) := by
  obtain ⟨t, later, prompt, first⟩ := noted
  refine ⟨t, later, prompt, ?_⟩
  rw [List.getLast?_cons, first]
  rfl

theorem Move.looked (move : Move setting key world world' view view')
    (looked : view.Looked setting start job world.now) : view'.Looked setting start job world'.now := by
  rcases looked with ⟨place, none_, later, prompt⟩ | noted
  · cases move with
    | polls due early =>
        cases place
        cases none_
        exact .inr ⟨_, later, prompt, by rw [InFlight.firstNote, if_neg (Nat.not_le.mpr early)]; rfl⟩
    | expires due =>
        cases place
        cases none_
        exact .inr ⟨_, later, prompt, by rw [InFlight.firstNote, if_pos due]; rfl⟩
    | _ => cases place
  · cases move with
    | asksSubmitting | asksObserving => exact .inr noted
    | fails | submits | polls => exact .inr (noted.cons _)
    | accepted | declined | observed | timesOut | expires => exact .inr ((noted.cons _).cons _)

/-! ### Opening -/

/-- A run can take over the job of a record, if it has to. -/
def Config.CanAdopt (config : Config) (record : JobRecord) : Prop :=
  record.isInFlight = true → record.deadline config.maxJobDuration ≠ .error .overflow

/-- The job of a record has a way to open exactly if the run can take it over. -/
theorem exists_opens_iff : (∃ view : View Ask Answer, Opens config now moment record view) ↔
    config.CanAdopt record := by
  constructor
  · rintro ⟨view, opens⟩ inFlight overflows
    obtain ⟨handedOver, named⟩ := Bool.and_eq_true_iff.mp inFlight
    obtain ⟨jobId, named⟩ := Option.isSome_iff_exists.mp named
    have kept := Run.needsReset_of_handedOver config handedOver named
    cases opens with
    | pending pending => simp [pending, JobStatus.isHandedOver] at handedOver
    | restarts reset => cases kept.symm.trans reset
    | adopts _ _ adopted =>
        obtain ⟨deadline, found, -⟩ := Run.adopt_eq adopted
        cases overflows.symm.trans found
    | keeps terminal => simp [JobRecord.not_isInFlight_of_isTerminal terminal] at inFlight
  · intro adoptable
    by_cases reset : Run.needsReset config record = true
    · exact ⟨_, .restarts reset⟩
    have kept := Bool.eq_false_iff.mpr reset
    by_cases terminal : record.status.isTerminal = true
    · exact ⟨_, .keeps terminal kept⟩
    by_cases pending : record.status = .pending
    · exact ⟨_, .pending pending⟩
    have handedOver : record.status.isHandedOver = true := by
      cases status : record.status <;> simp_all [JobStatus.isTerminal, JobStatus.isHandedOver]
    obtain ⟨jobId, named⟩ : ∃ jobId, record.jobId = some jobId := by
      refine Option.ne_none_iff_exists'.mp fun unnamed => reset ?_
      simp [Run.needsReset, handedOver, unnamed]
    have inFlight : record.isInFlight = true := by simp [JobRecord.isInFlight, handedOver, named]
    obtain ⟨job, adopted⟩ : ∃ job, Run.adopt config now moment record jobId = .ok job := by
      have found := adoptable inFlight
      unfold Run.adopt
      cases deadline : record.deadline config.maxJobDuration with
      | error e => cases e; exact absurd deadline found
      | ok deadline => exact ⟨_, rfl⟩
    exact ⟨_, .adopts handedOver named adopted⟩

/-- Keys can be placed exactly if the run can take over the job of each. -/
theorem Run.exists_placeAll_iff {keys : List String} (once : keys.Nodup) (run : Run) :
    (∃ run', keys.foldlM (place config now moment) run = .ok run') ↔
      ∀ key ∈ keys, ∀ record, run.store.get? key = some record → config.CanAdopt record := by
  induction keys generalizing run with
  | nil => exact ⟨fun _ => nofun, fun _ => ⟨run, rfl⟩⟩
  | cons first rest ih =>
      obtain ⟨absent, once⟩ := List.nodup_cons.mp once
      have others {next : Run} (one : place config now moment run first = .ok next) {key : String}
          (member : key ∈ rest) : next.store.get? key = run.store.get? key :=
        (Run.place_changed one).others key fun same => absent (List.mem_singleton.mp same ▸ member)
      constructor
      · rintro ⟨run', placed⟩ key member record found
        obtain ⟨next, one, placed⟩ := Run.exists_of_placeAll_cons placed
        rcases List.mem_cons.mp member with rfl | member
        · obtain ⟨view, opens, -⟩ := Run.place_eq Unit (fun _ => Unit) one found
          exact exists_opens_iff.mp ⟨view, opens⟩
        · exact (ih once next).mp ⟨run', placed⟩ key member record ((others one member).trans found)
      · intro adoptable
        obtain ⟨next, one⟩ : ∃ next, place config now moment run first = .ok next := by
          cases found : run.store.get? first with
          | none => exact ⟨run, by simp [place, found]⟩
          | some record =>
              obtain ⟨view, opens⟩ : ∃ view : View Unit (fun _ => Unit), Opens config now moment record view :=
                exists_opens_iff.mpr (adoptable first List.mem_cons_self record found)
              exact Run.place_of_opens found opens
        obtain ⟨run', placed⟩ := (ih once next).mpr fun key member record found =>
          adoptable key (List.mem_cons_of_mem _ member) record ((others one member).symm.trans found)
        exact ⟨run', by rw [List.foldlM_cons, one]; exact placed⟩

namespace Setting

/-- What is noted of an adopted job, however a run is left, begins with the first look at it. -/
theorem Meets.looked (met : setting.Meets store world s) (member : key ∈ setting.batch.keys)
    (opens : Opens setting.config world.now (setting.clock.at world.now) (store.recordOf key) view)
    (waits : view.place = .waiting job) (soon : job.nextPoll = world.now) :
    ∃ view, s.Shows key view ∧ view.Sound key ∧ view.Looked setting world.now job s.world.now := by
  obtain ⟨opening, keys, opened, path⟩ := met
  obtain ⟨first, opens', shows⟩ := opening_shows opened member
  obtain rfl := opens.unique opens'
  have begun := opening_world opened
  have silent : first.notes = [] := by cases opens <;> rfl
  obtain ⟨view', shows, sound, looked, -⟩ := Path.keeps (fun _ => True)
    (fun _ world' view => view.Looked setting world.now job world'.now) member (fun _ _ => trivial)
    (fun _ _ _ looked move => move.looked looked) (fun _ _ _ looked => looked)
    (fun {_ _ s t view} _ _ step shows _ looked => by
      obtain same | ⟨-, later, -, bounds⟩ := step.now_cases shows
      · rw [same]
        exact looked
      · refine looked.imp_left fun ⟨place, none_, past, prompt⟩ => ⟨place, none_, Nat.le_trans past later, ?_⟩
        intro punctual
        have woken := (bounds punctual).2 job (by rw [place]; exact List.mem_singleton_self job)
        exact Nat.le_trans woken (nextTick_mono (soon ▸ Nat.min_le_left ..)))
    path (opening_proper opened) trivial shows (opens'.sound (BatchStore.recordOf_userId ..))
    (.inl ⟨waits, silent, Nat.le_of_eq (by rw [begun]), fun _ => by rw [begun]; exact le_nextTick _⟩) (n := 0)
  exact ⟨view', shows, sound, looked⟩

/-- A run can open exactly if it can take over every job of the batch that the service has. -/
theorem exists_opening_iff : (∃ opening, setting.opening store world = .ok opening) ↔
    ∀ key ∈ setting.batch.keys, ∀ record, store.get? key = some record → setting.config.CanAdopt record := by
  have opens : (∃ opening, setting.opening store world = .ok opening) ↔
      ∃ run, Run.start setting.config setting.batch world.now (setting.clock.at world.now) store = .ok run := by
    constructor
    · rintro ⟨opening, opened⟩
      obtain ⟨run, started, -⟩ := opening_eq opened
      exact ⟨run, started⟩
    · rintro ⟨run, started⟩
      exact ⟨Run.still run world, by rw [Setting.opening, started]; rfl⟩
  rw [opens, Run.start, Run.exists_placeAll_iff setting.batch.nodup_keys]
  refine forall₂_congr fun key member => ?_
  rw [BatchStore.get?_enroll_of_mem store member]
  constructor
  · intro adoptable record found
    exact adoptable record (by rw [BatchStore.recordOf, found]; rfl)
  · rintro adoptable record ⟨⟩
    cases found : store.get? key with
    | none =>
        intro inFlight
        simp [BatchStore.recordOf, found, JobRecord.fresh, JobRecord.isInFlight, JobStatus.isHandedOver] at inFlight
    | some record =>
        rw [BatchStore.recordOf, found]
        exact adoptable record found

/-- A run takes over this job: it waits when the run opens, and what is noted of it begins with the first look at it. -/
structure TakesOver (setting : Setting Ask Answer σ) (store : BatchStore) (world : World σ) (key : String)
    (job : InFlight) : Prop where
  waits : ∀ opening, setting.opening store world = .ok opening → opening.run.waiting.filter (·.key == key) = [job]
  first : ∀ last, setting.Finishes store world last →
    FirstNoted setting world.now job (last.run.journal.filter (·.2.key == key))

theorem takesOver_of_opens (member : key ∈ setting.batch.keys)
    (opens : Opens setting.config world.now (setting.clock.at world.now) (store.recordOf key) view)
    (waits : view.place = .waiting job) (soon : job.nextPoll = world.now) : setting.TakesOver store world key job where
  waits opening opened := by
    obtain ⟨first, opens', shows⟩ := opening_shows opened member
    obtain rfl := opens.unique opens'
    rw [shows.waiting, waits]
    rfl
  first last finished := by
    obtain ⟨met, -, rests⟩ := finished.meets
    obtain ⟨view, shows, sound, looked⟩ := met.looked member opens waits soon
    rw [shows.notes]
    refine looked.resolve_left fun waiting => ?_
    rcases rests.place shows sound with other | other <;> cases waiting.1.symm.trans other

/-- The deadline of a job that was submitted at a moment is kept: it is as long after that moment as a job may take, or
now if that is past. -/
structure KeepsDeadline (setting : Setting Ask Answer σ) (now : Nat) (record : JobRecord) (submittedAt : Timestamp)
    (deadline : Nat) : Prop where
  left : (deadline - now : Int) =
    max 0 ((submittedAt.plus setting.config.maxJobDuration).elapsed - (setting.clock.at now).elapsed)
  moment : setting.clock.at deadline = submittedAt.plus setting.config.maxJobDuration ∨
    deadline = now ∧ (submittedAt.plus setting.config.maxJobDuration).le (setting.clock.at now) = true
  /-- The run that submitted the job would have ended it at that moment of its clock. -/
  same : ∀ (clock : Clock) (acknowledged : Nat), clock.origin.Ordinary → submittedAt = clock.at acknowledged →
    submittedAt.plus setting.config.maxJobDuration = clock.at (acknowledged + setting.config.maxJobDuration)
  past : ∀ t, now ≤ t →
    record.isPastDeadline (setting.clock.at t) setting.config.maxJobDuration = .ok (decide (deadline ≤ t))

theorem keepsDeadline_remaining {now : Nat} {submittedAt : Timestamp} (ordinary : setting.clock.origin.Ordinary)
    (due : (submittedAt.plus setting.config.maxJobDuration).Ordinary)
    (limit : record.deadline setting.config.maxJobDuration =
      .ok (some (submittedAt.plus setting.config.maxJobDuration))) :
    setting.KeepsDeadline now record submittedAt
      (now + (submittedAt.plus setting.config.maxJobDuration).remaining (setting.clock.at now)) where
  left := by
    rw [Timestamp.remaining, due.since_eq (Clock.ordinary_at ordinary now)]
    omega
  moment := by
    cases past : (submittedAt.plus setting.config.maxJobDuration).le (setting.clock.at now) with
    | false => exact .inl (Clock.at_remaining ordinary due past)
    | true =>
        have over_ := (Clock.over_iff ordinary due (Nat.le_refl now)).mpr past
        exact .inr ⟨Nat.le_antisymm over_ (Nat.le_add_right ..), rfl⟩
  same := by
    rintro clock acknowledged ordinary rfl
    exact ordinary.plus_plus acknowledged _
  past t later := by
    have over_ := Clock.over_iff ordinary due later
    rw [JobRecord.isPastDeadline, limit]
    exact congrArg Except.ok (Bool.eq_iff_iff.mpr (by rw [decide_eq_true_iff]; exact over_.symm))

/-- A run can open exactly if the calendar has the deadline of every job that it has to take over. Each such job is
polled at once, unless its time is over at that instant; then it is ended without a poll. If a job may take no longer
than the calendar can add, and its deadline is in no leap second, its time is over at the deadline that its record sets
and that it had in the run that submitted it. If it may take longer, its record sets no deadline, and its time is over
at once. -/
theorem adopted_deadline (setting : Setting Ask Answer σ) (store : BatchStore) (world : World σ)
    (ordinary : setting.clock.origin.Ordinary) :
    ((∃ opening, setting.opening store world = .ok opening) ↔
      ∀ key ∈ setting.batch.keys, ∀ record, store.get? key = some record → setting.config.CanAdopt record) ∧
    ∀ key ∈ setting.batch.keys, ∀ record jobId submittedAt, store.get? key = some record →
      record.status.isHandedOver = true → record.jobId = some jobId → record.submittedAt = some submittedAt →
      setting.config.CanAdopt record →
      ∃ deadline, setting.TakesOver store world key ⟨key, jobId, world.now, deadline⟩ ∧
        (setting.config.maxJobDuration ≤ Duration.maxSpan →
          (submittedAt.plus setting.config.maxJobDuration).Ordinary →
          setting.KeepsDeadline world.now record submittedAt deadline) ∧
        (Duration.maxSpan < setting.config.maxJobDuration → deadline = world.now ∧
          ∀ t, record.isPastDeadline (setting.clock.at t) setting.config.maxJobDuration = .ok false) := by
  refine ⟨exists_opening_iff, fun key member record jobId submittedAt found handedOver named submitted adoptable => ?_⟩
  have known : store.recordOf key = record := by rw [BatchStore.recordOf, found]; rfl
  have own : record.userId = key := BatchStore.userId_of_get? found
  have inFlight : record.isInFlight = true := by simp [JobRecord.isInFlight, handedOver, named]
  have takesOver {job : InFlight}
      (adopted : Run.adopt setting.config world.now (setting.clock.at world.now) record jobId = .ok job)
      (soon : job.nextPoll = world.now) : setting.TakesOver store world key job := by
    have opens : Opens setting.config world.now (setting.clock.at world.now) (store.recordOf key)
        (⟨.waiting job, record, none, []⟩ : View Ask Answer) := by
      rw [known]
      exact .adopts handedOver named adopted
    exact takesOver_of_opens member opens rfl soon
  by_cases representable : setting.config.maxJobDuration ≤ Duration.maxSpan
  · have limit := JobRecord.deadline_eq submitted representable (adoptable inFlight)
    refine ⟨_, takesOver (by simp only [Run.adopt, limit, own]; rfl) rfl, fun _ due => ?_,
      fun long => absurd representable (Nat.not_le.mpr long)⟩
    exact keepsDeadline_remaining ordinary due limit
  · have limit := record.deadline_of_too_long (Nat.not_le.mp representable)
    refine ⟨world.now, takesOver (by simp only [Run.adopt, limit, own]; rfl) rfl,
      fun representable' => absurd representable' representable, fun _ => ⟨rfl, fun t => ?_⟩⟩
    rw [JobRecord.isPastDeadline, limit]
    rfl

/-- A store with one job, which was handed over at the start of 1970. -/
def handedOver : BatchStore := ⟨none, [(JobRecord.fresh "ada").submit "ada" [] ⟨0, 0⟩]⟩

/-- A run of this job that is started so many seconds later. -/
def resumedAt (seconds : Int) : Setting Empty (fun _ => Unit) Unit := { prompted ["ada"] with clock := ⟨⟨seconds, 0⟩⟩ }

/-- A job that may take 300 seconds is polled after 100 seconds, and it is ended without a poll after 400 seconds. -/
theorem adopted_deadline_resumed :
    (∃ last, (resumedAt 100).Finishes handedOver ⟨(), ⟨[]⟩, 0⟩ last ∧
      FirstNoted (resumedAt 100) 0 ⟨"ada", "ada", 0, Duration.ofSeconds 200⟩
        (last.run.journal.filter (·.2.key == "ada"))) ∧
    ∃ last, (resumedAt 400).Finishes handedOver ⟨(), ⟨[]⟩, 0⟩ last ∧
      FirstNoted (resumedAt 400) 0 ⟨"ada", "ada", 0, 0⟩ (last.run.journal.filter (·.2.key == "ada")) := by
  have ordinary (seconds : Int) : (resumedAt seconds).clock.origin.Ordinary := (by decide : 0 < 1000000000)
  have adoptable (seconds : Int) :
      (resumedAt seconds).config.CanAdopt ((JobRecord.fresh "ada").submit "ada" [] ⟨0, 0⟩) := by
    intro _ overflows
    have limit : ((JobRecord.fresh "ada").submit "ada" [] ⟨0, 0⟩).deadline (Duration.ofSeconds 300) =
        .ok (some ⟨300, 0⟩) := rfl
    cases overflows.symm.trans limit
  constructor
  · obtain ⟨last, finished⟩ : ∃ last, (resumedAt 100).Finishes handedOver ⟨(), ⟨[]⟩, 0⟩ last :=
      ⟨_, _, {}, .round {} (.round {} (.opening rfl rfl) rfl) rfl, rfl⟩
    obtain ⟨deadline, takesOver, keeps, -⟩ := (adopted_deadline (resumedAt 100) handedOver ⟨(), ⟨[]⟩, 0⟩
      (ordinary 100)).2 "ada" (by decide) _ "ada" ⟨0, 0⟩ rfl rfl rfl rfl (adoptable 100)
    have left : (deadline - (0 : Nat) : Int) = 200000000000 := (keeps (by decide) (ordinary 300)).left.trans (by decide)
    obtain rfl : deadline = Duration.ofSeconds 200 := by
      unfold Duration.ofSeconds
      omega
    exact ⟨last, finished, takesOver.first last finished⟩
  · obtain ⟨last, finished⟩ : ∃ last, (resumedAt 400).Finishes handedOver ⟨(), ⟨[]⟩, 0⟩ last :=
      ⟨_, _, {}, .round {} (.opening rfl rfl) rfl, rfl⟩
    obtain ⟨deadline, takesOver, keeps, -⟩ := (adopted_deadline (resumedAt 400) handedOver ⟨(), ⟨[]⟩, 0⟩
      (ordinary 400)).2 "ada" (by decide) _ "ada" ⟨0, 0⟩ rfl rfl rfl rfl (adoptable 400)
    have left : (deadline - (0 : Nat) : Int) = 0 := (keeps (by decide) (ordinary 300)).left.trans (by decide)
    obtain rfl : deadline = 0 := by omega
    exact ⟨last, finished, takesOver.first last finished⟩

/-- A run of a job that may take longer than the calendar can add. -/
def patient : Setting Empty (fun _ => Unit) Unit :=
  { prompted ["ada"] with config := { maxJobDuration := Duration.ofMillis 10000000000000000000 } }

/-- A run is cancelled once the service has taken its job, which may take ten billion billion milliseconds. The next run
ends the job at once and without a poll, though its time is not over, and the clock of the first could name its
deadline. -/
theorem patient_expires : ∃ first last record,
    { patient with cancelAt := some 0 }.Finishes .inMemory ⟨(), ⟨[]⟩, 0⟩ first ∧
    first.run.journal[0]? = some (0, .applied "ada" (.submitted "ada" [])) ∧
    0 + patient.config.maxJobDuration < Instant.limit ∧
    first.run.store.get? "ada" = some record ∧ record.status = .submitted ∧ record.jobId = some "ada" ∧
    record.submittedAt = some (patient.clock.at 0) ∧
    record.isPastDeadline (patient.clock.at 0) patient.config.maxJobDuration = .ok false ∧
    patient.Finishes first.run.store ⟨(), ⟨[]⟩, 0⟩ last ∧
    last.run.journal = [(0, .applied "ada" .deadlineExceeded),
      (0, .concluded (.observed ⟨"ada", "ada", 0, 0⟩ .deadlineExceeded))] :=
  ⟨_, _, _, ⟨_, {}, .round { notice := some 1 } (.opening rfl rfl) rfl, rfl⟩, rfl, by decide, rfl, rfl, rfl, rfl, rfl,
    ⟨_, {}, .round {} (.opening rfl rfl) rfl, rfl⟩, rfl⟩

end Setting

end Tracker

end ImageBatch
