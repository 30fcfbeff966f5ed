import ImageBatch.Proofs.Backend.Script
import ImageBatch.Proofs.Tracker.Delay
import ImageBatch.Proofs.Tracker.Places
import ImageBatch.Proofs.Tracker.Untouched

/-!
Jobs do not get into each other's way.

Over a backend that treats every job on its own, a run that is not cancelled makes of each record what a run of its key
alone makes of it, only later (`Setting.Finishes.isolated`). For either run takes the job along its course to the end
(`Setting.Calm.ends`), and the course of a job hangs on when the job is taken, and not on the other jobs or the number
of slots. The run of the key alone does come to its end, since the course has one (`Setting.Calm.finishes`).
-/

namespace ImageBatch

/-- A store in memory that has nothing but the record of one key. -/
def BatchStore.alone (store : BatchStore) (key : String) : BatchStore := ⟨none, [store.recordOf key]⟩

@[simp] theorem BatchStore.recordOf_alone (store : BatchStore) (key : String) :
    (store.alone key).recordOf key = store.recordOf key := by
  have own := store.recordOf_userId key
  rw [recordOf, get?, alone, find?_cons, if_pos own]
  rfl

namespace Tracker

variable {Ask : Type} {Answer : Ask → Type} {σ π : Type} {setting : Setting Ask Answer σ}
  {separation : Separation setting.backend setting.service π} {store : BatchStore} {world : World σ}
  {s t last opening : Situation Ask Answer σ} {key : String} {keys : List String} {first view view' : View Ask Answer}

open Instant

/-! ### The end of a course -/

/-- The course is over after so many moves and not sooner, it leaves this record, and the clock can name its
instants. -/
structure Ends {backend : Backend Ask Answer} {service : Service Ask Answer σ}
    (separation : Separation backend service π) (terms : Terms) (key : String) (life : Life Ask Answer π)
    (start n : Nat) (record : JobRecord) : Prop where
  gone : (course separation terms key start life n).2.stage = .gone
  ran : ∀ m < n, (course separation terms key start life m).2.stage ≠ .gone
  nameable : ∀ m < n, (course separation terms key start life (m + 1)).2.stage.Nameable
  record : (course separation terms key start life n).2.record = record

section

variable {backend : Backend Ask Answer} {service : Service Ask Answer σ} {separation : Separation backend service π}
  {terms : Terms} {life : Life Ask Answer π} {start n m delay : Nat} {record other : JobRecord}

/-- A course ends once. -/
theorem Ends.unique (ends : Ends separation terms key life start n record)
    (also : Ends separation terms key life start m other) : other = record := by
  rcases Nat.lt_trichotomy n m with less | rfl | less
  · exact absurd ends.gone (also.ran n less)
  · exact also.record.symm.trans ends.record
  · exact absurd also.gone (ends.ran m less)

/-- A course that begins sooner ends as well. -/
theorem Ends.sooner (whole : IsWhole delay) (still : life.stage.later delay = life.stage)
    (ends : Ends separation terms key life (start + delay) n record) :
    ∃ sooner, Ends separation terms key life start n sooner ∧
      JobRecord.Delayed terms.clock delay life.record sooner record := by
  have delayed (m : Nat) : Life.Delayed terms.clock delay life.record (course separation terms key start life m).2
      (course separation terms key (start + delay) life m).2 := (course_delayed whole still start m).2
  refine ⟨_, ⟨?_, fun m less => ?_, fun m less => ?_, rfl⟩, ends.record ▸ (delayed n).record⟩
  · exact Stage.later_eq_gone.mp ((delayed n).stage.symm.trans ends.gone)
  · exact fun gone => ends.ran m less ((delayed m).stage.trans (Stage.later_eq_gone.mpr gone))
  · have nameable := ends.nameable m less
    rw [(delayed (m + 1)).stage] at nameable
    exact nameable.of_later

end

/-- When all is done, every job of a run that was not cancelled is gone. -/
theorem Setting.Meets.gone_of_rests (met : setting.Meets store world s) (going : s.cancelled = false)
    (filled : s.Filled setting) (rests : s.Rests) (shows : s.Shows key view) (sound : view.Sound key) :
    view.place = .gone := by
  refine (rests.place shows sound).resolve_left fun pending => ?_
  have waiting : s.run.waiting = [] := by
    rcases rests with drained | ⟨waiting, -⟩
    · cases (met.proper.unmarked going).symm.trans drained
    · exact waiting
  have queue := shows.queue
  rw [filled.nothing_pending going waiting (met.idle_of_rests rests).1, pending] at queue
  cases queue

/-- A run that ends well has taken every job along its course to the end. -/
theorem Setting.Calm.ends (calm : setting.Calm separation store world) (finished : setting.Finishes store world last)
    (member : key ∈ setting.batch.keys) :
    ∃ first start n record,
      Opens setting.config world.now (setting.clock.at world.now) (store.recordOf key) first ∧
        last.run.store.get? key = some record ∧ world.now ≤ start ∧ IsWhole start ∧
        (first.place ≠ .pending ∨ (∀ other ∈ setting.batch.keys, other = key) → start = world.now) ∧
        Ends separation (setting.terms key) key (first.toLife separation key world.state) start n record := by
  obtain ⟨met, filled, rests⟩ := finished.meets
  have ⟨opening, keys, opened, path⟩ := met
  obtain ⟨first, view, opens, shows, sound, ⟨start, later, whole, pinned, along⟩, steady⟩ :=
    calm.becomes opened path member
  have gone := met.gone_of_rests steady.going filled rests shows sound
  refine ⟨first, start, keys.count key, view.record, opens, shows.record, later, whole, pinned, ?_⟩
  exact ⟨Stage.eq_gone (along.lives.place.symm.trans gone), along.ran, along.nameable, along.lives.record.symm⟩

/-! ### A run of one key -/

section Nameable

variable {life : Life Ask Answer π} {start n resumeAt : Nat} {completion : Completion}
  (along : view.Along separation (setting.terms key) key life start n s.world) (shows : s.Shows key view)
  (sound : view.Sound key)
  (nameable : (course separation (setting.terms key) key start life (n + 1)).2.stage.Nameable)

include along nameable

/-- The end of a submit can be taken in, if the course can name what comes next. -/
theorem View.Along.canConclude_submitted {warnings : List String} {job : ResolvedJob}
    {result : Except BackendError String}
    (stage : (course separation (setting.terms key) key start life n).2.stage =
      .submitting warnings job (.done result) resumeAt)
    (due : resumeAt ≤ s.world.now) :
    s.run.canConclude setting.config s.world.now (s.moment setting) (.submitted key warnings result) = true := by
  have early := along.early
  rw [stage] at early
  have now : resumeAt = s.world.now := Nat.le_antisymm due (early _ rfl)
  rw [course_succ (show _ = s.world.now by rw [stage]; exact now)] at nameable
  refine Run.canConclude_of_nameable fun _ job rests => ?_
  cases result with
  | error e => cases rests
  | ok jobId =>
      cases rests
      simp only [Life.next, stage] at nameable
      exact nameable

include shows sound

/-- The end of a poll can be taken in, if the course can name what comes next. -/
theorem View.Along.canConclude_polled {job : InFlight} {result : PollResult} (own : job.key = key)
    (stage : (course separation (setting.terms key) key start life n).2.stage = .observing job (.done result) resumeAt)
    (due : min resumeAt (nextTick job.deadline) ≤ s.world.now) (resumed : resumeAt ≤ s.world.now) :
    s.run.canConclude setting.config s.world.now (s.moment setting) (.observed job (.polled result)) = true := by
  have early := along.early
  rw [stage] at early
  have now : min resumeAt (nextTick job.deadline) = s.world.now := Nat.le_antisymm due (early _ rfl)
  rw [course_succ (show _ = s.world.now by rw [stage]; exact now)] at nameable
  have fits := sound.fits
  unfold View.Fits at fits
  rw [along.lives.place, stage] at fits
  obtain ⟨-, handedOver, named, -⟩ := fits
  refine Run.canConclude_of_nameable fun inFlight waits rests => ?_
  cases rests
  have found : s.run.store.get? job.key = some view.record := own ▸ shows.record
  have taken := JobRecord.transition_polled (s.moment setting) handedOver result
  rw [show (Completion.observed job (.polled result)).key = job.key from rfl,
    show (Completion.observed job (.polled result)).event = .polled result from rfl,
    Run.apply_of_taken found taken] at inFlight
  have going : result.isOpen = true := by
    rw [← JobRecord.isInFlight_observe (by rw [named]; rfl) result (s.moment setting)]
    exact inFlight
  simp only [Life.next, stage, if_neg (Nat.not_lt.mpr resumed), going, if_true] at nameable
  exact nameable

end Nameable

/-- What the course of a job has next can be taken in, if the clock can name its instants. -/
theorem View.Along.canConclude {life : Life Ask Answer π} {start n : Nat} {operation : Operation Ask Answer}
    {others : List (Operation Ask Answer)} {completion : Completion}
    (along : view.Along separation (setting.terms key) key life start n s.world) (shows : s.Shows key view)
    (sound : view.Sound key) (own : operation.key = key)
    (picked : (operation, others) ∈ Situation.dueOperations s.world.now s.operations)
    (ends : operation.EndsWith s.world.now completion)
    (nameable : (course separation (setting.terms key) key start life (n + 1)).2.stage.Nameable) :
    s.run.canConclude setting.config s.world.now (s.moment setting) completion = true := by
  obtain ⟨due, -⟩ := Situation.mem_dueOperations picked
  obtain ⟨place, -⟩ := Situation.Shows.operation_of_picked (own.symm ▸ shows) picked
  rcases place with ⟨warnings, job, place⟩ | ⟨job, place⟩
  · obtain ⟨rest, resumeAt, stage, rfl⟩ := Stage.eq_submitting (along.lives.place.symm.trans place)
    obtain ⟨result, rfl, rfl⟩ := ends.of_submitting rfl rfl
    exact along.canConclude_submitted nameable stage due
  · obtain ⟨rest, resumeAt, stage, rfl⟩ := Stage.eq_observing (along.lives.place.symm.trans place)
    rcases ends.of_observing rfl rfl with ⟨resumed, result, rfl, rfl⟩ | ⟨-, -, rfl⟩
    · exact along.canConclude_polled shows sound nameable own stage due resumed
    · exact Run.canConclude_expired ..

namespace Setting

variable {n : Nat} {record : JobRecord}

section

variable (calm : setting.Calm separation store world) (single : setting.batch.keys = [key])
  (opens : Opens setting.config world.now (setting.clock.at world.now) (store.recordOf key) first)
  (ends : Ends separation (setting.terms key) key (first.toLife separation key world.state) world.now n record)

include calm single opens ends

/-- A run of one key takes the job along its course from the first instant on, and not past the end. -/
theorem Calm.along_single (opened : setting.opening store world = .ok opening) (path : Path setting keys opening s) :
    ∃ view, s.Shows key view ∧ view.Sound key ∧
      view.Along separation (setting.terms key) key (first.toLife separation key world.state) world.now
        (keys.count key) s.world ∧ keys.count key ≤ n := by
  have member : key ∈ setting.batch.keys := single ▸ List.mem_singleton_self key
  obtain ⟨first', view, opens', shows, sound, ⟨start, -, -, pinned, along⟩, -⟩ := calm.becomes opened path member
  obtain rfl := opens.unique opens'
  obtain rfl := pinned (.inr (by simp [single]))
  exact ⟨view, shows, sound, along, Nat.not_lt.mp fun past => along.ran n past ends.gone⟩

/-- A round of a run of one key over a store in memory ends the run, or takes the job further. -/
theorem Calm.round_single (unplaced : store.path = none) (opened : setting.opening store world = .ok opening)
    (path : Path setting keys opening s) :
    (∃ last, s.round setting {} = .over last) ∨
      ∃ more next, s.round setting {} = .goesOn next ∧ Path setting (keys ++ more) opening next ∧
        0 < more.count key := by
  have met {keys t} (path : Path setting keys opening t) : setting.Meets store world t := ⟨opening, keys, opened, path⟩
  have own {keys t other} (path : Path setting keys opening t) (mentioned : other ∈ t.keys) : other = key := by
    simpa [single] using (met path).keys_subset mentioned
  have leads := Situation.round_leads setting {} (met path).proper
  cases verdict : s.round setting {} with
  | goesOn next =>
      rw [verdict] at leads
      cases leads with
      | @goesOn more _ led moved =>
          obtain ⟨other, touched⟩ := List.exists_mem_of_ne_nil more (moved (.inr calm.never))
          obtain rfl := own path (led.keys_subset touched)
          exact .inr ⟨more, next, rfl, path.trans led, List.count_pos_iff.mpr touched⟩
  | failed fault last =>
      rw [verdict] at leads
      cases leads with
      | @unsaved _ t _ _ led unsaved =>
          have saves := Situation.save_of_unplaced ((met (path.trans led)).changed.path.trans unplaced)
          cases saves.symm.trans unsaved
      | @overflows more _ _ _ _ _ led picked finishes unnameable run now =>
          obtain ⟨view, shows, sound, along, bound⟩ := along_single calm single opens ends opened (path.trans led)
          have mine := own (path.trans led) (Situation.mem_keys_of_operation (Situation.mem_of_picked picked).1)
          have less : (keys ++ more).count key < n := by
            refine Nat.lt_of_le_of_ne bound fun same => ?_
            have place := along.lives.place
            rw [same, ends.gone] at place
            obtain ⟨busy, -⟩ := Situation.Shows.operation_of_picked (mine.symm ▸ shows) picked
            rcases busy with ⟨_, _, busy⟩ | ⟨_, busy⟩
            all_goals cases place.symm.trans busy
          cases unnameable.symm.trans (along.canConclude shows sound mine picked finishes (ends.nameable _ less))
  | _ => exact .inl ⟨_, rfl⟩

/-- A run of one key over a store in memory comes to its end, if the course of the job has one. -/
theorem Calm.finishes (unplaced : store.path = none) : ∃ last, setting.Finishes store world last := by
  obtain ⟨opening, opened⟩ := exists_opening single opens
  have saved : opening.save = .goesOn opening := by
    have met : setting.Meets store world opening := ⟨opening, [], opened, .refl opening⟩
    exact Situation.save_of_unplaced (met.changed.path.trans unplaced)
  -- Each round that goes on leaves less of the course.
  suffices ends_ : ∀ left keys s, setting.Reaches store world s → Path setting keys opening s →
      n - keys.count key = left → ∃ last, setting.Finishes store world last from
    ends_ n [] opening (.opening opened saved) (.refl opening) rfl
  intro left
  induction left using Nat.strongRecOn with
  | ind left ih =>
      intro keys s reached path same
      rcases round_single calm single opens ends unplaced opened path with
        ⟨last, over_⟩ | ⟨more, next, goes, path, moved⟩
      · exact ⟨last, s, {}, reached, over_⟩
      · obtain ⟨-, -, -, -, bound⟩ := along_single calm single opens ends opened path
        rw [List.count_append] at bound
        refine ih (n - (keys ++ more).count key) ?_ _ next (.round {} reached goes) path rfl
        rw [List.count_append]
        omega

end

/-- A run of one key of the batch alone, with its first features, and with so many slots. -/
def alone (setting : Setting Ask Answer σ) (key : String) (slots : Nat) : Setting Ask Answer σ :=
  { setting with
    config := { setting.config with concurrency := slots }
    batch := { setting.batch with features := (setting.batch.features? key).toList } }

/-- The record of a key with which a run begins: it may have to start again. -/
def recordAt (setting : Setting Ask Answer σ) (store : BatchStore) (key : String) : JobRecord :=
  let found := store.recordOf key
  if Run.needsReset setting.config found then found.reset else found

variable {slots : Nat} {own : BatchStore}

theorem alone_keys (member : key ∈ setting.batch.keys) : (setting.alone key slots).batch.keys = [key] := by
  obtain ⟨features, found, named⟩ := Batch.features?_of_mem member
  simp [alone, found, Batch.keys, named, List.eraseDups_cons]

theorem alone_terms (member : key ∈ setting.batch.keys) : (setting.alone key slots).terms key = setting.terms key := by
  obtain ⟨features, found, named⟩ := Batch.features?_of_mem member
  have same : (setting.alone key slots).batch.features? key = some features := by
    show (setting.batch.features? key).toList.find? (·.key == key) = some features
    simp [found, named]
  simp only [terms, same, found]
  rfl

theorem Calm.alone (calm : setting.Calm separation store world) (member : key ∈ setting.batch.keys)
    (same : own.recordOf key = store.recordOf key) : (setting.alone key slots).Calm separation own world where
  ticks := ⟨calm.ticks.punctual, calm.ticks.answers, calm.ticks.cancelAt⟩
  start := calm.start
  never := calm.never
  owns := by
    rw [OwnsIds, alone_keys member]
    intro other present
    obtain rfl := List.mem_singleton.mp present
    rw [same]
    exact calm.owns other member

/-- How many slots there are has nothing to do with how a job opens. -/
theorem opens_alone {now : Nat} {moment : Timestamp} {found : JobRecord}
    (opens : Opens setting.config now moment found first) :
    Opens (setting.alone key slots).config now moment found first := by
  cases opens with
  | pending pending => exact .pending pending
  | restarts reset => exact .restarts reset
  | adopts handedOver named adopted => exact .adopts handedOver named adopted
  | keeps terminal kept => exact .keeps terminal kept

/-- Jobs do not get into each other's way. A run that is not cancelled and ends well makes of the record of a key what
the run of this key alone makes of it, only so much later; and that run does end well. How many slots either run has
does not matter. -/
theorem Finishes.isolated (calm : setting.Calm separation store world) (finished : setting.Finishes store world last)
    (member : key ∈ setting.batch.keys) (slots : Nat) :
    ∃ delay record, IsWhole delay ∧ last.run.store.get? key = some record ∧
      (∃ only, (setting.alone key slots).Finishes (store.alone key) world only) ∧
      ∀ own only, own.recordOf key = store.recordOf key → (setting.alone key slots).Finishes own world only →
        ∃ alone, only.run.store.get? key = some alone ∧
          JobRecord.Delayed setting.clock delay (setting.recordAt store key) alone record := by
  obtain ⟨first, start, n, record, opens, found, later, whole, pinned, ends⟩ := calm.ends finished member
  obtain ⟨delay, rfl⟩ := Nat.exists_eq_add_of_le later
  have delays : IsWhole delay := by
    have begun := calm.start
    unfold IsWhole at *
    omega
  have still : (first.toLife separation key world.state).stage.later delay =
      (first.toLife separation key world.state).stage := by
    by_cases pending : first.place = .pending
    · simp [View.toLife, pending, Stage.later]
    · obtain rfl : delay = 0 := Nat.add_eq_left.mp (pinned (.inl pending))
      exact Stage.later_zero _
  obtain ⟨sooner, ends, delayed⟩ := ends.sooner delays still
  rw [← alone_terms member] at ends
  refine ⟨delay, record, delays, found, ?_, fun own only same finished => ?_⟩
  · refine (calm.alone member (store.recordOf_alone key)).finishes (alone_keys member) ?_ ends rfl
    rw [BatchStore.recordOf_alone]
    exact opens_alone opens
  · obtain ⟨first', start, m, alone, opens', found', -, -, pinned', ends'⟩ :=
      (calm.alone member same).ends finished (alone_keys member ▸ List.mem_singleton_self key)
    rw [same] at opens'
    obtain rfl := (opens_alone opens).unique opens'
    obtain rfl := pinned' (.inr fun other present => List.mem_singleton.mp (alone_keys member ▸ present))
    obtain rfl := ends.unique ends'
    refine ⟨_, found', ?_⟩
    rw [recordAt, ← opens.record_eq]
    exact delayed

/-- The service takes every job under its key after five milliseconds, and the one of "ada" fails. -/
def oneFails : Script where
  submits key _ := ⟨5000000, .ok key⟩
  polls key _ := ⟨1000000, .ok (if key = "ada" then .error "out of memory" else .done)⟩
  fetches key _ := ⟨1000000, .ok ⟨"1", key, "", "output"⟩⟩
  owner := id
  owns _ _ _ taken := (Except.ok.inj taken).symm

/-- A run of two jobs for which there is one slot. -/
def queueing : Setting Rehearsal.Ask Rehearsal.Answer (String → Script.Counts) where
  config := { concurrency := 1 }
  batch := (prompted ["ada", "bob"]).batch
  backend := Rehearsal.backend
  service := oneFails.service
  clock := ⟨⟨1700000000, 0⟩⟩
  cancelAt := none

theorem queueing_calm : queueing.Calm oneFails.separation .inMemory ⟨fun _ => {}, ⟨[]⟩, 0⟩ where
  ticks :=
    { punctual := rfl
      answers := fun question _ _ _ whole => whole.add
        (Script.isWhole_latency (fun _ _ => (by decide : IsWhole 5000000)) (fun _ _ => (by decide : IsWhole 1000000))
          (fun _ _ => (by decide : IsWhole 1000000)) question _)
      cancelAt := nofun }
  start := rfl
  never := rfl
  owns _ _ handedOver := nomatch handedOver

/-- The second job has to wait until the first one has failed; it succeeds as it does alone, but two seconds later. -/
theorem isolated_queueing : ∃ last only record alone delay,
    queueing.Finishes .inMemory ⟨fun _ => {}, ⟨[]⟩, 0⟩ last ∧ last.run.store.get? "bob" = some record ∧
      (queueing.alone "bob" 1).Finishes .inMemory ⟨fun _ => {}, ⟨[]⟩, 0⟩ only ∧ only.run.store.get? "bob" = some alone ∧
      JobRecord.Delayed queueing.clock delay (.fresh "bob") alone record ∧ record.status = .succeeded ∧
      record.submittedAt = some ⟨1700000002, 11000000⟩ ∧ alone.submittedAt = some ⟨1700000000, 5000000⟩ := by
  obtain ⟨last, record, finished, found, status, submitted⟩ : ∃ last record,
      queueing.Finishes .inMemory ⟨fun _ => {}, ⟨[]⟩, 0⟩ last ∧ last.run.store.get? "bob" = some record ∧
        record.status = .succeeded ∧ record.submittedAt = some ⟨1700000002, 11000000⟩ :=
    ⟨_, _, ⟨_, {}, .round {} (.round {} (.round {} (.round {} (.round {} (.round {} (.round {} (.round {} (.round {}
      (.round {} (.round {} (.opening rfl rfl) rfl) rfl) rfl) rfl) rfl) rfl) rfl) rfl) rfl) rfl) rfl, rfl⟩,
      rfl, rfl, rfl⟩
  obtain ⟨only, alone, finishes, kept, sooner⟩ : ∃ only alone,
      (queueing.alone "bob" 1).Finishes .inMemory ⟨fun _ => {}, ⟨[]⟩, 0⟩ only ∧
        only.run.store.get? "bob" = some alone ∧ alone.submittedAt = some ⟨1700000000, 5000000⟩ :=
    ⟨_, _, ⟨_, {}, .round {} (.round {} (.round {} (.round {} (.round {} (.round {} (.opening rfl rfl) rfl) rfl) rfl)
      rfl) rfl) rfl, rfl⟩, rfl, rfl⟩
  obtain ⟨delay, record', -, found', -, delayed⟩ := Finishes.isolated queueing_calm finished
    (show "bob" ∈ queueing.batch.keys by decide) 1
  obtain ⟨alone', kept', delayed⟩ := delayed .inMemory only rfl finishes
  cases found.symm.trans found'
  cases kept.symm.trans kept'
  exact ⟨last, only, record, alone, delay, finished, found, finishes, kept, delayed, status, submitted, sooner⟩

end Setting

end Tracker

end ImageBatch
