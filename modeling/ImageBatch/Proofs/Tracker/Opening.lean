import ImageBatch.Proofs.Tracker.Moves

/-!
How a run opens.

`Opens` says which view a job has before the first round, given the record that it had: it is pending, starts
again, is adopted, or is left alone. Every job of the batch has such a view (`Setting.opening_shows`), and the
run has to do with no other key (`Setting.opening_keys`).
-/

namespace ImageBatch.Tracker

variable {Ask : Type} {Answer : Ask → Type} {σ : Type}

/-- The view that a job with a record has when a run opens. -/
inductive Opens (config : Config) (now : Nat) (moment : Timestamp) : JobRecord → View Ask Answer → Prop where
  | pending {found} (pending : found.status = .pending) :
      Opens config now moment found ⟨.pending, found, none, []⟩
  | restarts {found} (reset : Run.needsReset config found = true) :
      Opens config now moment found ⟨.pending, found.reset, none, []⟩
  | adopts {found jobId job} (handedOver : found.status.isHandedOver = true)
      (named : found.jobId = some jobId) (adopted : Run.adopt config now moment found jobId = .ok job) :
      Opens config now moment found ⟨.waiting job, found, none, []⟩
  | keeps {found} (terminal : found.status.isTerminal = true) (kept : Run.needsReset config found = false) :
      Opens config now moment found ⟨.gone, found, none, []⟩

variable {config : Config} {now : Nat} {moment : Timestamp} {found : JobRecord} {view : View Ask Answer}
  {key : String}

/-- An adopted job is polled at once. -/
theorem Run.adopt_eq {jobId : String} {job : InFlight}
    (adopted : Run.adopt config now moment found jobId = .ok job) :
    ∃ deadline, found.deadline config.maxJobDuration = .ok deadline ∧
      job = ⟨found.userId, jobId, now, now + (deadline.map (·.remaining moment)).getD 0⟩ := by
  unfold adopt at adopted
  cases limit : found.deadline config.maxJobDuration with
  | error e => simp [limit, bind, Except.bind] at adopted
  | ok deadline =>
      refine ⟨deadline, rfl, ?_⟩
      cases deadline <;> simp [limit, bind, Except.bind, pure, Except.pure] at adopted <;> simp [← adopted]

theorem Opens.sound (opens : Opens config now moment found view) (own : found.userId = key) :
    view.Sound key := by
  cases opens with
  | pending pending => exact ⟨pending, by simp, by simp⟩
  | restarts reset => exact ⟨rfl, by simp, by simp⟩
  | adopts handedOver named adopted =>
      obtain ⟨deadline, -, rfl⟩ := Run.adopt_eq adopted
      exact ⟨⟨own, handedOver, named⟩, by simp, by simp⟩
  | keeps terminal kept => exact ⟨.inl terminal, by simp, by simp⟩

/-- A job that waits on opening is the one of the record. -/
theorem Opens.key_of_mem_jobs {job : InFlight} (opens : Opens config now moment found view) (own : found.userId = key)
    (waits : job ∈ view.place.jobs) : job.key = key := by
  cases opens with
  | pending | restarts | keeps => cases waits
  | adopts handedOver named adopted =>
      obtain ⟨deadline, -, rfl⟩ := Run.adopt_eq adopted
      obtain rfl := List.mem_singleton.mp waits
      exact own

/-- A pending job need not start again. -/
theorem Run.needsReset_of_pending (config : Config) (pending : found.status = .pending) :
    needsReset config found = false := by
  simp [needsReset, pending, JobStatus.isTerminal, JobStatus.isHandedOver]

/-- A job that the service has under an id need not start again. -/
theorem Run.needsReset_of_handedOver {jobId : String} (config : Config) (handedOver : found.status.isHandedOver = true)
    (named : found.jobId = some jobId) : needsReset config found = false := by
  rcases JobRecord.isHandedOver_iff.mp handedOver with status | status
  all_goals simp [needsReset, status, named, JobStatus.isTerminal]

/-- Opening changes a record only by starting it again. -/
theorem Opens.record_eq (opens : Opens config now moment found view) :
    view.record = if Run.needsReset config found then found.reset else found := by
  cases opens with
  | pending pending => simp [Run.needsReset_of_pending config pending]
  | restarts reset => simp [reset]
  | adopts handedOver named adopted => simp [Run.needsReset_of_handedOver config handedOver named]
  | keeps terminal kept => simp [kept]

/-- A job opens in one way. -/
theorem Opens.unique {view' : View Ask Answer} (opens : Opens config now moment found view)
    (also : Opens config now moment found view') : view' = view := by
  have fresh (pending : found.status = .pending) :
      found.status.isHandedOver = false ∧ found.status.isTerminal = false := by
    simp [pending, JobStatus.isHandedOver, JobStatus.isTerminal]
  have going (handedOver : found.status.isHandedOver = true) : found.status.isTerminal = false := by
    rcases JobRecord.isHandedOver_iff.mp handedOver with status | status <;> simp [status, JobStatus.isTerminal]
  cases opens <;> cases also <;> grind [Run.needsReset_of_pending, Run.needsReset_of_handedOver]

namespace Run

variable (Ask Answer) in
/-- Placing a key adds it to the pending keys or to the waiting jobs, or to neither, as its view says. -/
theorem place_eq {run run' : Run} (placed : place config now moment run key = .ok run')
    (present : run.store.get? key = some found) :
    ∃ view : View Ask Answer, Opens config now moment found view ∧
      run' = { run with
        store := if needsReset config found then run.store.put found.reset else run.store
        pending := run.pending ++ List.replicate view.place.queued key
        waiting := run.waiting ++ view.place.jobs } := by
  simp only [place, present] at placed
  cases reset : needsReset config found with
  | true =>
      have pending : found.reset.status = .pending := rfl
      simp only [reset, if_true, pending, pure, Except.pure, Except.ok.injEq] at placed
      exact ⟨_, .restarts reset, by simp [← placed, Place.queued, Place.jobs]⟩
  | false =>
      simp only [reset, Bool.false_eq_true, if_false] at placed
      by_cases pending : found.status = .pending
      · simp only [pending, if_true, pure, Except.pure, Except.ok.injEq] at placed
        exact ⟨_, .pending pending, by simp [← placed, Place.queued, Place.jobs]⟩
      · simp only [pending, if_false] at placed
        cases handedOver : found.status.isHandedOver with
        | false =>
            have terminal : found.status.isTerminal = true := by
              cases status : found.status <;> simp_all [JobStatus.isHandedOver, JobStatus.isTerminal]
            simp only [handedOver, Bool.false_eq_true, if_false, pure, Except.pure, Except.ok.injEq] at placed
            exact ⟨_, .keeps terminal reset, by simp [← placed, Place.queued, Place.jobs]⟩
        | true =>
            simp only [handedOver, if_true] at placed
            cases named : found.jobId with
            | none => simp [needsReset, handedOver, named] at reset
            | some jobId =>
                simp only [named] at placed
                cases adopted : adopt config now moment found jobId with
                | error e => simp [adopted, bind, Except.bind] at placed
                | ok job =>
                    simp only [adopted, bind, Except.bind, pure, Except.pure, Except.ok.injEq] at placed
                    exact ⟨_, .adopts handedOver named adopted, by simp [← placed, Place.queued, Place.jobs]⟩

/-- Placing a key starts its record again, or leaves it alone. -/
theorem place_store {run run' : Run} (placed : place config now moment run key = .ok run')
    (present : run.store.get? key = some found) :
    run'.store = if needsReset config found then run.store.put found.reset else run.store := by
  obtain ⟨-, -, rfl⟩ := place_eq Unit (fun _ => Unit) placed present
  rfl

/-- A key can be put where its record says. -/
theorem place_of_opens {run : Run} (present : run.store.get? key = some found)
    (opens : Opens config now moment found view) :
    ∃ run', place config now moment run key = .ok run' := by
  simp only [place, present]
  cases opens with
  | pending pending =>
      simp only [needsReset_of_pending config pending, Bool.false_eq_true, if_false, pending, if_true]
      exact ⟨_, rfl⟩
  | restarts reset =>
      have pending : found.reset.status = .pending := rfl
      simp only [reset, if_true, pending]
      exact ⟨_, rfl⟩
  | adopts handedOver named adopted =>
      have kept := needsReset_of_handedOver config handedOver named
      have running : found.status ≠ .pending := by
        intro pending
        rw [pending] at handedOver
        cases handedOver
      simp only [kept, Bool.false_eq_true, if_false, running, handedOver, if_true, named, adopted]
      exact ⟨_, rfl⟩
  | keeps terminal kept =>
      have settled : found.status ≠ .pending ∧ found.status.isHandedOver = false := by
        cases status : found.status <;> simp_all [JobStatus.isTerminal, JobStatus.isHandedOver]
      simp only [kept, Bool.false_eq_true, if_false, settled]
      exact ⟨_, rfl⟩

/-- The situation of a run in which nothing has happened. -/
def still (run : Run) (world : World σ) : Situation Ask Answer σ := ⟨run, [], false, world⟩

variable {run run' : Run} {world : World σ} {first : String}

/-- A key that was nowhere is in its place. -/
theorem place_own (placed : place config now moment run key = .ok run')
    (shows : (still run world : Situation Ask Answer σ).Shows key ⟨.gone, found, none, []⟩) :
    ∃ view, Opens config now moment found view ∧
      (still run' world : Situation Ask Answer σ).Shows key view := by
  obtain ⟨queue, active, waiting, operations, listed, owed, record, notes⟩ := shows
  have own : found.userId = key := BatchStore.userId_of_get? record
  obtain ⟨view, opens, rfl⟩ := place_eq Ask Answer placed record
  have jobs : ∀ job ∈ view.place.jobs, (job.key == key) = true := fun job waits =>
    beq_iff_eq.mpr (opens.key_of_mem_jobs own waits)
  have found' : (if needsReset config found then run.store.put found.reset else run.store).get? key =
      some view.record := by
    have resetOwn : found.reset.userId = key := own
    rw [opens.record_eq]
    split
    · simp [resetOwn]
    · exact record
  have idle : view.place.activities key = [] ∧ view.place.operations = [] ∧ view.owed = none ∧
      view.notes = [] := by
    cases opens <;> exact ⟨rfl, rfl, rfl, rfl⟩
  have absent : run.pending.count key = 0 := queue
  have nowhere : run.waiting.filter (·.key == key) = [] := waiting
  refine ⟨view, opens, ?_, active.trans idle.1.symm, ?_, operations.trans idle.2.1.symm, ?_,
    owed.trans idle.2.2.1.symm, found', notes.trans idle.2.2.2.symm⟩
  · simp [still, absent]
  · simp [still, nowhere, List.filter_eq_self.mpr jobs]
  · have unlisted : key ∉ run.inOperation := by simpa [still, Place.activities] using listed
    simp [still, idle.1, unlisted]

/-- Placing a key leaves the views of all others alone. -/
theorem place_other {view : View Ask Answer} (placed : place config now moment run first = .ok run')
    (other : first ≠ key) (shows : (still run world : Situation Ask Answer σ).Shows key view) :
    (still run' world : Situation Ask Answer σ).Shows key view := by
  cases present : run.store.get? first with
  | none =>
      obtain rfl : run = run' := by simpa [place, present] using placed
      exact shows
  | some found =>
      have own : found.userId = first := BatchStore.userId_of_get? present
      have resetOwn : found.reset.userId = first := own
      obtain ⟨moved, opens, rfl⟩ := place_eq Ask Answer placed present
      have jobs : ∀ job ∈ moved.place.jobs, ¬ (job.key == key) = true := by
        intro job waits
        rw [opens.key_of_mem_jobs own waits, beq_iff_eq]
        exact other
      have kept : (if needsReset config found then run.store.put found.reset else run.store).get? key =
          run.store.get? key := by
        split <;> simp [resetOwn, other]
      exact { shows with
        queue := by simpa [still, List.count_replicate, other] using shows.queue
        waiting := by simpa [still, List.filter_eq_nil_iff.mpr jobs] using shows.waiting
        record := kept.trans shows.record }

/-- Keys are placed one after another. -/
theorem exists_of_placeAll_cons {keys : List String}
    (placed : (first :: keys).foldlM (place config now moment) run = .ok run') :
    ∃ next, place config now moment run first = .ok next ∧ keys.foldlM (place config now moment) next = .ok run' := by
  cases one : place config now moment run first with
  | error e => simp [one, bind, Except.bind] at placed
  | ok next =>
      simp only [List.foldlM_cons, one, bind, Except.bind] at placed
      exact ⟨next, rfl, placed⟩

/-- Placing keys leaves the views of all others alone. -/
theorem placeAll_other {keys : List String} {view : View Ask Answer}
    (placed : keys.foldlM (place config now moment) run = .ok run') (never : key ∉ keys)
    (shows : (still run world : Situation Ask Answer σ).Shows key view) :
    (still run' world : Situation Ask Answer σ).Shows key view := by
  induction keys generalizing run with
  | nil =>
      cases placed
      exact shows
  | cons first rest ih =>
      obtain ⟨next, one, placed⟩ := exists_of_placeAll_cons placed
      rw [List.mem_cons, not_or] at never
      exact ih placed never.2 (place_other one (Ne.symm never.1) shows)

/-- Of a key that comes up once, placing all keys makes the view that it opens with. -/
theorem placeAll_shows {keys : List String} (placed : keys.foldlM (place config now moment) run = .ok run')
    (shows : (still run world : Situation Ask Answer σ).Shows key ⟨.gone, found, none, []⟩)
    (once : keys.count key = 1) :
    ∃ view, Opens config now moment found view ∧
      (still run' world : Situation Ask Answer σ).Shows key view := by
  induction keys generalizing run with
  | nil => simp at once
  | cons first rest ih =>
      obtain ⟨next, one, placed⟩ := exists_of_placeAll_cons placed
      by_cases same : first = key
      · subst same
        obtain ⟨view, opens, shows⟩ := place_own one shows
        have never : first ∉ rest := List.count_eq_zero.mp (by simpa using once)
        exact ⟨view, opens, placeAll_other placed never shows⟩
      · rw [List.count_cons_of_ne same] at once
        exact ih placed (place_other one same shows) once

/-- What is kept when records of the keys start again, is kept when the keys are placed. -/
theorem placeAll_store {keys : List String} {P : BatchStore → Prop}
    (placed : keys.foldlM (place config now moment) run = .ok run') (start : P run.store)
    (resets : ∀ store found, found.userId ∈ keys → store.get? found.userId = some found → P store →
      P (store.put found.reset)) : P run'.store := by
  induction keys generalizing run with
  | nil =>
      cases placed
      exact start
  | cons first rest ih =>
      obtain ⟨next, one, placed⟩ := exists_of_placeAll_cons placed
      refine ih placed ?_ fun store found member => resets store found (List.mem_cons_of_mem _ member)
      cases present : run.store.get? first with
      | none =>
          obtain rfl : run = next := by simpa [place, present] using one
          exact start
      | some found =>
          have own : found.userId = first := BatchStore.userId_of_get? present
          rw [place_store one present]
          split
          · exact resets run.store found (own ▸ List.mem_cons_self) (own ▸ present) start
          · exact start

/-- Placing keys touches nothing but the store and the places of these keys. -/
theorem placeAll_frame {keys : List String} (placed : keys.foldlM (place config now moment) run = .ok run') :
    ∃ store pending waiting, run' = { run with
        store
        pending := run.pending ++ pending
        waiting := run.waiting ++ waiting } ∧
      store.path = run.store.path ∧ pending ⊆ keys ∧ waiting.map (·.key) ⊆ keys := by
  induction keys generalizing run with
  | nil =>
      cases placed
      exact ⟨_, [], [], by simp, rfl, by simp, by simp⟩
  | cons first rest ih =>
      obtain ⟨next, one, placed⟩ := exists_of_placeAll_cons placed
      obtain ⟨store, pending, waiting, rfl, path, queued, waits⟩ := ih placed
      cases present : run.store.get? first with
      | none =>
          obtain rfl : run = next := by simpa [place, present] using one
          exact ⟨store, pending, waiting, rfl, path, by grind, by grind⟩
      | some found =>
          have own : found.userId = first := BatchStore.userId_of_get? present
          obtain ⟨view, opens, rfl⟩ := place_eq Unit (fun _ => Unit) one present
          refine ⟨store, List.replicate view.place.queued first ++ pending, view.place.jobs ++ waiting,
            by simp, path.trans ?_, ?_, ?_⟩
          · split <;> rfl
          · intro key member
            obtain member | member := List.mem_append.mp member
            · exact List.eq_of_mem_replicate member ▸ List.mem_cons_self
            · exact List.mem_cons_of_mem _ (queued member)
          · intro key member
            rw [List.map_append, List.mem_append] at member
            obtain member | member := member
            · obtain ⟨job, waits, rfl⟩ := List.mem_map.mp member
              exact opens.key_of_mem_jobs own waits ▸ List.mem_cons_self
            · exact List.mem_cons_of_mem _ (waits member)

end Run

namespace Setting

variable {setting : Setting Ask Answer σ} {store : BatchStore} {world : World σ}
  {opening : Situation Ask Answer σ}

theorem opening_eq (opened : setting.opening store world = .ok opening) :
    ∃ run, Run.start setting.config setting.batch world.now (setting.clock.at world.now) store = .ok run ∧
      opening = Run.still run world := by
  unfold Setting.opening at opened
  cases started : Run.start setting.config setting.batch world.now (setting.clock.at world.now) store with
  | error e => simp [started, bind, Except.bind] at opened
  | ok run =>
      exact ⟨run, rfl, by simpa [started, bind, Except.bind, pure, Except.pure, Run.still, eq_comm] using opened⟩

theorem opening_world (opened : setting.opening store world = .ok opening) : opening.world = world := by
  obtain ⟨run, -, rfl⟩ := opening_eq opened
  rfl

theorem opening_journal (opened : setting.opening store world = .ok opening) : opening.run.journal = [] := by
  obtain ⟨run, started, rfl⟩ := opening_eq opened
  obtain ⟨_, _, _, rfl, -⟩ := Run.placeAll_frame started
  rfl

/-- What the enrolled store has, and what is kept when records of the batch start again, a run opens with. -/
theorem opening_store {P : BatchStore → Prop} (opened : setting.opening store world = .ok opening)
    (enrolled : P (store.enroll setting.batch.keys).1)
    (resets : ∀ store found, found.userId ∈ setting.batch.keys → store.get? found.userId = some found → P store →
      P (store.put found.reset)) : P opening.run.store := by
  obtain ⟨run, started, rfl⟩ := opening_eq opened
  exact Run.placeAll_store started enrolled resets

/-- Every job of the batch has a view to begin with. -/
theorem opening_shows {key : String} (opened : setting.opening store world = .ok opening)
    (member : key ∈ setting.batch.keys) :
    ∃ view, Opens setting.config world.now (setting.clock.at world.now) (store.recordOf key) view ∧
      opening.Shows key view := by
  obtain ⟨run, started, rfl⟩ := opening_eq opened
  have once : setting.batch.keys.count key = 1 := by rw [Batch.count_keys, if_pos member]
  refine Run.placeAll_shows started ?_ once
  exact ⟨rfl, rfl, rfl, rfl, by simp [Run.still, Place.activities], rfl,
    BatchStore.get?_enroll_of_mem store member, rfl⟩

/-- A run of one key can open. -/
theorem exists_opening (single : setting.batch.keys = [key])
    (opens : Opens setting.config world.now (setting.clock.at world.now) (store.recordOf key) view) :
    ∃ opening, setting.opening store world = .ok opening := by
  have member : key ∈ setting.batch.keys := single ▸ List.mem_singleton_self key
  obtain ⟨run, placed⟩ : ∃ run, Run.place setting.config world.now (setting.clock.at world.now)
      ⟨(store.enroll setting.batch.keys).1, [], [], [], [], none, []⟩ key = .ok run :=
    Run.place_of_opens (BatchStore.get?_enroll_of_mem store member) opens
  rw [single] at placed
  simp only [Setting.opening, Run.start, single, List.foldlM_cons, placed, List.foldlM_nil]
  exact ⟨_, rfl⟩

/-- A run begins with no other keys than those of the batch. -/
theorem opening_keys (opened : setting.opening store world = .ok opening) :
    opening.keys ⊆ setting.batch.keys := by
  obtain ⟨run, started, rfl⟩ := opening_eq opened
  obtain ⟨store, pending, waiting, rfl, -, queued, waits⟩ := Run.placeAll_frame started
  intro key member
  simp only [Situation.keys, Run.still, List.map_nil, List.append_nil, List.nil_append,
    List.mem_append] at member
  exact member.elim (fun member => queued member) fun member => waits member

theorem opening_proper (opened : setting.opening store world = .ok opening) : opening.Proper := by
  obtain ⟨run, started, rfl⟩ := opening_eq opened
  obtain ⟨_, _, _, rfl, -⟩ := Run.placeAll_frame started
  exact ⟨by simp [Run.still], fun _ => rfl⟩

end Setting

end ImageBatch.Tracker
