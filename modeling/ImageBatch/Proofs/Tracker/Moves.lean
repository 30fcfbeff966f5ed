import ImageBatch.Proofs.Tracker.Round
import ImageBatch.Proofs.Tracker.View

/-!
Steps as they look from one job.

A step that concerns a job is a move of its view (`Step.moves`), and any other step leaves the view as it is,
but that a cancellation marks it (`Step.frame`). No step brings in a key that the run has nothing to do with
(`Step.mentions`).
-/

namespace ImageBatch.Tracker

variable {Ask : Type} {Answer : Ask → Type} {σ : Type} {setting : Setting Ask Answer σ}

/-! ### Lists by keys -/

section Lists

variable {α : Type} {p : α → Bool} {before after : List α} {a b : α}

theorem filter_middle (other : p a = false) :
    (before ++ a :: after).filter p = (before ++ after).filter p := by
  simp [List.filter_append, other]

/-- The one element that a filter keeps, and nothing else. -/
theorem filter_middle_eq_singleton (own : p a = true) (one : (before ++ a :: after).filter p = [b]) :
    a = b ∧ (before ++ after).filter p = [] := by
  rw [List.filter_append, List.filter_cons_of_pos own, List.append_eq_singleton_iff] at one
  obtain ⟨none, same⟩ | ⟨-, absurd⟩ := one
  · obtain ⟨rfl, rest⟩ := List.cons.inj same
    exact ⟨rfl, by rw [List.filter_append, none, rest, List.append_nil]⟩
  · cases absurd

end Lists

/-- A view after the cancellation was noticed: the job gets one more outcome if it is under way. -/
def View.marked (view : View Ask Answer) : View Ask Answer := { view with owed := some view.place.isUnderWay }

theorem View.Sound.marked {view : View Ask Answer} {key : String} (sound : view.Sound key)
    (unmarked : view.owed = none) : view.marked.Sound key := by
  obtain ⟨fits, -, accepted⟩ := sound
  obtain ⟨place, record, owed, notes⟩ := view
  obtain rfl := unmarked
  refine ⟨?_, by simp [View.marked], accepted⟩
  cases place with
  | gone => exact .inl (fits.resolve_right (by simp))
  | pending | submitting | waiting | observing => exact fits

namespace Situation.Shows

variable {s : Situation Ask Answer σ} {key : String} {view : View Ask Answer}

/-- The job is under way exactly if it waits or an operation is under way for it. -/
theorem isUnderWay_iff (shows : s.Shows key view) :
    view.place.isUnderWay = true ↔ key ∈ s.run.waiting.map (·.key) ++ s.run.inOperation := by
  have waits : key ∈ s.run.waiting.map (·.key) ↔ view.place.jobs ≠ [] := by
    rw [← shows.waiting]
    simp [List.filter_eq_nil_iff]
  rw [List.mem_append, waits, shows.listed]
  cases view.place <;> simp [Place.isUnderWay, Place.jobs, Place.activities]

/-- At the cancellation the view is marked. -/
theorem noteCancelled (shows : s.Shows key view) (unmarked : s.run.drain = none) :
    Situation.Shows { s with run := s.run.noteCancelled } key view.marked := by
  have noted : s.run.noteCancelled =
      { s.run with drain := some ((s.run.waiting.map (·.key) ++ s.run.inOperation).eraseDups) } := by
    simp [Run.noteCancelled, unmarked]
  have mem := shows.isUnderWay_iff
  rw [noted]
  exact { shows with owed := by simp [View.marked, Bool.eq_iff_iff (b := view.place.isUnderWay), mem] }

/-- Nothing changes for a job when another key leaves the queue. -/
theorem queue_other {first : String} {rest : List String} (other : first ≠ key)
    (queued : s.run.pending = first :: rest) (shows : s.Shows key view) :
    Situation.Shows { s with run := s.queue rest } key view := by
  have queue := shows.queue
  rw [queued, List.count_cons_of_ne other] at queue
  exact { shows with queue := queue }

/-- Nothing changes for a job when an operation is taken up for another one. -/
theorem operations_other {now : Nat} {operation : Operation Ask Answer} {others : List (Operation Ask Answer)}
    (other : operation.key ≠ key) (picked : (operation, others) ∈ Situation.dueOperations now s.operations)
    (shows : s.Shows key view) : Situation.Shows { s with operations := others } key view := by
  obtain ⟨-, before, after, whole, rfl⟩ := Situation.mem_dueOperations picked
  have operations := shows.operations
  rw [whole, filter_middle (by simpa using other)] at operations
  exact { shows with operations := operations }

/-- Nothing changes for a job when another one is taken from the waiting ones. -/
theorem waiting_other {before after : List InFlight} {job : InFlight} (other : job.key ≠ key)
    (held : s.run.waiting = before ++ job :: after) (shows : s.Shows key view) :
    Situation.Shows { s with run := s.parked (before ++ after) } key view := by
  have waiting := shows.waiting
  rw [held, filter_middle (by simpa using other)] at waiting
  exact { shows with waiting := waiting }

/-- Nothing changes for a job when another one begins an operation. -/
theorem starts_other {run : Run} {activity : Activity} (other : activity.key ≠ key)
    (same : Situation.Shows { s with run } key view) :
    (s.starts setting run activity).Shows key view := by
  obtain ⟨queue, active, waiting, operations, listed, owed, record, notes⟩ := same
  refine ⟨queue, ?_, waiting, ?_, ?_, owed, record, ?_⟩
  · simpa [Situation.starts, Situation.launch, Run.begin, Run.note, other] using active
  · simpa [Situation.starts, Situation.launch, other] using operations
  · simpa [Situation.starts, Situation.launch, Run.begin, Run.note, Ne.symm other] using listed
  · simpa [Situation.starts, Situation.launch, Run.begin, Run.note, other] using notes

/-- The job that begins an operation, once it is taken out of its old place. -/
theorem starts_own {run : Run} {activity : Activity} {place : Place Ask Answer} {record : JobRecord}
    {owed : Option Bool} {notes : List (Nat × Note)} (own : activity.key = key)
    (shows : Situation.Shows { s with run } key ⟨.gone, record, owed, notes⟩) (queued : place.queued = 0)
    (jobs : place.jobs = []) (activities : place.activities key = [activity])
    (operations : place.operations = [.start setting.backend s.world.now activity]) :
    (s.starts setting run activity).Shows key
      ⟨place, record, owed, (s.world.now, .began activity) :: notes⟩ := by
  obtain ⟨queue, active, waiting, under, listed, owes, found, journal⟩ := shows
  have active : run.active.filter (·.key == key) = [] := active
  have under : s.operations.filter (·.key == key) = [] := under
  refine ⟨queue.trans queued.symm, ?_, waiting.trans jobs.symm, ?_, ?_, owes, found, ?_⟩
  · simp [Situation.starts, Situation.launch, Run.begin, Run.note, own, active, activities]
  · simp [Situation.starts, Situation.launch, own, under, operations]
  · simp [Situation.starts, Situation.launch, Run.begin, own, activities]
  · simpa [Situation.starts, Situation.launch, Run.begin, Run.note, own] using journal

/-- Nothing changes for a job when another one has an outcome. -/
theorem conclude_other {completion : Completion} (other : completion.key ≠ key) (shows : s.Shows key view)
    (config : Config) (now : Nat) (moment : Timestamp) :
    Situation.Shows { s with run := s.run.conclude config now moment completion } key view := by
  obtain ⟨store, what, waiting, own, -, others, jobs, effect⟩ :=
    Run.conclude_frame config now moment s.run completion
  have none_ : waiting.filter (·.key == key) = [] := by
    simp only [List.filter_eq_nil_iff, beq_iff_eq]
    exact fun job member same => other ((jobs job member).symm.trans same)
  rw [effect]
  refine ⟨shows.queue, ?_, ?_, shows.operations, ?_, ?_, ?_, ?_⟩
  · rw [← shows.active, List.filter_filter]
    exact List.filter_congr fun activity _ => by grind
  · simpa [none_] using shows.waiting
  · simpa [Ne.symm other] using shows.listed
  · rw [← shows.owed]
    cases s.run.drain with
    | none => rfl
    | some keys =>
        have kept : key ∈ keys.filter (· != completion.key) ↔ key ∈ keys := by simp [Ne.symm other]
        simp [kept]
  · exact (others key (Ne.symm other)).trans shows.record
  · simpa [own, other] using shows.notes

/-- The job that has an outcome and that nothing else is under way for. -/
theorem conclude_own {completion : Completion} {config : Config} {now : Nat} {moment : Timestamp}
    {place place' : Place Ask Answer} {record next : JobRecord} {owed : Option Bool}
    {notes : List (Nat × Note)} (own : completion.key = key)
    (shows : s.Shows key ⟨place, record, owed, notes⟩)
    (taken : record.transition completion.event moment = .ok next)
    {operations : List (Operation Ask Answer)} {waiting : List InFlight}
    (free : operations.filter (·.key == key) = [] ∧ waiting.filter (·.key == key) = [])
    (settled : place.queued = 0 ∧ place'.queued = 0 ∧ place'.activities key = [] ∧ place'.operations = [])
    (rests : place'.jobs = if next.isInFlight = true ∧ owed ≠ some true then
      (completion.resting config now).toList else []) :
    Situation.Shows { s with
      run := (s.parked waiting).conclude config now moment completion
      operations } key
      ⟨place', next, owed.map fun _ => false,
        (now, .applied key completion.event) :: (now, .concluded completion) :: notes⟩ := by
  obtain ⟨queue, active, -, -, listed, owes, found, journal⟩ := shows
  dsimp only at queue active listed owes found journal
  subst own
  have named : next.userId = completion.key :=
    (JobRecord.transition_userId taken).trans (BatchStore.userId_of_get? found)
  have resting (job) (rests : completion.resting config now = some job) : job.key = completion.key :=
    Completion.key_of_resting rests
  have going : (s.parked waiting).isDraining completion.key = false ↔ owed ≠ some true := by
    rw [← owes]
    cases drain : s.run.drain <;> simp [Run.isDraining, Situation.parked, drain]
  have parked : (s.parked waiting).store.get? completion.key = some record := found
  simp only [Run.conclude_of_taken parked taken, going, ← rests]
  obtain ⟨idle, idle', idleActive, idleOperations⟩ := settled
  refine ⟨?_, ?_, ?_, ?_, ?_, ?_, ?_, ?_⟩
  · simpa [idle', Situation.parked] using queue.trans idle
  · simp [idleActive, List.filter_filter]
  · have own : ∀ job ∈ place'.jobs, (job.key == completion.key) = true := by
      rw [rests]
      split <;> simp only [Option.mem_toList, List.not_mem_nil, false_imp_iff, implies_true, beq_iff_eq]
      exact resting
    simp [Situation.parked, free.2, List.filter_eq_self.mpr own]
  · simp [free.1, idleOperations]
  · simp [idleActive]
  · rw [← owes]
    cases drain : s.run.drain <;> simp [Situation.parked, drain]
  · simp [named]
  · simpa [Situation.parked] using journal

/-! ### Places from what is at hand -/

theorem pending_of_queued {rest : List String} (shows : s.Shows key view)
    (queued : s.run.pending = key :: rest) : view.place = .pending ∧ rest.count key = 0 := by
  have queue := shows.queue
  rw [queued, List.count_cons_self] at queue
  cases place : view.place <;> simp_all [Place.queued]

theorem waiting_of_held {before after : List InFlight} {job : InFlight} (shows : s.Shows job.key view)
    (held : s.run.waiting = before ++ job :: after) :
    view.place = .waiting job ∧ (before ++ after).filter (·.key == job.key) = [] := by
  have waiting := shows.waiting
  rw [held] at waiting
  cases place : view.place with
  | waiting same =>
      rw [place] at waiting
      obtain ⟨rfl, free⟩ := filter_middle_eq_singleton (by simp) waiting
      exact ⟨rfl, free⟩
  | pending | submitting | observing | gone => simp [place, Place.jobs] at waiting

theorem operation_of_picked {now : Nat} {operation : Operation Ask Answer}
    {others : List (Operation Ask Answer)} (shows : s.Shows operation.key view)
    (picked : (operation, others) ∈ Situation.dueOperations now s.operations) :
    ((∃ warnings job, view.place = .submitting warnings job operation) ∨
      ∃ job, view.place = .observing job operation) ∧ others.filter (·.key == operation.key) = [] := by
  have operations := shows.operations
  obtain ⟨-, before, after, whole, rfl⟩ := Situation.mem_dueOperations picked
  rw [whole] at operations
  cases place : view.place with
  | submitting warnings job same =>
      rw [place] at operations
      obtain ⟨rfl, free⟩ := filter_middle_eq_singleton (by simp) operations
      exact ⟨.inl ⟨warnings, job, rfl⟩, free⟩
  | observing job same =>
      rw [place] at operations
      obtain ⟨rfl, free⟩ := filter_middle_eq_singleton (by simp) operations
      exact ⟨.inr ⟨job, rfl⟩, free⟩
  | pending | waiting | gone => simp [place, Place.operations] at operations

end Situation.Shows

/-! ### Steps -/

variable {s t : Situation Ask Answer σ} {touched : Option String} {key : String} {view : View Ask Answer}

/-- A step that does not concern a job leaves its view alone, or marks it after the cancellation. -/
theorem Step.frame (shows : s.Shows key view) (other : touched ≠ some key)
    (step : Step setting touched s t) :
    t.Shows key view ∨ s.cancelled = true ∧ s.run.drain = none ∧ t.Shows key view.marked := by
  cases step with
  | waits | saves | notices => exact .inl { shows with }
  | drains cancelled =>
      cases drain : s.run.drain with
      | none => exact .inr ⟨cancelled, rfl, shows.noteCancelled drain⟩
      | some keys =>
          rw [Run.noteCancelled_of_marked drain]
          exact .inl shows
  | skips going queued unknown => exact .inl (shows.queue_other (by simpa using other) queued)
  | @fails _ first rest features e going queued free known unresolved =>
      have ne : first ≠ key := by simpa using other
      obtain ⟨store, what, inFlight, own, -, others, effect⟩ :=
        Run.apply_frame s.world.now (s.moment setting) s.run.store first (.constructionFailed e.message)
      rw [effect (s.queue rest) rfl]
      exact .inl { shows.queue_other ne queued with
        record := (others key (Ne.symm ne)).trans shows.record
        notes := by simpa [own, ne, Situation.queue] using shows.notes }
  | submits going queued free known resolved =>
      have ne := by simpa using other
      exact .inl (.starts_other ne (shows.queue_other ne queued))
  | @asks _ operation others question next reply picked due asks replied =>
      have ne : operation.key ≠ key := by simpa using other
      have without := shows.operations_other ne picked
      exact .inl { without with operations := by simpa [ne] using without.operations }
  | concludes picked ends own nameable =>
      have ne := by simpa using other
      exact .inl ((shows.operations_other ne picked).conclude_other (own ▸ ne) ..)
  | polls held due early =>
      have ne := by simpa using other
      exact .inl (.starts_other ne (shows.waiting_other ne held))
  | expires held due =>
      have ne := by simpa using other
      exact .inl ((shows.waiting_other ne held).conclude_other (by exact ne) ..)

namespace Situation.Shows

variable {operation : Operation Ask Answer} {others : List (Operation Ask Answer)} {completion : Completion}
  {record : JobRecord} {owed : Option Bool} {notes : List (Nat × Note)}

/-- The end of a submission is a move of the job. -/
theorem ends_submitting {warnings : List String} {job : ResolvedJob}
    (shows : s.Shows key ⟨.submitting warnings job operation, record, owed, notes⟩)
    (sound : View.Sound key ⟨.submitting warnings job operation, record, owed, notes⟩)
    (due : operation.eventAt ≤ s.world.now) (ends : operation.EndsWith s.world.now completion)
    (nameable : s.run.canConclude setting.config s.world.now (s.moment setting) completion = true)
    (rest : others.filter (·.key == key) = []) :
    ∃ view', Situation.Shows { s with
        operations := others
        run := s.run.conclude setting.config s.world.now (s.moment setting) completion } key view' ∧
      Move setting key s.world s.world ⟨.submitting warnings job operation, record, owed, notes⟩ view' := by
  have free := And.intro rest shows.waiting
  obtain ⟨pending, serves⟩ := sound.fits
  have yields := serves.yields ends
  cases yields with
  | submitted _ _ _ result =>
      cases result with
      | ok jobId =>
          have taken := JobRecord.transition_submitted (s.moment setting) pending jobId warnings
          have named := Run.nameable_of_taken shows.record taken rfl rfl nameable
          refine ⟨_, ?_, .accepted due ends named⟩
          exact shows.conclude_own rfl taken free ⟨rfl, by simp, by simp, by simp⟩ (by simp [Completion.resting])
      | error e =>
          have taken := JobRecord.transition_submitFailed (s.moment setting) pending (Run.submitFailure e)
          refine ⟨_, ?_, .declined due ends⟩
          exact shows.conclude_own rfl taken free ⟨rfl, rfl, rfl, rfl⟩ (ite_self []).symm

/-- The end of an observation is a move of the job. -/
theorem ends_observing {job : InFlight} (shows : s.Shows key ⟨.observing job operation, record, owed, notes⟩)
    (sound : View.Sound key ⟨.observing job operation, record, owed, notes⟩)
    (due : operation.eventAt ≤ s.world.now) (ends : operation.EndsWith s.world.now completion)
    (nameable : s.run.canConclude setting.config s.world.now (s.moment setting) completion = true)
    (rest : others.filter (·.key == key) = []) :
    ∃ view', Situation.Shows { s with
        operations := others
        run := s.run.conclude setting.config s.world.now (s.moment setting) completion } key view' ∧
      Move setting key s.world s.world ⟨.observing job operation, record, owed, notes⟩ view' := by
  have free := And.intro rest shows.waiting
  obtain ⟨same, handedOver, known, serves⟩ := sound.fits
  have yields := serves.yields ends
  cases yields with
  | polled _ result =>
      have taken := JobRecord.transition_polled (s.moment setting) handedOver result
      have identified : record.jobId.isSome = true := Option.isSome_iff_exists.mpr ⟨_, known⟩
      have inFlight := JobRecord.isInFlight_observe identified result (s.moment setting)
      have own : (Completion.observed job (.polled result)).key = _ := same
      refine ⟨_, ?_, .observed due ends fun going => ?_⟩
      · refine shows.conclude_own own taken free ⟨rfl, ?_, ?_, ?_⟩ ?_
        all_goals cases going : result.isOpen <;> simp [inFlight, going, Completion.resting]
        all_goals rfl
      · have found : s.run.store.get? (Completion.observed job (.polled result)).key = some record := by
          rw [own]
          exact shows.record
        exact Run.nameable_of_taken found taken (inFlight.trans going) rfl nameable
  | expired _ =>
      have taken := JobRecord.transition_deadlineExceeded (s.moment setting) handedOver
      have own : (Completion.observed job .deadlineExceeded).key = _ := same
      refine ⟨_, ?_, .timesOut due ends⟩
      exact shows.conclude_own own taken free ⟨rfl, rfl, rfl, rfl⟩ rfl

end Situation.Shows

/-- A step that concerns a job of the batch is a move of its view. -/
theorem Step.moves (proper : s.Proper) (member : key ∈ setting.batch.keys) (shows : s.Shows key view)
    (sound : view.Sound key) (step : Step setting (some key) s t) :
    ∃ view', t.Shows key view' ∧ Move setting key s.world t.world view view' := by
  obtain ⟨place, record, owed, notes⟩ := view
  generalize touches : some key = touched at step
  cases step with
  | waits | saves | notices | drains => cases touches
  | skips going queued unknown =>
      obtain rfl := Option.some.inj touches
      obtain ⟨features, known, -⟩ := Batch.features?_of_mem member
      rw [unknown] at known
      cases known
  | fails going queued free known unresolved =>
      obtain rfl := Option.some.inj touches
      obtain ⟨rfl, others⟩ := shows.pending_of_queued queued
      obtain rfl : none = owed := by simpa [proper.unmarked going] using shows.owed
      have taken := JobRecord.transition_constructionFailed (s.moment setting) sound.fits
      refine ⟨_, ?_, .fails known unresolved⟩
      rw [Run.apply_of_taken (by exact shows.record) (taken _)]
      have named : record.userId = key := BatchStore.userId_of_get? shows.record
      exact { shows with
        queue := others
        record := by simp [JobRecord.terminate, named, Situation.moment]
        notes := by simpa [Situation.queue, Run.note] using shows.notes }
  | submits going queued free known resolved =>
      obtain rfl := Option.some.inj touches
      obtain ⟨rfl, others⟩ := shows.pending_of_queued queued
      obtain rfl : none = owed := by simpa [proper.unmarked going] using shows.owed
      refine ⟨_, ?_, .submits known resolved rfl⟩
      exact .starts_own rfl { shows with queue := others } rfl rfl rfl rfl
  | asks picked due asks replied =>
      obtain rfl := Option.some.inj touches
      obtain ⟨⟨warnings, job, rfl⟩ | ⟨job, rfl⟩, rest⟩ := shows.operation_of_picked picked
      · refine ⟨_, ?_, .asksSubmitting due asks replied⟩
        exact { shows with operations := by simp [rest, Place.operations] }
      · refine ⟨_, ?_, .asksObserving due asks replied⟩
        exact { shows with operations := by simp [rest, Place.operations] }
  | concludes picked ends own nameable =>
      obtain rfl := Option.some.inj touches
      obtain ⟨due, -⟩ := Situation.mem_dueOperations picked
      obtain ⟨⟨warnings, job, rfl⟩ | ⟨job, rfl⟩, rest⟩ := shows.operation_of_picked picked
      · exact shows.ends_submitting sound due ends nameable rest
      · exact shows.ends_observing sound due ends nameable rest
  | polls held due early =>
      obtain rfl := Option.some.inj touches
      obtain ⟨rfl, free⟩ := shows.waiting_of_held held
      refine ⟨_, ?_, .polls due early⟩
      exact .starts_own rfl { shows with waiting := free } rfl rfl rfl rfl
  | expires held due =>
      obtain rfl := Option.some.inj touches
      obtain ⟨rfl, free⟩ := shows.waiting_of_held held
      have taken := JobRecord.transition_deadlineExceeded (s.moment setting) sound.fits.2.1
      refine ⟨_, ?_, .expires due⟩
      exact shows.conclude_own rfl taken ⟨shows.operations, free⟩ ⟨rfl, rfl, rfl, rfl⟩ rfl

/-! ### Keys -/

/-- The keys with which a run has something to do, or had. -/
def Situation.keys (s : Situation Ask Answer σ) : List String :=
  s.run.pending ++ s.run.waiting.map (·.key) ++ s.run.active.map (·.key) ++ s.run.inOperation ++
    s.operations.map (·.key) ++ s.run.journal.map (·.2.key)

theorem Situation.mem_keys_of_waiting {job : InFlight} (waits : job ∈ s.run.waiting) : job.key ∈ s.keys := by
  simp only [keys, List.mem_append]
  exact .inl (.inl (.inl (.inl (.inr (List.mem_map_of_mem waits)))))

theorem Situation.mem_keys_of_activity {activity : Activity} (under : activity ∈ s.run.active) :
    activity.key ∈ s.keys := by
  simp only [keys, List.mem_append]
  exact .inl (.inl (.inl (.inr (List.mem_map_of_mem under))))

theorem Situation.mem_keys_of_operation {operation : Operation Ask Answer} (under : operation ∈ s.operations) :
    operation.key ∈ s.keys := by
  simp only [keys, List.mem_append]
  exact .inl (.inr (List.mem_map_of_mem under))

theorem Situation.mem_keys_starts {run : Run} {activity : Activity}
    (mentioned : key ∈ (s.starts setting run activity).keys) :
    key = activity.key ∨ key ∈ Situation.keys { s with run } := by
  simp only [keys, starts, launch, Run.begin, Run.note, List.map_append, List.map_cons, List.map_nil,
    List.mem_append, List.mem_cons, Note.key_began, Operation.start_key] at mentioned ⊢
  grind

theorem Situation.mem_keys_conclude {completion : Completion} {config : Config} {now : Nat}
    {moment : Timestamp}
    (mentioned : key ∈ Situation.keys { s with run := s.run.conclude config now moment completion }) :
    key = completion.key ∨ key ∈ s.keys := by
  obtain ⟨store, what, waiting, own, -, -, jobs, effect⟩ :=
    Run.conclude_frame config now moment s.run completion
  rw [effect] at mentioned
  simp only [keys, List.map_append, List.map_cons, List.mem_append, List.mem_cons, own,
    Note.key_concluded] at mentioned ⊢
  have fresh : key ∈ waiting.map (·.key) → key = completion.key := by grind
  have active : key ∈ (s.run.active.filter (·.key != completion.key)).map (·.key) →
      key ∈ s.run.active.map (·.key) := by grind
  have listed : key ∈ s.run.inOperation.filter (· != completion.key) → key ∈ s.run.inOperation := by grind
  grind

theorem Situation.keys_queue_subset {first : String} {rest : List String} (queued : s.run.pending = first :: rest) :
    Situation.keys { s with run := s.queue rest } ⊆ s.keys := by
  intro key mentioned
  simp only [keys, queue, queued, List.mem_append, List.mem_cons] at mentioned ⊢
  grind

theorem Situation.keys_parked_subset {before after : List InFlight} {job : InFlight}
    (held : s.run.waiting = before ++ job :: after) :
    Situation.keys { s with run := s.parked (before ++ after) } ⊆ s.keys := by
  intro key mentioned
  simp only [keys, parked, held, List.map_append, List.map_cons, List.mem_append, List.mem_cons] at mentioned ⊢
  grind

theorem Situation.keys_others_subset {now : Nat} {operation : Operation Ask Answer}
    {others : List (Operation Ask Answer)} (picked : (operation, others) ∈ dueOperations now s.operations) :
    Situation.keys { s with operations := others } ⊆ s.keys := by
  obtain ⟨-, before, after, whole, rfl⟩ := mem_dueOperations picked
  intro key mentioned
  simp only [keys, whole, List.map_append, List.map_cons, List.mem_append, List.mem_cons] at mentioned ⊢
  grind

/-- A step brings in no key. -/
theorem Step.mentions (step : Step setting touched s t) (mentioned : key ∈ t.keys) : key ∈ s.keys := by
  cases step with
  | waits | saves | notices => exact mentioned
  | drains cancelled =>
      rw [Run.noteCancelled_frame] at mentioned
      exact mentioned
  | skips going queued unknown => exact Situation.keys_queue_subset queued mentioned
  | @fails _ first rest features e going queued free known unresolved =>
      obtain ⟨store, what, inFlight, own, -, others, effect⟩ :=
        Run.apply_frame s.world.now (s.moment setting) s.run.store first (.constructionFailed e.message)
      rw [effect (s.queue rest) rfl] at mentioned
      simp only [Situation.keys, Situation.queue, queued, List.map_cons, List.mem_append, List.mem_cons,
        own] at mentioned ⊢
      grind
  | submits going queued free known resolved =>
      obtain rfl | mentioned := Situation.mem_keys_starts mentioned
      · simp [Situation.keys, queued, Activity.key]
      · exact Situation.keys_queue_subset queued mentioned
  | asks picked due asks replied =>
      obtain ⟨-, before, after, whole, rfl⟩ := Situation.mem_dueOperations picked
      simp only [Situation.keys, whole, List.map_cons, List.map_append, List.mem_append,
        List.mem_cons] at mentioned ⊢
      grind
  | @concludes _ operation others completion picked ends own nameable =>
      obtain rfl | mentioned := Situation.mem_keys_conclude (s := { s with operations := others }) mentioned
      · rw [own]
        exact Situation.mem_keys_of_operation (Situation.mem_of_picked picked).1
      · exact Situation.keys_others_subset picked mentioned
  | polls held due early =>
      obtain rfl | mentioned := Situation.mem_keys_starts mentioned
      · simp [Situation.keys, held, Activity.key]
      · exact Situation.keys_parked_subset held mentioned
  | expires held due =>
      obtain rfl | mentioned := Situation.mem_keys_conclude (s := { s with run := s.parked _ }) mentioned
      · simp [Situation.keys, held, Completion.key]
      · exact Situation.keys_parked_subset held mentioned

end ImageBatch.Tracker
