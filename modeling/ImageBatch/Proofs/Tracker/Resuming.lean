import ImageBatch.Proofs.Batch.Reopening
import ImageBatch.Proofs.Tracker.Places
import ImageBatch.Proofs.Tracker.Untouched

/-!
Runs one after another.

A `Session` is a sequence of runs over one store, each cancelled at any time or not at all, with saving and
opening the store in between. Over a session no job is submitted twice: what the journals say of a key accounts
for its record (`Session.accounted`). A run keeps this since a job is submitted only while its record is pending,
and since a cancelled run waits for the outcome of every submit (`Move.accounted`, `Setting.Finishes.accounted`).
A job that a run finds handed over is only asked for under its stored id (`Move.adopted`).
-/

namespace ImageBatch.Tracker

variable {Ask : Type} {Answer : Ask → Type} {σ : Type} {setting : Setting Ask Answer σ}
  {s last : Situation Ask Answer σ} {key jobId : String} {world world' : World σ}
  {view view' : View Ask Answer} {store : BatchStore} {history : List (Nat × Note)} {record : JobRecord}

/-! ### Journals -/

/-- A submit of the key begins. -/
def Note.submits (key : String) : Note → Bool
  | .began (.submitting other _ _) => other == key
  | _ => false

/-- A submit of the key was acknowledged. -/
def Note.acknowledges (key : String) : Note → Bool
  | .concluded (.submitted other _ (.ok _)) => other == key
  | _ => false

/-- How often the key was submitted. -/
def submits (key : String) (journal : List (Nat × Note)) : Nat := journal.countP (·.2.submits key)

/-- How often a submit of the key was acknowledged. -/
def acknowledgements (key : String) (journal : List (Nat × Note)) : Nat := journal.countP (·.2.acknowledges key)

@[simp] theorem submits_cons (key : String) (entry : Nat × Note) (journal : List (Nat × Note)) :
    submits key (entry :: journal) = submits key journal + if entry.2.submits key then 1 else 0 :=
  List.countP_cons

@[simp] theorem acknowledgements_cons (key : String) (entry : Nat × Note) (journal : List (Nat × Note)) :
    acknowledgements key (entry :: journal) =
      acknowledgements key journal + if entry.2.acknowledges key then 1 else 0 :=
  List.countP_cons

/-- The entries of other keys do not count. -/
theorem submits_filter (key : String) (journal history : List (Nat × Note)) :
    submits key (journal.filter (·.2.key == key) ++ history) = submits key (journal ++ history) := by
  simp only [submits, List.countP_append, List.countP_filter]
  refine congrArg (· + _) (List.countP_congr fun entry _ => ?_)
  obtain ⟨_, note⟩ := entry
  cases note with
  | began activity => cases activity <;> simp [Note.submits, Activity.key]
  | concluded | applied | refused => simp [Note.submits]

theorem acknowledgements_filter (key : String) (journal history : List (Nat × Note)) :
    acknowledgements key (journal.filter (·.2.key == key) ++ history) = acknowledgements key (journal ++ history) := by
  simp only [acknowledgements, List.countP_append, List.countP_filter]
  refine congrArg (· + _) (List.countP_congr fun entry _ => ?_)
  obtain ⟨_, note⟩ := entry
  cases note with
  | concluded completion =>
      cases completion with
      | submitted other warnings result => cases result <;> simp [Note.acknowledges, Completion.key]
      | observed => simp [Note.acknowledges]
  | began | applied | refused => simp [Note.acknowledges]

/-! ### One run -/

/-- What happened to a job accounts for its record: it was submitted once at most and not while it is pending,
was handed over as often as the record says, and is known by its id as long as the service has it. -/
structure Accounted (key : String) (record : JobRecord) (history : List (Nat × Note)) : Prop where
  once : submits key history ≤ 1
  counted : acknowledgements key history = record.submitCount
  answered : acknowledgements key history ≤ submits key history
  idle : record.status = .pending → submits key history = 0
  named : record.status.isHandedOver = true → record.jobId.isSome = true

theorem Accounted.of_filter {journal : List (Nat × Note)}
    (accounted : Accounted key record (journal.filter (·.2.key == key) ++ history)) :
    Accounted key record (journal ++ history) := by
  obtain ⟨once, counted, answered, idle, named⟩ := accounted
  rw [submits_filter] at once answered idle
  rw [acknowledgements_filter] at counted answered
  exact ⟨once, counted, answered, idle, named⟩

/-- The same in a run that follows on a history: as long as a submit is under way it is not yet acknowledged. -/
structure View.Accounted (key : String) (history : List (Nat × Note)) (view : View Ask Answer) : Prop where
  once : submits key (view.notes ++ history) ≤ 1
  counted : acknowledgements key (view.notes ++ history) = view.record.submitCount
  answered : acknowledgements key (view.notes ++ history) ≤ submits key (view.notes ++ history)
  idle : view.place = .pending → submits key (view.notes ++ history) = 0
  owing : ∀ warnings job operation, view.place = .submitting warnings job operation →
    acknowledgements key (view.notes ++ history) < submits key (view.notes ++ history)

theorem submitCount_failSubmit (record : JobRecord) (failure : SubmitFailure) (now : Timestamp) :
    (record.failSubmit failure now).submitCount = record.submitCount := by
  cases failure <;> rfl

theorem submitCount_observe (record : JobRecord) (result : PollResult) (now : Timestamp) :
    (record.observe result now).submitCount = record.submitCount := by
  cases result <;> rfl

/-- An operation that goes on or ends without an acknowledgement leaves the account as it is. -/
theorem View.Accounted.goesOn {place place' : Place Ask Answer} {next : JobRecord} {owed owed' : Option Bool}
    {notes more : List (Nat × Note)}
    (accounted : View.Accounted key history (⟨place, record, owed, notes⟩ : View Ask Answer))
    (submitted : submits key (more ++ history) = submits key (notes ++ history))
    (acknowledged : acknowledgements key (more ++ history) = acknowledgements key (notes ++ history))
    (count : next.submitCount = record.submitCount) (begun : place' ≠ .pending)
    (same : ∀ warnings job operation, place' = .submitting warnings job operation →
      ∃ warnings job operation, place = .submitting warnings job operation) :
    View.Accounted key history (⟨place', next, owed', more⟩ : View Ask Answer) where
  once := submitted ▸ accounted.once
  counted := by
    rw [acknowledged, count]
    exact accounted.counted
  answered := by
    rw [acknowledged, submitted]
    exact accounted.answered
  idle := fun pending => absurd pending begun
  owing := fun warnings job operation place => by
    obtain ⟨_, _, _, before⟩ := same warnings job operation place
    rw [acknowledged, submitted]
    exact accounted.owing _ _ _ before

theorem Move.accounted (accounted : view.Accounted key history) (move : Move setting key world world' view view') :
    view'.Accounted key history := by
  cases move with
  | submits known resolved begins =>
      subst begins
      obtain ⟨once, counted, answered, idle, owing⟩ := accounted
      have idle := idle rfl
      refine ⟨?_, ?_, ?_, by simp, fun _ _ _ _ => ?_⟩ <;>
        simp [Note.submits, Note.acknowledges] at idle counted answered ⊢ <;> omega
  | accepted due ends nameable =>
      obtain ⟨once, counted, answered, idle, owing⟩ := accounted
      have owing := owing _ _ _ rfl
      refine ⟨?_, ?_, ?_, by simp, by simp⟩ <;>
        simp [Note.submits, Note.acknowledges, JobRecord.submit] at once counted owing ⊢ <;> omega
  | fails | asksSubmitting | polls | asksObserving | timesOut | expires =>
      refine accounted.goesOn ?_ ?_ rfl (by simp) (by simp) <;> simp [Note.submits, Note.acknowledges]
  | declined due ends =>
      refine accounted.goesOn ?_ ?_ (submitCount_failSubmit ..) (by simp) (by simp) <;>
        simp [Note.submits, Note.acknowledges]
  | @observed job _ _ owed _ result due ends nameable =>
      refine accounted.goesOn ?_ ?_ (submitCount_observe ..) ?_ ?_
      · simp [Note.submits]
      · simp [Note.acknowledges]
      · split <;> simp
      · split <;> simp

/-- Without forced reruns a run opens with every job as it was left. -/
theorem Opens.accounted {config : Config} {now : Nat} {moment : Timestamp} {found : JobRecord}
    (opens : Opens config now moment found view) (resumes : config.forceRerun = false)
    (accounted : Accounted key found history) : view.Accounted key history ∧ view.record = found := by
  obtain ⟨once, counted, answered, idle, named⟩ := accounted
  cases opens with
  | pending pending => exact ⟨⟨once, counted, answered, fun _ => idle pending, by simp⟩, rfl⟩
  | restarts reset =>
      simp only [Run.needsReset, resumes, Bool.and_false, Bool.false_or, Bool.and_eq_true,
        Option.isNone_iff_eq_none] at reset
      have named := named reset.1
      rw [reset.2] at named
      cases named
  | adopts | keeps => exact ⟨⟨once, counted, answered, by simp, by simp⟩, rfl⟩

namespace Setting

/-- All through a run the journal and the history before it account for each job. -/
theorem Meets.accounted (met : setting.Meets store world s) (resumes : setting.config.forceRerun = false)
    (member : key ∈ setting.batch.keys) (accounted : Accounted key (store.recordOf key) history) :
    ∃ view, s.Shows key view ∧ view.Sound key ∧ view.Accounted key history := by
  refine met.keeps member (·.Accounted key history) (fun view opens => (opens.accounted resumes accounted).1)
    (fun accounted move => move.accounted accounted) fun view accounted => ?_
  exact ⟨accounted.once, accounted.counted, accounted.answered, accounted.idle, accounted.owing⟩

/-- So the submits of a run count together with those before it. -/
theorem Meets.once (met : setting.Meets store world s) (resumes : setting.config.forceRerun = false)
    (accounted : Accounted key (store.recordOf key) history) :
    submits key (s.run.journal ++ history) ≤ 1 ∧
      acknowledgements key (s.run.journal ++ history) = (s.run.store.recordOf key).submitCount := by
  rw [← submits_filter, ← acknowledgements_filter]
  by_cases member : key ∈ setting.batch.keys
  · obtain ⟨view, shows, -, once, counted, -⟩ := met.accounted resumes member accounted
    rw [shows.notes, BatchStore.recordOf, shows.record]
    exact ⟨once, counted⟩
  · obtain ⟨same, none_⟩ := met.untouched member
    rw [none_, same]
    exact ⟨accounted.once, accounted.counted⟩

/-- A run that ends well leaves every job accounted for. -/
theorem Finishes.accounted (finished : setting.Finishes store world last)
    (resumes : setting.config.forceRerun = false) (accounted : Accounted key (store.recordOf key) history) :
    Accounted key (last.run.store.recordOf key) (last.run.journal ++ history) := by
  obtain ⟨met, -, rests⟩ := finished.meets
  refine .of_filter ?_
  by_cases member : key ∈ setting.batch.keys
  · obtain ⟨view, shows, sound, once, counted, answered, idle, -⟩ := met.accounted resumes member accounted
    have found : last.run.store.recordOf key = view.record := by
      rw [BatchStore.recordOf, shows.record]
      rfl
    have fits := sound.fits
    unfold View.Fits at fits
    rw [shows.notes, found]
    obtain place | place := rests.place shows sound
    · simp only [place] at fits
      exact ⟨once, counted, answered, fun _ => idle place, by simp [fits, JobStatus.isHandedOver]⟩
    · simp only [place] at fits
      refine ⟨once, counted, answered, fun pending => ?_, fun handedOver => ?_⟩
      · simp [pending, JobStatus.isTerminal, JobRecord.isInFlight, JobStatus.isHandedOver] at fits
      · obtain terminal | ⟨-, inFlight⟩ := fits
        · obtain status | status := JobRecord.isHandedOver_iff.mp handedOver <;>
            simp [status, JobStatus.isTerminal] at terminal
        · exact (Bool.and_eq_true_iff.mp inFlight).2
  · obtain ⟨same, none_⟩ := met.untouched member
    rw [none_, same]
    exact accounted

end Setting

/-! ### Adopted jobs -/

/-- What happens to a job that was adopted: it is never submitted and only asked for under its id. -/
def Note.Continues (jobId : String) : Note → Prop
  | .began (.submitting ..) => False
  | .began (.observing job) => job.jobId = jobId
  | _ => True

/-- The job was adopted under its id, and is watched under it or gone. -/
def View.Adopted (jobId : String) (view : View Ask Answer) : Prop :=
  (∀ entry ∈ view.notes, entry.2.Continues jobId) ∧
    match view.place with
    | .pending | .submitting .. => False
    | .waiting job | .observing job _ => job.jobId = jobId
    | .gone => True

theorem adopted_resting {owed owed' : Option Bool} {job : InFlight} {notes : List (Nat × Note)}
    (continues : ∀ entry ∈ notes, entry.2.Continues jobId) (same : job.jobId = jobId) :
    View.Adopted jobId (⟨.resting owed job, record, owed', notes⟩ : View Ask Answer) := by
  unfold Place.resting
  split
  · exact ⟨continues, trivial⟩
  · exact ⟨continues, same⟩

/-- Whatever happens to an adopted job, it stays adopted. -/
theorem Move.adopted (adopted : view.Adopted jobId) (move : Move setting key world world' view view') :
    view'.Adopted jobId := by
  obtain ⟨continues, at_⟩ := adopted
  have concluded {notes : List (Nat × Note)} {t : Nat} {event : JobEvent} {completion : Completion}
      (continues : ∀ entry ∈ notes, entry.2.Continues jobId) :
      ∀ entry ∈ (t, .applied key event) :: (t, .concluded completion) :: notes, entry.2.Continues jobId := by
    intro entry member
    obtain rfl | rfl | member : entry = (t, .applied key event) ∨ entry = (t, .concluded completion) ∨
        entry ∈ notes := by simpa using member
    · trivial
    · trivial
    · exact continues entry member
  cases move with
  | fails | submits | asksSubmitting | accepted | declined => exact at_.elim
  | polls due early =>
      refine ⟨fun entry member => ?_, at_⟩
      obtain rfl | member := List.mem_cons.mp member
      · exact at_
      · exact continues entry member
  | asksObserving due asks replied => exact ⟨continues, at_⟩
  | @observed _ _ _ _ _ result due ends nameable =>
      cases result.isOpen with
      | true => exact adopted_resting (concluded continues) at_
      | false => exact ⟨concluded continues, trivial⟩
  | timesOut due ends => exact ⟨concluded continues, trivial⟩
  | expires due => exact ⟨concluded continues, trivial⟩

/-- A job that a run finds handed over under an id goes on under it. -/
theorem Setting.Meets.continues (met : setting.Meets store world s)
    (handedOver : (store.recordOf key).status.isHandedOver = true)
    (named : (store.recordOf key).jobId = some jobId) :
    ∀ entry ∈ s.run.journal, entry.2.key = key → entry.2.Continues jobId := by
  rintro entry noted rfl
  have member := met.keys_subset (List.mem_append_right _ (List.mem_map_of_mem noted))
  have opening (view : View Ask Answer)
      (opens : Opens setting.config world.now (setting.clock.at world.now) (store.recordOf entry.2.key) view) :
      view.Adopted jobId := by
    cases opens with
    | pending pending => simp [pending, JobStatus.isHandedOver] at handedOver
    | restarts reset =>
        obtain status | status := JobRecord.isHandedOver_iff.mp handedOver <;>
          simp [Run.needsReset, status, named, JobStatus.isTerminal] at reset
    | adopts _ stored adopted =>
        obtain ⟨deadline, -, rfl⟩ := Run.adopt_eq adopted
        exact ⟨by simp, Option.some.inj (stored.symm.trans named)⟩
    | keeps terminal kept =>
        obtain status | status := JobRecord.isHandedOver_iff.mp handedOver <;>
          simp [status, JobStatus.isTerminal] at terminal
  obtain ⟨view, shows, -, adopted⟩ := met.keeps member (·.Adopted jobId) opening
    (fun adopted move => move.adopted adopted) fun _ adopted => adopted
  refine adopted.1 entry ?_
  rw [← shows.notes, List.mem_filter]
  exact ⟨noted, by simp⟩

/-! ### Sessions -/

/-- Runs one after another over a store that was empty at first, with all their journals, latest first. Each run
has its own batch, configuration, backend, clock, cancellation and start, and ends well; none forces reruns.
Between two runs the store may be saved and opened again. -/
inductive Session (Ask : Type) (Answer : Ask → Type) (σ : Type) : BatchStore → List (Nat × Note) → Prop where
  | opens (path : Option ImageBatch.Path) : Session Ask Answer σ ⟨path, []⟩ []
  | runs {store : BatchStore} {history : List (Nat × Note)} {setting : Setting Ask Answer σ} {world : World σ}
      {last : Situation Ask Answer σ} (session : Session Ask Answer σ store history)
      (resumes : setting.config.forceRerun = false) (finished : setting.Finishes store world last) :
      Session Ask Answer σ last.run.store (last.run.journal ++ history)
  | reopens {store reopened : BatchStore} {history : List (Nat × Note)} {path : ImageBatch.Path} {disk saved : Disk}
      (session : Session Ask Answer σ store history) (placed : store.path = some path)
      (saves : store.save disk = (.ok (), saved)) (loaded : BatchStore.load saved path = .ok reopened) :
      Session Ask Answer σ reopened history

namespace Session

/-- Over a session the journals account for every job. -/
theorem accounted (session : Session Ask Answer σ store history) :
    store.Distinct ∧ ∀ key, Accounted key (store.recordOf key) history := by
  induction session with
  | opens path => exact ⟨List.nodup_nil, fun key => ⟨Nat.zero_le 1, rfl, Nat.le_refl 0, fun _ => rfl, nofun⟩⟩
  | runs session resumes finished ih =>
      exact ⟨finished.meets.1.changed.distinct ih.1, fun key => finished.accounted resumes (ih.2 key)⟩
  | @reopens store history path disk saved reopened session placed saves loaded ih =>
      have small : ∀ record ∈ store.records, record.submitCount ≤ Natural.max32 := by
        intro record member
        obtain ⟨once, counted, answered, -, -⟩ := ih.2 record.userId
        rw [BatchStore.recordOf, ih.1.get?_of_mem member] at counted
        have few : record.submitCount ≤ 1 := counted ▸ Nat.le_trans answered once
        exact Nat.le_trans few (by decide)
      obtain ⟨distinct, same⟩ := BatchStore.reopened_of_load placed small saves loaded
      refine ⟨distinct ih.1, fun key => ?_⟩
      obtain ⟨once, counted, answered, idle, named⟩ := ih.2 key
      rw [same key]
      exact ⟨once, counted, answered, idle, named⟩

/-- Over a session no key is submitted twice, and each was handed over as often as its record says. This is so
all through the next run, too, and in it a job that was handed over before is only asked for under its stored
id. -/
theorem submits_once (session : Session Ask Answer σ store history) (key : String) :
    submits key history ≤ 1 ∧ acknowledgements key history = (store.recordOf key).submitCount ∧
      ∀ {setting : Setting Ask Answer σ} {world : World σ} {s : Situation Ask Answer σ},
        setting.config.forceRerun = false → setting.Arises store world s →
          submits key (s.run.journal ++ history) ≤ 1 ∧
          acknowledgements key (s.run.journal ++ history) = (s.run.store.recordOf key).submitCount ∧
          ((store.recordOf key).status.isHandedOver = true → ∃ jobId, (store.recordOf key).jobId = some jobId ∧
            ∀ entry ∈ s.run.journal, entry.2.key = key → entry.2.Continues jobId) := by
  have accounted := session.accounted.2 key
  refine ⟨accounted.once, accounted.counted, fun resumes arises => ?_⟩
  obtain ⟨t, met, same, -⟩ := arises.meets
  rw [← same]
  obtain ⟨once, counted⟩ := met.once resumes accounted
  refine ⟨once, counted, fun handedOver => ?_⟩
  obtain ⟨jobId, named⟩ := Option.isSome_iff_exists.mp (accounted.named handedOver)
  exact ⟨jobId, named, met.continues handedOver named⟩

/-- A run that is cancelled at its start. -/
def interrupted : Setting Empty (fun _ => Unit) Unit := { prompted ["ada"] with cancelAt := some 0 }

/-- A store with one job, which was handed over at the start of the clock. -/
def oneHandedOver : BatchStore := ⟨some ⟨"jobs.json"⟩, [(JobRecord.fresh "ada").submit "ada" [] ⟨0, 0⟩]⟩

/-- A run that is cancelled while it submits leaves the job handed over; the store is saved and opened, and the
next run asks for the job without submitting it. -/
theorem submits_once_prompted : ∃ history s,
    Session Empty (fun _ => Unit) Unit oneHandedOver history ∧ submits "ada" history ≤ 1 ∧
      acknowledgements "ada" history = 1 ∧
      (oneHandedOver.recordOf "ada").status = .submitted ∧ (prompted ["ada"]).Arises oneHandedOver ⟨(), ⟨[]⟩, 0⟩ s ∧
      s.run.journal = [(0, .began (.observing ⟨"ada", "ada", 0, Duration.ofSeconds 300⟩))] ∧
      submits "ada" (s.run.journal ++ history) ≤ 1 ∧
      ∃ jobId, (oneHandedOver.recordOf "ada").jobId = some jobId ∧
        ∀ entry ∈ s.run.journal, entry.2.key = "ada" → entry.2.Continues jobId := by
  obtain ⟨last, finished, left⟩ : ∃ last, interrupted.Finishes ⟨some ⟨"jobs.json"⟩, []⟩ ⟨(), ⟨[]⟩, 0⟩ last ∧
      last.run.store = oneHandedOver :=
    ⟨_, ⟨_, {}, .round { notice := some 1 } (.opening rfl rfl) rfl, rfl⟩, rfl⟩
  have session : Session Empty (fun _ => Unit) Unit oneHandedOver (last.run.journal ++ []) :=
    left ▸ .runs (.opens (some ⟨"jobs.json"⟩)) rfl finished
  obtain ⟨saved, saves⟩ : ∃ saved, oneHandedOver.save ⟨[]⟩ = (.ok (), saved) := ⟨_, rfl⟩
  have small : ∀ record ∈ oneHandedOver.records, record.submitCount ≤ Natural.max32 := by
    intro record member
    obtain rfl := List.mem_singleton.mp member
    exact (by decide : 1 ≤ Natural.max32)
  have loaded : BatchStore.load saved ⟨"jobs.json"⟩ = .ok oneHandedOver :=
    (BatchStore.load_of_save rfl small saves).trans rfl
  have reopened := session.reopens rfl saves loaded
  obtain ⟨s, arises, observed⟩ : ∃ s, (prompted ["ada"]).Arises oneHandedOver ⟨(), ⟨[]⟩, 0⟩ s ∧
      s.run.journal = [(0, .began (.observing ⟨"ada", "ada", 0, Duration.ofSeconds 300⟩))] :=
    ⟨_, .inl (.round {} (.opening rfl rfl) rfl), rfl⟩
  obtain ⟨before, counted, next⟩ := submits_once reopened "ada"
  obtain ⟨once, -, continues⟩ := next rfl arises
  exact ⟨_, s, reopened, before, counted, rfl, arises, observed, once, continues rfl⟩

end Session

end ImageBatch.Tracker
