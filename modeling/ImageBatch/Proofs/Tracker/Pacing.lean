import ImageBatch.Proofs.Batch.Chronicle
import ImageBatch.Proofs.Tracker.Tale

/-!
The pace of observations.

An observation of a job is `Due` once the service has acknowledged the job, or it was adopted, the poll interval has
passed since everything that came of the job, and no other observation of the job is under way. A waiting job is due at
its next poll, and a job that is observed was due when that began; what happens to a job keeps this
(`Move.paced`), and so does time. Other jobs do not come into it: a job that is woken early, for its deadline, is not
observed (`InFlight.nextPoll_le_of_woken`). So every observation that a journal has begun was due then.
-/

namespace ImageBatch.Tracker

variable {Ask : Type} {Answer : Ask → Type} {σ : Type} {setting : Setting Ask Answer σ}
  {s : Situation Ask Answer σ} {store : BatchStore} {world world' : World σ} {view view' : View Ask Answer}
  {interval now begun : Nat} {adopted : Bool} {key : String} {job : InFlight} {entry : Nat × Note}
  {journal earlier notes : List (Nat × Note)} {record : JobRecord} {owed : Option Bool}

/-- After the entries of a journal an observation of the job may begin now. -/
structure Due (interval : Nat) (adopted : Bool) (key : String) (now : Nat) (job : InFlight)
    (journal : List (Nat × Note)) : Prop where
  /-- The service has acknowledged the job, in this run or in an earlier one. -/
  known : adopted = true ∨ ∃ t warnings, (t, .concluded (.submitted key warnings (.ok job.jobId))) ∈ journal
  /-- The interval has passed since the acknowledgement and since the end of each observation. -/
  spaced : ∀ t completion, (t, .concluded completion) ∈ journal → completion.key = key → t + interval ≤ now
  /-- Every observation that began is over. -/
  alone : ∀ later t before rest, journal = later ++ (t, .began (.observing before)) :: rest → before.key = key →
    ∃ t' event, (t', .concluded (.observed before event)) ∈ later

/-- Every observation of the job began when it was due. -/
def Paced (interval : Nat) (adopted : Bool) (key : String) (journal : List (Nat × Note)) : Prop :=
  ∀ now job earlier, (now, .began (.observing job)) :: earlier <:+ journal → job.key = key →
    Due interval adopted key now job earlier

/-! ### Journals -/

theorem paced_nil : Paced interval adopted key [] :=
  fun _ _ _ suffix => absurd (List.suffix_nil.mp suffix) (List.cons_ne_nil _ _)

/-- An entry that begins no observation keeps the pace. -/
theorem Paced.cons (paced : Paced interval adopted key notes) (other : ∀ job, entry.2 ≠ .began (.observing job)) :
    Paced interval adopted key (entry :: notes) := by
  intro now job earlier suffix own
  rcases List.suffix_cons_iff.mp suffix with same | suffix
  · obtain ⟨rfl, -⟩ := List.cons.inj same
    exact absurd rfl (other job)
  · exact paced now job earlier suffix own

/-- An observation that is due may begin. -/
theorem Paced.began (paced : Paced interval adopted key notes) (due : Due interval adopted key now job notes) :
    Paced interval adopted key ((now, .began (.observing job)) :: notes) := by
  intro t other earlier suffix own
  rcases List.suffix_cons_iff.mp suffix with same | suffix
  · obtain ⟨same, rfl⟩ := List.cons.inj same
    cases same
    exact due
  · exact paced t other earlier suffix own

/-- What is due stays due. -/
theorem Due.mono (due : Due interval adopted key begun job notes) (later : begun ≤ now) :
    Due interval adopted key now job notes :=
  { due with spaced := fun t completion member own => Nat.le_trans (due.spaced t completion member own) later }

/-- The entries of a job alone say when its observations are due. -/
theorem Due.of_filter (due : Due interval adopted key now job (journal.filter (·.2.key == key))) :
    Due interval adopted key now job journal where
  known := due.known.imp_right fun ⟨t, warnings, member⟩ => ⟨t, warnings, (List.mem_filter.mp member).1⟩
  spaced := fun t completion member own =>
    due.spaced t completion (List.mem_filter.mpr ⟨member, by simpa using own⟩) own
  alone := by
    rintro later t before rest rfl own
    have mine : (Note.began (.observing before)).key = key := own
    obtain ⟨t', event, member⟩ := due.alone (later.filter (·.2.key == key)) t before (rest.filter (·.2.key == key))
      (by simp [Activity.key, own]) own
    exact ⟨t', event, (List.mem_filter.mp member).1⟩

theorem Paced.of_filter (paced : Paced interval adopted key (journal.filter (·.2.key == key))) :
    Paced interval adopted key journal := by
  intro now job earlier suffix own
  have mine := suffix.filter (·.2.key == key)
  rw [List.filter_cons_of_pos (by simp [Activity.key, own])] at mine
  exact (paced now job _ mine own).of_filter

/-! ### Moves -/

/-- After the acknowledgement a first observation is due when the interval has passed. -/
theorem due_of_accepted {warnings : List String} {event : JobEvent} (early : ∀ entry ∈ notes, entry.2.IsEarly) :
    Due interval adopted key (now + interval) job ((now, .applied key event) ::
      (now, .concluded (.submitted key warnings (.ok job.jobId))) :: notes) where
  known := .inr ⟨now, warnings, by simp⟩
  spaced := by
    intro t completion member own
    simp only [List.mem_cons, Prod.mk.injEq, reduceCtorEq, and_false, false_or] at member
    obtain ⟨rfl, -⟩ | member := member
    · exact Nat.le_refl _
    · exact absurd (early _ member) id
  alone := by
    intro later t before rest same own
    have member : (t, Note.began (.observing before)) ∈ notes := by
      have member : (t, Note.began (.observing before)) ∈ later ++ (t, .began (.observing before)) :: rest := by simp
      rw [← same] at member
      simpa using member
    exact absurd (early _ member) id

/-- After the end of an observation the next is due when the interval has passed. -/
theorem Due.concluded {event : JobEvent} {next : InFlight} (due : Due interval adopted key begun job earlier)
    (past : ∀ entry ∈ (begun, .began (.observing job)) :: earlier, entry.1 ≤ now) (same : next.jobId = job.jobId) :
    Due interval adopted key (now + interval) next ((now, .applied key event) ::
      (now, .concluded (.observed job event)) :: (begun, .began (.observing job)) :: earlier) where
  known := by
    rw [same]
    refine due.known.imp_right fun ⟨t, warnings, member⟩ => ⟨t, warnings, ?_⟩
    simp only [List.mem_cons, member, or_true]
  spaced := by
    intro t completion member own
    simp only [List.mem_cons, Prod.mk.injEq, reduceCtorEq, and_false, false_or] at member
    obtain ⟨rfl, -⟩ | member := member
    · exact Nat.le_refl _
    · exact Nat.add_le_add_right (past _ (List.mem_cons_of_mem _ member)) interval
  alone := by
    intro later t before rest whole own
    -- The two entries of the end, then the observation itself, and then those before it.
    match later, whole with
    | [_, ended], whole =>
        simp only [List.cons_append, List.nil_append, List.cons.injEq, Prod.mk.injEq, Note.began.injEq,
          Activity.observing.injEq] at whole
        obtain ⟨-, rfl, ⟨-, rfl⟩, -⟩ := whole
        exact ⟨now, event, by simp⟩
    | _ :: _ :: _ :: later, whole =>
        simp only [List.cons_append, List.cons.injEq] at whole
        obtain ⟨t', event, member⟩ := due.alone later t before rest whole.2.2.2 own
        exact ⟨t', event, by simp [member]⟩
    | [], whole => simp at whole
    | [_], whole => simp at whole

/-- A job that is woken before its deadline is woken for its poll. -/
theorem InFlight.nextPoll_le_of_woken (due : job.wakeAt ≤ now) (early : now < job.deadline) : job.nextPoll ≤ now := by
  unfold wakeAt at due
  omega

/-- A job keeps the pace: nothing came of it before it is submitted, it is due at its next poll while it waits, and
while it is observed that observation is the last that began. -/
def View.Paced (interval : Nat) (adopted : Bool) (key : String) (view : View Ask Answer) : Prop :=
  Tracker.Paced interval adopted key view.notes ∧
    match view.place with
    | .pending | .submitting .. => ∀ entry ∈ view.notes, entry.2.IsEarly
    | .waiting job => Due interval adopted key job.nextPoll job view.notes
    | .observing job _ => ∃ begun earlier, view.notes = (begun, .began (.observing job)) :: earlier ∧
        Due interval adopted key begun job earlier
    | .gone => True

/-- A job that rests is due at its next poll, or nothing more happens to it. -/
theorem View.paced_resting (paced : Tracker.Paced interval adopted key notes)
    (due : Due interval adopted key job.nextPoll job notes) (before : Option Bool) :
    View.Paced interval adopted key (⟨.resting before job, record, owed, notes⟩ : View Ask Answer) := by
  unfold Place.resting
  split
  · exact ⟨paced, trivial⟩
  · exact ⟨paced, due⟩

/-- Whatever happens to a job, it keeps the pace. -/
theorem Move.paced (past : ∀ entry ∈ view.notes, entry.1 ≤ world.now)
    (paced : view.Paced setting.config.pollInterval adopted key) (move : Move setting key world world' view view') :
    view'.Paced setting.config.pollInterval adopted key := by
  obtain ⟨paced, stage⟩ := paced
  cases move with
  | fails known unresolved => exact ⟨paced.cons (by simp), trivial⟩
  | submits known resolved begins =>
      subst begins
      exact ⟨paced.cons (by simp), List.forall_mem_cons.mpr ⟨trivial, stage⟩⟩
  | asksSubmitting due asks replied => exact ⟨paced, stage⟩
  | accepted due ends nameable =>
      exact View.paced_resting ((paced.cons (by simp)).cons (by simp)) (due_of_accepted stage) _
  | declined due ends => exact ⟨(paced.cons (by simp)).cons (by simp), trivial⟩
  | polls due early =>
      have begins := stage.mono (InFlight.nextPoll_le_of_woken due early)
      exact ⟨paced.began begins, _, _, rfl, begins⟩
  | asksObserving due asks replied => exact ⟨paced, stage⟩
  | @observed job operation record owed notes result due ends nameable =>
      obtain ⟨begun, earlier, rfl, due⟩ := stage
      have kept : Tracker.Paced setting.config.pollInterval adopted key ((world.now, .applied key (.polled result)) ::
          (world.now, .concluded (.observed job (.polled result))) :: (begun, .began (.observing job)) :: earlier) :=
        (paced.cons (by simp)).cons (by simp)
      cases result.isOpen with
      | true =>
          refine View.paced_resting kept ?_ _
          exact due.concluded past (by rfl)
      | false => exact ⟨kept, trivial⟩
  | timesOut due ends => exact ⟨(paced.cons (by simp)).cons (by simp), trivial⟩
  | expires due => exact ⟨(paced.cons (by simp)).cons (by simp), trivial⟩

/-! ### Runs -/

/-- A job begins at the pace: it is new, or it is adopted and due at once. -/
theorem Opens.paced {config : Config} {moment : Timestamp} (opens : Opens config now moment record view) :
    view.Paced interval record.isInFlight key := by
  cases opens with
  | pending | restarts => exact ⟨paced_nil, by simp⟩
  | adopts handedOver named adopted =>
      refine ⟨paced_nil, .inl ?_, by simp, by simp⟩
      simp [JobRecord.isInFlight, handedOver, named]
  | keeps => exact ⟨paced_nil, trivial⟩

namespace Setting

/-- All through a run every job of the batch keeps the pace. -/
theorem Meets.paced (met : setting.Meets store world s) (member : key ∈ setting.batch.keys) :
    ∃ view, s.Shows key view ∧ view.Paced setting.config.pollInterval (store.recordOf key).isInFlight key := by
  obtain ⟨opening, keys, opened, path⟩ := met
  obtain ⟨first, opens, shows⟩ := opening_shows opened member
  obtain ⟨view, shows, -, paced, -⟩ := Path.keeps (setting.Meets store world)
    (fun _ _ view => view.Paced setting.config.pollInterval (store.recordOf key).isInFlight key) member
    (fun met step => met.step step)
    (fun {_ s _ view _} met shows _ paced move => move.paced (fun entry noted => by
      rw [← shows.notes] at noted
      exact met.past entry (List.mem_filter.mp noted).1) paced)
    (fun _ _ _ paced => paced) (fun _ _ _ _ _ paced => paced) path (opening_proper opened)
    ⟨opening, [], opened, .refl opening⟩ shows (opens.sound (BatchStore.recordOf_userId ..)) opens.paced (n := 0)
  exact ⟨view, shows, paced⟩

/-- Wherever a run is left, every observation of every job began when it was due: after the job was acknowledged or
adopted, when the poll interval had passed since the acknowledgement and since the end of each observation before, and
while no other observation of the job was under way. -/
theorem Leaves.observations_paced (leaves : setting.Leaves store world s) (key : String) :
    Paced setting.config.pollInterval (store.recordOf key).isInFlight key s.run.journal := by
  obtain ⟨t, met, same, -⟩ := leaves.meets
  rw [← same]
  refine Paced.of_filter ?_
  by_cases member : key ∈ setting.batch.keys
  · obtain ⟨view, shows, paced, -⟩ := met.paced member
    rw [shows.notes]
    exact paced
  · rw [(met.untouched member).2]
    exact paced_nil

/-- A run of one job that is never done. -/
def endless : Setting Empty (fun _ => Unit) Unit :=
  { prompted ["ada"] with backend := { prompt with poll := fun _ => .done (.ok .running) } }

/-- A job that is acknowledged at once is observed after two seconds and after four. -/
theorem Leaves.observations_paced_endless : ∃ s, endless.Leaves .inMemory ⟨(), ⟨[]⟩, 0⟩ s ∧
    s.run.journal.filterMap (fun | (t, .began (.observing _)) => some t | _ => none) =
      [Duration.ofSeconds 4, Duration.ofSeconds 2] ∧
    Paced (Duration.ofSeconds 2) false "ada" s.run.journal := by
  obtain ⟨s, reached, begun⟩ : ∃ s, endless.Reaches .inMemory ⟨(), ⟨[]⟩, 0⟩ s ∧
      s.run.journal.filterMap (fun | (t, .began (.observing _)) => some t | _ => none) =
        [Duration.ofSeconds 4, Duration.ofSeconds 2] :=
    ⟨_, .round {} (.round {} (.round {} (.round {} (.opening rfl rfl) rfl) rfl) rfl) rfl, rfl⟩
  have leaves : endless.Leaves .inMemory ⟨(), ⟨[]⟩, 0⟩ s := .inr (.inl reached)
  exact ⟨s, leaves, begun, Leaves.observations_paced leaves "ada"⟩

end Setting

end ImageBatch.Tracker
