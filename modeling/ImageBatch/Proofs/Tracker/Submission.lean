import ImageBatch.Proofs.Batch.Chronicle
import ImageBatch.Proofs.Tracker.Capacity

/-!
Which jobs a run submits, and in which order.

When a run opens, its queue holds the pending keys of the batch in the order of the batch
(`Setting.opening_pending`), and `Setting.plan` is the jobs that these keys give. Every step keeps what was submitted
and what the queue still gives together (`Step.submissions_append`): a job moves from the one to the other, and a key
whose job cannot be built leaves the queue without one. So what a run has submitted is at any time a prefix of its
plan, and all of it when nothing is left in the queue.
-/

namespace ImageBatch.Tracker

variable {Ask : Type} {Answer : Ask → Type} {σ : Type} {setting : Setting Ask Answer σ}
  {s t opening last : Situation Ask Answer σ} {store : BatchStore} {world : World σ} {key : String}
  {config : Config} {now : Nat} {moment : Timestamp} {run : Run}

/-! ### Jobs of keys -/

namespace Batch

variable {batch : Batch}

/-- The job of a key, as the first features of the key give it. -/
def job? (batch : Batch) (key : String) : Option ResolvedJob :=
  (batch.features? key).bind fun features => (batch.template.resolve features).toOption

/-- The jobs of those keys whose jobs can be built, each with its key. -/
def buildable (batch : Batch) (keys : List String) : List (String × ResolvedJob) :=
  keys.filterMap fun key => (batch.job? key).map (key, ·)

theorem buildable_cons_of_none {rest : List String} (none_ : batch.job? key = none) :
    batch.buildable (key :: rest) = batch.buildable rest := by
  simp [buildable, none_]

theorem buildable_cons_of_some {rest : List String} {job : ResolvedJob} (some_ : batch.job? key = some job) :
    batch.buildable (key :: rest) = (key, job) :: batch.buildable rest := by
  simp [buildable, some_]

end Batch

/-- The keys of the batch with a pending record, in the order of the batch. -/
def Setting.queued (setting : Setting Ask Answer σ) (store : BatchStore) : List String :=
  setting.batch.keys.filter fun key => (store.get? key).any (·.status = .pending)

/-- What a run that opens with a store is to submit. -/
def Setting.plan (setting : Setting Ask Answer σ) (opened : BatchStore) : List (String × ResolvedJob) :=
  setting.batch.buildable (setting.queued opened)

/-! ### Submissions -/

/-- The job that an entry hands to the backend, with its key. -/
def Note.submission? : Note → Option (String × ResolvedJob)
  | .began (.submitting key _ job) => some (key, job)
  | _ => none

/-- The jobs that were handed to the backend, in the order in which their submits began. -/
def submissions (journal : List (Nat × Note)) : List (String × ResolvedJob) :=
  (journal.filterMap (·.2.submission?)).reverse

/-- An entry that hands over nothing adds no submission. -/
theorem submissions_cons_of_none {entry : Nat × Note} {journal : List (Nat × Note)}
    (none_ : entry.2.submission? = none) : submissions (entry :: journal) = submissions journal := by
  simp [submissions, none_]

/-- A submit that begins comes after all others. -/
theorem submissions_cons_of_some {entry : Nat × Note} {journal : List (Nat × Note)} {submitted : String × ResolvedJob}
    (some_ : entry.2.submission? = some submitted) :
    submissions (entry :: journal) = submissions journal ++ [submitted] := by
  simp [submissions, some_]

namespace Run

/-- No event of a record hands anything to the backend. -/
@[simp] theorem submissions_apply (now : Nat) (moment : Timestamp) (run : Run) (key : String) (event : JobEvent) :
    submissions (run.apply now moment key event).1.journal = submissions run.journal := by
  unfold apply
  cases run.store.get? key with
  | none => exact submissions_cons_of_none rfl
  | some record =>
      cases taken : record.transition event moment with
      | error e =>
          simp only [taken]
          exact submissions_cons_of_none rfl
      | ok next =>
          simp only [taken]
          exact submissions_cons_of_none rfl

@[simp] theorem submissions_conclude (config : Config) (now : Nat) (moment : Timestamp) (run : Run)
    (completion : Completion) :
    submissions (run.conclude config now moment completion).journal = submissions run.journal := by
  have applied := submissions_apply now moment
    (((run.note now (.concluded completion)).release completion.key).drained completion.key) completion.key
    completion.event
  have noted : submissions ((now, .concluded completion) :: run.journal) = submissions run.journal :=
    submissions_cons_of_none rfl
  unfold conclude
  simp only [settle_eq]
  split
  · split <;> exact applied.trans noted
  · exact applied.trans noted

@[simp] theorem conclude_pending (config : Config) (now : Nat) (moment : Timestamp) (run : Run)
    (completion : Completion) : (run.conclude config now moment completion).pending = run.pending := by
  obtain ⟨_, _, _, -, -, -, -, effect⟩ := conclude_frame config now moment run completion
  simp [effect]

end Run

/-- What was submitted and what the queue gives stay together the same: submits begin in the order of the queue. -/
theorem Step.submissions_append {touched : Option String} (step : Step setting touched s t) :
    submissions t.run.journal ++ setting.batch.buildable t.run.pending =
      submissions s.run.journal ++ setting.batch.buildable s.run.pending := by
  cases step with
  | waits | saves | notices | asks => rfl
  | drains cancelled =>
      rw [Run.noteCancelled_frame]
  | @skips _ key rest going queued unknown =>
      have none_ : setting.batch.job? key = none := by simp [Batch.job?, unknown]
      rw [queued, Batch.buildable_cons_of_none none_]
      rfl
  | @fails _ key rest features e going queued free known unresolved =>
      have none_ : setting.batch.job? key = none := by simp [Batch.job?, known, unresolved, Except.toOption]
      rw [queued, Batch.buildable_cons_of_none none_]
      simp [Situation.queue, Run.apply_pending]
  | @submits _ key rest features job going queued free known resolved =>
      have some_ : setting.batch.job? key = some job := by simp [Batch.job?, known, resolved, Except.toOption]
      have later : submissions ((s.world.now, .began (.submitting key (Run.warnings features job) job)) ::
          s.run.journal) = submissions s.run.journal ++ [(key, job)] := submissions_cons_of_some rfl
      rw [queued, Batch.buildable_cons_of_some some_, List.append_cons, ← later]
      rfl
  | concludes | expires => simp [Situation.parked]
  | polls => exact congrArg (· ++ _) (submissions_cons_of_none rfl)

/-! ### The queue on opening -/

/-- A job opens in the queue exactly if its record is pending then. -/
theorem Opens.queued_eq {found : JobRecord} {view : View Ask Answer} (opens : Opens config now moment found view) :
    view.place.queued = if view.record.status = .pending then 1 else 0 := by
  cases opens with
  | pending pending => rw [if_pos pending]; rfl
  | restarts reset => rfl
  | adopts handedOver named adopted =>
      have other : found.status ≠ .pending := fun pending => by simp [pending, JobStatus.isHandedOver] at handedOver
      rw [if_neg other]
      rfl
  | keeps terminal kept =>
      have other : found.status ≠ .pending := fun pending => by simp [pending, JobStatus.isTerminal] at terminal
      rw [if_neg other]
      rfl

/-- Keys are queued in their order, those with a pending record. -/
theorem Run.placeAll_pending {keys : List String} {run' : Run} (nodup : keys.Nodup)
    (placed : keys.foldlM (place config now moment) run = .ok run') :
    run'.pending = run.pending ++ keys.filter fun key => (run'.store.get? key).any (·.status = .pending) := by
  induction keys generalizing run with
  | nil =>
      cases placed
      simp
  | cons first rest ih =>
      obtain ⟨next, one, placed⟩ := exists_of_placeAll_cons placed
      obtain ⟨absent, nodup⟩ := List.nodup_cons.mp nodup
      -- The keys that come later do not change the record of the first one.
      have same : run'.store.get? first = next.store.get? first := by
        refine placeAll_store (P := fun store => store.get? first = next.store.get? first) placed rfl ?_
        intro store found member present same
        have other : found.reset.userId ≠ first := fun own => absent (own ▸ member)
        rw [BatchStore.get?_put, if_neg other]
        exact same
      rw [ih nodup placed]
      cases present : run.store.get? first with
      | none =>
          obtain rfl : run = next := by simpa [place, present] using one
          rw [List.filter_cons_of_neg (by simp [same, present])]
      | some found =>
          have own : found.userId = first := BatchStore.userId_of_get? present
          have own : found.reset.userId = first := own
          obtain ⟨view, opens, rfl⟩ := place_eq Unit (fun _ => Unit) one present
          have found' : run'.store.get? first = some view.record := by
            rw [same, opens.record_eq]
            dsimp only
            split
            · simp [own]
            · exact present
          rw [opens.queued_eq, List.append_assoc, List.filter_cons, found']
          by_cases pending : view.record.status = .pending <;> simp [pending]

namespace Setting

/-- A run opens with the pending keys of its batch in the queue, in the order of the batch. -/
theorem opening_pending (opened : setting.opening store world = .ok opening) :
    opening.run.pending = setting.queued opening.run.store := by
  obtain ⟨run, started, rfl⟩ := opening_eq opened
  exact Run.placeAll_pending setting.batch.nodup_keys started

/-- A run opens with nothing submitted. -/
theorem opening_submissions (opened : setting.opening store world = .ok opening) :
    submissions opening.run.journal = [] := by
  rw [opening_journal opened]
  rfl

/-- All through a run, what was submitted and what the queue gives make up the plan. -/
theorem Meets.submissions_append (met : setting.Meets store world s)
    (opened : setting.opening store world = .ok opening) :
    submissions s.run.journal ++ setting.batch.buildable s.run.pending = setting.plan opening.run.store := by
  obtain ⟨first, keys, opened', path⟩ := met
  obtain rfl : opening = first := Except.ok.inj (opened.symm.trans opened')
  have start : submissions opening.run.journal ++ setting.batch.buildable opening.run.pending =
      setting.plan opening.run.store := by
    rw [opening_submissions opened, opening_pending opened]
    rfl
  exact path.invariant (P := fun s => submissions s.run.journal ++ setting.batch.buildable s.run.pending =
    setting.plan opening.run.store) (fun kept step => step.submissions_append.trans kept) start

/-- A run that ends well and was not cancelled has an empty queue. -/
theorem Finishes.pending_eq_nil (finished : setting.Finishes store world last) (going : last.cancelled = false) :
    last.run.pending = [] := by
  obtain ⟨met, filled, rests⟩ := finished.meets
  obtain ⟨active, -⟩ := met.idle_of_rests rests
  have undrained : last.run.drain = none := met.proper.unmarked going
  obtain drained | ⟨waiting, -⟩ := rests
  · cases undrained.symm.trans drained
  · exact filled.nothing_pending going waiting active

end Setting

/-! ### Jobs that cannot be built -/

/-- A job that cannot be built, for this reason: no slot is its, and nothing but its failure happens to it. Before it
is reached its record is the one that it had; then it has failed in construction. -/
structure Situation.Unbuildable (clock : Clock) (found : JobRecord) (message : String) (s : Situation Ask Answer σ)
    (key : String) : Prop where
  slotless : key ∉ s.occupants
  reached : (key ∈ s.run.pending ∧ s.run.store.get? key = some found ∧ s.run.journal.filter (·.2.key == key) = []) ∨
    key ∉ s.run.pending ∧ ∃ now, s.run.store.get? key =
        some (found.terminate .failed .construction message (clock.at now)) ∧
      s.run.journal.filter (·.2.key == key) = [(now, .applied key (.constructionFailed message))]

/-- What there is of a job that cannot be built: it waits as it was, or it has failed. -/
def View.Unbuilt (clock : Clock) (found : JobRecord) (message key : String) (view : View Ask Answer) : Prop :=
  (view.place = .pending ∧ view.record = found ∧ view.notes = []) ∨
    view.place = .gone ∧ ∃ now, view.record = found.terminate .failed .construction message (clock.at now) ∧
      view.notes = [(now, .applied key (.constructionFailed message))]

variable {found : JobRecord} {features : FeatureSet} {e : ConstructionError}

/-- The one thing that happens to a job that cannot be built is that it fails. -/
theorem Move.unbuilt {world world' : World σ} {view view' : View Ask Answer}
    (known : setting.batch.features? key = some features)
    (unresolved : setting.batch.template.resolve features = .error e)
    (unbuilt : view.Unbuilt setting.clock found e.message key) (move : Move setting key world world' view view') :
    view'.Unbuilt setting.clock found e.message key := by
  obtain ⟨place, rfl, none_⟩ | ⟨place, -⟩ := unbuilt
  · cases move with
    | fails known' unresolved' =>
        obtain rfl := Option.some.inj (known.symm.trans known')
        obtain rfl := Except.error.inj (unresolved.symm.trans unresolved')
        exact .inr ⟨rfl, _, rfl, congrArg (_ :: ·) none_⟩
    | submits known' resolved =>
        obtain rfl := Option.some.inj (known.symm.trans known')
        cases unresolved.symm.trans resolved
    | _ => cases place
  · cases move <;> cases place

/-- A view that starts in the queue with a pending record. -/
theorem Opens.unbuilt {before : JobRecord} {view : View Ask Answer} (opens : Opens config now moment before view)
    (pending : view.record.status = .pending) (clock : Clock) (message key : String) :
    view.Unbuilt clock view.record message key := by
  have queued := opens.queued_eq
  rw [if_pos pending] at queued
  cases opens with
  | pending | restarts => exact .inl ⟨rfl, rfl, rfl⟩
  | adopts | keeps => cases queued

namespace Setting

/-- All through a run nothing but its failure happens to a job that cannot be built. -/
theorem Meets.unbuildable (met : setting.Meets store world s) (opened : setting.opening store world = .ok opening)
    (present : opening.run.store.get? key = some found) (pending : found.status = .pending)
    (known : setting.batch.features? key = some features)
    (unresolved : setting.batch.template.resolve features = .error e) :
    s.Unbuildable setting.clock found e.message key := by
  have member : key ∈ setting.batch.keys :=
    Batch.mem_keys.mpr ⟨features, List.mem_of_find?_eq_some known, by simpa using List.find?_some known⟩
  obtain ⟨first, opens, shown⟩ := opening_shows opened member
  obtain rfl : found = first.record := Option.some.inj (present.symm.trans shown.record)
  obtain ⟨view, shows, -, unbuilt⟩ := met.keeps member (View.Unbuilt setting.clock first.record e.message key)
    (fun view same => by rw [opens.unique same]; exact opens.unbuilt pending ..)
    (fun unbuilt move => move.unbuilt known unresolved unbuilt) (fun _ unbuilt => unbuilt)
  have queue := shows.queue
  have slotless := shows.mem_occupants_iff
  have record := shows.record
  have notes := shows.notes
  obtain ⟨place, same, none_⟩ | ⟨place, now, same, failed⟩ := unbuilt
  · rw [place] at queue slotless
    rw [same] at record
    have waits : key ∈ s.run.pending := List.count_pos_iff.mp (queue ▸ Nat.one_pos)
    exact ⟨by simp [slotless, Place.isUnderWay], .inl ⟨waits, record, notes.trans none_⟩⟩
  · rw [place] at queue slotless
    rw [same] at record
    have gone : key ∉ s.run.pending := List.count_eq_zero.mp queue
    exact ⟨by simp [slotless, Place.isUnderWay], .inr ⟨gone, now, record, notes.trans failed⟩⟩

/-- A run submits the jobs of its plan in their order: wherever it is left, a prefix of the plan, and all of it when it
ends well without a cancellation. A pending key whose job cannot be built takes no slot, and all that happens to it is
that it fails in construction when it is reached. -/
theorem submitted_in_order (opened : setting.opening store world = .ok opening) :
    (∀ s, setting.Leaves store world s →
      submissions s.run.journal <+: setting.plan opening.run.store ∧
        ∀ key found features e, opening.run.store.get? key = some found → found.status = .pending →
          setting.batch.features? key = some features → setting.batch.template.resolve features = .error e →
          s.Unbuildable setting.clock found e.message key) ∧
      ∀ last, setting.Finishes store world last → last.cancelled = false →
        submissions last.run.journal = setting.plan opening.run.store ∧ last.run.pending = [] := by
  constructor
  · intro s leaves
    obtain ⟨t, met, same, -⟩ := leaves.meets
    refine ⟨?_, fun key found features e present pending known unresolved => ?_⟩
    · rw [← same]
      exact ⟨_, met.submissions_append opened⟩
    · obtain ⟨slotless, reached⟩ := met.unbuildable opened present pending known unresolved
      rw [same] at reached
      rw [Situation.occupants, same] at slotless
      exact ⟨slotless, reached⟩
  · intro last finished going
    have empty := finished.pending_eq_nil going
    have whole := finished.meets.1.submissions_append opened
    rw [empty] at whole
    exact ⟨(List.append_nil _).symm.trans whole, empty⟩

/-- One job at a time from a template that wants a caption. Of "eve" there is none, and "ada" comes up twice. -/
def captioned : Setting Empty (fun _ => Unit) Unit :=
  { prompted [] with
    config := { concurrency := 1 }
    batch := ⟨⟨"portrait", [], [⟨"6", "text", "caption", .text, true, none, none, none⟩]⟩,
      [⟨"ada", none, "ada", [("caption", .text "a")], []⟩, ⟨"eve", none, "eve", [], []⟩,
        ⟨"ada", none, "ada", [("caption", .text "b")], []⟩, ⟨"bob", none, "bob", [("caption", .text "c")], []⟩]⟩ }

/-- Two jobs are submitted one after the other, the first with its first caption, and the third fails. -/
theorem submitted_in_order_captioned : ∃ opening last,
    captioned.opening .inMemory ⟨(), ⟨[]⟩, 0⟩ = .ok opening ∧ captioned.Finishes .inMemory ⟨(), ⟨[]⟩, 0⟩ last ∧
      (captioned.plan opening.run.store).map (fun (key, job) => (key, job.bindings.map (·.value))) =
        [("ada", [.text "a"]), ("bob", [.text "c"])] ∧
      submissions last.run.journal = captioned.plan opening.run.store ∧
      last.Unbuildable ⟨⟨0, 0⟩⟩ (.fresh "eve") (ConstructionError.missingRequired [⟨"6", "text"⟩]).message "eve" := by
  obtain ⟨opening, s, last, opened, reached, ended, going, planned, present⟩ : ∃ opening s last,
      captioned.opening .inMemory ⟨(), ⟨[]⟩, 0⟩ = .ok opening ∧ captioned.Reaches .inMemory ⟨(), ⟨[]⟩, 0⟩ s ∧
        s.round captioned {} = .over last ∧ last.cancelled = false ∧
        (captioned.plan opening.run.store).map (fun (key, job) => (key, job.bindings.map (·.value))) =
          [("ada", [.text "a"]), ("bob", [.text "c"])] ∧
        opening.run.store.get? "eve" = some (.fresh "eve") :=
    ⟨_, _, _, rfl, .round {} (.round {} (.round {} (.round {} (.round {} (.round {} (.opening rfl rfl) rfl) rfl)
      rfl) rfl) rfl) rfl, rfl, rfl, rfl, rfl⟩
  obtain ⟨always, ends⟩ := submitted_in_order opened
  have finished : captioned.Finishes .inMemory ⟨(), ⟨[]⟩, 0⟩ last := ⟨s, {}, reached, ended⟩
  have leaves : captioned.Leaves .inMemory ⟨(), ⟨[]⟩, 0⟩ last :=
    .inr (.inr ⟨s, {}, reached, congrArg Verdict.situation ended⟩)
  exact ⟨opening, last, opened, finished, planned, (ends last finished going).1,
    (always last leaves).2 "eve" _ _ _ present rfl rfl rfl⟩

/-- A store beside which its temporary file is a folder. -/
def unsaveable : BatchStore := ⟨some ⟨"jobs.json"⟩, []⟩

/-- A run whose store cannot be saved ends before it submits anything, though nobody cancels it and its plan has a
job. -/
theorem submits_nothing_unsaved : ∃ opening s cause,
    (prompted ["ada"]).opening unsaveable ⟨(), ⟨[(["jobs.json.tmp"], .folder)]⟩, 0⟩ = .ok opening ∧
      opening.save = .failed (.batch cause) s ∧
      (prompted ["ada"]).cancelAt = none ∧ s.cancelled = false ∧
      ((prompted ["ada"]).plan opening.run.store).map (·.1) = ["ada"] ∧ submissions s.run.journal = [] :=
  ⟨_, _, _, rfl, rfl, rfl, rfl, rfl, rfl⟩

end Setting

end ImageBatch.Tracker
