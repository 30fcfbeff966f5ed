import ImageBatch.Proofs.Tracker.Step

/-!
Rounds taken apart.

`fill_path`, `wake_leads` and `await_leads` follow the parts of a round, and `round_leads` a whole round. Waking
is the one part that is not a sequence of steps as it is written: it moves all jobs that are due at once. Its
steps are first the polls and then the expiries, each in the order of the waiting jobs.
-/

namespace ImageBatch.Tracker

variable {Ask : Type} {Answer : Ask → Type} {σ : Type} {setting : Setting Ask Answer σ}

namespace Situation

/-! ### Submitting -/

/-- With a slot free the first pending key is taken by a step, and then the others are filled. -/
theorem fillFrom_step (operations : List (Operation Ask Answer)) {left : Option Nat} {run : Run}
    {launched : List Activity} (taken : Bool) {key : String} {rest : List String} {s : Situation Ask Answer σ}
    (going : s.cancelled = false) (at_ : s.run = { run with pending := key :: rest })
    (under : s.operations = operations ++ launched.map (Operation.start setting.backend s.world.now))
    (open_ : ¬ (left = some 0 ∨ setting.config.slots ≤ run.occupied)) :
    ∃ t run' launched' taken', Step setting (some key) s t ∧ t.run = { run' with pending := rest } ∧
      t.operations = operations ++ launched'.map (Operation.start setting.backend t.world.now) ∧
      t = { s with run := t.run, operations := t.operations } ∧
      Run.fillFrom setting.config setting.batch s.world.now (s.moment setting) left run launched taken (key :: rest) =
        Run.fillFrom setting.config setting.batch s.world.now (s.moment setting) (left.map (· - 1)) run' launched'
          taken' rest := by
  have queued : s.run.pending = key :: rest := by rw [at_]
  have free : s.run.occupied < setting.config.slots := by
    rw [at_]
    exact Nat.lt_of_not_le fun full => open_ (.inr full)
  rw [Run.fillFrom, if_neg open_]
  cases known : setting.batch.features? key with
  | none => exact ⟨_, run, launched, taken, .skips going queued known, by simp [queue, at_], under, rfl, rfl⟩
  | some features =>
      dsimp only
      cases resolved : setting.batch.template.resolve features with
      | error e =>
          refine ⟨_, _, launched, true, .fails going queued free known resolved, ?_, under, rfl, rfl⟩
          simp only [queue, at_]
          exact Run.apply_pending ..
      | ok job =>
          refine ⟨_, _, _, true, .submits going queued free known resolved, ?_, ?_, rfl, rfl⟩
          · simp [starts, launch, queue, at_, Run.begin, Run.note]
          · simp [starts, launch, under]

theorem fillFrom_path (operations : List (Operation Ask Answer)) {left : Option Nat} {run run' : Run}
    {launched launched' : List Activity} {taken taken' : Bool} {pending : List String} {s : Situation Ask Answer σ}
    (going : s.cancelled = false) (at_ : s.run = { run with pending })
    (under : s.operations =
      operations ++ launched.map (Operation.start setting.backend s.world.now))
    (filled : Run.fillFrom setting.config setting.batch s.world.now (s.moment setting) left run launched
      taken pending = (run', launched', taken')) :
    ∃ keys, Path setting keys s { s with
        run := run'
        operations := operations ++ launched'.map (Operation.start setting.backend s.world.now) } ∧
      pending = keys ++ run'.pending ∧
      (left.isSome = true ∨ run'.pending = [] ∨ setting.config.slots ≤ run'.occupied) := by
  induction pending generalizing left run launched taken s with
  | nil =>
      obtain ⟨rfl, rfl, rfl⟩ : { run with pending := [] } = run' ∧ launched = launched' ∧ taken = taken' := by
        simpa [Run.fillFrom] using filled
      exact ⟨[], by rw [← at_, ← under]; exact .refl s, rfl, .inr (.inl rfl)⟩
  | cons key rest ih =>
      by_cases stopped : left = some 0 ∨ setting.config.slots ≤ run.occupied
      · obtain ⟨rfl, rfl, rfl⟩ : { run with pending := key :: rest } = run' ∧ launched = launched' ∧
            taken = taken' := by
          simpa [Run.fillFrom, stopped] using filled
        refine ⟨[], by rw [← at_, ← under]; exact .refl s, rfl, ?_⟩
        obtain rfl | full := stopped
        · exact .inl rfl
        · exact .inr (.inr full)
      · obtain ⟨t, run, launched, taken, step, at_, under, same, filling⟩ :=
          fillFrom_step operations taken going at_ under stopped
        have now : t.world = s.world := by rw [same]
        have goes : t.cancelled = false := by rw [same]; exact going
        rw [filling, ← now, show s.moment setting = t.moment setting by rw [same]; rfl] at filled
        obtain ⟨keys, path, queue, settled⟩ := ih goes at_ under filled
        refine ⟨key :: keys, step.path.trans ?_, congrArg (key :: ·) queue, by simpa using settled⟩
        rw [same] at path ⊢
        exact path

/-! ### Waking -/

/-- The jobs that are observed leave the waiting ones in their order. -/
theorem polls_path (setting : Setting Ask Answer σ) (before jobs : List InFlight) {s : Situation Ask Answer σ}
    (held : s.run.waiting = before ++ jobs) :
    let polled := jobs.filter (·.isPolled s.world.now)
    Path setting (polled.map (·.key)) s (launch setting { s with
      run := (polled.map Activity.observing).foldl (Run.begin s.world.now)
        (s.parked (before ++ jobs.filter (!·.isPolled s.world.now))) } (polled.map .observing)) := by
  induction jobs generalizing before s with
  | nil =>
      have same : launch setting { s with run := s.parked before } [] = s := by
        rw [List.append_nil] at held
        simp [launch, parked, ← held]
      simpa [same] using Path.refl s
  | cons job rest ih =>
      by_cases polled : job.isPolled s.world.now = true
      · obtain ⟨due, early⟩ := InFlight.isPolled_iff.mp polled
        have step : Step setting (some job.key) s _ := .polls held due early
        have path := step.path.trans (ih before (by rfl))
        simpa [polled, starts, launch, parked, Run.begin, Run.note] using path
      · have path := ih (before ++ [job]) (s := s) (by simpa using held)
        simpa [polled] using path

/-- The jobs that expire leave the waiting ones in their order. -/
theorem expires_path (now : Nat) (before jobs : List InFlight) {run : Run} {s : Situation Ask Answer σ}
    (at_ : s.run = { run with waiting := before ++ jobs }) (clock : s.world.now = now) :
    let expired := jobs.filter (·.deadline ≤ now)
    Path setting (expired.map (·.key)) s { s with
      run := (expired.map fun job => .observed job .deadlineExceeded).foldl
        (Run.conclude setting.config now (setting.clock.at now))
        { run with waiting := before ++ jobs.filter fun job => !decide (job.deadline ≤ now) } } := by
  induction jobs generalizing before run s with
  | nil =>
      have same : { s with run := { run with waiting := before } } = s := by
        rw [List.append_nil] at at_
        rw [← at_]
      simpa [same] using Path.refl s
  | cons job rest ih =>
      by_cases expired : job.deadline ≤ now
      · have step : Step setting (some job.key) s _ :=
          .expires (by rw [at_]) (by rwa [clock])
        have concluded : (s.parked (before ++ rest)).conclude setting.config s.world.now (s.moment setting)
            (.observed job .deadlineExceeded) = { run.conclude setting.config now (setting.clock.at now)
              (.observed job .deadlineExceeded) with waiting := before ++ rest } := by
          simp only [parked, at_, moment, clock]
          exact Run.conclude_expired_waiting ..
        have path := step.path.trans (ih before concluded clock)
        simpa [expired, Run.conclude_expired_waiting] using path
      · have path := ih (before ++ [job]) (by simpa using at_) clock
        simpa [expired] using path

/-- Nothing is left to wait for. -/
def Rests (s : Situation Ask Answer σ) : Prop :=
  s.run.drain = some [] ∨ s.run.waiting = [] ∧ (s.run.active = [] ∨ s.operations = [])

theorem rests_of_isOver {s : Situation Ask Answer σ} (ended : s.run.isOver = true) : s.Rests := by
  simp only [Run.isOver, Bool.or_eq_true, Bool.and_eq_true, beq_iff_eq, List.isEmpty_iff] at ended
  exact ended.imp_right fun empty => ⟨empty.1, .inl empty.2⟩

/-- How a verdict comes about by steps. A run that goes on has done something for a job or has noticed the
cancellation, and one that is over can submit nothing more and has nothing left to wait for. -/
inductive Leads (setting : Setting Ask Answer σ) (s : Situation Ask Answer σ) :
    Verdict Ask Answer σ → Prop where
  | goesOn {keys t} (path : Path setting keys s t)
      (moved : s.cancelled = true ∨ setting.cancelAt = none → keys ≠ []) : Leads setting s (.goesOn t)
  | ends {keys t} (path : Path setting keys s t) (filled : t.Filled setting) (rests : t.Rests) :
      Leads setting s (.over t)
  | unsaved {keys t fault last} (path : Path setting keys s t) (unsaved : t.save = .failed fault last) :
      Leads setting s (.failed fault last)
  | overflows {keys t operation others completion last} (path : Path setting keys s t)
      (picked : (operation, others) ∈ dueOperations t.world.now t.operations)
      (ends : operation.EndsWith t.world.now completion)
      (unnameable : t.run.canConclude setting.config t.world.now (t.moment setting) completion = false)
      (run : last.run = t.run) (now : last.world.now = t.world.now) : Leads setting s (.failed .overflow last)

theorem Leads.after {s t : Situation Ask Answer σ} {keys : List String} {verdict : Verdict Ask Answer σ}
    (path : Path setting keys s t) (leads : Leads setting t verdict) : Leads setting s verdict := by
  cases leads with
  | goesOn more moved =>
      refine .goesOn (path.trans more) fun decided => ?_
      simp [moved (decided.imp_left path.cancelled)]
  | ends more filled rests => exact .ends (path.trans more) filled rests
  | unsaved more unsaved => exact .unsaved (path.trans more) unsaved
  | overflows more picked ends unnameable run now =>
      exact .overflows (path.trans more) picked ends unnameable run now

/-- A store in memory is not saved. -/
theorem save_of_unplaced {s : Situation Ask Answer σ} (unplaced : s.run.store.path = none) : s.save = .goesOn s := by
  simp [save, BatchStore.save, BatchStore.saveSteps, unplaced, BatchStore.performAll]

theorem save_cases (s : Situation Ask Answer σ) : ∃ disk,
    s.save = .goesOn { s with world := { s.world with disk } } ∨
      ∃ e, s.save = .failed (.batch e) { s with world := { s.world with disk } } := by
  unfold save
  obtain ⟨result, disk⟩ := s.run.store.save s.world.disk
  cases result with
  | ok => exact ⟨disk, .inl rfl⟩
  | error e => exact ⟨disk, .inr ⟨e, rfl⟩⟩

/-- Saving, if it goes well, changes the files alone. -/
theorem eq_of_save {s t : Situation Ask Answer σ} (saved : s.save = .goesOn t) :
    ∃ disk, t = { s with world := { s.world with disk } } := by
  obtain ⟨disk, ok | ⟨e, failed⟩⟩ := save_cases s
  · exact ⟨disk, Verdict.goesOn.inj (saved.symm.trans ok)⟩
  · cases saved.symm.trans failed

/-- Saving, if it fails, changes the files alone. -/
theorem eq_of_not_saved {s t : Situation Ask Answer σ} {fault : Fault} (unsaved : s.save = .failed fault t) :
    ∃ disk, t = { s with world := { s.world with disk } } := by
  obtain ⟨disk, ok | ⟨e, failed⟩⟩ := save_cases s
  · cases unsaved.symm.trans ok
  · exact ⟨disk, (Verdict.failed.inj (unsaved.symm.trans failed)).2⟩

theorem save_leads {s t : Situation Ask Answer σ} {keys : List String} (path : Path setting keys s t)
    (moved : keys ≠ []) : Leads setting s t.save := by
  obtain ⟨disk, saved | ⟨e, failed⟩⟩ := save_cases t
  · rw [saved]
    exact .goesOn (path.quiet (.saves disk)) fun _ => moved
  · rw [failed]
    exact .unsaved path failed

/-- Waking is a path of polls and expiries, each of a job that waits. -/
theorem wake_path (setting : Setting Ask Answer σ) (s : Situation Ask Answer σ) :
    ∃ keys t, Path setting keys s t ∧ (s.wake setting = .goesOn t ∨ s.wake setting = t.save) ∧
      (∀ key, keys.count key ≤ (s.run.waiting.map (·.key)).count key) ∧
      ∀ job ∈ s.run.waiting, job.wakeAt ≤ s.world.now → keys ≠ [] := by
  have rest : (s.run.waiting.filter (!·.isPolled s.world.now)).filter
      (fun job => !decide (job.deadline ≤ s.world.now)) =
      s.run.waiting.filter fun job => !decide (job.wakeAt ≤ s.world.now) := by
    rw [List.filter_filter]
    refine List.filter_congr fun job _ => ?_
    by_cases past : job.deadline ≤ s.world.now
    · have wakes : job.wakeAt ≤ s.world.now := Nat.le_trans job.wakeAt_le_deadline past
      simp [past, wakes]
    · simp [InFlight.isPolled, past]
  have expired : (s.run.waiting.filter (!·.isPolled s.world.now)).filter (·.deadline ≤ s.world.now) =
      s.run.waiting.filter (·.deadline ≤ s.world.now) := by
    rw [List.filter_filter]
    refine List.filter_congr fun job _ => ?_
    by_cases past : job.deadline ≤ s.world.now <;> simp [InFlight.isPolled, past]
  have polls := polls_path setting [] s.run.waiting (s := s) rfl
  have path := polls.trans
    (expires_path s.world.now [] _ (Run.foldl_begin_waiting ..) rfl)
  have once (key : String) :
      ((s.run.waiting.filter (·.isPolled s.world.now)).map (·.key) ++
        ((s.run.waiting.filter (!·.isPolled s.world.now)).filter (·.deadline ≤ s.world.now)).map (·.key)).count key ≤
        (s.run.waiting.map (·.key)).count key := by
    have parts := (List.filter_append_perm (·.isPolled s.world.now) s.run.waiting).map (·.key)
    rw [← parts.count_eq, List.map_append, List.count_append, List.count_append]
    exact Nat.add_le_add_left ((List.filter_sublist.map _).count_le key) _
  have moved (job : InFlight) (waiting : job ∈ s.run.waiting) (due : job.wakeAt ≤ s.world.now) :
      (s.run.waiting.filter (·.isPolled s.world.now)).map (·.key) ++
        (s.run.waiting.filter (·.deadline ≤ s.world.now)).map (·.key) ≠ [] := by
    by_cases past : job.deadline ≤ s.world.now
    · simpa using fun _ => ⟨job, waiting, past⟩
    · simpa using fun none => absurd (InFlight.isPolled_iff.mpr ⟨due, by omega⟩) (by simp [none job waiting])
  simp only [launch, List.nil_append, rest, expired, ← Run.foldl_begin_waiting] at path once
  refine ⟨_, _, path, ?_, once, moved⟩
  simp only [wake, Run.wake_eq, conclude, Run.concludeAll_expired]
  split
  next none =>
      rw [List.isEmpty_iff, List.map_eq_nil_iff] at none
      exact .inl (by simp only [none, List.map_nil, List.foldl_nil]; rfl)
  next => exact .inr rfl

theorem wake_leads {s : Situation Ask Answer σ} {job : InFlight} (waiting : job ∈ s.run.waiting)
    (due : job.wakeAt ≤ s.world.now) : Leads setting s (s.wake setting) := by
  obtain ⟨keys, t, path, goes | saves, -, moved⟩ := wake_path setting s
  · rw [goes]
    exact .goesOn path fun _ => moved job waiting due
  · rw [saves]
    exact save_leads path (moved job waiting due)

/-! ### Waiting -/

theorem mem_dueOperations {now : Nat} {operations others : List (Operation Ask Answer)}
    {operation : Operation Ask Answer} (picked : (operation, others) ∈ dueOperations now operations) :
    operation.eventAt ≤ now ∧
      ∃ before after, operations = before ++ operation :: after ∧ others = before ++ after := by
  induction operations generalizing others with
  | nil => simp [dueOperations] at picked
  | cons first rest ih =>
      have later (member : (operation, others) ∈
          (dueOperations now rest).map fun due => (due.1, first :: due.2)) :
          operation.eventAt ≤ now ∧
            ∃ before after, first :: rest = before ++ operation :: after ∧ others = before ++ after := by
        obtain ⟨⟨_, others'⟩, known, same⟩ := List.mem_map.mp member
        obtain ⟨rfl, rfl⟩ := Prod.mk.inj same
        obtain ⟨due, before, after, rfl, rfl⟩ := ih known
        exact ⟨due, first :: before, after, rfl, rfl⟩
      unfold dueOperations at picked
      by_cases due : first.eventAt ≤ now
      · rw [if_pos due] at picked
        obtain same | member := List.mem_cons.mp picked
        · obtain ⟨rfl, rfl⟩ := Prod.mk.inj same
          exact ⟨due, [], others, rfl, rfl⟩
        · exact later member
      · rw [if_neg due] at picked
        exact later picked

/-- A due operation and the others are all there is. -/
theorem mem_of_picked {now : Nat} {operations others : List (Operation Ask Answer)}
    {operation : Operation Ask Answer} (picked : (operation, others) ∈ dueOperations now operations) :
    operation ∈ operations ∧ ∀ other ∈ others, other ∈ operations := by
  obtain ⟨-, before, after, rfl, rfl⟩ := mem_dueOperations picked
  grind

theorem exists_mem_dueOperations {now : Nat} {operations : List (Operation Ask Answer)}
    {operation : Operation Ask Answer} (member : operation ∈ operations) (due : operation.eventAt ≤ now) :
    ∃ others, (operation, others) ∈ dueOperations now operations := by
  induction operations with
  | nil => cases member
  | cons first rest ih =>
      unfold dueOperations
      obtain rfl | member := List.mem_cons.mp member
      · exact ⟨rest, by simp [due]⟩
      · obtain ⟨others, picked⟩ := ih member
        refine ⟨first :: others, ?_⟩
        have later := List.mem_map_of_mem (f := fun (p : Operation Ask Answer × _) => (p.1, first :: p.2)) picked
        dsimp only
        split
        · exact List.mem_cons_of_mem _ later
        · exact later

/-- Every operation belongs to some activity, and nothing is marked for a last outcome before the
cancellation. -/
structure Proper (s : Situation Ask Answer σ) : Prop where
  serving : ∀ operation ∈ s.operations, ∃ activity, operation.Serves activity
  unmarked : s.cancelled = false → s.run.drain = none

end Situation

theorem Step.proper {touched : Option String} {s t : Situation Ask Answer σ} (proper : s.Proper)
    (step : Step setting touched s t) : t.Proper := by
  obtain ⟨serving, unmarked⟩ := proper
  have begins {run activity} : ∀ operation ∈ (s.starts setting run activity).operations,
      ∃ activity, operation.Serves activity := by
    intro operation member
    obtain member | member := List.mem_append.mp member
    · exact serving operation member
    · exact ⟨_, List.mem_singleton.mp member ▸ Operation.start_serves ..⟩
  cases step with
  | waits | saves | skips => exact ⟨serving, unmarked⟩
  | notices => exact ⟨serving, by simp⟩
  | drains cancelled => exact ⟨serving, by simp [cancelled]⟩
  | fails going => exact ⟨serving, by simpa [Situation.queue] using unmarked⟩
  | submits | polls => exact ⟨begins, unmarked⟩
  | asks picked due asks replied =>
      obtain ⟨present, rest⟩ := Situation.mem_of_picked picked
      refine ⟨fun operation member => ?_, unmarked⟩
      obtain rfl | member := List.mem_cons.mp member
      · obtain ⟨activity, serves⟩ := serving _ present
        exact ⟨activity, serves.answered asks ..⟩
      · exact serving operation (rest operation member)
  | concludes picked ends own nameable =>
      refine ⟨fun operation member => ?_, fun going => by simp [unmarked going]⟩
      exact serving operation ((Situation.mem_of_picked picked).2 operation member)
  | expires => exact ⟨serving, fun going => by simp [Situation.parked, unmarked going]⟩

namespace Situation

/-- The alarm is set for the waiting job that needs something first. -/
theorem alarm?_eq_some {s : Situation Ask Answer σ} {alarm : Nat} (set : s.alarm? = some alarm) :
    ∃ job ∈ s.run.waiting, alarm = Instant.nextTick job.wakeAt ∧
      ∀ other ∈ s.run.waiting, alarm ≤ Instant.nextTick other.wakeAt := by
  obtain ⟨first, least, rfl⟩ := Option.map_eq_some_iff.mp set
  obtain ⟨member, least⟩ := List.min?_eq_some_iff.mp least
  obtain ⟨job, waiting, rfl⟩ := List.mem_map.mp member
  exact ⟨job, waiting, rfl, fun other member =>
    Instant.nextTick_mono (least _ (List.mem_map_of_mem member))⟩

theorem alarm?_of_mem {s : Situation Ask Answer σ} {job : InFlight} (waiting : job ∈ s.run.waiting) :
    ∃ alarm, s.alarm? = some alarm := by
  cases none : s.run.wakeAt? with
  | none => simp [Run.wakeAt?, List.min?_eq_none_iff, List.ne_nil_of_mem waiting] at none
  | some first => exact ⟨_, by simp only [alarm?, none]; rfl⟩

theorem next_of_nearest {s : Situation Ask Answer σ} {t : Nat} (nearest : s.nextEvent? setting = some t) :
    s.Next setting t := by
  obtain ⟨present, least⟩ := List.min?_eq_some_iff.mp nearest
  refine ⟨fun operation member => ?_, fun job member => ?_, ?_⟩
  · exact least _ (by simp; exact .inr (.inl ⟨operation, member, rfl⟩))
  · obtain ⟨alarm, set⟩ := alarm?_of_mem member
    obtain ⟨-, -, -, first⟩ := alarm?_eq_some set
    exact Nat.le_trans (least alarm (by simp [set])) (first job member)
  · simp only [List.mem_append, Option.mem_toList, List.mem_map, or_assoc] at present
    refine present.imp (fun cancel => ?_) fun other => other.imp ?_ fun set => ?_
    · unfold cancelAt? at cancel
      split at cancel <;> simp_all
    · exact fun ⟨operation, member, same⟩ => ⟨operation, member, same.symm⟩
    · obtain ⟨job, member, same, -⟩ := alarm?_eq_some set
      exact ⟨job, member, same⟩

theorem waitUntil_path {s : Situation Ask Answer σ} {t : Nat} (filled : s.Filled setting)
    (next : setting.punctual = true → s.Next setting t) : Path setting [] s (s.waitUntil t) := by
  by_cases later : s.world.now ≤ t
  · have same : s.waitUntil t = { s with world := { s.world with now := t } } := by
      simp [waitUntil, Nat.max_eq_right later]
    rw [same]
    exact (Step.waits t filled later next).path
  · have same : s.waitUntil t = s := by
      simp [waitUntil, Nat.max_eq_left (Nat.le_of_not_le later)]
    rw [same]
    exact .refl s

/-- From the nearest event on there is something to take in. -/
theorem turns_ne_nil {s : Situation Ask Answer σ} {t u : Nat} (nearest : s.nextEvent? setting = some t)
    (le : t ≤ u) : (s.waitUntil u).turns setting ≠ [] := by
  obtain ⟨member, -⟩ := List.min?_eq_some_iff.mp nearest
  have reached : t ≤ (s.waitUntil u).world.now := Nat.le_trans le (Nat.le_max_right ..)
  simp only [List.mem_append, Option.mem_toList, List.mem_map, or_assoc] at member
  obtain cancel | ⟨operation, present, rfl⟩ | set := member
  · have same : (s.waitUntil u).cancelAt? setting = some t := cancel
    have due : (s.waitUntil u).cancellationDue setting = true := by
      simp [cancellationDue, same, reached]
    simp [turns, due]
  · obtain ⟨others, picked⟩ := exists_mem_dueOperations present reached
    have some_ : dueOperations (s.waitUntil u).world.now s.operations ≠ [] :=
      List.ne_nil_of_mem picked
    simp [turns, waitUntil] at some_ ⊢
    simp [some_]
  · have same : (s.waitUntil u).alarm? = some t := set
    simp [turns, same, reached]

/-- Taking in a turn that is there leads on by steps. -/
theorem take_leads {s : Situation Ask Answer σ} (proper : s.Proper) {turn : Turn Ask Answer}
    (present : turn ∈ s.turns setting) : Leads setting s (s.take setting turn) := by
  simp only [turns, List.mem_append, or_assoc] at present
  obtain cancel | happens | waking := present
  · split at cancel
    next due =>
        obtain rfl := List.mem_singleton.mp cancel
        refine .goesOn (Step.notices due).path fun decided => ?_
        rcases decided with cancelled | never
        · simp [cancellationDue, cancelAt?, cancelled] at due
        · simp [cancellationDue, cancelAt?, never] at due
    next => cases cancel
  · obtain ⟨⟨operation, others⟩, picked, rfl⟩ := List.mem_map.mp happens
    obtain ⟨due, -⟩ := mem_dueOperations picked
    rcases advanced : operation.advance setting.service s.world with ⟨outcome, world⟩
    obtain ⟨question, next, reply, resumed, asks, replied, rfl, rfl⟩ | ⟨completion, ends, rfl, rfl⟩ :=
      Operation.advance_cases due advanced
    · simp only [take, advanced]
      exact .goesOn (Step.asks picked resumed asks replied).path fun _ => by simp
    · obtain ⟨activity, serves⟩ := proper.serving operation (mem_of_picked picked).1
      have own : completion.key = operation.key :=
        (serves.yields ends).key_eq.trans serves.key_eq.symm
      simp only [take, advanced, conclude, Run.concludeAll]
      cases nameable : s.run.canConclude setting.config s.world.now (s.moment setting) completion with
      | true =>
          rw [show s.run.canConclude setting.config s.world.now
            (moment setting { s with operations := others }) completion = true from nameable]
          exact save_leads (Step.concludes picked ends own nameable).path (by simp)
      | false =>
          rw [show s.run.canConclude setting.config s.world.now
            (moment setting { s with operations := others }) completion = false from nameable]
          exact .overflows (.refl s) picked ends nameable rfl rfl
  · split at waking
    next due =>
        obtain rfl := List.mem_singleton.mp waking
        cases set : s.alarm? with
        | none => simp [set] at due
        | some alarm =>
            have reached : alarm ≤ s.world.now := by simpa [set] using due
            obtain ⟨job, waiting, same, -⟩ := alarm?_eq_some set
            exact wake_leads waiting (Nat.le_trans (same ▸ Instant.le_nextTick job.wakeAt) reached)
    next => cases waking

theorem await_leads {choice : Choice} {s : Situation Ask Answer σ} (proper : s.Proper)
    (filled : s.Filled setting) : Leads setting s (s.await setting choice) := by
  unfold await
  cases nearest : s.nextEvent? setting with
  | none =>
      have none_ : s.alarm? = none ∧ s.operations = [] := by
        have := List.min?_eq_none_iff.mp nearest
        simp at this
        exact ⟨this.2.2, this.2.1⟩
      refine .ends (.refl s) filled (.inr ⟨?_, .inr none_.2⟩)
      cases waiting : s.run.waiting with
      | nil => rfl
      | cons job rest =>
          have present : job ∈ s.run.waiting := by simp [waiting]
          obtain ⟨alarm, set⟩ := alarm?_of_mem present
          simp [none_.1] at set
  | some t =>
      have wakes : ∃ u, u = (if setting.punctual then t else t + choice.late) ∧ t ≤ u ∧
          (setting.punctual = true → s.Next setting u) := by
        have next := next_of_nearest nearest
        cases setting.punctual with
        | true => exact ⟨t, rfl, Nat.le_refl t, fun _ => next⟩
        | false => exact ⟨t + choice.late, rfl, Nat.le_add_right .., by simp⟩
      obtain ⟨u, same, le, next⟩ := wakes
      have position : choice.turn % ((s.waitUntil u).turns setting).length <
          ((s.waitUntil u).turns setting).length :=
        Nat.mod_lt _ (List.length_pos_iff.mpr (turns_ne_nil nearest le))
      simp only [← same, List.getElem?_eq_getElem position]
      have waited : (s.waitUntil u).Proper := ⟨proper.serving, proper.unmarked⟩
      exact (take_leads waited (List.getElem_mem position)).after (waitUntil_path filled next)

/-- Nothing is submitted after the cancellation. -/
theorem fill_of_cancelled {choice : Choice} {s : Situation Ask Answer σ} (cancelled : s.cancelled = true) :
    s.fill setting choice = .goesOn s := by
  have nothing : s.run.fill setting.config setting.batch s.world.now (s.moment setting) (some 0) =
      (s.run, [], false) := by
    unfold Run.fill
    cases pending : s.run.pending <;> simp [Run.fillFrom, ← pending]
  obtain ⟨run, operations, _, world⟩ := s
  obtain rfl := cancelled
  simp [fill, nothing, launch]

/-- What a round submits, it submits one after another. -/
theorem fill_path (setting : Setting Ask Answer σ) (choice : Choice) (s : Situation Ask Answer σ) :
    ∃ keys t, Path setting keys s t ∧ s.run.pending = keys ++ t.run.pending ∧ t.Filled setting ∧
      (s.fill setting choice = .goesOn t ∨ s.fill setting choice = t.save) := by
  cases cancelled : s.cancelled with
  | true =>
      exact ⟨[], s, .refl s, rfl, .inl cancelled, .inl (fill_of_cancelled cancelled)⟩
  | false =>
      rcases filled : s.run.fill setting.config setting.batch s.world.now (s.moment setting)
        (if s.cancellationDue setting then choice.notice else none) with ⟨run, launched, taken⟩
      obtain ⟨keys, path, queue, settled⟩ := fillFrom_path s.operations cancelled rfl (by simp) filled
      have notices : ∃ t, Path setting keys s t ∧ t.Filled setting ∧
          t = launch setting { s with
            run := run
            cancelled := (if s.cancellationDue setting then choice.notice else none).isSome } launched := by
        cases noticed : (if s.cancellationDue setting then choice.notice else none).isSome with
        | true =>
            have due : s.cancellationDue setting = true := by
              cases due : s.cancellationDue setting with
              | true => rfl
              | false => simp [due] at noticed
            exact ⟨_, path.quiet (.notices due), .inl rfl, rfl⟩
        | false =>
            rw [noticed] at settled
            exact ⟨_, path, .inr (settled.resolve_left (by simp)), by simp [launch, cancelled]⟩
      obtain ⟨t, path, settled, same⟩ := notices
      refine ⟨keys, t, path, same ▸ queue, settled, ?_⟩
      simp only [fill, cancelled, Bool.false_eq_true, if_false, filled, ← same]
      cases taken with
      | true => exact .inr rfl
      | false => exact .inl rfl

/-- Every round, whatever its choice, is a path of single steps. -/
theorem round_leads (setting : Setting Ask Answer σ) (choice : Choice) {s : Situation Ask Answer σ}
    (proper : s.Proper) : Leads setting s (s.round setting choice) := by
  have go {keys t} (path : Path setting keys s t) (filled : t.Filled setting) :
      Leads setting s
        (let s := if t.cancelled then { t with run := t.run.noteCancelled } else t
        if s.run.isOver then .over s else s.await setting choice) := by
    have noted : ∃ u, Path setting keys s u ∧ u.Filled setting ∧
        u = if t.cancelled then { t with run := t.run.noteCancelled } else t := by
      by_cases cancelled : t.cancelled = true
      · exact ⟨_, path.quiet (.drains cancelled), .inl cancelled, (if_pos cancelled).symm⟩
      · exact ⟨t, path, filled, (if_neg cancelled).symm⟩
    obtain ⟨u, path, filled, same⟩ := noted
    have proper : u.Proper := path.invariant Step.proper proper
    simp only [← same]
    split
    next ended => exact .ends path filled (rests_of_isOver ended)
    next => exact (await_leads proper filled).after path
  obtain ⟨keys, t, path, -, filled, going | saved⟩ := fill_path setting choice s
  · simp only [round, going]
    exact go path filled
  · obtain ⟨disk, ok | ⟨e, failed⟩⟩ := save_cases t
    · simp only [round, saved, ok]
      exact go (path.quiet (.saves disk)) filled
    · simp only [round, saved, failed]
      exact .unsaved path failed

end Situation

end ImageBatch.Tracker
