import ImageBatch.Proofs.Tracker.Capacity
import ImageBatch.Proofs.Tracker.Resuming
import Mathlib.Data.DFinsupp.WellFounded
import Mathlib.SetTheory.Ordinal.Family

/-!
The draining of a cancelled run.

From the situation in which the cancellation is noticed on (`Setting.Interrupts`), each job under way is owed one
more outcome, and nothing happens to any other. A job that is owed its outcome stays under way until it gets it, and
whatever happens to it brings it nearer to its end (`Move.outcome`, `Move.depth_lt`). So the rounds come to an end,
and then every such job has had its outcome (`Setting.Interrupts.drained`).
-/

namespace ImageBatch.Tracker

variable {Ask : Type} {Answer : Ask → Type} {σ α : Type} {setting : Setting Ask Answer σ}
  {s t last : Situation Ask Answer σ} {key : String} {keys : List String} {world world' : World σ}
  {first view view' : View Ask Answer} {store : BatchStore} {journal new more : List (Nat × Note)}

/-! ### Depth -/

/-- How many questions a task may still ask, one after another, whatever it is answered. -/
noncomputable def depth : Task Ask Answer α → Ordinal.{0}
  | .done _ => 0
  | .ask _ next => ⨆ answer, Order.succ (depth (next answer))

theorem depth_answered {question : Ask} {next : Answer question → Task Ask Answer α} (answer : Answer question) :
    depth (next answer) < depth (.ask question next) := by
  have le : Order.succ (depth (next answer)) ≤ depth (.ask question next) :=
    Ordinal.le_iSup (fun answer => Order.succ (depth (next answer))) answer
  exact (Order.lt_succ _).trans_le le

/-- How much may still happen to a job before its next outcome. -/
noncomputable def Place.depth (backend : Backend Ask Answer) : Place Ask Answer → Ordinal.{0}
  | .pending | .gone => 0
  | .submitting _ _ operation | .observing _ operation => Tracker.depth operation.task + 1
  | .waiting job => Tracker.depth (Operation.start backend 0 (.observing job)).task + 1 + 1

/-- A job that is owed an outcome is under way, and comes nearer to it with whatever happens to it. -/
theorem Move.depth_lt (move : Move setting key world world' view view') (owed : view.owed = some true) :
    view'.place.depth setting.backend < view.place.depth setting.backend := by
  have above {depth : Ordinal.{0}} : (0 : Ordinal.{0}) < depth + 1 := add_pos_of_right zero_lt_one depth
  have nearer {question : Ask} {next : Answer question → Task Ask Answer Completion} (answer : Answer question) :
      Tracker.depth (next answer) + 1 < Tracker.depth (.ask question next) + 1 :=
    Order.succ_lt_succ (depth_answered answer)
  cases move with
  | fails | submits => cases owed
  | asksSubmitting due asks replied | asksObserving due asks replied =>
      simp only [Place.depth, asks]
      exact nearer _
  | accepted =>
      rw [show Place.resting _ _ = Place.gone from if_pos owed]
      exact above
  | @observed _ _ _ _ _ result =>
      cases result.isOpen with
      | true =>
          rw [if_pos rfl, show Place.resting _ _ = Place.gone from if_pos owed]
          exact above
      | false => exact above
  | declined | timesOut | expires => exact above
  | polls due early => exact Order.lt_succ _

/-! ### Outcomes -/

/-- The record of a job takes an event. -/
def Note.isOutcome : Note → Bool
  | .applied .. => true
  | _ => false

/-- How many outcomes of a key the entries of a journal tell of. -/
def outcomes (key : String) (journal : List (Nat × Note)) : Nat :=
  (journal.filter (·.2.key == key)).countP (·.2.isOutcome)

/-- What has become of a job some time after it was marked, with what was entered of it since. -/
inductive View.Drains (first : View Ask Answer) : (later : View Ask Answer) → List (Nat × Note) → Prop where
  /-- It is owed no outcome: nothing happened to it. -/
  | spared (unowed : first.owed = some false) : Drains first first []
  /-- It is still owed its outcome. -/
  | owing {later entries} (owed : first.owed = some true) (owes : later.owed = some true)
      (record : later.record = first.record)
      (quiet : ∀ entry ∈ entries, entry.2.takesSlot = false ∧ entry.2.isOutcome = false) :
      Drains first later entries
  /-- It has had its outcome. -/
  | settled {later entries} (owed : first.owed = some true) (paid : later.owed = some false)
      (quiet : ∀ entry ∈ entries, entry.2.takesSlot = false) (one : entries.countP (·.2.isOutcome) = 1) :
      Drains first later entries

/-- A job to which something happens after it was marked is owed an outcome. -/
theorem Move.owed (move : Move setting key world world' view view') (sound : view.Sound key)
    (marked : view.owed.isSome = true) : view.owed = some true := by
  obtain ⟨owed, same⟩ := Option.isSome_iff_exists.mp marked
  have underWay := sound.owed owed same
  cases move with
  | fails | submits => cases marked
  | _ => exact same.trans (congrArg some underWay)

/-- What happens to a job that is owed an outcome is the outcome, or it leaves the record and the debt alone. -/
theorem Move.outcome (move : Move setting key world world' view view') (owed : view.owed = some true) :
    ∃ new, view'.notes = new ++ view.notes ∧ (∀ entry ∈ new, entry.2.takesSlot = false) ∧
      (view'.owed = some true ∧ view'.record = view.record ∧ (∀ entry ∈ new, entry.2.isOutcome = false) ∨
        view'.owed = some false ∧ new.countP (·.2.isOutcome) = 1) := by
  cases move with
  | fails | submits => cases owed
  | asksSubmitting | asksObserving => exact ⟨[], rfl, by simp, .inl ⟨owed, rfl, by simp⟩⟩
  | polls => exact ⟨[_], rfl, by simp [Note.takesSlot], .inl ⟨owed, rfl, by simp [Note.isOutcome]⟩⟩
  | accepted | declined | observed | timesOut | expires =>
      refine ⟨[_, _], rfl, by simp [Note.takesSlot], .inr ⟨?_, by simp [Note.isOutcome]⟩⟩
      exact congrArg (Option.map fun _ => false) owed

theorem View.Drains.isSome (drains : first.Drains view new) : view.owed.isSome = true := by
  cases drains with
  | spared unowed => rw [unowed]; rfl
  | owing owed owes => rw [owes]; rfl
  | settled owed paid => rw [paid]; rfl

/-- A job drains on with whatever happens to it. -/
theorem Move.drains (move : Move setting key world world' view view') (sound : view.Sound key)
    (drains : first.Drains view new) :
    ∃ more, view'.notes = more ++ view.notes ∧ first.Drains view' (more ++ new) := by
  have owed := move.owed sound drains.isSome
  obtain ⟨more, noted, fresh, ⟨owes, record, silent⟩ | ⟨paid, one⟩⟩ := move.outcome owed
  all_goals
    refine ⟨more, noted, ?_⟩
    cases drains with
    | spared unowed => cases unowed.symm.trans owed
    | settled _ paid => cases paid.symm.trans owed
    | owing due _ same quiet => ?_
  · refine .owing due owes (record.trans same) fun entry member => ?_
    rcases List.mem_append.mp member with member | member
    · exact ⟨fresh entry member, silent entry member⟩
    · exact quiet entry member
  · refine .settled due paid (fun entry member => ?_) ?_
    · rcases List.mem_append.mp member with member | member
      · exact fresh entry member
      · exact (quiet entry member).1
    · rw [List.countP_append, one, List.countP_eq_zero.mpr]
      intro entry member
      simp [(quiet entry member).2]

/-- Before anything happens to it, a marked job has drained so far. -/
theorem View.drains_refl (marked : first.owed.isSome = true) : first.Drains first [] := by
  obtain ⟨owed, same⟩ := Option.isSome_iff_exists.mp marked
  cases owed with
  | false => exact .spared same
  | true => exact .owing same same rfl (by simp)

theorem View.Drains.outcomes_le (drains : first.Drains view new) : new.countP (·.2.isOutcome) ≤ 1 := by
  cases drains with
  | spared => exact Nat.zero_le 1
  | owing _ _ _ quiet =>
      rw [List.countP_eq_zero.mpr fun entry member => by simp [(quiet entry member).2]]
      exact Nat.zero_le 1
  | settled _ _ _ one => exact Nat.le_of_eq one

/-- What is entered of a marked job is owed to it. -/
theorem View.Drains.concerns {entry : Nat × Note} (drains : first.Drains view new) (member : entry ∈ new) :
    first.owed = some true ∧ entry.2.takesSlot = false := by
  cases drains with
  | spared => cases member
  | owing owed _ _ quiet => exact ⟨owed, (quiet entry member).1⟩
  | settled owed _ quiet => exact ⟨owed, quiet entry member⟩

/-- Without an outcome the record is as it was. -/
theorem View.Drains.record_eq (drains : first.Drains view new) (none : new.countP (·.2.isOutcome) = 0) :
    view.record = first.record := by
  cases drains with
  | spared => rfl
  | owing _ _ record => exact record
  | settled _ _ _ one => cases none.symm.trans one

/-! ### Runs -/

/-- Along a path a marked job drains. Each step that concerns it brings it nearer to its end. -/
theorem Path.drains (met : setting.Meets store world s) (path : Path setting keys s t)
    (member : key ∈ setting.batch.keys) (shows : s.Shows key first) (marked : first.owed.isSome = true) :
    ∃ later new, t.Shows key later ∧ later.Sound key ∧ later.notes = new ++ first.notes ∧ first.Drains later new ∧
      later.place.depth setting.backend ≤ first.place.depth setting.backend ∧
      (key ∈ keys → later.place.depth setting.backend < first.place.depth setting.backend) := by
  obtain ⟨same, shown, sound⟩ := met.shows member
  obtain rfl := shown.unique shows
  obtain ⟨later, shows, sound, ⟨⟨new, noted, drains⟩, le, lt⟩, -⟩ := Path.keeps (fun _ => True)
    (fun n _ view => (∃ new, view.notes = new ++ same.notes ∧ same.Drains view new) ∧
      view.place.depth setting.backend ≤ same.place.depth setting.backend ∧
      (0 < n → view.place.depth setting.backend < same.place.depth setting.backend))
    member (fun _ _ => trivial)
    (by
      rintro n s t view view' - - sound ⟨⟨new, noted, drains⟩, le, -⟩ move
      obtain ⟨more, noted', drains'⟩ := move.drains sound drains
      have nearer := (move.depth_lt (move.owed sound drains.isSome)).trans_le le
      exact ⟨⟨more ++ new, by rw [noted', noted, List.append_assoc], drains'⟩, nearer.le, fun _ => nearer⟩)
    (by
      rintro n s world view - - unmarked ⟨⟨new, -, drains⟩, -⟩
      have isSome := drains.isSome
      rw [unmarked] at isSome
      cases isSome)
    (fun _ _ _ _ _ holds => holds)
    path met.proper trivial shows sound
    ⟨⟨[], rfl, View.drains_refl marked⟩, le_rfl, fun absurd => nomatch absurd⟩ (n := 0)
  refine ⟨later, new, shows, sound, noted, drains, le, fun touched => lt ?_⟩
  rw [Nat.zero_add]
  exact List.count_pos_iff.mpr touched

/-- After the cancellation no key leaves the queue. -/
theorem Step.pending_of_cancelled {touched : Option String} (step : Step setting touched s t)
    (cancelled : s.cancelled = true) : t.run.pending = s.run.pending := by
  cases step with
  | waits | saves | notices | asks | polls => rfl
  | drains =>
      rw [Run.noteCancelled_frame]
  | skips going | fails going | submits going => cases cancelled.symm.trans going
  | concludes picked ends own nameable =>
      obtain ⟨_, _, _, -, -, -, -, effect⟩ := Run.conclude_frame setting.config s.world.now (s.moment setting) s.run _
      rw [effect]
  | @expires _ before job after held due =>
      obtain ⟨_, _, _, -, -, -, -, effect⟩ := Run.conclude_frame setting.config s.world.now (s.moment setting)
        (s.parked (before ++ after)) (.observed job .deadlineExceeded)
      rw [effect]
      rfl

theorem Path.pending_of_cancelled (path : Path setting keys s t) (cancelled : s.cancelled = true) :
    t.run.pending = s.run.pending := by
  induction path with
  | refl => rfl
  | step path step ih => exact (step.pending_of_cancelled (path.cancelled cancelled)).trans (ih cancelled)

/-- The cancellation is noted: every job has its mark. -/
theorem Situation.Shows.noted (shows : s.Shows key view) (sound : view.Sound key) (cancelled : s.cancelled = true) :
    s.noted.Shows key view.marked := by
  rw [Situation.noted_of_cancelled cancelled]
  cases drain : s.run.drain with
  | none => exact shows.noteCancelled drain
  | some marks =>
      have owed : view.owed = some (marks.contains key) := by rw [← shows.owed, drain]; rfl
      have same : view.marked = view := by
        rw [View.marked, ← sound.owed _ owed, ← owed]
      rw [same, Run.noteCancelled_of_marked drain]
      exact shows

theorem Setting.Meets.noted (met : setting.Meets store world s) (cancelled : s.cancelled = true) :
    setting.Meets store world s.noted := by
  rw [Situation.noted_of_cancelled cancelled]
  exact met.step (.drains cancelled)

/-- The run only drains from one situation to another: no key leaves the queue, what is entered concerns jobs that
were under way, each of them has one outcome at most, and without one its record stays. -/
structure Situation.Drains (s t : Situation Ask Answer σ) (new : List (Nat × Note)) : Prop where
  pending : t.run.pending = s.run.pending
  journal : t.run.journal = new ++ s.run.journal
  concerns : ∀ entry ∈ new, entry.2.key ∈ s.occupants ∧ entry.2.takesSlot = false
  once : ∀ key, outcomes key new ≤ 1
  record : ∀ key, outcomes key new = 0 → t.run.store.get? key = s.run.store.get? key

/-- After the cancellation a run drains, job by job. -/
theorem Setting.Meets.drains_job (met : setting.Meets store world s) (cancelled : s.cancelled = true)
    (path : Path setting keys s.noted t) (entered : t.run.journal = new ++ s.run.journal)
    (member : key ∈ setting.batch.keys) :
    ∃ view later, s.Shows key view ∧ t.Shows key later ∧ later.Sound key ∧
      view.marked.Drains later (new.filter (·.2.key == key)) ∧
      later.place.depth setting.backend ≤ view.place.depth setting.backend ∧
      (key ∈ keys → later.place.depth setting.backend < view.place.depth setting.backend) := by
  obtain ⟨view, shows, sound⟩ := met.shows member
  obtain ⟨later, mine, shown, sound', noted, drains, depth⟩ :=
    path.drains (met.noted cancelled) member (shows.noted sound cancelled) rfl
  have own : later.notes = new.filter (·.2.key == key) ++ view.notes := by
    rw [← shown.notes, entered, List.filter_append, shows.notes]
  obtain rfl : mine = new.filter (·.2.key == key) := List.append_cancel_right (noted.symm.trans own)
  exact ⟨view, later, shows, shown, sound', drains, depth⟩

theorem Setting.Meets.drains (met : setting.Meets store world s) (cancelled : s.cancelled = true)
    (path : Path setting keys s.noted t) : ∃ new, s.Drains t new := by
  obtain ⟨journal, pending, still⟩ := s.noted_frame
  have met' : setting.Meets store world t := (met.noted cancelled).trans path
  obtain ⟨new, entered, -⟩ := path.journal
  rw [journal] at entered
  -- Of a key that is not in the batch nothing is entered.
  have strange {key : String} (absent : key ∉ setting.batch.keys) : new.filter (·.2.key == key) = [] := by
    have nothing := (met'.untouched absent).2
    rw [entered, List.filter_append] at nothing
    exact (List.append_eq_nil_iff.mp nothing).1
  refine ⟨new, (path.pending_of_cancelled (still.trans cancelled)).trans pending, entered,
    fun entry noted => ?_, fun key => ?_,
    fun key none_ => ?_⟩
  · have own : entry ∈ new.filter (·.2.key == entry.2.key) := List.mem_filter.mpr ⟨noted, by simp⟩
    have member : entry.2.key ∈ setting.batch.keys := by
      by_contra absent
      rw [strange absent] at own
      cases own
    obtain ⟨view, later, shows, -, -, drains, -⟩ := met.drains_job cancelled path entered member
    obtain ⟨owed, quiet⟩ := drains.concerns own
    exact ⟨shows.mem_occupants_iff.mpr (Option.some.inj owed), quiet⟩
  · by_cases member : key ∈ setting.batch.keys
    · obtain ⟨view, later, -, -, -, drains, -⟩ := met.drains_job cancelled path entered member
      exact drains.outcomes_le
    · rw [outcomes, strange member]
      exact Nat.zero_le 1
  · by_cases member : key ∈ setting.batch.keys
    · obtain ⟨view, later, shows, shown, -, drains, -⟩ := met.drains_job cancelled path entered member
      rw [shown.record, shows.record, drains.record_eq none_]
      rfl
    · rw [met'.changed.others key member, met.changed.others key member]

/-- A job that was left in flight is adopted by every later run over the store that has it in its batch. -/
theorem Setting.opening_adopts {later : Setting Ask Answer σ} {record : JobRecord} {jobId : String}
    (found : store.get? key = some record) (inFlight : record.isInFlight = true) (named : record.jobId = some jobId)
    (opened : later.opening store world = .ok s) (member : key ∈ later.batch.keys) :
    ∃ job ∈ s.run.waiting, job.key = key ∧ job.jobId = jobId := by
  obtain ⟨view, opens, shows⟩ := Setting.opening_shows opened member
  obtain rfl : store.recordOf key = record := by rw [BatchStore.recordOf, found]; rfl
  have underWay := opens.isUnderWay_eq.trans inFlight
  cases opens with
  | pending | restarts | keeps => cases underWay
  | @adopts id job handedOver known adopted =>
      obtain rfl := Option.some.inj (known.symm.trans named)
      obtain ⟨deadline, -, rfl⟩ := Run.adopt_eq adopted
      obtain ⟨waits, present, own⟩ : ∃ job ∈ s.run.waiting.filter (·.key == key), job.key = key ∧ job.jobId = id := by
        rw [shows.waiting]
        exact ⟨_, List.mem_singleton_self _, BatchStore.recordOf_userId .., rfl⟩
      exact ⟨waits, (List.mem_filter.mp present).1, own⟩

/-- When a cancelled run ends, each job that was under way has had one outcome and is at its end or in flight. -/
theorem Setting.Meets.settled_job (met : setting.Meets store world s) (cancelled : s.cancelled = true)
    (path : Path setting keys s.noted t) (rests : t.Rests) (entered : t.run.journal = new ++ s.run.journal)
    (occupies : key ∈ s.occupants) :
    outcomes key new = 1 ∧ ∃ record, t.run.store.get? key = some record ∧
      (record.status.isTerminal = true ∨ record.isInFlight = true) := by
  have member : key ∈ setting.batch.keys := met.keys_subset (s.occupants_subset occupies)
  obtain ⟨view, later, shows, shown, sound, drains, -⟩ := met.drains_job cancelled path entered member
  have underWay := shows.mem_occupants_iff.mp occupies
  have idle : later.place = .gone := by
    refine (rests.place shown sound).resolve_left fun pending => ?_
    obtain ⟨-, queue, still⟩ := s.noted_frame
    have queued := shown.queue
    rw [path.pending_of_cancelled (still.trans cancelled), queue, shows.queue, pending] at queued
    cases place : view.place <;> rw [place] at queued underWay
    all_goals cases queued
    cases underWay
  have fits := sound.fits
  unfold View.Fits at fits
  rw [idle] at fits
  unfold outcomes
  generalize new.filter (·.2.key == key) = mine at drains
  cases drains with
  | spared unowed => cases unowed.symm.trans (congrArg some underWay)
  | owing _ owes =>
      have owed := sound.owed true owes
      rw [idle] at owed
      cases owed
  | settled _ _ _ one => exact ⟨one, later.record, shown.record, fits.imp_right And.right⟩

/-! ### Rounds -/

namespace Setting

/-- A round leads from the first situation to the second. -/
def Proceeds (setting : Setting Ask Answer σ) (s t : Situation Ask Answer σ) : Prop :=
  ∃ choice, s.round setting choice = .goesOn t

/-- The situation in which a run first notices its cancellation: as it submits, or as it waits. -/
inductive Interrupts (setting : Setting Ask Answer σ) (store : BatchStore) (world : World σ) :
    Situation Ask Answer σ → Prop where
  /-- What is left of the round is a round of its own (`Situation.round_of_noticed`). -/
  | submitting {s p} (choice : Choice) (reached : setting.Reaches store world s) (going : s.cancelled = false)
      (noticed : s.fill setting choice = .goesOn p) (cancelled : p.cancelled = true) :
      Interrupts setting store world p
  | waiting {s t p} (choice : Choice) (reached : setting.Reaches store world s)
      (waits : s.waits? setting choice = some t) (going : t.cancelled = false)
      (noticed : s.round setting choice = .goesOn p) (cancelled : p.cancelled = true) :
      Interrupts setting store world p

theorem Interrupts.meets (interrupted : setting.Interrupts store world s) :
    setting.Meets store world s ∧ s.cancelled = true := by
  cases interrupted with
  | submitting choice reached going noticed cancelled =>
      obtain ⟨keys, path, -⟩ := Situation.fill_goesOn noticed
      exact ⟨reached.meets.trans path, cancelled⟩
  | waiting choice reached waits going noticed cancelled =>
      exact ⟨(Reaches.round choice reached noticed).meets, cancelled⟩

/-- A round after the cancellation is a path from where the cancellation is noted. -/
theorem Meets.proceeds (met : setting.Meets store world s) (cancelled : s.cancelled = true)
    (proceeds : setting.Proceeds s t) :
    ∃ keys, keys ≠ [] ∧ Path setting keys s.noted t ∧ setting.Meets store world t ∧ t.cancelled = true := by
  obtain ⟨choice, goes⟩ := proceeds
  have leads := Situation.noted_leads setting choice (met.noted cancelled).proper cancelled
  rw [goes] at leads
  have still : s.noted.cancelled = true := s.noted_frame.2.2.trans cancelled
  cases leads with
  | @goesOn keys _ path moved =>
      exact ⟨keys, moved (.inl still), path, (met.noted cancelled).trans path, path.cancelled still⟩

/-- So are all rounds together. -/
theorem Meets.proceeds_on (met : setting.Meets store world s) (cancelled : s.cancelled = true)
    (continues : Relation.ReflTransGen setting.Proceeds s t) :
    setting.Meets store world t ∧ t.cancelled = true ∧ ∃ keys, Path setting keys s.noted t.noted := by
  induction continues with
  | refl => exact ⟨met, cancelled, [], .refl _⟩
  | tail _ proceeds ih =>
      obtain ⟨met, cancelled, keys, path⟩ := ih
      obtain ⟨more, -, led, met, cancelled⟩ := met.proceeds cancelled proceeds
      refine ⟨met, cancelled, keys ++ more, ?_⟩
      rw [Situation.noted_of_cancelled cancelled]
      exact (path.trans led).quiet (.drains cancelled)

/-- After the cancellation the rounds come to an end, since each brings some job nearer to its outcome. -/
theorem Meets.rounds_end (met : setting.Meets store world s) (cancelled : s.cancelled = true) :
    ¬ ∃ f : Nat → Situation Ask Answer σ, f 0 = s ∧ ∀ n, setting.Proceeds (f n) (f (n + 1)) := by
  rintro ⟨f, rfl, proceeds⟩
  have along (n : Nat) : setting.Meets store world (f n) ∧ (f n).cancelled = true := by
    induction n with
    | zero => exact ⟨met, cancelled⟩
    | succ n ih =>
        obtain ⟨-, -, -, next⟩ := ih.1.proceeds ih.2 (proceeds n)
        exact next
  choose view shows sound using fun n (i : Fin setting.batch.keys.length) => (along n).1.shows (List.getElem_mem i.isLt)
  refine not_strictAnti_of_wellFoundedLT (fun n i => (view n i).place.depth setting.backend)
    (strictAnti_nat_of_succ_lt fun n => ?_)
  obtain ⟨keys, moved, path, -⟩ := (along n).1.proceeds (along n).2 (proceeds n)
  obtain ⟨new, drains⟩ := (along n).1.drains (along n).2 path
  have job (i : Fin setting.batch.keys.length) := (along n).1.drains_job (along n).2 path drains.journal
    (List.getElem_mem i.isLt)
  have nearer (i : Fin setting.batch.keys.length) :
      (view (n + 1) i).place.depth setting.backend ≤ (view n i).place.depth setting.backend ∧
        (setting.batch.keys[i] ∈ keys →
          (view (n + 1) i).place.depth setting.backend < (view n i).place.depth setting.backend) := by
    obtain ⟨before, after, shown, shown', -, -, depth⟩ := job i
    rw [(shows n i).unique shown, (shows (n + 1) i).unique shown']
    exact depth
  obtain ⟨key, touched⟩ := List.exists_mem_of_ne_nil keys moved
  have member : key ∈ setting.batch.keys := ((along n).1.noted (along n).2).keys_subset (path.keys_subset touched)
  obtain ⟨i, inside, rfl⟩ := List.mem_iff_getElem.mp member
  exact Pi.lt_def.mpr ⟨fun i => (nearer i).1, ⟨i, inside⟩, (nearer ⟨i, inside⟩).2 touched⟩

/-- From the situation in which a run notices its cancellation on, its rounds come to an end, and all through them it
only drains: nothing is submitted, each job that was under way has one outcome at most, and no other record changes. If
the run ends well, no operation is left, each of those jobs has had exactly one outcome, and it is at its end or is
handed over under an id by which each later run adopts it. It ends otherwise only if the store cannot be saved, or if
the clock cannot name an instant. -/
theorem Interrupts.drained (interrupted : setting.Interrupts store world s) :
    (¬ ∃ f : Nat → Situation Ask Answer σ, f 0 = s ∧ ∀ n, setting.Proceeds (f n) (f (n + 1))) ∧
      ∀ (t : Situation Ask Answer σ) (choice : Choice), Relation.ReflTransGen setting.Proceeds s t →
        ∃ new, s.Drains (t.round setting choice).situation new ∧
          (∀ last, t.round setting choice = .over last → last.operations = [] ∧
            ∀ key ∈ s.occupants, outcomes key new = 1 ∧
              ∃ record, last.run.store.get? key = some record ∧ (record.status.isTerminal = true ∨
                record.status.isHandedOver = true ∧ ∃ jobId, record.jobId = some jobId ∧
                  ∀ (later : Setting Ask Answer σ) (world : World σ) (opening : Situation Ask Answer σ),
                    later.opening last.run.store world = .ok opening → key ∈ later.batch.keys →
                    ∃ job ∈ opening.run.waiting, job.key = key ∧ job.jobId = jobId)) ∧
          ∀ fault last, t.round setting choice = .failed fault last →
            fault = .overflow ∨ ∃ unsaved : Situation Ask Answer σ, unsaved.save = .failed fault last := by
  obtain ⟨met, cancelled⟩ := interrupted.meets
  refine ⟨met.rounds_end cancelled, fun t choice proceeds => ?_⟩
  obtain ⟨met', cancelled', before, path⟩ := met.proceeds_on cancelled proceeds
  generalize verdict : t.round setting choice = final
  have leads := Situation.noted_leads setting choice (met'.noted cancelled').proper cancelled'
  rw [verdict] at leads
  cases leads with
  | goesOn led moved =>
      obtain ⟨new, drains⟩ := met.drains cancelled (path.trans led)
      exact ⟨new, drains, fun _ absurd => (nomatch absurd), fun _ _ absurd => (nomatch absurd)⟩
  | @ends _ last led filled rests =>
      have path := path.trans led
      obtain ⟨new, drains⟩ := met.drains cancelled path
      refine ⟨new, drains, ?_, fun _ _ absurd => nomatch absurd⟩
      rintro _ ⟨⟩
      refine ⟨(((met.noted cancelled).trans path).idle_of_rests rests).2, fun key occupies => ?_⟩
      obtain ⟨one, record, found, left⟩ := met.settled_job cancelled path rests drains.journal occupies
      refine ⟨one, record, found, left.imp_right fun inFlight => ?_⟩
      obtain ⟨handedOver, named⟩ := Bool.and_eq_true_iff.mp inFlight
      obtain ⟨jobId, named⟩ := Option.isSome_iff_exists.mp named
      exact ⟨handedOver, jobId, named, fun later world opening opened member =>
        opening_adopts found inFlight named opened member⟩
  | @unsaved _ u fault last led unsaved =>
      obtain ⟨new, drains⟩ := met.drains cancelled (path.trans led)
      refine ⟨new, ?_, fun _ absurd => (nomatch absurd), ?_⟩
      · obtain ⟨disk, rfl⟩ := Situation.eq_of_not_saved unsaved
        exact ⟨drains.pending, drains.journal, drains.concerns, drains.once, drains.record⟩
      · rintro _ _ ⟨⟩
        exact .inr ⟨u, unsaved⟩
  | overflows led picked ends unnameable run now =>
      obtain ⟨new, drains⟩ := met.drains cancelled (path.trans led)
      obtain ⟨pending, journal, concerns, once, record⟩ := drains
      rw [← run] at pending journal record
      refine ⟨new, ⟨pending, journal, concerns, once, record⟩, fun _ absurd => (nomatch absurd), ?_⟩
      rintro _ _ ⟨⟩
      exact .inl rfl

/-- A run of three jobs that is cancelled as two of them are being submitted. -/
def halted : Setting Empty (fun _ => Unit) Unit := { prompted ["ada", "bob", "cid"] with cancelAt := some 0 }

/-- The two jobs are handed over, and the third one stays pending. -/
theorem drained_prompted : ∃ s t last, halted.Interrupts .inMemory ⟨(), ⟨[]⟩, 0⟩ s ∧
    s.occupants = ["ada", "bob"] ∧ Relation.ReflTransGen halted.Proceeds s t ∧ t.round halted {} = .over last ∧
    last.run.pending = ["cid"] ∧ last.operations = [] ∧
    ∃ new, s.Drains last new ∧ outcomes "ada" new = 1 ∧ outcomes "bob" new = 1 := by
  obtain ⟨s, t, last, interrupted, occupants, proceeds, ends, pending⟩ : ∃ s t last,
      halted.Interrupts .inMemory ⟨(), ⟨[]⟩, 0⟩ s ∧ s.occupants = ["ada", "bob"] ∧
        Relation.ReflTransGen halted.Proceeds s t ∧ t.round halted {} = .over last ∧ last.run.pending = ["cid"] :=
    ⟨_, _, _, .submitting { notice := some 2 } (.opening rfl rfl) rfl rfl rfl, rfl,
      .tail (.tail .refl ⟨{}, rfl⟩) ⟨{}, rfl⟩, rfl, rfl⟩
  obtain ⟨-, drains⟩ := Interrupts.drained interrupted
  obtain ⟨new, drained, settled, -⟩ := drains t {} proceeds
  obtain ⟨idle, each⟩ := settled last ends
  rw [ends] at drained
  rw [occupants] at each
  exact ⟨s, t, last, interrupted, occupants, proceeds, ends, pending, idle, new, drained,
    (each "ada" (by simp)).1, (each "bob" (by simp)).1⟩

end Setting

end ImageBatch.Tracker
