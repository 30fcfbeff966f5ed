import ImageBatch.Proofs.Batch.Chronicle
import ImageBatch.Proofs.Batch.Reading
import ImageBatch.Proofs.Batch.Saving
import ImageBatch.Proofs.Tracker.Records
import ImageBatch.Proofs.Tracker.Waiting

/-!
The store is written through.

Each part of a round that changes a record saves the store before the round goes on. So where a round waits and where
the run ends, the path of the store reads the document of its records (`Situation.Persists`,
`Situation.round_persists`), and opening the store there gives the same store (`Setting.written_through`): all records
are such that documents can hold them, as long as the clock shows moments of the calendar
(`Setting.Meets.representable`), and those of a store that was opened are such to begin with.
-/

namespace ImageBatch.Tracker

open BatchStore Disk

variable {Ask : Type} {Answer : Ask → Type} {σ : Type} {setting : Setting Ask Answer σ} {store : BatchStore}
  {world : World σ} {s t last : Situation Ask Answer σ} {choice : Choice} {path : ImageBatch.Path}
  {first : Disk} {keys : List String}

/-! ### What runs do to the store -/

namespace Run

variable {config : Config} {batch : Batch} {now : Nat} {moment : Timestamp} {run run' : Run}

theorem concludeAll_path {completions : List Completion}
    (concluded : run.concludeAll config now moment completions = .ok run') : run'.store.path = run.store.path := by
  induction completions generalizing run with
  | nil =>
      cases concluded
      rfl
  | cons completion rest ih =>
      unfold concludeAll at concluded
      split at concluded
      · exact (ih concluded).trans (conclude_changed config now moment run completion).path
      · cases concluded

/-- Filling leaves the store alone unless a key was taken. -/
theorem fillFrom_store {left : Option Nat} {launched launched' : List Activity} {taken taken' : Bool}
    {pending : List String}
    (filled : fillFrom config batch now moment left run launched taken pending = (run', launched', taken')) :
    run'.store.path = run.store.path ∧ (taken' = false → taken = false ∧ run'.store = run.store) := by
  induction pending generalizing left run launched taken with
  | nil =>
      cases filled
      exact ⟨rfl, fun untaken => ⟨untaken, rfl⟩⟩
  | cons key rest ih =>
      unfold fillFrom at filled
      split at filled
      · cases filled
        exact ⟨rfl, fun untaken => ⟨untaken, rfl⟩⟩
      dsimp only at filled
      split at filled
      · exact ih filled
      split at filled
      · obtain ⟨path, untaken⟩ := ih filled
        exact ⟨path.trans (apply_changed now moment run key _).path, fun none_ => Bool.noConfusion (untaken none_).1⟩
      · obtain ⟨path, untaken⟩ := ih filled
        exact ⟨path, fun none_ => Bool.noConfusion (untaken none_).1⟩

theorem foldl_begin_store (now : Nat) (activities : List Activity) (run : Run) :
    (activities.foldl (begin now) run).store = run.store := by
  induction activities generalizing run with
  | nil => rfl
  | cons activity rest ih => exact ih (run.begin now activity)

theorem wake_store (now : Nat) (run : Run) : (run.wake now).1.store = run.store := by
  rw [wake_eq]
  exact foldl_begin_store now _ _

end Run

/-! ### Rounds -/

/-- The path of the store reads the document of its records, and the disk comes from saves at this path. -/
structure Situation.Persists (path : ImageBatch.Path) (first : Disk) (s : Situation Ask Answer σ) : Prop where
  placed : s.run.store.path = some path
  saves : Saves path first s.world.disk
  written : s.world.disk.read path = .ok s.run.store.contents

/-- Where a run goes on or ends, the store is written; where it fails, the disk comes from saves at the path. -/
def Verdict.Persists (path : ImageBatch.Path) (first : Disk) : Verdict Ask Answer σ → Prop
  | .goesOn s | .over s => s.Persists path first
  | .failed _ s => Saves path first s.world.disk

theorem Verdict.Persists.saves {verdict : Verdict Ask Answer σ} (persists : verdict.Persists path first) :
    Saves path first verdict.situation.world.disk := by
  rcases verdict with s | s | ⟨fault, s⟩
  · exact Situation.Persists.saves persists
  · exact Situation.Persists.saves persists
  · exact persists

namespace Situation

theorem save_persists (placed : s.run.store.path = some path) (saves : Saves path first s.world.disk) :
    s.save.Persists path first := by
  unfold save
  have after := saves.save placed (passes_save s.run.store s.world.disk)
  rcases saved : s.run.store.save s.world.disk with ⟨e | done, disk⟩
  all_goals rw [saved] at after
  · exact after
  · exact ⟨placed, after, read_of_save placed saved⟩

theorem conclude_persists (persists : s.Persists path first) (completions : List Completion) :
    (s.conclude setting completions).Persists path first := by
  unfold conclude
  split
  next run concluded => exact save_persists ((Run.concludeAll_path concluded).trans persists.placed) persists.saves
  next => exact persists.saves

/-- What leaves the store and the disk alone leaves the store written. -/
theorem Persists.of_same (persists : s.Persists path first) (store : t.run.store = s.run.store)
    (disk : t.world.disk = s.world.disk) : t.Persists path first := by
  obtain ⟨placed, saves, written⟩ := persists
  rw [← store] at placed written
  rw [← disk] at saves written
  exact ⟨placed, saves, written⟩

theorem wake_persists (persists : s.Persists path first) : (s.wake setting).Persists path first := by
  unfold wake
  rcases woken : s.run.wake s.world.now with ⟨run, launched, expired⟩
  have same : run.store = s.run.store := by
    rw [← Run.wake_store s.world.now s.run, woken]
  have kept : (launch setting { s with run } launched).Persists path first := persists.of_same same rfl
  dsimp only
  split
  · exact kept
  · exact conclude_persists kept expired

theorem take_persists (persists : s.Persists path first) (turn : Turn Ask Answer) :
    (s.take setting turn).Persists path first := by
  cases turn with
  | cancellation => exact persists.of_same rfl rfl
  | waking => exact wake_persists persists
  | operation operation others =>
      have disk : (operation.advance setting.service s.world).2.disk = s.world.disk := by
        unfold Operation.advance
        split
        · split <;> rfl
        · split <;> rfl
      rcases advanced : operation.advance setting.service s.world with ⟨outcome, world⟩
      rw [advanced] at disk
      have kept (operations : List (Operation Ask Answer)) : { s with operations, world }.Persists path first :=
        persists.of_same rfl disk
      simp only [take, advanced]
      cases outcome with
      | inl operation => exact kept (operation :: others)
      | inr completion => exact conclude_persists (kept others) [completion]

theorem await_persists (persists : s.Persists path first) : (s.await setting choice).Persists path first := by
  unfold await
  split
  · exact persists
  next u _ =>
      have waited : (s.waitUntil (if setting.punctual then u else u + choice.late)).Persists path first :=
        persists.of_same rfl rfl
      dsimp only
      split
      next turn _ => exact take_persists waited turn
      next => exact waited

theorem fill_persists (setting : Setting Ask Answer σ) (choice : Choice) (persists : s.Persists path first) :
    (s.fill setting choice).Persists path first := by
  unfold fill
  dsimp only
  generalize (if s.cancelled then some 0 else if s.cancellationDue setting then choice.notice else none) = notice
  rcases filled : s.run.fill setting.config setting.batch s.world.now (s.moment setting) notice with
    ⟨run, launched, taken⟩
  obtain ⟨path, untaken⟩ := Run.fillFrom_store filled
  cases taken with
  | true => exact save_persists (path.trans persists.placed) persists.saves
  | false => exact persists.of_same (untaken rfl).2 rfl

theorem noted_persists (persists : s.Persists path first) : s.noted.Persists path first := by
  unfold noted
  split
  · refine persists.of_same ?_ rfl
    rw [Run.noteCancelled_frame]
  · exact persists

/-- Where a round waits, the store is written. -/
theorem waits_persists (persists : s.Persists path first) (waits : s.waits? setting choice = some t) :
    t.Persists path first := by
  have filled := fill_persists setting choice persists
  unfold waits? at waits
  split at waits
  next reached same =>
      rw [same] at filled
      split at waits
      · cases waits
      · cases waits
        exact noted_persists filled
  · cases waits
  · cases waits

theorem round_persists (setting : Setting Ask Answer σ) (choice : Choice) (persists : s.Persists path first) :
    (s.round setting choice).Persists path first := by
  have filled := fill_persists setting choice persists
  rcases same : s.fill setting choice with reached | ended | ⟨fault, left⟩
  · rw [same] at filled
    have noted := noted_persists filled
    have rest : s.round setting choice =
        if reached.noted.run.isOver then .over reached.noted else reached.noted.await setting choice := by
      unfold round
      rw [same]
      rfl
    rw [rest]
    split
    · exact noted
    · exact await_persists noted
  all_goals
    unfold round
    rw [same] at filled ⊢
    exact filled

end Situation

/-! ### Records -/

/-- Time does not run back. -/
theorem Step.now_le {touched : Option String} (step : Step setting touched s t) : s.world.now ≤ t.world.now := by
  cases step with
  | waits u filled later => exact later
  | _ => exact Nat.le_refl _

/-- Up to a moment of the calendar, steps keep all records such that documents can hold them. -/
theorem Path.representable (path : Path setting keys s t) (origin : setting.clock.origin.Valid)
    (inRange : (t.moment setting).inRange = true) (representable : s.run.store.Representable) :
    t.run.store.Representable := by
  suffices ∀ u : Nat, t.world.now ≤ u → (setting.clock.at u).inRange = true → t.run.store.Representable from
    this t.world.now (Nat.le_refl _) inRange
  clear inRange
  intro u later inRange
  induction path with
  | refl => exact representable
  | @step _ _ _ t next _ step ih =>
      have before := ih representable (Nat.le_trans step.now_le later)
      obtain same | ⟨key, record, event, next, -, found, taken, put⟩ := step.store_cases
      · rwa [same]
      · have valid : (t.moment setting).Valid := origin.plus (Nat.le_trans step.now_le later) inRange
        rw [put]
        exact before.put ((before _ (List.mem_of_find?_eq_some found)).transition valid taken)

namespace Setting

theorem Meets.representable (met : setting.Meets store world s) (origin : setting.clock.origin.Valid)
    (inRange : (s.moment setting).inRange = true) (representable : store.Representable) :
    s.run.store.Representable := by
  obtain ⟨opening, keys, opened, path⟩ := met
  refine path.representable origin inRange (opening_store opened (representable.enroll setting.batch.keys) ?_)
  exact fun _ found _ present representable =>
    representable.put (representable found (List.mem_of_find?_eq_some present)).reset

/-- The first save of a run is over a store with the same path. -/
theorem opening_persists (placed : store.path = some path) (opened : setting.opening store world = .ok s) :
    s.save.Persists path world.disk := by
  have same : s.run.store.path = some path := (opening_changed opened).path.trans placed
  exact Situation.save_persists same (by rw [opening_world opened]; exact .none)

theorem Reaches.persists (placed : store.path = some path) (reached : setting.Reaches store world s) :
    s.Persists path world.disk := by
  induction reached with
  | opening opened saved =>
      have persists := opening_persists placed opened
      rwa [saved] at persists
  | round choice reached goes ih =>
      have persists := Situation.round_persists setting choice ih
      rwa [goes] at persists

/-- Wherever a run is left, its disk comes from saves at the path of the store. -/
theorem Leaves.saves (placed : store.path = some path) (leaves : setting.Leaves store world s) :
    Saves path world.disk s.world.disk := by
  obtain opened | reached | ⟨before, choice, reached, rfl⟩ := leaves
  · rw [opening_world opened]
    exact .none
  · exact (reached.persists placed).saves
  · exact (Situation.round_persists setting choice (reached.persists placed)).saves

theorem Finishes.persists (placed : store.path = some path) (finished : setting.Finishes store world last) :
    last.Persists path world.disk := by
  obtain ⟨s, choice, reached, ended⟩ := finished
  have persists := Situation.round_persists setting choice (reached.persists placed)
  rwa [ended] at persists

/-- Where a run waits and where it ends well, the path of the store gives the store as it is, as long as the clock shows
moments of the calendar. The disk of a run changes only by saves of stores with this path. Whenever such a save is under
way, fails or stops on a disk that was a tree, the path holds what it held before the save, or all of the new document;
or it goes up out of a folder that was missing before the save, and holds a file that stood where it leads now. -/
theorem written_through (setting : Setting Ask Answer σ) (store : BatchStore) (world : World σ) (path : ImageBatch.Path)
    (placed : store.path = some path) (representable : store.Representable) (origin : setting.clock.origin.Valid)
    (tree : world.disk.IsTree) :
    (∀ s choice t, setting.Reaches store world s → s.waits? setting choice = some t →
      (t.moment setting).inRange = true → BatchStore.load t.world.disk path = .ok t.run.store) ∧
    (∀ last, setting.Finishes store world last → (last.moment setting).inRange = true →
      BatchStore.load last.world.disk path = .ok last.run.store) ∧
    (∀ opening, setting.opening store world = .ok opening →
      Saves path world.disk opening.save.situation.world.disk) ∧
    (∀ s, setting.Leaves store world s → Saves path world.disk s.world.disk) ∧
    ∀ (disk : Disk) (saved : BatchStore) (mid : Disk), Saves path world.disk disk → saved.path = some path →
      saved.Passes disk mid →
      mid.holds? path = disk.holds? path ∨ mid.holds? path = some saved.contents ∨ Uncovers path disk mid := by
  refine ⟨fun s choice t reached waits inRange => ?_, fun last finished inRange => ?_,
    fun opening opened => (opening_persists placed opened).saves, fun s leaves => leaves.saves placed,
    fun disk saved mid saves placed passes => passes.holds placed (saves.isTree tree)⟩
  · obtain ⟨keys, steps, -⟩ := Situation.waits_path waits
    obtain ⟨placed, -, written⟩ := Situation.waits_persists (reached.persists placed) waits
    exact load_of_read placed ((reached.meets.trans steps).representable origin inRange representable) written
  · obtain ⟨placed, -, written⟩ := finished.persists placed
    exact load_of_read placed (finished.meets.1.representable origin inRange representable) written

/-- An empty store that is saved. -/
def unsaved : BatchStore := ⟨some ⟨"jobs.json"⟩, []⟩

/-- A run of one job over such a store, where it waits for the first time and where it ends. -/
theorem written_through_prompted : ∃ s t last, (prompted ["ada"]).Reaches unsaved ⟨(), ⟨[]⟩, 0⟩ s ∧
    s.waits? (prompted ["ada"]) {} = some t ∧ t.run.store.records = [.fresh "ada"] ∧
    BatchStore.load t.world.disk ⟨"jobs.json"⟩ = .ok t.run.store ∧
    (prompted ["ada"]).Finishes unsaved ⟨(), ⟨[]⟩, 0⟩ last ∧
    last.run.store.records.map (·.status) = [.succeeded] ∧
    BatchStore.load last.world.disk ⟨"jobs.json"⟩ = .ok last.run.store := by
  have opened : BatchStore.load ⟨[]⟩ ⟨"jobs.json"⟩ = .ok unsaved := rfl
  obtain ⟨atWait, atEnd, -⟩ := written_through (prompted ["ada"]) unsaved ⟨(), ⟨[]⟩, 0⟩ ⟨"jobs.json"⟩ rfl
    (representable_of_load opened) ⟨rfl, .inl (by decide)⟩
    (fun at_ name node there => by simp [Disk.node?, Disk.find?] at there)
  obtain ⟨s, t, reached, waits, records, soon⟩ : ∃ s t, (prompted ["ada"]).Reaches unsaved ⟨(), ⟨[]⟩, 0⟩ s ∧
      s.waits? (prompted ["ada"]) {} = some t ∧ t.run.store.records = [.fresh "ada"] ∧
      (t.moment (prompted ["ada"])).inRange = true :=
    ⟨_, _, .opening rfl rfl, rfl, rfl, rfl⟩
  obtain ⟨last, finished, done, late⟩ : ∃ last, (prompted ["ada"]).Finishes unsaved ⟨(), ⟨[]⟩, 0⟩ last ∧
      last.run.store.records.map (·.status) = [.succeeded] ∧ (last.moment (prompted ["ada"])).inRange = true :=
    ⟨_, ⟨_, {}, .round {} (.round {} (.round {} (.opening rfl rfl) rfl) rfl) rfl, rfl⟩, rfl, rfl⟩
  exact ⟨s, t, last, reached, waits, records, atWait s {} t reached waits soon, finished, done,
    atEnd last finished late⟩

/-- A world in which a file stands where a path leads that goes up, and a folder stands beside it. -/
def crowded : World Unit := ⟨(), ⟨[(["s.json"], .file []), (["s.json.tmp"], .folder)]⟩, 0⟩

/-- The first save of a run makes the folder that its path goes up out of, and fails. The path held nothing before, and
then it holds a file that is not the document. -/
theorem save_uncovers : ∃ opening fault left,
    (prompted ["ada"]).opening ⟨some ⟨"x/../s.json"⟩, []⟩ crowded = .ok opening ∧
    opening.run.store.path = some ⟨"x/../s.json"⟩ ∧ crowded.disk.IsTree ∧ opening.save = .failed fault left ∧
    opening.run.store.Passes crowded.disk left.world.disk ∧ crowded.disk.holds? ⟨"x/../s.json"⟩ = none ∧
    left.world.disk.holds? ⟨"x/../s.json"⟩ = some [] ∧ opening.run.store.contents ≠ [] := by
  have enrolled : (⟨some ⟨"x/../s.json"⟩, [.fresh "ada"]⟩ : BatchStore).Representable := by
    intro record present
    obtain rfl := List.mem_singleton.mp present
    exact JobRecord.representable_fresh "ada"
  refine ⟨_, _, _, rfl, rfl, ?_, rfl, passes_save _ _, rfl, rfl, enrolled.contents_ne_nil⟩
  intro at_ name node there
  cases at_ with
  | nil => rfl
  | cons folder rest => simp [Disk.node?, crowded, Disk.find?] at there

end Setting

end ImageBatch.Tracker
