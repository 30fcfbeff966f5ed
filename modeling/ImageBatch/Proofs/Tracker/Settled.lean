import ImageBatch.Proofs.Batch.Chronicle
import ImageBatch.Proofs.Batch.Positions

/-!
Jobs at their end.

Unless a rerun is forced, a job whose record is at its end has no place in a run and keeps its record
(`Setting.Leaves.settled`), and a run of which all jobs are at their end is over before anything happens
(`Setting.opening_settled`, `Situation.round_idle`). If a rerun is forced, these records start again as the run opens,
and none after that (`Move.unforced`). All this together is `Setting.terminal_left_alone`.
-/

namespace ImageBatch.Tracker

variable {Ask : Type} {Answer : Ask → Type} {σ : Type} {setting : Setting Ask Answer σ} {store : BatchStore}
  {world world' : World σ} {s t : Situation Ask Answer σ} {key : String} {record : JobRecord}
  {view view' : View Ask Answer} {config : Config} {now : Nat} {moment : Timestamp}

/-- A record at its end starts again only if a rerun is forced. -/
theorem Run.needsReset_of_isTerminal (terminal : record.status.isTerminal = true) :
    needsReset config record = config.forceRerun := by
  have done : record.status.isHandedOver = false := by
    cases status : record.status <;> simp_all [JobStatus.isTerminal, JobStatus.isHandedOver]
  simp [needsReset, terminal, done]

/-- A job at its end is nowhere when a run opens. -/
theorem Opens.gone_of_isTerminal (opens : Opens config now moment record view) (resumes : config.forceRerun = false)
    (terminal : record.status.isTerminal = true) : view = ⟨.gone, record, none, []⟩ := by
  have kept : Run.needsReset config record = false := (Run.needsReset_of_isTerminal terminal).trans resumes
  exact (Opens.keeps terminal kept).unique opens

/-- Nothing happens to a job that is gone. -/
theorem Move.ne_gone (move : Move setting key world world' view view') : view.place ≠ .gone := by
  cases move <;> exact nofun

/-- No record starts again while a run goes on. -/
theorem Move.unforced (move : Move setting key world world' view view')
    (unforced : ∀ entry ∈ view.notes, entry.2 ≠ .applied key .forceReset) :
    ∀ entry ∈ view'.notes, entry.2 ≠ .applied key .forceReset := by
  cases move <;> simpa using unforced

namespace Situation

/-- A situation in which there is nothing to do. -/
def idle (store : BatchStore) (world : World σ) : Situation Ask Answer σ :=
  Run.still ⟨store, [], [], [], [], none, []⟩ world

/-- A run that has nothing to do is over, whatever is chosen. -/
theorem round_idle (setting : Setting Ask Answer σ) (choice : Choice) (store : BatchStore) (world : World σ) :
    ∃ last, (idle store world).round setting choice = .over last ∧ last.run.store = store ∧
      last.run.journal = [] ∧ last.world = world := by
  obtain ⟨cancelled, filled⟩ : ∃ cancelled, (idle store world).fill setting choice =
      .goesOn { idle store world with cancelled } := ⟨_, rfl⟩
  unfold round
  rw [filled]
  cases cancelled <;> exact ⟨_, rfl, rfl, rfl, rfl⟩

end Situation

namespace Setting

/-- Every job of the batch is at its end. -/
def AllTerminal (setting : Setting Ask Answer σ) (store : BatchStore) : Prop :=
  ∀ key ∈ setting.batch.keys, ∃ record, store.get? key = some record ∧ record.status.isTerminal = true

/-- If all jobs are at their end, a run opens with nothing to do. -/
theorem opening_settled (resumes : setting.config.forceRerun = false) (terminal : setting.AllTerminal store) :
    setting.opening store world = .ok (.idle store world) := by
  have enrolled : (store.enroll setting.batch.keys).1 = store := by
    have none_ : store.missing setting.batch.keys = [] := by
      refine List.filter_eq_nil_iff.mpr fun key member => ?_
      obtain ⟨record, found, -⟩ := terminal key member
      simp [found]
    have records := BatchStore.records_enroll store setting.batch.nodup_keys
    rw [none_, List.map_nil, List.append_nil] at records
    exact congrArg (BatchStore.mk store.path) records
  have placed (keys : List String) (within : keys ⊆ setting.batch.keys) :
      keys.foldlM (Run.place setting.config world.now (setting.clock.at world.now))
        ⟨store, [], [], [], [], none, []⟩ = .ok ⟨store, [], [], [], [], none, []⟩ := by
    induction keys with
    | nil => rfl
    | cons first rest ih =>
        obtain ⟨member, within⟩ := List.cons_subset.mp within
        obtain ⟨record, found, done⟩ := terminal first member
        have kept := (Run.needsReset_of_isTerminal done).trans resumes
        have opens : Opens setting.config world.now (setting.clock.at world.now) record
            (⟨.gone, record, none, []⟩ : View Ask Answer) := .keeps done kept
        obtain ⟨run, one⟩ : ∃ run, Run.place setting.config world.now (setting.clock.at world.now)
            ⟨store, [], [], [], [], none, []⟩ first = .ok run := Run.place_of_opens found opens
        obtain ⟨view, opens, same⟩ := Run.place_eq Ask Answer one found
        obtain rfl := opens.gone_of_isTerminal resumes done
        rw [List.foldlM_cons, one, same, kept]
        exact ih within
  simp only [Setting.opening, Run.start, enrolled, placed _ (List.Subset.refl _)]
  rfl

/-- A run of which all jobs are at their end has done nothing but save. -/
theorem Reaches.idle (resumes : setting.config.forceRerun = false) (terminal : setting.AllTerminal store)
    (reached : setting.Reaches store world s) : ∃ disk, s = .idle store { world with disk } := by
  induction reached with
  | opening opened saved =>
      cases (opening_settled resumes terminal).symm.trans opened
      obtain ⟨disk, rfl⟩ := Situation.eq_of_save saved
      exact ⟨disk, rfl⟩
  | round choice reached goes ih =>
      obtain ⟨disk, rfl⟩ := ih
      obtain ⟨last, over_, -⟩ := Situation.round_idle setting choice store { world with disk }
      cases over_.symm.trans goes

/-- However a run is left of which all jobs are at their end, it has touched no record and asked nothing. -/
theorem Leaves.idle (resumes : setting.config.forceRerun = false) (terminal : setting.AllTerminal store)
    (leaves : setting.Leaves store world s) :
    s.run.store = store ∧ s.run.journal = [] ∧ s.world.state = world.state := by
  rcases leaves with opened | reached | ⟨before, choice, reached, rfl⟩
  · cases (opening_settled resumes terminal).symm.trans opened
    exact ⟨rfl, rfl, rfl⟩
  · obtain ⟨disk, rfl⟩ := reached.idle resumes terminal
    exact ⟨rfl, rfl, rfl⟩
  · obtain ⟨disk, rfl⟩ := reached.idle resumes terminal
    obtain ⟨last, over_, kept, journal, same⟩ := Situation.round_idle setting choice store { world with disk }
    rw [over_]
    exact ⟨kept, journal, (congrArg World.state same :)⟩

/-- However a run is left, a job that was at its end keeps its record, and nothing has happened to it. -/
theorem Leaves.settled (leaves : setting.Leaves store world s) (resumes : setting.config.forceRerun = false)
    (member : key ∈ setting.batch.keys) (found : store.get? key = some record)
    (terminal : record.status.isTerminal = true) :
    s.run.store.get? key = some record ∧ ∀ entry ∈ s.run.journal, entry.2.key ≠ key := by
  have same : store.recordOf key = record := by rw [BatchStore.recordOf, found]; rfl
  obtain ⟨t, met, left, -⟩ := leaves.meets
  obtain ⟨view, shows, -, -, kept, none_⟩ := met.keeps member
    (fun view => view.place = .gone ∧ view.record = record ∧ view.notes = [])
    (fun view opens => by
      rw [same] at opens
      obtain rfl := opens.gone_of_isTerminal resumes terminal
      exact ⟨rfl, rfl, rfl⟩)
    (fun holds move => absurd holds.1 move.ne_gone) fun view holds => holds
  rw [← left, ← kept]
  refine ⟨shows.record, fun entry noted own => ?_⟩
  have nothing := shows.notes.trans none_
  rw [List.filter_eq_nil_iff] at nothing
  exact nothing entry noted (beq_iff_eq.mpr own)

/-- However a run is left, no record was started again after it had opened. -/
theorem Leaves.unforced (leaves : setting.Leaves store world s) :
    ∀ entry ∈ s.run.journal, ∀ key, entry.2 ≠ .applied key .forceReset := by
  obtain ⟨t, met, left, -⟩ := leaves.meets
  rw [← left]
  intro entry noted key applied
  have own : entry.2.key = key := by rw [applied]; rfl
  have member : key ∈ setting.batch.keys :=
    met.keys_subset (List.mem_append_right _ (List.mem_map.mpr ⟨entry, noted, own⟩))
  obtain ⟨view, shows, -, unforced⟩ := met.keeps member
    (fun view => ∀ entry ∈ view.notes, entry.2 ≠ .applied key .forceReset)
    (fun view opens => by cases opens <;> simp) (fun holds move => move.unforced holds) fun view holds => holds
  refine unforced entry ?_ applied
  rw [← shows.notes, List.mem_filter]
  exact ⟨noted, beq_iff_eq.mpr own⟩

/-- Unless a rerun is forced, nothing happens to a job that is at its end: however a run is left, its record is the same
and its journal has nothing on the job; so a run of which all jobs are at their end opens, and when it gets past saving,
its next round ends it, and its records, its summary and the service are as they were. If a rerun is forced, the record
of every job that is at its end starts again before anything happens, with its number of submits; of the others only
those do that were handed over and have no id, and none starts again later. -/
theorem terminal_left_alone (setting : Setting Ask Answer σ) (store : BatchStore) (world : World σ) :
    (setting.config.forceRerun = false →
      (∀ key ∈ setting.batch.keys, ∀ record, store.get? key = some record → record.status.isTerminal = true →
        ∀ s, setting.Leaves store world s →
          s.run.store.get? key = some record ∧ ∀ entry ∈ s.run.journal, entry.2.key ≠ key) ∧
      (setting.AllTerminal store →
        (∃ opening, setting.opening store world = .ok opening) ∧
        (∀ s, setting.Leaves store world s →
          s.run.store = store ∧ s.run.journal = [] ∧ s.world.state = world.state) ∧
        ∀ s choice, setting.Reaches store world s → ∃ last, s.round setting choice = .over last ∧
          last.summary setting = BatchSummary.ofRecords (setting.batch.records store))) ∧
    (setting.config.forceRerun = true →
      (∀ opening, setting.opening store world = .ok opening → opening.run.journal = [] ∧ opening.operations = [] ∧
        ∀ key ∈ setting.batch.keys, opening.run.store.get? key =
          let found := store.recordOf key
          if found.status.isTerminal = true ∨ found.status.isHandedOver = true ∧ found.jobId = none then
            some { JobRecord.fresh key with submitCount := found.submitCount }
          else some found) ∧
      ∀ s, setting.Leaves store world s → ∀ entry ∈ s.run.journal, ∀ key, entry.2 ≠ .applied key .forceReset) := by
  refine ⟨fun resumes => ⟨fun key member record found terminal s leaves =>
    leaves.settled resumes member found terminal, fun terminal => ⟨?_, fun s leaves => leaves.idle resumes terminal,
      fun s choice reached => ?_⟩⟩, fun forced => ⟨fun opening opened => ?_, fun s leaves => leaves.unforced⟩⟩
  · exact ⟨_, opening_settled resumes terminal⟩
  · obtain ⟨disk, rfl⟩ := reached.idle resumes terminal
    obtain ⟨last, over_, kept, -⟩ := Situation.round_idle setting choice store { world with disk }
    exact ⟨last, over_, congrArg (fun store => BatchSummary.ofRecords (setting.batch.records store)) kept⟩
  · have begun : opening.run.journal = [] ∧ opening.operations = [] := by
      obtain ⟨run, started, rfl⟩ := opening_eq opened
      obtain ⟨_, _, _, rfl, -⟩ := Run.placeAll_frame started
      exact ⟨rfl, rfl⟩
    refine ⟨begun.1, begun.2, fun key member => ?_⟩
    obtain ⟨view, opens, shows⟩ := opening_shows opened member
    have restarts : Run.needsReset setting.config (store.recordOf key) = true ↔
        (store.recordOf key).status.isTerminal = true ∨
          (store.recordOf key).status.isHandedOver = true ∧ (store.recordOf key).jobId = none := by
      simp [Run.needsReset, forced]
    simp only [shows.record, opens.record_eq, restarts, JobRecord.reset, store.recordOf_userId, apply_ite some]

/-- The record of a job that was submitted twice and failed. -/
def failedTwice : JobRecord :=
  { (JobRecord.fresh "eve").terminate .failed .backendRuntime "out of memory" ⟨7, 0⟩ with submitCount := 2 }

/-- A run of one job that starts again even if it is at its end. -/
def rerunning : Setting Empty (fun _ => Unit) Unit := { prompted ["eve"] with config := { forceRerun := true } }

/-- In a run beside another job, and in one alone, a failed job is left alone; if a rerun is forced, it starts again. -/
theorem terminal_left_alone_prompted :
    (∃ last, (prompted ["eve", "ada"]).Finishes ⟨none, [failedTwice]⟩ ⟨(), ⟨[]⟩, 0⟩ last ∧
      last.run.store.get? "eve" = some failedTwice ∧ ∀ entry ∈ last.run.journal, entry.2.key ≠ "eve") ∧
    (∃ last, (prompted ["eve"]).Finishes ⟨none, [failedTwice]⟩ ⟨(), ⟨[]⟩, 0⟩ last ∧
      last.run.store = ⟨none, [failedTwice]⟩ ∧ last.run.journal = [] ∧
      last.summary (prompted ["eve"]) = BatchSummary.ofRecords [failedTwice]) ∧
    ∃ opening, rerunning.opening ⟨none, [failedTwice]⟩ ⟨(), ⟨[]⟩, 0⟩ = .ok opening ∧
      opening.run.store.get? "eve" = some { JobRecord.fresh "eve" with submitCount := 2 } := by
  have both := (terminal_left_alone (prompted ["eve", "ada"]) ⟨none, [failedTwice]⟩ ⟨(), ⟨[]⟩, 0⟩).1 rfl
  have alone := (terminal_left_alone (prompted ["eve"]) ⟨none, [failedTwice]⟩ ⟨(), ⟨[]⟩, 0⟩).1 rfl
  have forced := (terminal_left_alone rerunning ⟨none, [failedTwice]⟩ ⟨(), ⟨[]⟩, 0⟩).2 rfl
  have left {setting : Setting Empty (fun _ => Unit) Unit} {store world last s choice}
      (reached : setting.Reaches store world s) (ended : s.round setting choice = .over last) :
      setting.Leaves store world last := .inr (.inr ⟨s, choice, reached, by rw [ended]; rfl⟩)
  refine ⟨?_, ?_, ?_⟩
  · obtain ⟨s, last, reached, ended⟩ : ∃ s last,
        (prompted ["eve", "ada"]).Reaches ⟨none, [failedTwice]⟩ ⟨(), ⟨[]⟩, 0⟩ s ∧
          s.round (prompted ["eve", "ada"]) {} = .over last :=
      ⟨_, _, .round {} (.round {} (.round {} (.opening rfl rfl) rfl) rfl) rfl, rfl⟩
    exact ⟨last, ⟨s, {}, reached, ended⟩, both.1 "eve" (by decide) failedTwice rfl rfl last (left reached ended)⟩
  · have terminal : (prompted ["eve"]).AllTerminal ⟨none, [failedTwice]⟩ := by
      intro key member
      obtain rfl : key = "eve" := List.mem_singleton.mp member
      exact ⟨failedTwice, rfl, rfl⟩
    obtain ⟨-, kept, ends⟩ := alone.2 terminal
    have reached : (prompted ["eve"]).Reaches ⟨none, [failedTwice]⟩ ⟨(), ⟨[]⟩, 0⟩ _ := .opening rfl rfl
    obtain ⟨last, ended, summary⟩ := ends _ {} reached
    obtain ⟨store, journal, -⟩ := kept last (left reached ended)
    exact ⟨last, ⟨_, {}, reached, ended⟩, store, journal, summary⟩
  · obtain ⟨opening, opened⟩ : ∃ opening,
        rerunning.opening ⟨none, [failedTwice]⟩ ⟨(), ⟨[]⟩, 0⟩ = .ok opening := ⟨_, rfl⟩
    exact ⟨opening, opened, (forced.1 opening opened).2.2 "eve" (by decide)⟩

end Setting

end ImageBatch.Tracker
