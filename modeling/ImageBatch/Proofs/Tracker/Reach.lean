import ImageBatch.Proofs.Tracker.Opening

/-!
What holds all along a run.

Every situation that a run gets to, and the one in which it ends, is reached from its opening by steps
(`Setting.Reaches.path`, `Setting.Finishes.path`). So what moves, time and the steps of other jobs keep of one
view, every run keeps (`Path.keeps`).
-/

namespace ImageBatch.Tracker

variable {Ask : Type} {Answer : Ask → Type} {σ : Type} {setting : Setting Ask Answer σ}
  {s t : Situation Ask Answer σ} {key : String} {keys : List String} {view : View Ask Answer}

/-- What is true of a view and of the world around it stays true along a path, if it does so when the job
moves, when the cancellation marks it, and at the steps that do not concern the job. It may depend on how often
the job has moved. `Always` is about the whole situation and may be used for each of these. -/
theorem Path.keeps (Always : Situation Ask Answer σ → Prop) (Holds : Nat → World σ → View Ask Answer → Prop)
    (member : key ∈ setting.batch.keys)
    (always : ∀ {touched} {s t : Situation Ask Answer σ}, Always s → Step setting touched s t → Always t)
    (moves : ∀ {n} {s t : Situation Ask Answer σ} {view view'}, Always s → s.Shows key view →
      View.Sound key view → Holds n s.world view → Move setting key s.world t.world view view' →
      Holds (n + 1) t.world view')
    (marks : ∀ {n} {s : Situation Ask Answer σ} {world view}, Always s → s.cancelled = true →
      view.owed = none → Holds n world view → Holds n world view.marked)
    (drifts : ∀ {n touched} {s t : Situation Ask Answer σ} {view}, Always s → touched ≠ some key →
      Step setting touched s t → s.Shows key view → View.Sound key view → Holds n s.world view →
      Holds n t.world view) {n : Nat}
    (path : Path setting keys s t) (proper : s.Proper) (at_ : Always s) (shows : s.Shows key view)
    (sound : view.Sound key) (holds : Holds n s.world view) :
    ∃ view', t.Shows key view' ∧ view'.Sound key ∧ Holds (n + keys.count key) t.world view' ∧ Always t ∧
      t.Proper := by
  induction path with
  | refl s => exact ⟨view, shows, sound, holds, at_, proper⟩
  | @step more touched _ t u path step ih =>
      obtain ⟨view', shows, sound, holds, at_, proper⟩ := ih proper at_ shows holds
      have rest := And.intro (always at_ step) (step.proper proper)
      by_cases own : touched = some key
      · subst own
        obtain ⟨next, shown, move⟩ := step.moves proper member shows sound
        refine ⟨next, shown, move.sound sound, ?_, rest⟩
        simpa [← Nat.add_assoc] using moves at_ shows sound holds move
      · have drifted := drifts at_ own step shows sound holds
        have absent : touched.toList.count key = 0 := List.count_eq_zero.mpr (by simpa [eq_comm] using own)
        rw [List.count_append, absent, Nat.add_zero]
        obtain shown | ⟨cancelled, undrained, marked⟩ := step.frame shows own
        · exact ⟨view', shown, sound, drifted, rest⟩
        · have unmarked : view'.owed = none := by rw [← shows.owed, undrained]; rfl
          exact ⟨view'.marked, marked, sound.marked unmarked, marks at_ cancelled unmarked drifted, rest⟩

/-- Along a path every job of the batch keeps a sound view. -/
theorem Path.shows (member : key ∈ setting.batch.keys) (path : Path setting keys s t) (proper : s.Proper)
    (shows : s.Shows key view) (sound : view.Sound key) : ∃ view', t.Shows key view' ∧ view'.Sound key := by
  obtain ⟨view', shows, sound, -⟩ := Path.keeps (fun _ => True) (fun _ _ _ => True) member
    (fun _ _ => trivial) (fun _ _ _ _ _ => trivial) (fun _ _ _ _ => trivial) (fun _ _ _ _ _ _ => trivial) path proper
    trivial shows sound trivial (n := 0)
  exact ⟨view', shows, sound⟩

/-- Time passes only in steps that concern no job, and in a punctual run only as far as the view lets it: up to
the next event of the job's operation, or up to the job's alarm. -/
theorem Step.now_cases {touched : Option String} (step : Step setting touched s t) (shows : s.Shows key view) :
    t.world.now = s.world.now ∨ touched = none ∧ s.world.now ≤ t.world.now ∧ s.Filled setting ∧
      (setting.punctual = true → (∀ operation ∈ view.place.operations, t.world.now ≤ operation.eventAt) ∧
        ∀ job ∈ view.place.jobs, t.world.now ≤ Instant.nextTick job.wakeAt) := by
  cases step with
  | waits u filled later next =>
      refine .inr ⟨rfl, later, filled, fun punctual => ⟨fun operation member => ?_, fun job member => ?_⟩⟩
      · rw [← shows.operations] at member
        exact (next punctual).operations operation (List.mem_filter.mp member).1
      · rw [← shows.waiting] at member
        exact (next punctual).waiting job (List.mem_filter.mp member).1
  | _ => exact .inl rfl

/-- A job of a run that has nothing left to wait for is pending or gone. -/
theorem Situation.Rests.place (rests : s.Rests) (shows : s.Shows key view) (sound : view.Sound key) :
    view.place = .pending ∨ view.place = .gone := by
  obtain drained | ⟨waiting, idle⟩ := rests
  · have owed : view.owed = some false := by
      rw [← shows.owed, drained]
      rfl
    have done := sound.owed false owed
    cases place : view.place with
    | pending => exact .inl rfl
    | gone => exact .inr rfl
    | submitting | waiting | observing =>
        rw [place] at done
        cases done
  · have jobs := shows.waiting
    have activities := shows.active
    have under := shows.operations
    rw [waiting] at jobs
    cases place : view.place with
    | pending => exact .inl rfl
    | gone => exact .inr rfl
    | waiting job =>
        rw [place] at jobs
        cases jobs
    | submitting | observing =>
        rw [place] at activities under
        obtain active | operations := idle
        · rw [active] at activities
          cases activities
        · rw [operations] at under
          cases under

theorem Path.mentions (path : Path setting keys s t) (mentioned : key ∈ t.keys) : key ∈ s.keys := by
  induction path with
  | refl => exact mentioned
  | step path step ih => exact ih (step.mentions mentioned)

/-- The situation that a verdict leaves. -/
def Verdict.situation : Verdict Ask Answer σ → Situation Ask Answer σ
  | .goesOn s | .over s | .failed _ s => s

namespace Setting

variable {store : BatchStore} {world : World σ} {last : Situation Ask Answer σ}

/-- The situation comes up in the run: steps lead to it from the opening. -/
def Meets (setting : Setting Ask Answer σ) (store : BatchStore) (world : World σ)
    (s : Situation Ask Answer σ) : Prop :=
  ∃ opening keys, setting.opening store world = .ok opening ∧ Path setting keys opening s

/-- What comes up one step later comes up. -/
theorem Meets.step {touched : Option String} (met : setting.Meets store world s) (step : Step setting touched s t) :
    setting.Meets store world t := by
  obtain ⟨opening, before, opened, led⟩ := met
  exact ⟨opening, _, opened, led.step step⟩

theorem Meets.trans (met : setting.Meets store world s) (path : Path setting keys s t) :
    setting.Meets store world t := by
  obtain ⟨opening, before, opened, led⟩ := met
  exact ⟨opening, _, opened, led.trans path⟩

theorem Meets.proper (met : setting.Meets store world s) : s.Proper := by
  obtain ⟨opening, keys, opened, path⟩ := met
  exact path.invariant Step.proper (opening_proper opened)

/-- In a run every job of the batch has a sound view. -/
theorem Meets.shows (met : setting.Meets store world s) (member : key ∈ setting.batch.keys) :
    ∃ view, s.Shows key view ∧ view.Sound key := by
  obtain ⟨opening, keys, opened, path⟩ := met
  obtain ⟨view, opens, shows⟩ := opening_shows opened member
  exact path.shows member (opening_proper opened) shows (opens.sound (BatchStore.recordOf_userId ..))

/-- What a job's view has when a run opens and what moves and marks keep, it has all through the run. -/
theorem Meets.keeps (met : setting.Meets store world s) (member : key ∈ setting.batch.keys)
    (Holds : View Ask Answer → Prop)
    (opening : ∀ view, Opens setting.config world.now (setting.clock.at world.now) (store.recordOf key) view →
      Holds view)
    (moves : ∀ {world world' view view'}, Holds view → Move setting key world world' view view' → Holds view')
    (marks : ∀ view, Holds view → Holds view.marked) :
    ∃ view, s.Shows key view ∧ view.Sound key ∧ Holds view := by
  obtain ⟨first, keys, opened, path⟩ := met
  obtain ⟨view, opens, shows⟩ := opening_shows opened member
  obtain ⟨view', shows, sound, holds, -⟩ := Path.keeps (fun _ => True) (fun _ _ view => Holds view) member
    (fun _ _ => trivial) (fun _ _ _ holds move => moves holds move) (fun _ _ _ holds => marks _ holds)
    (fun _ _ _ _ _ holds => holds) path (opening_proper opened) trivial shows
    (opens.sound (BatchStore.recordOf_userId ..)) (opening view opens) (n := 0)
  exact ⟨view', shows, sound, holds⟩

/-- A run has to do with the keys of its batch alone. -/
theorem Meets.keys_subset (met : setting.Meets store world s) : s.keys ⊆ setting.batch.keys := by
  obtain ⟨opening, keys, opened, path⟩ := met
  exact fun _ mentioned => opening_keys opened (path.mentions mentioned)

/-- When nothing is left to wait for, nothing is under way. -/
theorem Meets.idle_of_rests (met : setting.Meets store world s) (rests : s.Rests) :
    s.run.active = [] ∧ s.operations = [] := by
  have nothing {key : String} (mentioned : key ∈ s.keys) :
      s.run.active.filter (·.key == key) = [] ∧ s.operations.filter (·.key == key) = [] := by
    obtain ⟨view, shows, sound⟩ := met.shows (met.keys_subset mentioned)
    rw [shows.active, shows.operations]
    rcases rests.place shows sound with place | place
    all_goals
      rw [place]
      exact ⟨rfl, rfl⟩
  constructor
  · refine List.eq_nil_iff_forall_not_mem.mpr fun activity under => ?_
    have own := (nothing (Situation.mem_keys_of_activity under)).1
    exact absurd (beq_self_eq_true activity.key) (List.filter_eq_nil_iff.mp own activity under)
  · refine List.eq_nil_iff_forall_not_mem.mpr fun operation under => ?_
    have own := (nothing (Situation.mem_keys_of_operation under)).2
    exact absurd (beq_self_eq_true operation.key) (List.filter_eq_nil_iff.mp own operation under)

theorem Reaches.meets (reached : setting.Reaches store world s) : setting.Meets store world s := by
  induction reached with
  | @opening opening s opened saved =>
      obtain ⟨disk, rfl⟩ := Situation.eq_of_save saved
      exact ⟨opening, [], opened, Path.quiet (.refl opening) (.saves disk)⟩
  | round choice reached goes ih =>
      obtain ⟨opening, keys, opened, path⟩ := ih
      have leads := Situation.round_leads setting choice (Meets.proper ⟨opening, keys, opened, path⟩)
      rw [goes] at leads
      cases leads with
      | goesOn more moved => exact ⟨opening, _, opened, path.trans more⟩

/-- The situation comes up before a round of the run, or a round leaves it, whether the run goes on, is over or
fails. -/
def Arises (setting : Setting Ask Answer σ) (store : BatchStore) (world : World σ)
    (s : Situation Ask Answer σ) : Prop :=
  setting.Reaches store world s ∨
    ∃ before choice, setting.Reaches store world before ∧ (before.round setting choice).situation = s

theorem Arises.meets (arises : setting.Arises store world s) :
    ∃ t, setting.Meets store world t ∧ t.run = s.run ∧ t.world.now = s.world.now := by
  obtain reached | ⟨before, choice, reached, rfl⟩ := arises
  · exact ⟨s, reached.meets, rfl, rfl⟩
  obtain ⟨opening, keys, opened, path⟩ := reached.meets
  have met {more t} (led : Path setting more before t) : setting.Meets store world t :=
    ⟨opening, _, opened, path.trans led⟩
  generalize verdict : before.round setting choice = final
  have leads := Situation.round_leads setting choice reached.meets.proper
  rw [verdict] at leads
  cases leads with
  | goesOn led moved => exact ⟨_, met led, rfl, rfl⟩
  | ends led filled rests => exact ⟨_, met led, rfl, rfl⟩
  | @unsaved _ t _ _ led unsaved =>
      obtain ⟨disk, rfl⟩ := Situation.eq_of_not_saved unsaved
      exact ⟨t, met led, rfl, rfl⟩
  | overflows led picked ends unnameable run now => exact ⟨_, met led, run.symm, now.symm⟩

/-- A run that ends well ends where nothing can be submitted and nothing is left to wait for. -/
theorem Finishes.meets (finished : setting.Finishes store world last) :
    setting.Meets store world last ∧ last.Filled setting ∧ last.Rests := by
  obtain ⟨s, choice, reached, ended⟩ := finished
  obtain ⟨opening, keys, opened, path⟩ := reached.meets
  have leads := Situation.round_leads setting choice reached.meets.proper
  rw [ended] at leads
  cases leads with
  | ends more filled rests => exact ⟨⟨opening, _, opened, path.trans more⟩, filled, rests⟩

end Setting

end ImageBatch.Tracker
