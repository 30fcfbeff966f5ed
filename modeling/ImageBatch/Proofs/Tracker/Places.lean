import ImageBatch.Proofs.Tracker.Reach

/-!
The places of the jobs.

Before every round each key of the batch is in exactly one place and its record fits that place, the keys in
operation are those of the operations under way, and no key has two of them (`Situation.Ordered`). This is so in
every run, whatever the backend answers, whenever it answers, and whenever the run is cancelled
(`Setting.Reaches.jobs_ordered`). So the tracker never applies an event that a record does not take.
-/

namespace ImageBatch.Tracker

variable {Ask : Type} {Answer : Ask → Type} {σ : Type} {setting : Setting Ask Answer σ}
  {s t : Situation Ask Answer σ} {key : String} {view view' : View Ask Answer}

/-- What a place leaves in the lists of a run tells the place. -/
theorem Place.eq_of_lists {place place' : Place Ask Answer} (queued : place.queued = place'.queued)
    (activities : place.activities key = place'.activities key) (jobs : place.jobs = place'.jobs)
    (operations : place.operations = place'.operations) : place = place' := by
  cases place <;> cases place' <;>
    simp [Place.queued, Place.activities, Place.jobs, Place.operations] at queued activities jobs operations <;>
    simp_all

/-- A job looks one way. -/
theorem Situation.Shows.unique (shows : s.Shows key view) (shows' : s.Shows key view') : view = view' := by
  have place : view.place = view'.place :=
    Place.eq_of_lists (shows.queue.symm.trans shows'.queue) (shows.active.symm.trans shows'.active)
      (shows.waiting.symm.trans shows'.waiting) (shows.operations.symm.trans shows'.operations)
  have record := Option.some.inj (shows.record.symm.trans shows'.record)
  have owed := shows.owed.symm.trans shows'.owed
  have notes := shows.notes.symm.trans shows'.notes
  obtain ⟨_, _, _, _⟩ := view
  obtain ⟨_, _, _, _⟩ := view'
  simp only at place record owed notes
  simp only [place, record, owed, notes]

/-- Every key of the batch has exactly one place, which its record fits, and the operations are accounted
for. -/
structure Situation.Ordered (setting : Setting Ask Answer σ) (s : Situation Ask Answer σ) : Prop where
  placed : ∀ key ∈ setting.batch.keys, ∃ view, s.Shows key view ∧ view.Fits key ∧
    ∀ other, s.Shows key other → other.place = view.place
  /-- The keys in operation are the keys of the operations under way. -/
  inOperation : ∀ key, key ∈ s.run.inOperation ↔ ∃ operation ∈ s.operations, operation.key = key
  /-- No two operations of one key are under way. -/
  single : (s.operations.map (·.key)).Nodup

/-- An event met no record, or a record that does not take it. -/
def Run.Refuses (run : Run) : Prop := ∃ now key event, (now, Note.refused key event) ∈ run.journal

/-- A key is listed as in operation exactly if its view has an operation. -/
theorem Situation.Shows.listed_iff (shows : s.Shows key view) :
    key ∈ s.run.inOperation ↔ ∃ operation ∈ s.operations, operation.key = key := by
  have under : (∃ operation ∈ s.operations, operation.key = key) ↔ view.place.operations ≠ [] := by
    simp [← shows.operations, List.filter_eq_nil_iff]
  rw [under, shows.listed]
  cases view.place <;> simp [Place.activities, Place.operations]

namespace Setting

variable {store : BatchStore} {world : World σ}

theorem Meets.ordered (met : setting.Meets store world s) : s.Ordered setting := by
  refine ⟨fun key member => ?_, fun key => ?_, List.nodup_iff_count.mpr fun key => ?_⟩
  · obtain ⟨view, shows, sound⟩ := met.shows member
    exact ⟨view, shows, sound.fits, fun other shown => congrArg View.place (shown.unique shows)⟩
  · by_cases member : key ∈ setting.batch.keys
    · obtain ⟨view, shows, -⟩ := met.shows member
      exact shows.listed_iff
    · have strange : key ∉ s.keys := fun mentioned => member (met.keys_subset mentioned)
      simp only [Situation.keys, List.mem_append, List.mem_map] at strange
      grind
  · by_cases member : key ∈ setting.batch.keys
    · obtain ⟨view, shows, -⟩ := met.shows member
      rw [List.count_eq_countP, List.countP_map, List.countP_eq_length_filter]
      have operations := congrArg List.length shows.operations
      have one : view.place.operations.length ≤ 1 := by cases view.place <;> simp [Place.operations]
      exact operations ▸ one
    · have strange : key ∉ s.keys := fun mentioned => member (met.keys_subset mentioned)
      simp only [Situation.keys, List.mem_append] at strange
      rw [List.count_eq_zero.mpr fun present => strange (.inl (.inr present))]
      exact Nat.zero_le 1

theorem Meets.not_refuses (met : setting.Meets store world s) : ¬ s.run.Refuses := by
  rintro ⟨now, key, event, entry⟩
  have mentioned : key ∈ s.keys := List.mem_append_right _ (List.mem_map.mpr ⟨_, entry, rfl⟩)
  obtain ⟨view, shows, sound⟩ := met.shows (met.keys_subset mentioned)
  refine sound.accepted (now, .refused key event) ?_ event rfl
  rw [← shows.notes, List.mem_filter]
  exact ⟨entry, by simp⟩

/-- Before every round of a run the jobs are in order, and neither so far nor in the round does the tracker
apply an event to a missing record or to one that does not take it. -/
theorem Reaches.jobs_ordered (reached : setting.Reaches store world s) :
    s.Ordered setting ∧ ¬ s.run.Refuses ∧
      ∀ choice, ¬ (s.round setting choice).situation.run.Refuses :=
  ⟨reached.meets.ordered, reached.meets.not_refuses, fun choice => by
    obtain ⟨t, met, same, -⟩ := Arises.meets (.inr ⟨s, choice, reached, rfl⟩)
    rw [← same]
    exact met.not_refuses⟩

end Setting

/-! ### A small run -/

/-- A backend that takes every job at once under its key and finds it done at the first look. -/
def prompt : Backend Empty (fun _ => Unit) where
  submit job := .done (.ok job.key)
  poll _ := .done (.ok .done)
  fetchResult jobId := .done (.ok ⟨"1", jobId, "", "output"⟩)
  download _ := .done (.ok [])

/-- A run of jobs with these keys over `prompt`. -/
def prompted (keys : List String) : Setting Empty (fun _ => Unit) Unit where
  config := {}
  batch := ⟨⟨"portrait", [], []⟩, keys.map fun key => ⟨key, none, key, [], []⟩⟩
  backend := prompt
  service := ⟨fun question => nomatch question⟩
  clock := ⟨⟨0, 0⟩⟩
  cancelAt := none

/-- After one round of three jobs with two slots one job waits, one is being submitted and one is pending. -/
theorem prompted_ordered : ∃ s, (prompted ["ada", "bob", "cid"]).Reaches .inMemory ⟨(), ⟨[]⟩, 0⟩ s ∧
    s.run.waiting.map (·.key) = ["ada"] ∧ s.run.inOperation = ["bob"] ∧ s.run.pending = ["cid"] ∧
    s.Ordered (prompted ["ada", "bob", "cid"]) ∧ ¬ s.run.Refuses ∧
    ∀ choice, ¬ (s.round (prompted ["ada", "bob", "cid"]) choice).situation.run.Refuses :=
  have reached := Setting.Reaches.round {} (.opening rfl rfl) rfl
  ⟨_, reached, rfl, rfl, rfl, Setting.Reaches.jobs_ordered reached⟩

end ImageBatch.Tracker
