import ImageBatch.Proofs.Tracker.Journal
import ImageBatch.Proofs.Tracker.Places
import ImageBatch.Proofs.Tracker.Waiting

/-!
The slots of a run.

`slotsTaken` counts in the journal how many jobs occupy a slot: those that were adopted and those whose submit
began, less those that are at their end. What happens to a job gives it a slot, leaves it its slot, or frees the
slot (`Move.slot`), so until the cancellation as many jobs wait or have an operation under way as the journal says,
and later no more (`Situation.Accounts`). A submit begins only with a slot free, whence the bound; and a round waits
only when no slot can be filled (`Setting.Reaches.capacity_kept`).
-/

namespace ImageBatch.Tracker

variable {Ask : Type} {Answer : Ask → Type} {σ : Type} {setting : Setting Ask Answer σ}
  {s t : Situation Ask Answer σ} {key : String} {world world' : World σ} {view view' : View Ask Answer}
  {store : BatchStore} {adopted slots : Nat} {journal earlier : List (Nat × Note)} {entry : Nat × Note}

/-! ### Slots in the journal -/

/-- A submit begins: its job takes a slot. -/
def Note.takesSlot : Note → Bool
  | .began (.submitting ..) => true
  | _ => false

/-- The job of a slot is at its end. -/
def Note.freesSlot : Note → Bool
  | .applied _ (.submitFailed _) | .applied _ .deadlineExceeded => true
  | .applied _ (.polled result) => !result.isOpen
  | _ => false

/-- How many slots are taken after the entries of a journal, in a run that adopted so many jobs. -/
def slotsTaken (adopted : Nat) : List (Nat × Note) → Nat
  | [] => adopted
  | (_, note) :: earlier =>
    if note.takesSlot then slotsTaken adopted earlier + 1
    else if note.freesSlot then slotsTaken adopted earlier - 1
    else slotsTaken adopted earlier

/-- At no point of the journal are more slots taken than there are, or were adopted, and each submit begins with
a slot free. -/
structure Capped (slots adopted : Nat) (journal : List (Nat × Note)) : Prop where
  bound : ∀ earlier, earlier <:+ journal → slotsTaken adopted earlier ≤ max slots adopted
  free : ∀ entry earlier, entry :: earlier <:+ journal → entry.2.takesSlot = true →
    slotsTaken adopted earlier < slots

theorem capped_nil : Capped slots adopted [] where
  bound := by
    intro earlier suffix
    rw [List.suffix_nil.mp suffix]
    exact Nat.le_max_right slots adopted
  free := by
    intro entry earlier suffix
    exact absurd (List.suffix_nil.mp suffix) (List.cons_ne_nil entry earlier)

/-- An entry keeps to the slots if it takes one only when one is free. -/
theorem Capped.cons (capped : Capped slots adopted journal)
    (free : entry.2.takesSlot = true → slotsTaken adopted journal < slots) :
    Capped slots adopted (entry :: journal) where
  bound := by
    intro earlier suffix
    rcases List.suffix_cons_iff.mp suffix with rfl | suffix
    · have before := capped.bound journal (List.suffix_refl journal)
      unfold slotsTaken
      split
      next takes =>
          have := free takes
          omega
      next => split <;> omega
    · exact capped.bound earlier suffix
  free := by
    intro first earlier suffix takes
    rcases List.suffix_cons_iff.mp suffix with same | suffix
    · obtain ⟨rfl, rfl⟩ := List.cons.inj same
      exact free takes
    · exact capped.free first earlier suffix takes

/-- Entries that take no slot keep to the slots. -/
theorem Capped.append {new : List (Nat × Note)} (capped : Capped slots adopted journal)
    (quiet : ∀ entry ∈ new, entry.2.takesSlot = false) : Capped slots adopted (new ++ journal) := by
  induction new with
  | nil => exact capped
  | cons entry rest ih =>
      obtain ⟨first, rest⟩ := List.forall_mem_cons.mp quiet
      exact (ih rest).cons (by simp [first])

/-- Entries that neither take nor free a slot do not count. -/
theorem slotsTaken_append {new : List (Nat × Note)}
    (quiet : ∀ entry ∈ new, entry.2.takesSlot = false ∧ entry.2.freesSlot = false) :
    slotsTaken adopted (new ++ journal) = slotsTaken adopted journal := by
  induction new with
  | nil => rfl
  | cons entry rest ih =>
      obtain ⟨⟨takes, frees⟩, rest⟩ := List.forall_mem_cons.mp quiet
      simp [slotsTaken, takes, frees, ih rest]

/-! ### Moves -/

/-- What becomes of the slot of a job, with the entries that tell of it. -/
inductive SlotChange (key : String) : (before after : View Ask Answer) → List (Nat × Note) → Prop where
  /-- A pending job gets a slot. -/
  | takes {before after t warnings job} (pending : before.place = .pending)
      (underWay : after.place.isUnderWay = true) :
      SlotChange key before after [(t, .began (.submitting key warnings job))]
  /-- A job keeps its slot or goes on without one, unless it just had its last outcome. -/
  | keeps {before after new} (quiet : ∀ entry ∈ new, entry.2.takesSlot = false ∧ entry.2.freesSlot = false)
      (underWay : after.place.isUnderWay = true → before.place.isUnderWay = true)
      (same : before.owed = none → after.place.isUnderWay = before.place.isUnderWay) :
      SlotChange key before after new
  /-- A job is at its end and leaves its slot. -/
  | frees {before after t event completion} (ends : (Note.applied key event).freesSlot = true)
      (underWay : before.place.isUnderWay = true) (gone : after.place = .gone) :
      SlotChange key before after [(t, .applied key event), (t, .concluded completion)]

/-- Whatever happens to a job, it is told what becomes of its slot. -/
theorem Move.slot (move : Move setting key world world' view view') :
    ∃ new, view'.notes = new ++ view.notes ∧ SlotChange key view view' new := by
  cases move with
  | @fails record notes features e known unresolved =>
      refine ⟨[(world.now, .applied key (.constructionFailed e.message))], rfl, .keeps ?_ id fun _ => rfl⟩
      simp [Note.takesSlot, Note.freesSlot]
  | @submits record notes features job activity known resolved begins =>
      subst begins
      exact ⟨[_], rfl, .takes rfl rfl⟩
  | asksSubmitting due asks replied => exact ⟨[], rfl, .keeps (by simp) id fun _ => rfl⟩
  | asksObserving due asks replied => exact ⟨[], rfl, .keeps (by simp) id fun _ => rfl⟩
  | polls due early =>
      refine ⟨[_], rfl, .keeps ?_ id fun _ => rfl⟩
      simp [Note.takesSlot, Note.freesSlot]
  | @accepted warnings job operation record owed notes jobId due ends nameable =>
      refine ⟨[_, _], rfl, .keeps ?_ (fun _ => rfl) fun unmarked => ?_⟩
      · simp [Note.takesSlot, Note.freesSlot]
      · obtain rfl : owed = none := unmarked
        rfl
  | declined due ends => exact ⟨[_, _], rfl, .frees rfl rfl rfl⟩
  | @observed job operation record owed notes result due ends nameable =>
      cases open_ : result.isOpen with
      | true =>
          refine ⟨[_, _], rfl, .keeps ?_ (fun _ => rfl) fun unmarked => ?_⟩
          · simp [Note.takesSlot, Note.freesSlot, open_]
          · obtain rfl : owed = none := unmarked
            rfl
      | false => exact ⟨[_, _], rfl, .frees (by simp [Note.freesSlot, open_]) rfl rfl⟩
  | timesOut due ends => exact ⟨[_, _], rfl, .frees rfl rfl rfl⟩
  | expires due => exact ⟨[_, _], rfl, .frees rfl rfl rfl⟩

/-! ### Runs -/

/-- The keys of the jobs that occupy a slot. -/
def Situation.occupants (s : Situation Ask Answer σ) : List String :=
  s.run.waiting.map (·.key) ++ s.run.active.map (·.key)

theorem Situation.occupants_subset (s : Situation Ask Answer σ) : s.occupants ⊆ s.keys := by
  intro key occupies
  simp only [Situation.keys, List.mem_append]
  rcases List.mem_append.mp occupies with waits | acts
  · simp [waits]
  · simp [acts]

theorem Situation.length_occupants (s : Situation Ask Answer σ) : s.occupants.length = s.run.occupied := by
  simp [Situation.occupants, Run.occupied]

/-- A job occupies a slot exactly if it is under way. -/
theorem Situation.Shows.mem_occupants_iff (shows : s.Shows key view) :
    key ∈ s.occupants ↔ view.place.isUnderWay = true := by
  have waits : key ∈ s.run.waiting.map (·.key) ↔ view.place.jobs ≠ [] := by
    rw [← shows.waiting]
    simp [List.filter_eq_nil_iff]
  have acts : key ∈ s.run.active.map (·.key) ↔ view.place.activities key ≠ [] := by
    rw [← shows.active]
    simp [List.filter_eq_nil_iff]
  rw [Situation.occupants, List.mem_append, waits, acts]
  cases view.place <;> simp [Place.isUnderWay, Place.jobs, Place.activities]

/-- No job occupies two slots. -/
theorem Setting.Meets.nodup_occupants (met : setting.Meets store world s) : s.occupants.Nodup := by
  refine List.nodup_iff_count.mpr fun key => ?_
  by_cases member : key ∈ setting.batch.keys
  · obtain ⟨view, shows, -⟩ := met.shows member
    rw [Situation.occupants, List.count_append, shows.count_waiting, shows.count_active]
    cases view.place <;> simp [Place.jobs, Place.activities]
  · rw [List.count_eq_zero.mpr]
    · exact Nat.zero_le 1
    · intro present
      exact member (met.keys_subset (s.occupants_subset present))

/-- Two lists without repetitions that differ in one element at most differ in length accordingly. -/
theorem length_add_of_same_but {α : Type} [DecidableEq α] {l l' : List α} {a : α} (nodup : l.Nodup)
    (nodup' : l'.Nodup) (same : ∀ b ≠ a, (b ∈ l ↔ b ∈ l')) :
    l.length + (if a ∈ l' then 1 else 0) = l'.length + (if a ∈ l then 1 else 0) := by
  have perm : (l.erase a).Perm (l'.erase a) := by
    refine (List.perm_ext_iff_of_nodup (nodup.erase a) (nodup'.erase a)).mpr fun b => ?_
    rw [nodup.mem_erase_iff, nodup'.mem_erase_iff]
    exact and_congr_right (same b)
  have lengths := perm.length_eq
  rw [List.length_erase, List.length_erase] at lengths
  by_cases before : a ∈ l <;> by_cases after : a ∈ l' <;> simp only [before, after, if_true, if_false] at lengths ⊢
  · have := List.length_pos_of_mem before
    have := List.length_pos_of_mem after
    omega
  · have := List.length_pos_of_mem before
    omega
  · have := List.length_pos_of_mem after
    omega
  · omega

/-- The journal accounts for the slots: it keeps to them, and until a cancellation as many are occupied as it
says, and later no more. -/
structure Situation.Accounts (slots adopted : Nat) (s : Situation Ask Answer σ) : Prop where
  capped : Capped slots adopted s.run.journal
  bound : s.run.occupied ≤ slotsTaken adopted s.run.journal
  exact : s.run.drain = none → s.run.occupied = slotsTaken adopted s.run.journal

/-- A step of a job changes whether that job occupies a slot, and of no other job. -/
theorem Step.occupied_add (met : setting.Meets store world s)
    (shows : s.Shows key view) (shown : t.Shows key view') (step : Step setting (some key) s t) :
    s.run.occupied + (if view'.place.isUnderWay then 1 else 0) =
      t.run.occupied + (if view.place.isUnderWay then 1 else 0) := by
  have met' : setting.Meets store world t := met.step step
  have same : ∀ other ≠ key, (other ∈ s.occupants ↔ other ∈ t.occupants) := by
    intro other ne
    by_cases known : other ∈ setting.batch.keys
    · obtain ⟨viewed, before, -⟩ := met.shows known
      rcases step.frame before (by simpa using Ne.symm ne) with after | ⟨-, -, after⟩
      · rw [before.mem_occupants_iff, after.mem_occupants_iff]
      · rw [before.mem_occupants_iff, after.mem_occupants_iff]
        rfl
    · have absent {u : Situation Ask Answer σ} (met : setting.Meets store world u) : other ∉ u.occupants := by
        intro present
        exact known (met.keys_subset (u.occupants_subset present))
      exact iff_of_false (absent met) (absent met')
  have lengths := length_add_of_same_but met.nodup_occupants met'.nodup_occupants same
  simp only [Situation.length_occupants, shows.mem_occupants_iff, shown.mem_occupants_iff] at lengths
  exact lengths

/-- A step that concerns no job changes no slot. -/
theorem Step.slots_eq (step : Step setting none s t) :
    t.run.occupied = s.run.occupied ∧ t.run.journal = s.run.journal := by
  generalize touches : none = touched at step
  cases step with
  | waits | saves | notices => exact ⟨rfl, rfl⟩
  | drains =>
      rw [Run.noteCancelled_frame]
      exact ⟨rfl, rfl⟩
  | _ => cases touches

/-- The marks of a cancellation stay. -/
theorem Step.undrained {touched : Option String} (step : Step setting touched s t) (undrained : t.run.drain = none) :
    s.run.drain = none := by
  cases step with
  | waits | saves | notices | skips | submits | asks | polls => exact undrained
  | drains cancelled =>
      unfold Run.noteCancelled at undrained
      split at undrained
      · exact undrained
      · cases undrained
  | fails => simpa [Situation.queue] using undrained
  | concludes => simpa using undrained
  | expires => simpa [Situation.parked] using undrained

namespace Situation.Accounts

/-- A job takes a free slot. -/
theorem takes (accounts : s.Accounts slots adopted) (takes : entry.2.takesSlot = true) (going : s.run.drain = none)
    (free : s.run.occupied < slots) (entered : t.run.journal = entry :: s.run.journal)
    (occupied : t.run.occupied = s.run.occupied + 1) : t.Accounts slots adopted := by
  have same := accounts.exact going
  have taken : t.run.occupied = slotsTaken adopted t.run.journal := by
    rw [entered, slotsTaken, if_pos takes, occupied, same]
  refine ⟨?_, Nat.le_of_eq taken, fun _ => taken⟩
  rw [entered]
  exact accounts.capped.cons fun _ => same ▸ free

/-- Entries that take and free no slot leave the account as it is; after a cancellation a slot may be left. -/
theorem keeps {new : List (Nat × Note)} (accounts : s.Accounts slots adopted)
    (undrained : t.run.drain = none → s.run.drain = none)
    (quiet : ∀ entry ∈ new, entry.2.takesSlot = false ∧ entry.2.freesSlot = false)
    (entered : t.run.journal = new ++ s.run.journal) (fewer : t.run.occupied ≤ s.run.occupied)
    (same : t.run.drain = none → t.run.occupied = s.run.occupied) : t.Accounts slots adopted := by
  have counted : slotsTaken adopted t.run.journal = slotsTaken adopted s.run.journal := by
    rw [entered, slotsTaken_append quiet]
  refine ⟨?_, counted ▸ Nat.le_trans fewer accounts.bound, fun going => ?_⟩
  · rw [entered]
    exact accounts.capped.append fun entry member => (quiet entry member).1
  · rw [counted, same going, accounts.exact (undrained going)]

/-- A job leaves its slot at its end. -/
theorem frees {ending concluded : Nat × Note} (accounts : s.Accounts slots adopted)
    (undrained : t.run.drain = none → s.run.drain = none) (ends : ending.2.freesSlot = true)
    (takes : ending.2.takesSlot = false) (quiet : concluded.2.takesSlot = false ∧ concluded.2.freesSlot = false)
    (entered : t.run.journal = ending :: concluded :: s.run.journal)
    (occupied : t.run.occupied + 1 = s.run.occupied) : t.Accounts slots adopted := by
  have bound := accounts.bound
  have freed : slotsTaken adopted t.run.journal = slotsTaken adopted s.run.journal - 1 := by
    simp [entered, slotsTaken, ends, takes, quiet]
  refine ⟨?_, by omega, fun going => ?_⟩
  · rw [entered]
    exact (accounts.capped.cons (by simp [quiet])).cons (by simp [takes])
  · have same := accounts.exact (undrained going)
    omega

end Situation.Accounts

/-- Every step keeps the account of the slots. -/
theorem Step.accounts (met : setting.Meets store world s) (accounts : s.Accounts setting.config.slots adopted)
    {touched : Option String} (step : Step setting touched s t) : t.Accounts setting.config.slots adopted := by
  have undrained := step.undrained
  cases touched with
  | none =>
      obtain ⟨occupied, journal⟩ := step.slots_eq
      exact accounts.keeps undrained (List.forall_mem_nil _) journal (Nat.le_of_eq occupied) fun _ => occupied
  | some key =>
      have member := met.keys_subset step.mem_keys
      obtain ⟨view, shows, sound⟩ := met.shows member
      obtain ⟨view', shown, move⟩ := step.moves met.proper member shows sound
      obtain ⟨new, entered, noted⟩ := step.notes shows shown
      obtain ⟨new', noted', change⟩ := move.slot
      obtain rfl : new = new' := List.append_cancel_right (noted.symm.trans noted')
      have occupied := step.occupied_add met shows shown
      cases change with
      | takes pending underWay =>
          obtain ⟨going, free⟩ := step.free_of_pending member shows pending
          rw [underWay, pending] at occupied
          simp only [Place.isUnderWay, if_true, Bool.false_eq_true, if_false] at occupied
          exact accounts.takes rfl (met.proper.unmarked going) free entered occupied.symm
      | keeps quiet underWay same =>
          refine accounts.keeps undrained quiet entered ?_ fun going => ?_
          · cases after : view'.place.isUnderWay <;> simp only [after] at occupied underWay
            · simp only [Bool.false_eq_true, if_false] at occupied
              omega
            · simp only [underWay trivial, if_true] at occupied
              omega
          · have unmarked : view.owed = none := by rw [← shows.owed, undrained going]; rfl
            rw [same unmarked] at occupied
            omega
      | frees ends underWay gone =>
          rw [underWay, gone] at occupied
          simp only [Place.isUnderWay, if_true, Bool.false_eq_true, if_false] at occupied
          exact accounts.frees undrained ends rfl ⟨rfl, rfl⟩ entered occupied.symm

/-- A job is under way as a run opens exactly if it was in flight. -/
theorem Opens.isUnderWay_eq {config : Config} {now : Nat} {moment : Timestamp} {found : JobRecord}
    (opens : Opens config now moment found view) : view.place.isUnderWay = found.isInFlight := by
  cases opens with
  | pending pending => simp [Place.isUnderWay, JobRecord.isInFlight, pending, JobStatus.isHandedOver]
  | restarts reset =>
      simp only [Run.needsReset, Bool.or_eq_true, Bool.and_eq_true, Option.isNone_iff_eq_none] at reset
      rcases reset with ⟨terminal, -⟩ | ⟨-, unnamed⟩
      · exact (JobRecord.not_isInFlight_of_isTerminal terminal).symm
      · simp [Place.isUnderWay, JobRecord.isInFlight, unnamed]
  | adopts handedOver named adopted => simp [Place.isUnderWay, JobRecord.isInFlight, handedOver, named]
  | keeps terminal kept => exact (JobRecord.not_isInFlight_of_isTerminal terminal).symm

namespace Setting

/-- The jobs that a run over a store adopts. -/
def adoptees (setting : Setting Ask Answer σ) (store : BatchStore) : List String :=
  setting.batch.keys.filter fun key => (store.recordOf key).isInFlight

/-- As a run opens the adopted jobs occupy a slot each. -/
theorem opening_accounts (opened : setting.opening store world = .ok s) :
    s.Accounts slots (setting.adoptees store).length := by
  have met : setting.Meets store world s := ⟨s, [], opened, .refl s⟩
  have keys : setting.batch.keys.Nodup := List.nodup_iff_count.mpr fun key => by
    rw [Batch.count_keys]
    split <;> simp
  have same : s.occupants.Perm (setting.adoptees store) := by
    refine (List.perm_ext_iff_of_nodup met.nodup_occupants (keys.filter _)).mpr fun key => ?_
    rw [List.mem_filter]
    constructor
    · intro occupies
      have member := opening_keys opened (s.occupants_subset occupies)
      obtain ⟨view, opens, shows⟩ := opening_shows opened member
      exact ⟨member, opens.isUnderWay_eq ▸ shows.mem_occupants_iff.mp occupies⟩
    · rintro ⟨member, inFlight⟩
      obtain ⟨view, opens, shows⟩ := opening_shows opened member
      exact shows.mem_occupants_iff.mpr (opens.isUnderWay_eq.trans inFlight)
  have occupied : s.run.occupied = (setting.adoptees store).length := by
    rw [← s.length_occupants]
    exact same.length_eq
  have silent : s.run.journal = [] := by
    obtain ⟨run, started, rfl⟩ := opening_eq opened
    obtain ⟨_, _, _, rfl, -⟩ := Run.placeAll_frame started
    rfl
  constructor
  · rw [silent]
    exact capped_nil
  · rw [silent]
    exact Nat.le_of_eq occupied
  · intro _
    rw [silent]
    exact occupied

/-- All through a run the journal accounts for the slots. -/
theorem Meets.accounts (met : setting.Meets store world s) :
    s.Accounts setting.config.slots (setting.adoptees store).length := by
  obtain ⟨opening, keys, opened, path⟩ := met
  have start : setting.Meets store world opening := ⟨opening, [], opened, .refl opening⟩
  have kept : setting.Meets store world s ∧ s.Accounts setting.config.slots (setting.adoptees store).length := by
    refine path.invariant (P := fun s => setting.Meets store world s ∧
      s.Accounts setting.config.slots (setting.adoptees store).length) ?_ ⟨start, opening_accounts opened⟩
    rintro touched s t ⟨met, accounts⟩ step
    exact ⟨met.step step, step.accounts met accounts⟩
  exact kept.2

/-- So many jobs wait or have an operation under way at most. -/
theorem Meets.occupied_le (met : setting.Meets store world s) :
    s.run.occupied ≤ max setting.config.slots (setting.adoptees store).length := by
  obtain ⟨capped, bound, -⟩ := met.accounts
  exact Nat.le_trans bound (capped.bound _ (List.suffix_refl _))

/-- All through a run no more slots are taken than the configuration has, or than jobs were adopted, and each
submit begins with a slot free. As the journal says, so many jobs wait or have an operation under way until the
cancellation, and no more later. And a round that waits without a cancellation has nothing left to submit, or no
slot for it. -/
theorem Reaches.capacity_kept (reached : setting.Reaches store world s) (choice : Choice) :
    let adopted := (setting.adoptees store).length
    let after := (s.round setting choice).situation
    Capped setting.config.slots adopted after.run.journal ∧
      after.run.occupied ≤ slotsTaken adopted after.run.journal ∧
      (after.run.drain = none → after.run.occupied = slotsTaken adopted after.run.journal) ∧
      ∀ t, s.waits? setting choice = some t → t.run.occupied ≤ max setting.config.slots adopted ∧
        (t.cancelled = false → t.run.pending = [] ∨ setting.config.slots ≤ t.run.occupied) := by
  intro adopted after
  obtain ⟨u, met, same, -⟩ := Arises.meets (.inr ⟨s, choice, reached, rfl⟩)
  obtain ⟨capped, bound, exact_⟩ := met.accounts
  rw [same] at capped bound exact_
  refine ⟨capped, bound, exact_, ?_⟩
  intro t waits
  obtain ⟨keys, path, -, filled⟩ := Situation.waits_path waits
  constructor
  · exact (reached.meets.trans path).occupied_le
  · intro going
    exact filled.resolve_left (by simp [going])

/-- A store with three jobs, which were handed over at the start of the clock. -/
def threeHandedOver : BatchStore :=
  ⟨none, ["ada", "bob", "cid"].map fun key => (JobRecord.fresh key).submit key [] ⟨0, 0⟩⟩

/-- With two slots a run may adopt three jobs, and a fourth waits for a slot. -/
theorem capacity_kept_prompted : ∃ s t,
    (prompted ["ada", "bob", "cid", "dan"]).Reaches threeHandedOver ⟨(), ⟨[]⟩, 0⟩ s ∧
      ((prompted ["ada", "bob", "cid", "dan"]).adoptees threeHandedOver).length = 3 ∧
      s.waits? (prompted ["ada", "bob", "cid", "dan"]) {} = some t ∧ t.run.pending = ["dan"] ∧
      Capped 2 3 (s.round (prompted ["ada", "bob", "cid", "dan"]) {}).situation.run.journal ∧
      t.run.occupied ≤ 3 ∧ (t.run.pending = [] ∨ 2 ≤ t.run.occupied) := by
  obtain ⟨s, t, reached, waits, pending, going⟩ : ∃ s t,
      (prompted ["ada", "bob", "cid", "dan"]).Reaches threeHandedOver ⟨(), ⟨[]⟩, 0⟩ s ∧
        s.waits? (prompted ["ada", "bob", "cid", "dan"]) {} = some t ∧ t.run.pending = ["dan"] ∧
        t.cancelled = false :=
    ⟨_, _, .opening rfl rfl, rfl, rfl, rfl⟩
  obtain ⟨capped, -, -, waiting⟩ := Reaches.capacity_kept reached {}
  obtain ⟨bound, busy⟩ := waiting t waits
  exact ⟨s, t, reached, rfl, waits, pending, capped, bound, busy going⟩

end Setting

end ImageBatch.Tracker
