import ImageBatch.Proofs.Batch.Reopening
import ImageBatch.Proofs.Job.Form
import ImageBatch.Proofs.Time.Rfc3339

/-!
A store that was saved is read back.

A record is representable if the calendar has its moments and its number of submits has 32 bits; then its document is
read back exactly (`JobRecord.read_toJson`), and so is what a store of such records saves (`BatchStore.load_of_read`).
An event at a moment of the calendar keeps a record representable (`JobRecord.Representable.transition`), and all
records of a store that was opened are representable (`BatchStore.representable_of_load`).
-/

namespace ImageBatch

open Document

namespace JobRecord

variable {record next : JobRecord} {event : JobEvent} {now : Timestamp}

/-- The numbers and the moments of a record are such that its document can hold them. -/
structure Representable (record : JobRecord) : Prop where
  submitCount : record.submitCount ≤ Natural.max32
  moments : ∀ moment ∈ record.moments, moment.Valid

instance (record : JobRecord) : Decidable record.Representable :=
  decidable_of_iff (record.submitCount ≤ Natural.max32 ∧ ∀ moment ∈ record.moments, moment.Valid)
    ⟨fun ⟨small, valid⟩ => ⟨small, valid⟩, fun ⟨small, valid⟩ => ⟨small, valid⟩⟩

theorem reread_eq {moment : Option Timestamp} (valid : ∀ t ∈ moment, t.Valid) : reread moment = some moment := by
  cases moment with
  | none => rfl
  | some t =>
      have text (s : String) : orNull asTimestamp (ofJson (.text s)) = (Timestamp.ofText? s).map some := rfl
      refine (text t.toText).trans ?_
      rw [Timestamp.ofText?_toText (valid t rfl), Option.map_some]

/-- A record is read back from its document. -/
theorem read_toJson (representable : record.Representable) : ofDocument? (ofJson record.toJson) = some record := by
  obtain ⟨small, valid⟩ := representable
  unfold moments at valid
  have submitted : reread record.submittedAt = some record.submittedAt :=
    reread_eq fun t set => valid t (by simp [Option.mem_def.mp set])
  have polled : reread record.lastPolledAt = some record.lastPolledAt :=
    reread_eq fun t set => valid t (by simp [Option.mem_def.mp set])
  have completed : reread record.completedAt = some record.completedAt :=
    reread_eq fun t set => valid t (by simp [Option.mem_def.mp set])
  rw [ofDocument?_toJson small, submitted, polled, completed]
  rfl

theorem mem_moments {moment : Timestamp} : moment ∈ record.moments ↔
    record.submittedAt = some moment ∨ record.lastPolledAt = some moment ∨ record.completedAt = some moment := by
  simp [moments]

theorem representable_fresh (userId : String) : (fresh userId).Representable := ⟨Nat.zero_le _, nofun⟩

/-- A record that is read from a document is representable. -/
theorem representable_of_ofDocument? {d : Document} (read : ofDocument? d = some record) : record.Representable := by
  simp only [ofDocument?, Option.bind_eq_bind, Option.bind_eq_some_iff] at read
  obtain ⟨found, -, _, -, _, -, _, -, submittedAt, submitted, lastPolledAt, polled, completedAt, completed, submitCount,
    count, _, -, _, -, _, -, _, -, same⟩ := read
  cases same
  have moment {name : String} {t : Timestamp} (given : found.nullable name asTimestamp = some (some t)) : t.Valid := by
    obtain ⟨d, -, read⟩ := exists_of_nullable given
    obtain ⟨text, -, read⟩ := Option.bind_eq_some_iff.mp read
    exact Timestamp.valid_of_ofText? read
  constructor
  · unfold Found.withDefault at count
    split at count
    next =>
        cases count
        exact Nat.zero_le _
    next => exact le_of_asNat count
  · intro t present
    rw [mem_moments] at present
    rcases present with rfl | rfl | rfl
    · exact moment submitted
    · exact moment polled
    · exact moment completed

theorem Representable.reset (representable : record.Representable) : record.reset.Representable :=
  ⟨representable.submitCount, nofun⟩

/-- The moments of a record after an event are those that it had, and that of the event. -/
theorem mem_moments_of_transition (taken : record.transition event now = .ok next) {moment : Timestamp}
    (present : moment ∈ next.moments) : moment = now ∨ moment ∈ record.moments := by
  rw [mem_moments] at present ⊢
  unfold transition at taken
  split at taken <;> cases taken
  case h_4 failure _ => cases failure <;> simp [failSubmit, terminate] at present <;> grind
  case h_5 result _ => cases result <;> simp [observe, terminate] at present <;> grind
  case h_6 result _ => cases result <;> simp [observe, terminate] at present <;> grind
  all_goals
    simp [JobRecord.reset, fresh, submit, terminate] at present
    try grind

/-- An event counts a submit in 32 bits, or leaves the count alone. -/
theorem submitCount_of_transition (taken : record.transition event now = .ok next) :
    next.submitCount = record.submitCount ∨ next.submitCount = (record.submitCount + 1) % 0x100000000 := by
  unfold transition at taken
  split at taken <;> cases taken
  case h_3 => exact .inr rfl
  case h_4 failure _ => cases failure <;> exact .inl rfl
  case h_5 result _ => cases result <;> exact .inl rfl
  case h_6 result _ => cases result <;> exact .inl rfl
  all_goals exact .inl rfl

/-- An event at a moment of the calendar keeps a record representable. -/
theorem Representable.transition (representable : record.Representable) (valid : now.Valid)
    (taken : record.transition event now = .ok next) : next.Representable := by
  refine ⟨?_, fun moment present => ?_⟩
  · rcases submitCount_of_transition taken with same | counted
    · exact same ▸ representable.submitCount
    · exact counted ▸ Nat.le_of_lt_succ (Nat.mod_lt _ (by decide))
  · rcases mem_moments_of_transition taken present with rfl | kept
    · exact valid
    · exact representable.moments moment kept

/-- Records are read back from their documents. -/
theorem readAll_toJson {records : List JobRecord} (representable : ∀ record ∈ records, record.Representable) :
    readAll ofDocument? (ofItems (records.map toJson)) = some records := by
  induction records with
  | nil => rfl
  | cons record rest ih =>
      obtain ⟨one, all⟩ := List.forall_mem_cons.mp representable
      simp only [List.map_cons, ofItems, readAll, read_toJson one, ih all]

end JobRecord

namespace BatchStore

variable {store : BatchStore} {disk : Disk} {path : Path}

/-- All records can be held by documents. -/
def Representable (store : BatchStore) : Prop := ∀ record ∈ store.records, record.Representable

theorem Representable.put {record : JobRecord} (representable : store.Representable) (one : record.Representable) :
    (store.put record).Representable := by
  intro other present
  rcases mem_put present with rfl | present
  · exact one
  · exact representable other present

theorem Representable.enroll (representable : store.Representable) (userIds : List String) :
    (store.enroll userIds).1.Representable := by
  intro record present
  rcases mem_enroll present with ⟨userId, rfl⟩ | present
  · exact JobRecord.representable_fresh userId
  · exact representable record present

/-- Each record of a store was read from a document of its own. -/
theorem exists_of_mem_ofDocument? {d : Document} {version : Nat} {records : List JobRecord} {record : JobRecord}
    (read : ofDocument? d = some (version, records)) (present : record ∈ records) :
    ∃ part, JobRecord.ofDocument? part = some record := by
  simp only [ofDocument?, Option.bind_eq_bind, Option.bind_eq_some_iff] at read
  obtain ⟨found, -, _, -, _, list, same⟩ := read
  cases same
  obtain ⟨list, -, all⟩ := Option.bind_eq_some_iff.mp list
  obtain ⟨_, -, part, -, given⟩ := exists_of_mem_asList all present
  exact ⟨part, given⟩

/-- A store that is opened has only records that documents can hold. -/
theorem representable_of_load (loaded : load disk path = .ok store) : store.Representable := by
  unfold load at loaded
  split at loaded
  · cases loaded
    exact fun _ present => absurd present List.not_mem_nil
  · cases loaded
  split at loaded
  · cases loaded
  next version records read =>
      split at loaded
      · cases loaded
        obtain ⟨document, -, read⟩ := Option.bind_eq_some_iff.mp read
        intro record present
        obtain ⟨part, given⟩ := exists_of_mem_ofDocument? read present
        exact JobRecord.representable_of_ofDocument? given
      · cases loaded

/-- A store is opened as it is where what it saves is read. -/
theorem load_of_read (placed : store.path = some path) (representable : store.Representable)
    (read : disk.read path = .ok store.contents) : load disk path = .ok store := by
  have small : ∀ record ∈ store.records, record.submitCount ≤ Natural.max32 :=
    fun record present => (representable record present).submitCount
  simp only [load, read, read?_contents small, JobRecord.readAll_toJson representable, Option.map_some, if_true,
    ← placed]

/-- What a store saves is not empty. -/
theorem Representable.contents_ne_nil (representable : store.Representable) : store.contents ≠ [] := by
  intro empty
  have read := read?_contents fun record present => (representable record present).submitCount
  rw [empty, JobRecord.readAll_toJson representable] at read
  cases read

end BatchStore

end ImageBatch
