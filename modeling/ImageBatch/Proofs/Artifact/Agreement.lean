import ImageBatch.Batch.Whole
import ImageBatch.Proofs.Artifact.Accounts
import ImageBatch.Proofs.Tracker.Completeness

/-!
The manifest, the store and the summary of a run agree.

`Collector.Agrees` says in full what the manifest of a collection and the store after it have to do with each other, with
the store before it and with what came of the attempts; a collection that succeeds leaves them so
(`Collector.agrees_of_collectBatch`). If no two records are of one user, the entries can be counted by the records: there
are as many as the batch has records, and as many ready ones as jobs succeeded (`Collector.Agrees.counts`). A whole run
ends with a collection, and its summary is made of the store after it.
-/

namespace ImageBatch

namespace Collector

variable {Ask : Type} {Answer : Ask → Type} {σ : Type} {keys : List String}
  {tried : List (String × Except CollectionError Path)} {before after : BatchStore} {entries : Entries ArtifactEntry}

/-- The entries of a manifest and the store after a collection tell the same of the keys of a batch. -/
structure Agrees (keys : List String) (tried : List (String × Except CollectionError Path)) (before after : BatchStore)
    (entries : Entries ArtifactEntry) : Prop where
  once : entries.names.Nodup
  /-- Each key that has a record has an entry, and nothing else has one. -/
  listed : ∀ key, key ∈ entries.names ↔ key ∈ keys ∧ (before.get? key).isSome = true
  ready : ∀ key path, entries.get? key = some (.ready path) ↔
    key ∈ keys ∧ ∃ record, after.get? key = some record ∧ record.status = .succeeded ∧ record.artifact = some path
  failed : ∀ key status reason, entries.get? key = some (.failed status reason) →
    status ≠ .succeeded ∧ ∃ record, after.get? key = some record ∧ record.status = status
  /-- The records stand where they stood. -/
  users : after.records.map (·.userId) = before.records.map (·.userId)
  /-- Records of other keys and of jobs that had not succeeded are as they were. -/
  unchanged : ∀ (position : Nat) (record : JobRecord), before.records[position]? = some record →
    record.userId ∉ keys ∨ record.status ≠ .succeeded → after.records[position]? = some record
  /-- A job that succeeded and for which no attempt failed has the image of the last attempt. -/
  collected : ∀ key record, key ∈ keys → before.get? key = some record → record.status = .succeeded →
    (∀ e, (key, .error e) ∉ tried) → ∃ path, tried.lookup key = some (.ok path) ∧
      after.get? key = some { record with artifact := some path }
  /-- A job for which an attempt failed had succeeded, and now has failed. -/
  demoted : ∀ key e, (key, .error e) ∈ tried → ∃ record moment, before.get? key = some record ∧
    record.status = .succeeded ∧ after.get? key = some { record with
      status := .failed
      result := none
      error := some ⟨.collection, e.message⟩
      completedAt := some moment
      artifact := none }

/-! ### What a story says -/

section Stories

variable {seen : Prop} {had has : Option JobRecord} {last : Option (Except CollectionError Path)}
  {entry : Option ArtifactEntry} {record : JobRecord}

theorem Tells.listed (tells : Tells seen had last has entry) : (∃ told, entry = some told) ↔ seen ∧ had.isSome = true := by
  cases tells with
  | unknown => simp
  | waiting _ unseen => simp [unseen]
  | left _ visited => simp [visited]
  | ready _ _ visited => simp [visited]
  | demoted _ _ _ _ visited => simp [visited]

theorem Tells.ready_iff (tells : Tells seen had last has entry) (path : Path) : entry = some (.ready path) ↔
    seen ∧ ∃ record, has = some record ∧ record.status = .succeeded ∧ record.artifact = some path := by
  constructor
  · rintro rfl
    cases tells with
    | ready _ _ visited succeeded => exact ⟨visited, _, rfl, succeeded, rfl⟩
  · rintro ⟨visited, record, rfl, succeeded, given⟩
    cases tells with
    | waiting _ unseen => exact absurd visited unseen
    | left _ _ other => exact absurd succeeded other
    | ready _ image =>
        cases given
        rfl
    | demoted => cases succeeded

theorem Tells.of_failed {status : JobStatus} {reason : String} (tells : Tells seen had last has entry)
    (failed : entry = some (.failed status reason)) :
    status ≠ .succeeded ∧ ∃ record, has = some record ∧ record.status = status := by
  subst failed
  cases tells with
  | left record _ other => exact ⟨other, record, rfl, rfl⟩
  | demoted => exact ⟨nofun, _, rfl, rfl⟩

/-- The record of a key that was not visited, or whose job had not succeeded, is the same. -/
theorem Tells.unchanged (tells : Tells seen (some record) last has entry)
    (apart : ¬ seen ∨ record.status ≠ .succeeded) : has = some record := by
  cases tells with
  | waiting => rfl
  | left => rfl
  | ready _ _ visited succeeded => exact absurd apart (by simp [visited, succeeded])
  | demoted _ _ _ _ visited succeeded => exact absurd apart (by simp [visited, succeeded])

theorem Tells.collected (tells : Tells seen (some record) last has entry) (visited : seen)
    (succeeded : record.status = .succeeded) (spared : ∀ e, last ≠ some (.error e)) :
    ∃ path, last = some (.ok path) ∧ has = some { record with artifact := some path } := by
  cases tells with
  | waiting _ unseen => exact absurd visited unseen
  | left _ _ other => exact absurd succeeded other
  | ready _ path => exact ⟨path, rfl, rfl⟩
  | demoted _ e => exact absurd rfl (spared e)

theorem Tells.of_error {e : CollectionError} (tells : Tells seen had last has entry) (failed : last = some (.error e)) :
    ∃ record moment, had = some record ∧ record.status = .succeeded ∧ has = some (record.demoted e.message moment) := by
  subst failed
  cases tells with
  | demoted record _ moment _ _ succeeded => exact ⟨record, moment, rfl, succeeded, rfl⟩

end Stories

/-! ### Agreement -/

theorem mem_of_lookup {key : String} {verdict : Except CollectionError Path} (found : tried.lookup key = some verdict) :
    (key, verdict) ∈ tried := by
  obtain ⟨later, earlier, rfl, -⟩ := List.lookup_eq_some_iff.mp found
  simp

/-- A store and entries that tell of every key agree. -/
theorem Accounts.agrees (accounts : Accounts before keys tried after entries) (distinct : before.Distinct) :
    Agrees keys tried before after entries where
  once := accounts.sorted.imp String.ne_of_lt
  listed key := Entries.mem_names_iff.trans (accounts.tells key).listed
  ready key path := (accounts.tells key).ready_iff path
  failed key status reason told := (accounts.tells key).of_failed told
  users := accounts.ids
  unchanged position record stands apart := by
    have tells := accounts.tells record.userId
    rw [distinct.get?_of_mem (List.mem_of_getElem? stands)] at tells
    exact distinct.getElem?_eq accounts.ids stands (tells.unchanged apart)
  collected key record member found succeeded spared := by
    have tells := accounts.tells key
    rw [found] at tells
    exact tells.collected member succeeded fun e failed => spared e (mem_of_lookup failed)
  demoted key e failed := (accounts.tells key).of_error (accounts.last key e failed)

/-- A collection that succeeds visits all its feature sets and saves the store. -/
theorem exists_of_collectBatch {σ : Type} {c : Collector Ask Answer σ} {features : List FeatureSet}
    {world left : World σ} {manifest : ArtifactManifest}
    (collected : c.collectBatch before features world = (.ok manifest, after, left)) :
    ∃ between, c.collectEach before [] world features = (after, manifest.entries, between) ∧
      after.save between.disk = (.ok (), left.disk) := by
  simp only [collectBatch] at collected
  rcases saved : (c.collectEach before [] world features).1.save (c.collectEach before [] world features).2.2.disk with
    ⟨e | _, disk⟩
  · rw [saved] at collected
    cases collected
  · rw [saved] at collected
    cases collected
    exact ⟨_, rfl, saved⟩

/-- After a collection that succeeds the manifest agrees with the store. -/
theorem agrees_of_collectBatch {σ : Type} {c : Collector Ask Answer σ} {features : List FeatureSet}
    {world left : World σ} {manifest : ArtifactManifest} (distinct : before.Distinct)
    (collected : c.collectBatch before features world = (.ok manifest, after, left)) :
    Agrees (features.map (·.key)) (c.attempts before [] world features) before after manifest.entries := by
  obtain ⟨between, visited, -⟩ := exists_of_collectBatch collected
  have accounts := (accounts_start before).collectEach c features world
  rw [visited, List.nil_append, List.append_nil] at accounts
  exact accounts.agrees distinct

/-! ### Counting -/

variable {key : String}

/-- A key has a record after the collection if it had one before. -/
theorem Agrees.isSome_iff (agrees : Agrees keys tried before after entries) :
    (after.get? key).isSome = true ↔ (before.get? key).isSome = true := by
  unfold BatchStore.get?
  rw [BatchStore.isSome_find?_iff, BatchStore.isSome_find?_iff, agrees.users]

/-- A job of the batch that has succeeded has an image. -/
theorem Agrees.exists_ready (agrees : Agrees keys tried before after entries) {record : JobRecord} (member : key ∈ keys)
    (found : after.get? key = some record) (succeeded : record.status = .succeeded) :
    ∃ path, entries.get? key = some (.ready path) := by
  have present := agrees.isSome_iff.mp (Option.isSome_of_eq_some found)
  obtain ⟨told, listed⟩ := Entries.mem_names_iff.mp ((agrees.listed key).mpr ⟨member, present⟩)
  cases told with
  | ready path => exact ⟨path, listed⟩
  | failed status reason =>
      obtain ⟨other, kept, same, own⟩ := agrees.failed key status reason listed
      cases found.symm.trans same
      exact absurd (own.symm.trans succeeded) other

/-- The names of the ready entries. -/
theorem mem_ready (once : entries.names.Nodup) :
    key ∈ (entries.filter (·.2.isReady)).map (·.1) ↔ ∃ path, entries.get? key = some (.ready path) := by
  simp only [List.mem_map, List.mem_filter, Entries.get?_eq_some_iff once]
  constructor
  · rintro ⟨⟨name, told⟩, ⟨member, isReady⟩, rfl⟩
    cases told with
    | ready path => exact ⟨path, member⟩
    | failed => cases isReady
  · rintro ⟨path, member⟩
    exact ⟨_, ⟨member, rfl⟩, rfl⟩

/-- The users of those records of a batch that a test picks. -/
theorem mem_users {batch : Tracker.Batch} {store : BatchStore} {picks : JobRecord → Bool} (distinct : store.Distinct) :
    key ∈ ((batch.records store).filter picks).map (·.userId) ↔
      key ∈ batch.features.map (·.key) ∧ ∃ record, store.get? key = some record ∧ picks record = true := by
  simp only [List.mem_map, List.mem_filter, Tracker.Batch.mem_records, Tracker.Batch.mem_keys]
  constructor
  · rintro ⟨record, ⟨⟨present, features⟩, picked⟩, rfl⟩
    exact ⟨features, record, distinct.get?_of_mem present, picked⟩
  · rintro ⟨features, record, found, picked⟩
    have own := BatchStore.userId_of_get? found
    exact ⟨record, ⟨⟨List.mem_of_find?_eq_some found, own ▸ features⟩, picked⟩, own⟩

/-- The entries can be counted by the records: as many as the batch has records, and as many ready ones as jobs that
succeeded. -/
theorem Agrees.counts {batch : Tracker.Batch} (agrees : Agrees (batch.features.map (·.key)) tried before after entries)
    (distinct : before.Distinct) (moment : Timestamp) :
    (ArtifactManifest.mk moment entries).readyCount = (BatchSummary.ofRecords (batch.records after)).count .succeeded ∧
      entries.length = (BatchSummary.ofRecords (batch.records after)).total := by
  have apart : after.Distinct := by rwa [BatchStore.Distinct, agrees.users]
  have once (picks : JobRecord → Bool) : (((batch.records after).filter picks).map (·.userId)).Nodup :=
    ((List.filter_sublist.trans List.filter_sublist).map JobRecord.userId).nodup apart
  constructor
  · have same : ((entries.filter (·.2.isReady)).map (·.1)).Perm
        (((batch.records after).filter (·.status == .succeeded)).map (·.userId)) := by
      have names : ((entries.filter (·.2.isReady)).map (·.1)).Nodup :=
        (List.filter_sublist.map Prod.fst).nodup agrees.once
      refine (List.perm_ext_iff_of_nodup names (once _)).mpr fun key => ?_
      rw [mem_ready agrees.once, mem_users apart]
      constructor
      · rintro ⟨path, listed⟩
        obtain ⟨member, record, found, succeeded, -⟩ := (agrees.ready key path).mp listed
        exact ⟨member, record, found, by simp [succeeded]⟩
      · rintro ⟨member, record, found, succeeded⟩
        exact agrees.exists_ready member found (by simpa using succeeded)
    have lengths := same.length_eq
    rw [List.length_map, List.length_map] at lengths
    rw [BatchSummary.count_ofRecords, List.count, List.countP_map, List.countP_eq_length_filter]
    rw [ArtifactManifest.readyCount, Entries.values, List.filter_map, List.length_map]
    exact lengths
  · have same : entries.names.Perm (((batch.records after).filter fun _ => true).map (·.userId)) := by
      refine (List.perm_ext_iff_of_nodup agrees.once (once _)).mpr fun key => ?_
      rw [agrees.listed, ← agrees.isSome_iff, Option.isSome_iff_exists, mem_users apart]
      simp only [and_true]
    have lengths := same.length_eq
    rwa [List.length_map, Entries.names, List.length_map, List.filter_eq_self.mpr fun _ _ => rfl] at lengths

end Collector

end ImageBatch
