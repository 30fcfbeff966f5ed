import ImageBatch.Artifact.Collect
import ImageBatch.Proofs.Batch.Positions
import ImageBatch.Proofs.Entries

/-!
What a collection says of each key.

`Collector.attempts` lists what came of the attempts to collect outputs while a batch was collected. `Tells` is what the
last attempt of a key means for its record and for its entry: no attempt, and the record is as it was; a local image, and
both have its path; an error, and the job has failed after all. One visit to a key carries this on
(`Collector.collectOne_accounts`), also where the key was visited before, and so does a whole collection
(`Collector.collectEach_accounts`).
-/

namespace ImageBatch

/-! ### Failing after all -/

namespace JobRecord

variable {record : JobRecord}

/-- The record of a job that succeeded and whose output could not be collected. -/
def demoted (record : JobRecord) (message : String) (now : Timestamp) : JobRecord :=
  { record.terminate .failed .collection message now with artifact := none }

theorem transition_collectionFailed (succeeded : record.status = .succeeded) (message : String) (now : Timestamp) :
    record.transition (.collectionFailed message) now = .ok (record.demoted message now) := by
  simp only [transition, succeeded]
  rfl

end JobRecord

namespace BatchStore

variable {store store' : BatchStore} {record : JobRecord} {key : String}

/-- A record that is there already may be put again. -/
theorem put_of_get? (found : store.get? record.userId = some record) : store.put record = store := by
  obtain ⟨path, records⟩ := store
  suffices replace record records = records from congrArg (BatchStore.mk path) this
  unfold get? at found
  dsimp only at found
  induction records with
  | nil => cases found
  | cons old rest ih =>
      unfold replace
      rw [find?_cons] at found
      split at found
      next own =>
          cases found
          rw [if_pos rfl]
      next other => rw [if_neg other, ih found]

/-- Replacing the record of a key that has one keeps the keys. -/
theorem ids_put (present : (store.get? record.userId).isSome = true) :
    (store.put record).records.map (·.userId) = store.records.map (·.userId) := by
  rw [BatchStore.put, map_userId_replace, if_pos (isSome_find?_iff.mp present)]

/-- Where no two records are of one user and the users stand in the same order, a record that is found as it was stands
where it stood. -/
theorem Distinct.getElem?_eq {position : Nat} (distinct : store.Distinct)
    (ids : store'.records.map (·.userId) = store.records.map (·.userId))
    (stands : store.records[position]? = some record) (found : store'.get? record.userId = some record) :
    store'.records[position]? = some record := by
  have apart : store'.Distinct := by rwa [Distinct, ids]
  obtain ⟨other, there, own⟩ : ∃ other, store'.records[position]? = some other ∧ other.userId = record.userId := by
    have named := congrArg (·[position]?) ids
    simpa [stands] using named
  have same := apart.get?_of_mem (List.mem_of_getElem? there)
  rw [own, found] at same
  cases same
  exact there

end BatchStore

namespace Collector

variable {Ask : Type} {Answer : Ask → Type} {σ : Type}

/-! ### Attempts -/

/-- What comes of the attempt for a feature set, if the job of its key has succeeded. -/
def attempt? (c : Collector Ask Answer σ) (features : FeatureSet) (batch : BatchStore) (world : World σ) :
    Option (Except CollectionError Path) :=
  match batch.get? features.key with
  | none => none
  | some record =>
    if record.status = .succeeded then some (c.collect record features.fileStem world).1 else none

/-- What came of the attempts for feature sets in turn, each under its key, the latest first. -/
def attempts (c : Collector Ask Answer σ) (batch : BatchStore) (entries : Entries ArtifactEntry) (world : World σ) :
    List FeatureSet → List (String × Except CollectionError Path)
  | [] => []
  | features :: rest =>
    let (next, entries, after) := c.collectOne features batch entries world
    attempts c next entries after rest ++ ((c.attempt? features batch world).map (features.key, ·)).toList

/-! ### The story of a key -/

/-- The record that a key had, what came of the last attempt for it, the record that it has and its entry. -/
inductive Tells (seen : Prop) : Option JobRecord → Option (Except CollectionError Path) → Option JobRecord →
    Option ArtifactEntry → Prop where
  | unknown : Tells seen none none none none
  | waiting (record : JobRecord) (unseen : ¬ seen) : Tells seen (some record) none (some record) none
  | left (record : JobRecord) (visited : seen) (other : record.status ≠ .succeeded) :
      Tells seen (some record) none (some record) (some (failedEntry record))
  | ready (record : JobRecord) (path : Path) (visited : seen) (succeeded : record.status = .succeeded) :
      Tells seen (some record) (some (.ok path)) (some { record with artifact := some path }) (some (.ready path))
  | demoted (record : JobRecord) (e : CollectionError) (moment : Timestamp) (reason : String) (visited : seen)
      (succeeded : record.status = .succeeded) :
      Tells seen (some record) (some (.error e)) (some (record.demoted e.message moment))
        (some (.failed .failed reason))

variable {seen seen' : Prop} {before : Option JobRecord} {tried : Option (Except CollectionError Path)}
  {record : JobRecord} {entry : Option ArtifactEntry}

theorem Tells.congr {after : Option JobRecord} (tells : Tells seen before tried after entry) (same : seen' ↔ seen) :
    Tells seen' before tried after entry := by
  rwa [propext same]

/-- A job that has not succeeded is told of as it stands. -/
theorem Tells.leave (tells : Tells seen before tried (some record) entry) (other : record.status ≠ .succeeded) :
    Tells True before tried (some record) (some (failedEntry record)) := by
  cases tells with
  | waiting => exact .left record trivial other
  | left => exact .left record trivial other
  | ready _ _ _ succeeded => exact absurd succeeded other
  | demoted origin e moment reason _ succeeded => exact .demoted origin e moment _ trivial succeeded

/-- A job that has succeeded may get an image, also in the place of another one. -/
theorem Tells.keep (tells : Tells seen before tried (some record) entry) (succeeded : record.status = .succeeded)
    (path : Path) :
    Tells True before (some (.ok path)) (some { record with artifact := some path }) (some (.ready path)) := by
  cases tells with
  | waiting => exact .ready record path trivial succeeded
  | left _ _ other => exact absurd succeeded other
  | ready origin => exact .ready origin path trivial succeeded
  | demoted => cases succeeded

/-- A job that has succeeded may fail after all, also if it had an image. -/
theorem Tells.demote (tells : Tells seen before tried (some record) entry) (succeeded : record.status = .succeeded)
    (e : CollectionError) (moment : Timestamp) :
    Tells True before (some (.error e)) (some (record.demoted e.message moment))
      (some (.failed .failed e.message)) := by
  cases tells with
  | waiting => exact .demoted record e moment _ trivial succeeded
  | left _ _ other => exact absurd succeeded other
  | ready origin => exact .demoted origin e moment _ trivial succeeded
  | demoted => cases succeeded

/-- A key without a record is told nothing of. -/
theorem Tells.of_unknown {after : Option JobRecord} (tells : Tells seen before tried after entry)
    (absent : after = none) : Tells seen' before tried after entry := by
  subst absent
  cases tells
  exact .unknown

/-- Once an attempt has failed the job has not succeeded. -/
theorem Tells.not_error (tells : Tells seen before tried (some record) entry) (succeeded : record.status = .succeeded)
    (e : CollectionError) : tried ≠ some (.error e) := by
  rintro rfl
  cases tells
  cases succeeded

/-- A visit to a key that has a record puts a record for it and an entry that tell the same. -/
theorem exists_visit (c : Collector Ask Answer σ) {features : FeatureSet} {batch : BatchStore}
    (entries : Entries ArtifactEntry) (world : World σ) (found : batch.get? features.key = some record)
    (tells : Tells seen before tried (some record) entry) :
    ∃ next told, Tells True before ((c.attempt? features batch world).or tried) (some next) (some told) ∧
      next.userId = features.key ∧ (c.collectOne features batch entries world).1 = batch.put next ∧
      (c.collectOne features batch entries world).2.1 = Entries.insert features.key told entries := by
  have own := BatchStore.userId_of_get? found
  simp only [attempt?, collectOne, found]
  by_cases succeeded : record.status = .succeeded
  · simp only [if_pos succeeded, JobRecord.transition_collectionFailed succeeded]
    rcases c.collect record features.fileStem world with ⟨e | path, world⟩
    · exact ⟨_, _, tells.demote succeeded e (c.clock.at world.now), own, rfl, rfl⟩
    · exact ⟨_, _, tells.keep succeeded path, own, rfl, rfl⟩
  · simp only [if_neg succeeded]
    exact ⟨record, _, tells.leave succeeded, own, (BatchStore.put_of_get? (own ▸ found)).symm, rfl⟩

/-! ### All keys -/

/-- After visits to some keys the store and the entries tell of the attempts so far, which are listed latest first. -/
structure Accounts (origin : BatchStore) (visited : List String) (past : List (String × Except CollectionError Path))
    (batch : BatchStore) (entries : Entries ArtifactEntry) : Prop where
  ids : batch.records.map (·.userId) = origin.records.map (·.userId)
  sorted : entries.Sorted
  tells : ∀ key, Tells (key ∈ visited) (origin.get? key) (past.lookup key) (batch.get? key) (entries.get? key)
  /-- After an attempt that failed there is no other. -/
  last : ∀ key e, (key, .error e) ∈ past → past.lookup key = some (.error e)

variable {origin batch : BatchStore} {visited : List String} {past : List (String × Except CollectionError Path)}
  {entries : Entries ArtifactEntry} {features : FeatureSet} {world : World σ}

theorem accounts_start (origin : BatchStore) : Accounts origin [] [] origin [] where
  ids := rfl
  sorted := Entries.sorted_nil
  tells key := by
    cases origin.get? key with
    | none => exact .unknown
    | some record => exact .waiting record List.not_mem_nil
  last _ _ member := absurd member List.not_mem_nil

/-- Of the attempts so far and one more the last of a key is found. -/
theorem lookup_latest (verdict : Option (Except CollectionError Path)) (past : List (String × Except CollectionError Path))
    (own key : String) : ((verdict.map (own, ·)).toList ++ past).lookup key =
      if key = own then verdict.or (past.lookup key) else past.lookup key := by
  cases verdict with
  | none => simp
  | some found =>
      by_cases same : key = own
      · simp [same]
      · simp [List.lookup_cons, same, beq_false_of_ne same]

/-- A key whose attempt has failed has no job that succeeded, so there is no other attempt for it. -/
theorem Accounts.last_attempt (accounts : Accounts origin visited past batch entries) (c : Collector Ask Answer σ)
    (features : FeatureSet) (world : World σ) {key : String} {e : CollectionError}
    (member : (key, .error e) ∈ ((c.attempt? features batch world).map (features.key, ·)).toList ++ past) :
    (((c.attempt? features batch world).map (features.key, ·)).toList ++ past).lookup key = some (.error e) := by
  rw [lookup_latest]
  rcases List.mem_append.mp member with new | old
  · obtain ⟨verdict, attempted, same⟩ := Option.map_eq_some_iff.mp (Option.mem_toList.mp new)
    cases same
    rw [if_pos rfl, attempted, Option.some_or]
  · have last := accounts.last key e old
    split
    next same =>
        subst same
        have story := accounts.tells features.key
        rw [last] at story
        have untried : c.attempt? features batch world = none := by
          unfold attempt?
          split
          next => rfl
          next record found =>
              rw [found] at story
              exact if_neg fun succeeded => story.not_error succeeded e rfl
        rw [untried, Option.none_or, last]
    next => exact last

/-- A visit to a key changes what is told of this key, and of no other. -/
theorem Accounts.collectOne (accounts : Accounts origin visited past batch entries) (c : Collector Ask Answer σ)
    (features : FeatureSet) (world : World σ) :
    Accounts origin (visited ++ [features.key])
      (((c.attempt? features batch world).map (features.key, ·)).toList ++ past)
      (c.collectOne features batch entries world).1 (c.collectOne features batch entries world).2.1 := by
  have story := accounts.tells features.key
  have elsewhere {key : String} (other : key ≠ features.key) : key ∈ visited ++ [features.key] ↔ key ∈ visited := by
    simp [other]
  have here : features.key ∈ visited ++ [features.key] ↔ True := by simp
  cases found : batch.get? features.key with
  | none =>
      have same : (c.collectOne features batch entries world) = (batch, entries, world) := by
        simp only [Collector.collectOne, found]
      have untried : c.attempt? features batch world = none := by simp only [attempt?, found]
      rw [same, untried]
      refine ⟨accounts.ids, accounts.sorted, fun key => ?_, accounts.last⟩
      by_cases own : key = features.key
      · subst own
        exact (story.of_unknown found).congr here
      · exact (accounts.tells key).congr (elsewhere own)
  | some record =>
      rw [found] at story
      obtain ⟨next, told, tells, own, stored, listed⟩ := exists_visit c entries world found story
      rw [stored, listed]
      have present : (batch.get? next.userId).isSome = true := by rw [own, found]; rfl
      refine ⟨(BatchStore.ids_put present).trans accounts.ids, accounts.sorted.insert _ _, fun key => ?_,
        fun key e member => accounts.last_attempt c features world member⟩
      rw [lookup_latest, BatchStore.get?_put, Entries.get?_insert, own]
      by_cases same : key = features.key
      · subst same
        rw [if_pos rfl, if_pos rfl, if_pos rfl]
        exact tells.congr here
      · rw [if_neg same, if_neg (Ne.symm same), if_neg same]
        exact (accounts.tells key).congr (elsewhere same)

/-- A collection tells of every key of its feature sets. -/
theorem Accounts.collectEach (accounts : Accounts origin visited past batch entries) (c : Collector Ask Answer σ)
    (features : List FeatureSet) (world : World σ) :
    Accounts origin (visited ++ features.map (·.key)) (c.attempts batch entries world features ++ past)
      (c.collectEach batch entries world features).1 (c.collectEach batch entries world features).2.1 := by
  induction features generalizing batch entries world visited past with
  | nil =>
      rw [List.map_nil, List.append_nil]
      exact accounts
  | cons first rest ih =>
      have all := ih (accounts.collectOne c first world) (c.collectOne first batch entries world).2.2
      rw [← List.append_assoc] at all
      rw [List.map_cons, List.append_cons]
      exact all

end Collector

end ImageBatch
