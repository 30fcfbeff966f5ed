import ImageBatch.Proofs.Batch.Lookup

/-!
Changes of the store that concern some keys.

`BatchStore.Changed keys store store'` says that only the records of `keys` differ: the store is saved at the
same place, every other key has the record that it had, and keys stay distinct. Enrolling keys and putting a
record are such changes, and so is one after another.
-/

namespace ImageBatch.BatchStore

variable {store store' store'' : BatchStore} {record : JobRecord} {keys more : List String} {key : String}

/-- No two records are of one user. -/
def Distinct (store : BatchStore) : Prop := (store.records.map (·.userId)).Nodup

/-- In a store with distinct keys every record is the one that is found under its key. -/
theorem Distinct.get?_of_mem (distinct : store.Distinct) (member : record ∈ store.records) :
    store.get? record.userId = some record := by
  obtain ⟨path, records⟩ := store
  unfold Distinct at distinct
  unfold get?
  dsimp only at distinct member ⊢
  induction records with
  | nil => cases member
  | cons first rest ih =>
      rw [List.map_cons, List.nodup_cons] at distinct
      rw [find?_cons]
      obtain rfl | member := List.mem_cons.mp member
      · rw [if_pos rfl]
      · have other : first.userId ≠ record.userId := fun same =>
          distinct.1 (same ▸ List.mem_map_of_mem member)
        rw [if_neg other]
        exact ih distinct.2 member

theorem isSome_find?_iff {records : List JobRecord} :
    (find? key records).isSome = true ↔ key ∈ records.map (·.userId) := by
  simp [find?, List.find?_isSome]

/-- Replacing a record keeps the keys, or adds one at the end. -/
theorem map_userId_replace (record : JobRecord) (records : List JobRecord) :
    (replace record records).map (·.userId) =
      if record.userId ∈ records.map (·.userId) then records.map (·.userId)
      else records.map (·.userId) ++ [record.userId] := by
  induction records with
  | nil => rfl
  | cons old rest ih =>
      unfold replace
      by_cases same : old.userId = record.userId
      · simp [same]
      · rw [if_neg same, List.map_cons, ih, List.map_cons]
        by_cases present : record.userId ∈ rest.map (·.userId)
        · simp [present]
        · simp [present, Ne.symm same]

theorem Distinct.put (distinct : store.Distinct) (record : JobRecord) : (store.put record).Distinct := by
  unfold Distinct at distinct ⊢
  rw [BatchStore.put, map_userId_replace]
  split
  next => exact distinct
  next absent =>
      refine List.nodup_append.mpr ⟨distinct, by simp, ?_⟩
      rintro key present _ last rfl
      exact absent (List.mem_singleton.mp last ▸ present)

theorem Distinct.enroll (distinct : store.Distinct) (userIds : List String) :
    (store.enroll userIds).1.Distinct := by
  suffices ∀ records : List JobRecord, (records.map (·.userId)).Nodup →
      ((userIds.foldl enrollOne records).map (·.userId)).Nodup from this _ distinct
  induction userIds with
  | nil => exact fun _ distinct => distinct
  | cons added rest ih =>
      intro records distinct
      refine ih _ ?_
      unfold enrollOne
      split
      next => exact distinct
      next absent =>
          rw [isSome_find?_iff] at absent
          rw [List.map_append]
          refine List.nodup_append.mpr ⟨distinct, by simp, ?_⟩
          rintro key present _ last rfl
          obtain rfl : key = added := by simpa [JobRecord.fresh] using last
          exact absent present

theorem mem_put {next : JobRecord} (present : record ∈ (store.put next).records) :
    record = next ∨ record ∈ store.records := by
  suffices ∀ records, record ∈ replace next records → record = next ∨ record ∈ records from this _ present
  intro records
  induction records with
  | nil => simp [replace]
  | cons old rest ih =>
      unfold replace
      split
      · simp only [List.mem_cons]
        exact Or.imp_right .inr
      · simp only [List.mem_cons]
        rintro (rfl | member)
        · exact .inr (.inl rfl)
        · exact (ih member).imp_right .inr

theorem mem_enroll {userIds : List String} (present : record ∈ (store.enroll userIds).1.records) :
    (∃ userId, record = .fresh userId) ∨ record ∈ store.records := by
  suffices ∀ records, record ∈ userIds.foldl enrollOne records →
      (∃ userId, record = .fresh userId) ∨ record ∈ records from this _ present
  clear present
  induction userIds with
  | nil => exact fun records member => .inr member
  | cons added rest ih =>
      intro records member
      rcases ih _ member with fresh | member
      · exact .inl fresh
      · unfold enrollOne at member
        split at member
        · exact .inr member
        · rcases List.mem_append.mp member with member | last
          · exact .inr member
          · exact .inl ⟨added, List.mem_singleton.mp last⟩

/-- Only the records of some keys were changed. -/
structure Changed (keys : List String) (store store' : BatchStore) : Prop where
  path : store'.path = store.path
  distinct : store.Distinct → store'.Distinct
  others : ∀ key, key ∉ keys → store'.get? key = store.get? key

theorem Changed.refl (keys : List String) (store : BatchStore) : Changed keys store store :=
  ⟨rfl, id, fun _ _ => rfl⟩

theorem Changed.trans (first : Changed keys store store') (second : Changed keys store' store'') :
    Changed keys store store'' :=
  ⟨second.path.trans first.path, second.distinct ∘ first.distinct,
    fun key absent => (second.others key absent).trans (first.others key absent)⟩

theorem Changed.mono (changed : Changed keys store store') (subset : keys ⊆ more) : Changed more store store' :=
  ⟨changed.path, changed.distinct, fun key absent => changed.others key fun present => absent (subset present)⟩

theorem changed_put (store : BatchStore) (record : JobRecord) :
    Changed [record.userId] store (store.put record) where
  path := rfl
  distinct := fun distinct => distinct.put record
  others := fun key absent => by
    have other : record.userId ≠ key := fun same => absent (List.mem_singleton.mpr same.symm)
    rw [get?_put, if_neg other]

theorem changed_enroll (store : BatchStore) (userIds : List String) :
    Changed userIds store (store.enroll userIds).1 where
  path := rfl
  distinct := fun distinct => distinct.enroll userIds
  others := fun key absent => by simp [get?_enroll, absent]

end ImageBatch.BatchStore
