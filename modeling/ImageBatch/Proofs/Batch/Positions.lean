import ImageBatch.Proofs.Batch.Changes
import ImageBatch.Proofs.Occurrences

/-!
Where records stand.

`BatchStore.Extends keys store store'` says that `store'` has the records of `store` in their places, those of other
keys than `keys` as they were, and after them a record for each of the `keys` that had none, in the order of the
keys. Enrolling keys extends a store by them (`extends_enroll`). After that only records that are there are replaced,
each where it stands (`Extends.put`).
-/

namespace ImageBatch.BatchStore

variable {store store' : BatchStore} {records : List JobRecord} {record : JobRecord} {keys : List String}
  {key : String}

/-- The keys of a list without a record. -/
def missing (store : BatchStore) (keys : List String) : List String := keys.filter fun key => (store.get? key).isNone

/-- The store goes on with the records of another one, and a record for every key without one comes after them. -/
structure Extends (keys : List String) (store store' : BatchStore) : Prop where
  ids : store'.records.map (·.userId) = store.records.map (·.userId) ++ store.missing keys
  others : ∀ (position : Nat) (record : JobRecord), store.records[position]? = some record → record.userId ∉ keys →
    store'.records[position]? = some record

/-- Enrolling keys adds a fresh record for each that had none, where it first comes up. -/
theorem records_enroll_eraseDups (store : BatchStore) (keys : List String) :
    (store.enroll keys).1.records = store.records ++ (store.missing keys).eraseDups.map .fresh := by
  induction keys using List.reverseRecOn with
  | nil => simp [enroll, missing]
  | append_singleton keys last ih =>
      have step : (store.enroll (keys ++ [last])).1.records = enrollOne (store.enroll keys).1.records last := by
        simp [enroll]
      have split : store.missing (keys ++ [last]) = store.missing keys ++ store.missing [last] := by
        simp [missing]
      have found : find? last (store.enroll keys).1.records = _ := get?_enroll store keys last
      rw [step, enrollOne, found, ih, split, List.eraseDups_append]
      cases known : store.get? last with
      | some record => simp [missing, known]
      | none =>
          by_cases old : last ∈ keys
          · simp [missing, known, old, List.removeAll]
          · simp [missing, known, old, List.removeAll, List.eraseDups_cons]

/-- Enrolling keys, none of them twice, adds a fresh record for each that had none. -/
theorem records_enroll (store : BatchStore) (once : keys.Nodup) :
    (store.enroll keys).1.records = store.records ++ (store.missing keys).map .fresh := by
  have missing_ : (store.missing keys).Nodup := once.filter _
  rw [records_enroll_eraseDups, eraseDups_of_nodup missing_]

theorem extends_enroll (store : BatchStore) (once : keys.Nodup) : Extends keys store (store.enroll keys).1 := by
  have added := records_enroll store once
  constructor
  · rw [added, List.map_append, List.map_map]
    exact congrArg _ (List.map_id _)
  · intro position record stands _
    rw [added, List.getElem?_append_left (List.getElem?_eq_some_iff.mp stands).1, stands]

/-- A record that is replaced changes no other position. -/
theorem getElem?_replace {position : Nat} (stands : records[position]? = some record)
    (other : record.userId ≠ next.userId) : (replace next records)[position]? = some record := by
  induction records generalizing position with
  | nil => cases stands
  | cons old rest ih =>
      unfold replace
      cases position with
      | zero =>
          obtain rfl : old = record := by simpa using stands
          rw [if_neg other]
          rfl
      | succ position =>
          rw [List.getElem?_cons_succ] at stands
          split
          · exact stands
          · rw [List.getElem?_cons_succ]
            exact ih stands

/-- Replacing the record of a key that has one extends the same store. -/
theorem Extends.put {next : JobRecord} (extended : Extends keys store store') (own : next.userId ∈ keys)
    (present : store'.get? next.userId = some record) : Extends keys store (store'.put next) := by
  constructor
  · have known : next.userId ∈ store'.records.map (·.userId) :=
      isSome_find?_iff.mp (Option.isSome_of_eq_some present)
    rw [BatchStore.put, map_userId_replace, if_pos known, extended.ids]
  · intro position record stands absent
    exact getElem?_replace (extended.others position record stands absent) fun same => absent (same ▸ own)

/-- Each of the keys has a record. -/
theorem Extends.mem_ids (extended : Extends keys store store') (member : key ∈ keys) :
    key ∈ store'.records.map (·.userId) := by
  rw [extended.ids, List.mem_append, missing, List.mem_filter]
  cases present : store.get? key with
  | none => exact .inr ⟨member, rfl⟩
  | some record => exact .inl (isSome_find?_iff.mp (Option.isSome_of_eq_some present))

/-- In a store with distinct keys the record of a key is the only one under it. -/
theorem Distinct.filter_eq (distinct : store.Distinct) (found : store.get? key = some record) :
    store.records.filter (·.userId == key) = [record] := by
  obtain ⟨path, records⟩ := store
  unfold Distinct at distinct
  unfold get? at found
  dsimp only at distinct found ⊢
  induction records with
  | nil => cases found
  | cons first rest ih =>
      obtain ⟨absent, distinct⟩ := List.nodup_cons.mp distinct
      rw [find?_cons] at found
      split at found
      next own =>
          cases found
          have none_ : rest.filter (·.userId == key) = [] := by
            simp only [List.filter_eq_nil_iff, beq_iff_eq]
            intro other member same
            exact absent (List.mem_map.mpr ⟨other, member, same.trans own.symm⟩)
          rw [List.filter_cons_of_pos (by simpa using own), none_]
      next other => rw [List.filter_cons_of_neg (by simpa using other), ih distinct found]

end ImageBatch.BatchStore
