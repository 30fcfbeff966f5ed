import ImageBatch.Batch.Store

/-!
The store as a map from keys to records.

`get?_put` and `get?_enroll` say what `get?` finds after each change of the store. They hold of every list of
records, also of one with several records of one key: then the first of them is the key's record.
-/

namespace ImageBatch.BatchStore

theorem find?_cons (userId : String) (record : JobRecord) (rest : List JobRecord) :
    find? userId (record :: rest) = if record.userId = userId then some record else find? userId rest := by
  by_cases same : record.userId = userId <;> simp [find?, same]

theorem find?_append (userId : String) (records more : List JobRecord) :
    find? userId (records ++ more) = (find? userId records).or (find? userId more) :=
  List.find?_append

theorem find?_replace (record : JobRecord) (userId : String) (records : List JobRecord) :
    find? userId (replace record records) =
      if record.userId = userId then some record else find? userId records := by
  induction records with
  | nil => rw [replace, find?_cons]
  | cons old rest ih =>
      unfold replace
      by_cases same : old.userId = record.userId
      · rw [if_pos same, find?_cons, find?_cons, same]
        split <;> rfl
      · rw [if_neg same, find?_cons, find?_cons, ih]
        by_cases asked : record.userId = userId
        · simp [asked, asked ▸ same]
        · simp [asked]

/-- After `put` the record of its key is the new one, and every other key has the record it had. -/
@[simp] theorem get?_put (store : BatchStore) (record : JobRecord) (userId : String) :
    (store.put record).get? userId =
      if record.userId = userId then some record else store.get? userId :=
  find?_replace record userId store.records

/-- A record is found under the key that it names. -/
theorem userId_of_get? {store : BatchStore} {userId : String} {record : JobRecord}
    (found : store.get? userId = some record) : record.userId = userId := by
  simpa using List.find?_some found

theorem find?_enrollOne (records : List JobRecord) (added userId : String) :
    find? userId (enrollOne records added) =
      (find? userId records).or (if added = userId then some (JobRecord.fresh added) else none) := by
  unfold enrollOne
  split
  next known =>
      by_cases same : added = userId
      · subst same
        rw [Option.or_of_isSome known]
      · simp [same]
  next => rw [find?_append, find?_cons]; rfl

/-- Enrolling keeps every record and gives each new key a fresh one. -/
theorem get?_enroll (store : BatchStore) (userIds : List String) (userId : String) :
    (store.enroll userIds).1.get? userId =
      (store.get? userId).or (if userId ∈ userIds then some (JobRecord.fresh userId) else none) := by
  suffices ∀ records : List JobRecord, find? userId (userIds.foldl enrollOne records) =
      (find? userId records).or (if userId ∈ userIds then some (JobRecord.fresh userId) else none) from
    this store.records
  induction userIds with
  | nil => simp
  | cons added rest ih =>
      intro records
      rw [List.foldl_cons, ih, find?_enrollOne, Option.or_assoc]
      by_cases same : added = userId
      · subst same
        cases find? added records <;> simp
      · simp [same, Ne.symm same]

/-- The record of a user, or a fresh one for a user without. -/
def recordOf (store : BatchStore) (userId : String) : JobRecord :=
  (store.get? userId).getD (JobRecord.fresh userId)

theorem get?_enroll_of_mem (store : BatchStore) {userIds : List String} {userId : String}
    (member : userId ∈ userIds) : (store.enroll userIds).1.get? userId = some (store.recordOf userId) := by
  rw [get?_enroll, if_pos member]
  cases present : store.get? userId <;> simp [recordOf, present]

theorem recordOf_userId (store : BatchStore) (userId : String) : (store.recordOf userId).userId = userId := by
  cases present : store.get? userId with
  | none => simp [recordOf, present, JobRecord.fresh]
  | some record => simpa [recordOf, present] using userId_of_get? present

@[simp] theorem put_path (store : BatchStore) (record : JobRecord) : (store.put record).path = store.path :=
  rfl

end ImageBatch.BatchStore
