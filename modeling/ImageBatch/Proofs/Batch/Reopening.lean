import ImageBatch.Proofs.Batch.Changes
import ImageBatch.Proofs.File.Following
import ImageBatch.Proofs.Json.Readers
import ImageBatch.Proofs.Json.RoundTrip

/-!
A store that was saved and is opened again.

After a save that succeeds the path of the store reads the document of its records (`BatchStore.read_of_save`).
The document of a record is read back with everything but the moments, which go through their own text
(`JobRecord.ofDocument?_toJson`). So each key of the reopened store has the record that it had, up to what was
read for its moments (`BatchStore.reopened_of_load`).
-/

namespace ImageBatch

open Document

namespace BatchStore

variable {store reopened : BatchStore} {disk disk' : Disk} {path : Path}

theorem performAll_cons {step : SaveStep} {rest : List SaveStep}
    (performed : performAll (step :: rest) disk = (.ok (), disk')) :
    ∃ next, step.perform.run.run disk = (.ok (), next) ∧ performAll rest next = (.ok (), disk') := by
  unfold performAll at performed
  split at performed
  next next done => exact ⟨next, done, performed⟩
  next => cases performed

theorem performAll_append {steps more : List SaveStep}
    (performed : performAll (steps ++ more) disk = (.ok (), disk')) :
    ∃ next, performAll steps disk = (.ok (), next) ∧ performAll more next = (.ok (), disk') := by
  induction steps generalizing disk with
  | nil => exact ⟨disk, rfl, performed⟩
  | cons step rest ih =>
      obtain ⟨next, done, performed⟩ := performAll_cons performed
      obtain ⟨last, first, second⟩ := ih performed
      exact ⟨last, by rw [performAll, done]; exact first, second⟩

/-- A store that was saved is found at its path. -/
theorem read_of_save (placed : store.path = some path) (saved : store.save disk = (.ok (), disk')) :
    disk'.read path = .ok store.contents := by
  simp only [save, saveSteps, placed] at saved
  obtain ⟨_, -, performed⟩ := performAll_append saved
  obtain ⟨beside, written, performed⟩ := performAll_cons performed
  obtain ⟨last, moved, performed⟩ := performAll_cons performed
  cases performed
  obtain ⟨at_, found⟩ := Disk.lookup_of_write written
  exact Disk.read_of_rename found moved

end BatchStore

/-! ### Documents of records -/

theorem ErrorDetail.ofDocument?_toJson (e : ErrorDetail) : ofDocument? (ofJson e.toJson) = some e := by
  obtain ⟨found, read, kind, message⟩ : ∃ found, (ofJson e.toJson).asRecord [must "kind", must "message"] =
      some found ∧ found "kind" = some (.text (some e.kind.word)) ∧ found "message" = some (.text (some e.message)) :=
    ⟨_, rfl, rfl, rfl⟩
  simp [ofDocument?, read, Found.required, kind, message, asText, asWord, FailureKind.ofWord?_word]

theorem ResultReference.ofDocument?_toJson (r : ResultReference) : ofDocument? (ofJson r.toJson) = some r := by
  obtain ⟨found, read, nodeId, filename, subfolder, area⟩ : ∃ found, (ofJson r.toJson).asRecord
      [must "node_id", must "filename", may "subfolder", must "type"] = some found ∧
      found "node_id" = some (.text (some r.nodeId)) ∧ found "filename" = some (.text (some r.filename)) ∧
      found "subfolder" = some (.text (some r.subfolder)) ∧ found "type" = some (.text (some r.area)) :=
    ⟨_, rfl, rfl, rfl, rfl, rfl⟩
  simp [ofDocument?, read, Found.required, Found.withDefault, nodeId, filename, subfolder, area, asText]

namespace JobRecord

/-- A moment after it was written and read. -/
def reread (moment : Option Timestamp) : Option (Option Timestamp) :=
  orNull asTimestamp (ofJson (ofTimestamp moment))

/-- A record is read back, each of its moments as its own text is. -/
theorem ofDocument?_toJson {record : JobRecord} (small : record.submitCount ≤ Natural.max32) :
    ofDocument? (ofJson record.toJson) = do
      let submittedAt ← reread record.submittedAt
      let lastPolledAt ← reread record.lastPolledAt
      let completedAt ← reread record.completedAt
      return { record with submittedAt, lastPolledAt, completedAt } := by
  obtain ⟨found, read, userId, jobId, status, submittedAt, lastPolledAt, completedAt, submitCount, result, error,
      warnings, artifact⟩ : ∃ found, (ofJson record.toJson).asRecord layout = some found ∧
      found "user_id" = some (ofJson (.text record.userId)) ∧
      found "job_id" = some (ofJson (.ofOption .text record.jobId)) ∧
      found "status" = some (ofJson (.text record.status.word)) ∧
      found "submitted_at" = some (ofJson (ofTimestamp record.submittedAt)) ∧
      found "last_polled_at" = some (ofJson (ofTimestamp record.lastPolledAt)) ∧
      found "completed_at" = some (ofJson (ofTimestamp record.completedAt)) ∧
      found "submit_count" = some (ofJson (.integer record.submitCount)) ∧
      found "result" = some (ofJson (.ofOption ResultReference.toJson record.result)) ∧
      found "error" = some (ofJson (.ofOption ErrorDetail.toJson record.error)) ∧
      found "warnings" = some (ofJson (.ofList .text record.warnings)) ∧
      found "artifact" = some (ofJson (.ofOption .text (record.artifact.map (·.text)))) :=
    ⟨_, rfl, rfl, rfl, rfl, rfl, rfl, rfl, rfl, rfl, rfl, rfl, by cases record.artifact <;> rfl⟩
  have text (o : Option String) : orNull asText (ofJson (.ofOption .text o)) = some o :=
    orNull_ofOption (by simp [ofJson]) (fun _ => rfl) o
  have results := orNull_ofOption (by simp [ofJson, ResultReference.toJson])
    ResultReference.ofDocument?_toJson record.result
  have errors := orNull_ofOption (by simp [ofJson, ErrorDetail.toJson]) ErrorDetail.ofDocument?_toJson record.error
  have texts : asList asText (ofJson (.ofList .text record.warnings)) = some record.warnings :=
    asList_ofList (fun _ => rfl) record.warnings
  have user : asText (ofJson (.text record.userId)) = some record.userId := rfl
  have word : (asWord (ofJson (.text record.status.word))).bind JobStatus.ofWord? = some record.status :=
    JobStatus.ofWord?_word record.status
  have paths : (record.artifact.map (·.text)).map Path.mk = record.artifact := by cases record.artifact <;> rfl
  simp only [ofDocument?, read, Found.required, Found.nullable, Found.withDefault, userId, jobId, status,
    submittedAt, lastPolledAt, completedAt, submitCount, result, error, warnings, artifact, user, word, text,
    results, errors, texts, asNat_integer small, paths, Option.bind_eq_bind, Option.bind_some]
  rfl

/-- The same record, but for what it says of moments. -/
def SameButMoments (record other : JobRecord) : Prop :=
  other = { record with
    submittedAt := other.submittedAt
    lastPolledAt := other.lastPolledAt
    completedAt := other.completedAt }

variable {record other : JobRecord}

theorem sameButMoments_of_read (small : record.submitCount ≤ Natural.max32)
    (read : ofDocument? (ofJson record.toJson) = some other) : record.SameButMoments other := by
  rw [ofDocument?_toJson small] at read
  simp only [Option.bind_eq_bind, Option.bind_eq_some_iff] at read
  obtain ⟨submittedAt, -, lastPolledAt, -, completedAt, -, same⟩ := read
  cases same
  rfl

theorem isPlain_toJson (small : record.submitCount ≤ Natural.max32) : record.toJson.IsPlain := by
  have option {α : Type} (write : α → Json) (one : ∀ a, (write a).IsPlain) (o : Option α) :
      (Json.ofOption write o).IsPlain := by
    cases o with
    | none => trivial
    | some a => exact one a
  have texts (texts : List String) : Json.ArePlain (texts.map .text) := by
    induction texts with
    | nil => trivial
    | cons text rest ih => exact ⟨trivial, ih⟩
  have text (o : Option String) := option .text (fun _ => trivial) o
  have moment (t : Option Timestamp) : (ofTimestamp t).IsPlain :=
    option (fun t : Timestamp => .text t.toText) (fun _ => trivial) t
  have count : (Json.integer record.submitCount).IsPlain := by
    refine ⟨Int.natCast_nonneg _, ?_⟩
    have : Natural.max32 ≤ Natural.max64 := by decide
    omega
  exact ⟨trivial, text _, trivial, moment _, moment _, moment _, count,
    option ResultReference.toJson (fun _ => ⟨trivial, trivial, trivial, trivial, trivial⟩) _,
    option ErrorDetail.toJson (fun _ => ⟨trivial, trivial, trivial⟩) _, texts _,
    option (fun p : Path => .text p.text) (fun _ => trivial) _, trivial⟩

end JobRecord

namespace BatchStore

variable {store reopened : BatchStore} {disk disk' : Disk} {path : Path} {records found : List JobRecord}

theorem isPlain_document (small : ∀ record ∈ records, record.submitCount ≤ Natural.max32) :
    (document records).IsPlain := by
  have each : Json.ArePlain (records.map JobRecord.toJson) := by
    induction records with
    | nil => trivial
    | cons record rest ih =>
        rw [List.forall_mem_cons] at small
        exact ⟨JobRecord.isPlain_toJson small.1, ih small.2⟩
  exact ⟨⟨by decide, by decide⟩, each, trivial⟩

/-- The document of a store reads as its version and its records. -/
theorem ofDocument?_document (records : List JobRecord) :
    ofDocument? (ofJson (document records)) =
      (readAll JobRecord.ofDocument? (ofItems (records.map JobRecord.toJson))).map (storeVersion, ·) := by
  obtain ⟨found, read, version, list⟩ : ∃ found, (ofJson (document records)).asRecord
      [must "version", must "records"] = some found ∧
      found "version" = some (ofJson (.integer storeVersion)) ∧
      found "records" = some (ofJson (.ofList JobRecord.toJson records)) := ⟨_, rfl, rfl, rfl⟩
  have versions : asNat Natural.max32 (ofJson (.integer storeVersion)) = some storeVersion :=
    asNat_integer (by decide)
  simp only [ofDocument?, read, Found.required, version, list, versions, Option.bind_eq_bind, Option.bind_some]
  show (readAll _ _).bind _ = _
  cases readAll JobRecord.ofDocument? (ofItems (records.map JobRecord.toJson)) <;> rfl

/-- The records that are read back stand under the keys of those that were written. -/
theorem find?_of_read (small : ∀ record ∈ records, record.submitCount ≤ Natural.max32)
    (read : readAll JobRecord.ofDocument? (ofItems (records.map JobRecord.toJson)) = some found) :
    found.map (·.userId) = records.map (·.userId) ∧ ∀ key,
      ((find? key records).getD (JobRecord.fresh key)).SameButMoments
        ((find? key found).getD (JobRecord.fresh key)) := by
  induction records generalizing found with
  | nil =>
      cases read
      exact ⟨rfl, fun key => rfl⟩
  | cons record rest ih =>
      rw [List.forall_mem_cons] at small
      simp only [List.map_cons, ofItems, readAll] at read
      split at read
      next other others one all =>
          cases read
          obtain ⟨ids, agree⟩ := ih small.2 all
          have same := JobRecord.sameButMoments_of_read small.1 one
          have own : other.userId = record.userId := by rw [same]
          refine ⟨by rw [List.map_cons, List.map_cons, own, ids], fun key => ?_⟩
          rw [find?_cons, find?_cons, own]
          split
          · exact same
          · exact agree key
      next => cases read

/-- What a store saves reads as the documents of its records. -/
theorem read?_contents (small : ∀ record ∈ store.records, record.submitCount ≤ Natural.max32) :
    Document.read? ofDocument? store.contents =
      (readAll JobRecord.ofDocument? (ofItems (store.records.map JobRecord.toJson))).map (storeVersion, ·) := by
  rw [Document.read?, BatchStore.contents, scan?_pretty (isPlain_document small), Option.bind_some,
    ofDocument?_document]

/-- Opening a store after a save reads the documents of its records. -/
theorem load_of_save (placed : store.path = some path)
    (small : ∀ record ∈ store.records, record.submitCount ≤ Natural.max32)
    (saved : store.save disk = (.ok (), disk')) :
    load disk' path =
      match readAll JobRecord.ofDocument? (ofItems (store.records.map JobRecord.toJson)) with
      | none => .error (.malformedJson path)
      | some found => .ok ⟨some path, found⟩ := by
  simp only [load, read_of_save placed saved, read?_contents small]
  cases readAll JobRecord.ofDocument? (ofItems (store.records.map JobRecord.toJson)) <;> rfl

/-- Each key of a store that was saved and opened again has the record that it had, but for its moments. -/
theorem reopened_of_load (placed : store.path = some path)
    (small : ∀ record ∈ store.records, record.submitCount ≤ Natural.max32)
    (saved : store.save disk = (.ok (), disk')) (loaded : load disk' path = .ok reopened) :
    (store.Distinct → reopened.Distinct) ∧
      ∀ key, (store.recordOf key).SameButMoments (reopened.recordOf key) := by
  rw [load_of_save placed small saved] at loaded
  split at loaded
  next => cases loaded
  next found read =>
      obtain ⟨ids, agree⟩ := find?_of_read small read
      cases loaded
      refine ⟨fun distinct => ?_, agree⟩
      unfold Distinct at distinct ⊢
      rwa [ids]

end BatchStore

end ImageBatch
