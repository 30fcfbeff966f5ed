import ImageBatch.Proofs.Batch.Reading
import ImageBatch.Proofs.File.Folders
import ImageBatch.Proofs.File.Naming

/-!
A store that is saved and opened again is the same store.

A path takes a file if it leads to an entry where no folder stands (`Disk.Takes`); that is when a file is written there,
and when one is moved there (`OnDisk.exists_write`, `OnDisk.exists_rename`). So a save succeeds if the folders of the path
can be made and both the path and the place beside it take a file, and only then (`BatchStore.exists_save`): no record is
too odd to be saved. After that the path opens as the store that was saved (`BatchStore.load_of_saved`).
-/

namespace ImageBatch

/-! ### Places for files -/

namespace Disk

variable {disk : Disk} {at_ : Location} {path : Path}

/-- A file can be put where the path leads. -/
def Takes (disk : Disk) (path : Path) : Prop :=
  ∃ folder name, disk.locate path = .ok (.entry folder name, false) ∧ disk.node? (folder ++ [name]) ≠ some .folder

/-- A file that is put elsewhere changes nothing about whether a path takes a file. -/
theorem takes_put (bytes : Bytes) (below : at_ ≠ []) (noFolder : disk.node? at_ ≠ some .folder)
    (elsewhere : ∀ {other : Disk} {folder name}, other.locate path = .ok (.entry folder name, false) →
      at_ ≠ folder ++ [name]) : (disk.put at_ (.file bytes)).Takes path ↔ disk.Takes path := by
  have same {folder : Location} {name : String} (apart : at_ ≠ folder ++ [name]) :
      (disk.put at_ (.file bytes)).node? (folder ++ [name]) = disk.node? (folder ++ [name]) := by
    rw [node?_put _ below, if_neg apart.symm]
  constructor
  · rintro ⟨folder, name, located, free⟩
    rw [same (elsewhere located)] at free
    exact ⟨folder, name, (foldersStay_of_put below).locate located, free⟩
  · rintro ⟨folder, name, located, free⟩
    rw [← same (elsewhere located)] at free
    exact ⟨folder, name, (foldersStay_put _ noFolder).locate located, free⟩

end Disk

namespace OnDisk

variable {disk : Disk} {at_ : Location} {path source target : Path} {bytes : Bytes}

/-- Where no folder stands, a file is put. -/
theorem put_of_noFolder (noFolder : disk.node? at_ ≠ some .folder) (change : Disk → Disk) :
    (match disk.node? at_ with
      | some .folder => throw .isAFolder
      | _ => modify change : OnDisk Unit).run.run disk = (.ok (), change disk) := by
  cases there : disk.node? at_ with
  | none => rfl
  | some node =>
      cases node with
      | folder => exact absurd there noFolder
      | file old => rfl

/-- A file can be written just where the path takes one. -/
theorem exists_write : (∃ next, (write path bytes).run.run disk = (.ok (), next)) ↔ disk.Takes path := by
  constructor
  · rintro ⟨next, written⟩
    obtain ⟨folder, name, located, free, -⟩ := write_ok written
    exact ⟨folder, name, located, free⟩
  · rintro ⟨folder, name, located, free⟩
    refine ⟨disk.put (folder ++ [name]) (.file bytes), ?_⟩
    rw [write, ask_bind, located]
    exact put_of_noFolder free _

/-- A file that is there can be moved just where the target takes one. -/
theorem exists_rename (found : disk.lookup source = .ok (at_, .file bytes)) :
    (∃ next, (rename source target).run.run disk = (.ok (), next)) ↔ disk.Takes target := by
  constructor
  · rintro ⟨next, moved⟩
    obtain ⟨_, _, folder, name, -, located, free, -⟩ := rename_ok moved
    exact ⟨folder, name, located, free⟩
  · rintro ⟨folder, name, located, free⟩
    refine ⟨(disk.remove at_).put (folder ++ [name]) (.file bytes), ?_⟩
    rw [rename, ask_bind, found]
    simp only [ask_bind, located]
    exact put_of_noFolder free _

end OnDisk

namespace BatchStore

open Disk OnDisk

variable {store : BatchStore} {path : Path} {disk disk' next : Disk} {steps more : List SaveStep} {e : BatchError}

/-! ### Saves that succeed -/

/-- The steps that make the folder of a path, if it names one. -/
def folderSteps (path : Path) : List SaveStep :=
  ((path.parent?.filter (·.text != "")).map SaveStep.makeFolders).toList

/-- A store with this path can be saved: once its folder is made, the place of the document and the one beside it take
a file. -/
def Accepts (disk : Disk) (path : Path) : Prop :=
  ∃ next, performAll (folderSteps path) disk = (.ok (), next) ∧ next.Takes (temporary path) ∧ next.Takes path

theorem saveSteps_eq (placed : store.path = some path) : store.saveSteps =
    folderSteps path ++ [.write (temporary path) store.contents, .move (temporary path) path] := by
  simp only [saveSteps, placed, folderSteps]

/-- Steps that succeed are followed by the rest. -/
theorem performAll_append_of_ok (done : performAll steps disk = (.ok (), next)) :
    performAll (steps ++ more) disk = performAll more next := by
  induction steps generalizing disk with
  | nil =>
      cases done
      rfl
  | cons step rest ih =>
      obtain ⟨reached, first, done⟩ := performAll_cons done
      rw [List.cons_append, performAll, first]
      exact ih done

/-- The document is written beside its place, and then moved there, just where both take a file. -/
theorem exists_publish (path : Path) (bytes : Bytes) (disk : Disk) :
    (∃ next, performAll [.write (temporary path) bytes, .move (temporary path) path] disk = (.ok (), next)) ↔
      disk.Takes (temporary path) ∧ disk.Takes path := by
  -- The place beside the path is another one, so the path takes a file after the first step if it did before.
  have kept {beside : Disk} (written : (write (temporary path) bytes).run.run disk = (.ok (), beside)) :
      (∃ at_, beside.lookup (temporary path) = .ok (at_, .file bytes)) ∧ (beside.Takes path ↔ disk.Takes path) := by
    refine ⟨lookup_of_write written, ?_⟩
    obtain ⟨folder, name, located, free, rfl⟩ := write_ok written
    exact takes_put bytes (by simp) free fun entry =>
      entry_ne_of_withExtension entry located (by decide) (by decide) (by decide)
  constructor
  · rintro ⟨next, performed⟩
    obtain ⟨beside, written, performed⟩ := performAll_cons performed
    obtain ⟨last, moved, -⟩ := performAll_cons performed
    obtain ⟨⟨at_, found⟩, takes⟩ := kept written
    exact ⟨exists_write.mp ⟨beside, written⟩, takes.mp ((exists_rename found).mp ⟨last, moved⟩)⟩
  · rintro ⟨free, takes⟩
    obtain ⟨beside, written⟩ : ∃ beside, (write (temporary path) bytes).run.run disk = (.ok (), beside) :=
      exists_write.mpr free
    obtain ⟨⟨at_, found⟩, same⟩ := kept written
    obtain ⟨last, moved⟩ := (exists_rename found).mpr (same.mpr takes)
    refine ⟨last, ?_⟩
    simp only [performAll, SaveStep.perform, written, moved]

/-- A store is saved just where its path accepts it, whatever its records are. -/
theorem exists_save (placed : store.path = some path) :
    (∃ disk', store.save disk = (.ok (), disk')) ↔ Accepts disk path := by
  unfold save
  rw [saveSteps_eq placed]
  constructor
  · rintro ⟨disk', saved⟩
    obtain ⟨next, made, published⟩ := performAll_append saved
    obtain ⟨free, takes⟩ := (exists_publish path store.contents next).mp ⟨disk', published⟩
    exact ⟨next, made, free, takes⟩
  · rintro ⟨next, made, free, takes⟩
    obtain ⟨disk', published⟩ := (exists_publish path store.contents next).mpr ⟨free, takes⟩
    exact ⟨disk', (performAll_append_of_ok made).trans published⟩

/-- What fails is a step, and the error names its subject. -/
theorem exists_step_of_error (failed : performAll steps disk = (.error e, disk')) :
    ∃ step ∈ steps, ∃ cause, e = .io step.subject cause := by
  induction steps generalizing disk with
  | nil => cases failed
  | cons step rest ih =>
      unfold performAll at failed
      split at failed
      next next done =>
          obtain ⟨other, member, cause, named⟩ := ih failed
          exact ⟨other, List.mem_cons_of_mem _ member, cause, named⟩
      next cause next stopped =>
          cases failed
          exact ⟨step, List.mem_cons_self, cause, rfl⟩

/-! ### The store that is opened -/

/-- After a save that succeeds the path opens as the store. -/
theorem load_of_saved (placed : store.path = some path) (representable : store.Representable)
    (saved : store.save disk = (.ok (), disk')) : load disk' path = .ok store :=
  load_of_read placed representable (read_of_save placed saved)

/-- A store that is saved is opened as it was, record by record. A save fails at a step of its own, and only where the
path does not accept a store. -/
theorem saved_restored (placed : store.path = some path) (representable : store.Representable) (disk : Disk) :
    (Accepts disk path ↔ ∃ disk', store.save disk = (.ok (), disk') ∧ load disk' path = .ok store) ∧
    (∀ disk', store.save disk = (.ok (), disk') → load disk' path = .ok store) ∧
    (∀ e disk', store.save disk = (.error e, disk') →
      ¬ Accepts disk path ∧ ∃ step ∈ store.saveSteps, ∃ cause, e = .io step.subject cause) := by
  have opened {disk' : Disk} (saved : store.save disk = (.ok (), disk')) : load disk' path = .ok store :=
    load_of_saved placed representable saved
  refine ⟨⟨?_, ?_⟩, fun disk' saved => opened saved, ?_⟩
  · intro accepts
    obtain ⟨disk', saved⟩ := (exists_save placed).mpr accepts
    exact ⟨disk', saved, opened saved⟩
  · rintro ⟨disk', saved, -⟩
    exact (exists_save placed).mp ⟨disk', saved⟩
  · intro e disk' failed
    refine ⟨fun accepts => ?_, exists_step_of_error failed⟩
    obtain ⟨disk', saved⟩ := (exists_save placed).mpr accepts
    cases failed.symm.trans saved

/-- A store with a record of a job that went through, under an odd name, and one of a job that nothing happened to. -/
def archive : BatchStore where
  path := some ⟨"runs/today/jobs.json"⟩
  records := [
    { userId := "\"Zoë\"\n\x7b😀\x7d"
      jobId := some ""
      status := .succeeded
      submittedAt := some ⟨Timestamp.firstSecond, 0⟩
      lastPolledAt := none
      completedAt := some ⟨Timestamp.lastSecond, 999999999⟩
      submitCount := 4294967295
      result := some ⟨"9", "out\\put.png", "", "öutput"⟩
      error := none
      warnings := ["", "\x00\t/"]
      artifact := some ⟨"images/Zoë.png"⟩ },
    JobRecord.fresh ""]

theorem saved_restored_archive : archive.path = some ⟨"runs/today/jobs.json"⟩ ∧ archive.Representable ∧
    ∃ disk', archive.save Disk.empty = (.ok (), disk') ∧ load disk' ⟨"runs/today/jobs.json"⟩ = .ok archive := by
  have placed : archive.path = some ⟨"runs/today/jobs.json"⟩ := rfl
  have representable : archive.Representable := by
    unfold Representable
    decide
  have accepts : Accepts Disk.empty ⟨"runs/today/jobs.json"⟩ :=
    ⟨⟨[(["runs"], .folder), (["runs", "today"], .folder)]⟩, rfl,
      ⟨["runs", "today"], "jobs.json.tmp", rfl, by decide⟩, ⟨["runs", "today"], "jobs.json", rfl, by decide⟩⟩
  exact ⟨placed, representable, (saved_restored placed representable Disk.empty).1.mp accepts⟩

end BatchStore

end ImageBatch
