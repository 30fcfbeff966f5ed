import ImageBatch.Proofs.Batch.Reopening
import ImageBatch.Proofs.File.Folders
import ImageBatch.Proofs.File.Naming

/-!
What the path of a store holds while the store is saved.

`BatchStore.Passes` says which disks come up in the course of a save: before it, with some of its folders made, with
anything written beside the place of the document, after the move, and wherever it fails or stops. On a disk that is a
tree the path of the store then holds what it held before the save, or all of the new document
(`BatchStore.Passes.holds`). There is one other case: a path that goes up out of a missing folder finds, once the folder
is made, the whole file that stands there. `BatchStore.Saves` is about saves one after another.
-/

namespace ImageBatch

namespace BatchStore

open Disk OnDisk

variable {store : BatchStore} {path : Path} {disk disk' next mid : Disk} {step : SaveStep} {steps rest : List SaveStep}

/-- Disks that come up in the course of a step. A step that fails or stops leaves one of them. -/
inductive SaveStep.Passes : SaveStep → Disk → Disk → Prop where
  | before (step : SaveStep) (disk : Disk) : Passes step disk disk
  | after (step : SaveStep) (disk : Disk) : Passes step disk (step.perform.run.run disk).2
  /-- Of the folders on the way, the outer ones are made first. -/
  | folders (path : Path) (count : Nat) (disk : Disk) : Passes (.makeFolders path) disk
      ((makeEach ((ancestors path (path.components.length + 1)).drop count)).run.run disk).2
  /-- A file has any contents while it is written. -/
  | part {path : Path} {bytes : Bytes} {disk : Disk} {folder : Location} {name : String} (part : Bytes)
      (located : disk.locate path = .ok (.entry folder name, false))
      (noFolder : disk.node? (folder ++ [name]) ≠ some .folder) :
      Passes (.write path bytes) disk (disk.put (folder ++ [name]) (.file part))

/-- Disks that come up while steps are performed up to the first that fails. -/
inductive PassesAll : List SaveStep → Disk → Disk → Prop where
  | still (steps : List SaveStep) (disk : Disk) : PassesAll steps disk disk
  | during {step : SaveStep} {rest : List SaveStep} {disk mid : Disk} (passes : step.Passes disk mid) :
      PassesAll (step :: rest) disk mid
  | later {step : SaveStep} {rest : List SaveStep} {disk next mid : Disk}
      (done : step.perform.run.run disk = (.ok (), next)) (passes : PassesAll rest next mid) :
      PassesAll (step :: rest) disk mid

/-- The disk comes up in the course of saving the store. -/
def Passes (store : BatchStore) (disk mid : Disk) : Prop := PassesAll store.saveSteps disk mid

/-- What a save leaves, whether it succeeds or not, comes up in its course. -/
theorem passes_save (store : BatchStore) (disk : Disk) : store.Passes disk (store.save disk).2 := by
  unfold Passes save
  induction store.saveSteps generalizing disk with
  | nil => exact .still [] disk
  | cons step rest ih =>
      unfold performAll
      split
      next next done => exact .later done (ih next)
      next e next failed =>
          have left := SaveStep.Passes.after step disk
          rw [failed] at left
          exact .during left

/-- A step that is done leaves a disk of its course. -/
theorem SaveStep.passes_of_done (done : step.perform.run.run disk = (.ok (), next)) : step.Passes disk next := by
  have left := SaveStep.Passes.after step disk
  rwa [done] at left

theorem SaveStep.Passes.grows {folder : Path} (passes : (SaveStep.makeFolders folder).Passes disk mid) :
    disk.Grows mid := by
  cases passes with
  | before => exact .refl disk
  | after | folders => exact grows_makeEach _ disk

/-! ### Trees -/

theorem SaveStep.Passes.isTree (tree : disk.IsTree) (passes : step.Passes disk mid) : mid.IsTree := by
  cases passes with
  | before => exact tree
  | folders path count => exact (grows_makeEach _ disk).isTree tree
  | part part located noFolder => exact tree.put (tree.folder_of_locate located) noFolder _
  | after =>
      cases step with
      | makeFolders path => exact (grows_makeEach _ disk).isTree tree
      | write path bytes => exact isTree_write tree path bytes
      | move source target => exact isTree_rename tree source target

theorem PassesAll.isTree (passes : PassesAll steps disk mid) (tree : disk.IsTree) : mid.IsTree := by
  induction passes with
  | still => exact tree
  | during passes => exact passes.isTree tree
  | later done passes ih => exact ih ((SaveStep.passes_of_done done).isTree tree)

/-! ### The path -/

/-- Writing beside a path leaves it what it names. -/
theorem SaveStep.Passes.sameFile {bytes : Bytes} (passes : (SaveStep.write (temporary path) bytes).Passes disk mid) :
    SameFile path disk mid := by
  have put {disk : Disk} {folder : Location} {name : String} {bytes : Bytes}
      (beside : disk.locate (temporary path) = .ok (.entry folder name, false))
      (noFolder : disk.node? (folder ++ [name]) ≠ some .folder) :
      SameFile path disk (disk.put (folder ++ [name]) (.file bytes)) :=
    sameFile_put noFolder (fun located =>
      entry_ne_of_withExtension located beside (by decide) (by decide) (by decide)) (by simp)
  cases passes with
  | before => exact fun _ _ => .rfl
  | part part located noFolder => exact put located noFolder
  | after =>
      rcases write_cases (temporary path) bytes disk with ⟨e, failed⟩ | ⟨folder, name, located, noFolder, done⟩
      · rw [SaveStep.perform, failed]
        exact fun _ _ => .rfl
      · rw [SaveStep.perform, done]
        exact put located noFolder

/-- While a document is written beside a path and moved there, the path names the file that it named, or holds all of
the document. -/
theorem PassesAll.publishes {bytes : Bytes}
    (passes : PassesAll [.write (temporary path) bytes, .move (temporary path) path] disk mid) :
    SameFile path disk mid ∨ mid.holds? path = some bytes := by
  cases passes with
  | still => exact .inl fun _ _ => .rfl
  | during passes => exact .inl passes.sameFile
  | @later _ _ _ beside _ written passes =>
      have same : SameFile path disk beside := (SaveStep.passes_of_done written).sameFile
      obtain ⟨at_, found⟩ := lookup_of_write written
      have moves {left : Disk} (moved : (rename (temporary path) path).run.run beside = (.ok (), left)) :
          left.holds? path = some bytes := by
        rw [holds?, read_of_rename found moved]
        rfl
      cases passes with
      | still => exact .inl same
      | later moved passes =>
          cases passes
          exact .inr (moves moved)
      | during passes =>
          cases passes with
          | before => exact .inl same
          | after =>
              rcases rename_cases (temporary path) path beside with ⟨e, failed⟩ | ⟨_, _, _, _, -, -, -, done⟩
              · rw [SaveStep.perform, failed]
                exact .inl same
              · rw [SaveStep.perform, done]
                exact .inr (moves done)

/-- In the course of a save the path of the store holds what it held before, or all of the new document; or it goes up
out of a folder that was missing, and holds a file that stood where it leads now. -/
theorem Passes.holds (placed : store.path = some path) (tree : disk.IsTree) (passes : store.Passes disk mid) :
    mid.holds? path = disk.holds? path ∨ mid.holds? path = some store.contents ∨ Uncovers path disk mid := by
  have after {first : Disk} (grows : disk.Grows first)
      (passes : PassesAll [.write (temporary path) store.contents, .move (temporary path) path] first mid) :
      mid.holds? path = disk.holds? path ∨ mid.holds? path = some store.contents ∨ Uncovers path disk mid := by
    rcases passes.publishes with same | published
    · rcases grows.sameFile tree path with kept | uncovers
      · exact .inl (same.holds.trans kept.holds)
      · exact .inr (.inr (uncovers.same same))
    · exact .inr (.inl published)
  unfold Passes saveSteps at passes
  simp only [placed] at passes
  cases folder : path.parent?.filter (·.text != "") with
  | none =>
      simp only [folder, Option.map_none, Option.toList_none, List.nil_append] at passes
      exact after (.refl disk) passes
  | some folder =>
      simp only [folder, Option.map_some, Option.toList_some, List.singleton_append] at passes
      cases passes with
      | still => exact .inl rfl
      | later done passes => exact after (SaveStep.passes_of_done done).grows passes
      | during passes =>
          rcases passes.grows.sameFile tree path with same | uncovers
          · exact .inl same.holds
          · exact .inr (.inr uncovers)

/-! ### Saves -/

/-- Disks that come up while stores are saved at a path, one after another, each of which may fail or stop anywhere. -/
inductive Saves (path : Path) (first : Disk) : Disk → Prop where
  | none : Saves path first first
  | save {disk mid : Disk} {store : BatchStore} (before : Saves path first disk) (placed : store.path = some path)
      (passes : store.Passes disk mid) : Saves path first mid

theorem Saves.isTree (tree : disk.IsTree) (saves : Saves path disk disk') : disk'.IsTree := by
  induction saves with
  | none => exact tree
  | save before placed passes ih => exact passes.isTree ih

end BatchStore

end ImageBatch
