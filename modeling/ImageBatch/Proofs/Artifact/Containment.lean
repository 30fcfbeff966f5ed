import ImageBatch.Artifact.Collect
import ImageBatch.Proofs.File.Folders
import ImageBatch.Proofs.File.Joining
import ImageBatch.Proofs.Tracker.Places

/-!
Where the images go.

Whether a download is made at all is settled by the record, its stem and the files (`Collector.prospect`): without one
a collection asks nobody anything (`Collector.Offline`). A download that is kept becomes the content of one file
(`Collector.Stored`), which stands directly in the images' folder: the name that a plain stem makes with an extension
is one component, and leads into no other folder. Before the bytes are known to be an image nothing is written.
-/

namespace ImageBatch

/-- Performing a task changes no files. -/
theorem Task.perform_disk {Ask : Type} {Answer : Ask → Type} {σ α : Type} (service : Service Ask Answer σ)
    (task : Task Ask Answer α) (world : World σ) : (task.perform service world).2.disk = world.disk := by
  induction task generalizing world with
  | done value => rfl
  | ask question next ih => exact ih _ _

/-- A plain stem, with the extension of a format, is one component. -/
theorem FileName.isPlain_of_isPlainStem {stem : String} (plain : FileName.isPlainStem stem = true)
    (format : ImageFormat) : Path.IsPlain (stem ++ "." ++ format.extension) := by
  have slash : '/' ∉ stem.toList := by
    simp only [isPlainStem, Bool.and_eq_true, Bool.not_eq_true', List.any_eq_false, Bool.or_eq_true,
      beq_iff_eq, not_or] at plain
    exact fun member => (plain.1.2 '/' member).1 rfl
  have long (short : String) (few : short.length ≤ 2) : stem ++ "." ++ format.extension ≠ short := by
    rintro rfl
    rw [String.length_append, String.length_append] at few
    have : ".".length = 1 ∧ 2 < format.extension.length := by cases format <;> decide
    omega
  refine ⟨?_, long "" (by decide), long "." (by decide), long ".." (by decide)⟩
  rw [String.toList_append, String.toList_append, List.mem_append, List.mem_append]
  rintro ((member | member) | member)
  · exact slash member
  · revert member
    decide
  · revert member
    cases format <;> decide

namespace CollectionError

/-- Whether an error comes before any download: something is wrong with the record or its stem. -/
def comesFirst : CollectionError → Bool
  | .notSucceeded _ | .missingReference | .unsafeName _ => true
  | _ => false

def isWrite : CollectionError → Bool
  | .write _ _ => true
  | _ => false

end CollectionError

namespace Collector

variable {Ask : Type} {Answer : Ask → Type} {σ : Type} {c : Collector Ask Answer σ} {record : JobRecord}
  {stem : String} {world after : World σ} {disk disk' : Disk} {path imagesDir : Path} {bytes : Bytes}
  {result : Except CollectionError Path} {e : CollectionError} {reference : ResultReference} {format : ImageFormat}
  {download : Except BackendError Bytes}

/-! ### Before a download -/

/-- An image that is there already is the record's own. -/
theorem prospect_eq_present (present : prospect disk record stem = .present path) :
    record.status = .succeeded ∧ (∃ reference, record.result = some reference) ∧ record.artifact = some path ∧
      disk.isArtifact path = true := by
  unfold prospect at present
  split at present
  · cases present
  next succeeded =>
  split at present
  · cases present
  next referenced =>
  split at present
  next valid =>
      cases present
      obtain ⟨own, there⟩ := Option.filter_eq_some_iff.mp valid
      exact ⟨Decidable.not_not.mp succeeded, ⟨_, referenced⟩, own, there⟩
  · split at present <;> cases present

/-- What is to be downloaded is the output of a job that succeeded, for a plain stem. -/
theorem prospect_eq_wanted (wanted : prospect disk record stem = .wanted reference) :
    record.status = .succeeded ∧ record.result = some reference ∧ FileName.isPlainStem stem = true := by
  unfold prospect at wanted
  split at wanted
  · cases wanted
  next succeeded =>
  split at wanted
  · cases wanted
  next referenced =>
  split at wanted
  · cases wanted
  · split at wanted
    next plain =>
        cases wanted
        exact ⟨Decidable.not_not.mp succeeded, referenced, plain⟩
    next => cases wanted

/-- The collection comes out like this and changes nothing, whoever might be asked: no download is made. -/
def Offline (c : Collector Ask Answer σ) (record : JobRecord) (stem : String) (world : World σ)
    (result : Except CollectionError Path) : Prop :=
  ∀ (backend : Backend Ask Answer) (service : Service Ask Answer σ),
    ({ c with backend, service } : Collector Ask Answer σ).collect record stem world = (result, world)

/-! ### After a download -/

/-- These bytes became the image of a stem: folders were made as needed, and then one file was written, directly in the
folder that the images go to. -/
structure Stored (imagesDir : Path) (stem : String) (format : ImageFormat) (bytes : Bytes) (path : Path)
    (disk disk' : Disk) : Prop where
  named : path = target imagesDir stem format
  /-- The path is that of the folder and one name. -/
  child : path.components = imagesDir.components ++ [.name (stem ++ "." ++ format.extension)]
  /-- On the disk the file stands in that folder, where no folder was, and besides folders nothing else is new. -/
  written : ∃ folder between, disk.Grows between ∧ disk'.IsFolderAt imagesDir folder ∧
    between.node? (folder ++ [stem ++ "." ++ format.extension]) ≠ some .folder ∧
    disk' = between.put (folder ++ [stem ++ "." ++ format.extension]) (.file bytes)
  content : disk'.read path = .ok bytes

theorem stored_of_store (plain : FileName.isPlainStem stem = true)
    (kept : store imagesDir (target imagesDir stem format) bytes disk = (.ok path, disk')) :
    Stored imagesDir stem format bytes path disk disk' := by
  have single := FileName.isPlain_of_isPlainStem plain format
  unfold store at kept
  split at kept
  · cases kept
  next between made =>
  have grows : disk.Grows between := by
    have grown := OnDisk.grows_makeEach (OnDisk.ancestors imagesDir (imagesDir.components.length + 1)) disk
    rwa [← OnDisk.makeFolders, made] at grown
  split at kept
  · cases kept
  next written =>
  cases kept
  obtain ⟨folder, entry, located, noFolder, rfl⟩ := OnDisk.write_ok written
  have stays := Disk.foldersStay_put (.file bytes) noFolder
  obtain ⟨rfl, inside⟩ := Disk.folder_of_join single (stays.locate located)
  refine ⟨rfl, Path.components_join imagesDir single, ⟨folder, between, grows, inside, noFolder, rfl⟩, ?_⟩
  exact Disk.read_of_locate (stays.locate located) (by rw [Disk.node?_put _ (by simp), if_pos rfl])

/-- Where nothing could be stored there are new folders at most. -/
theorem error_of_store (failed : store imagesDir path bytes disk = (.error e, disk')) :
    e.isWrite = true ∧ disk.Grows disk' := by
  have grows := OnDisk.grows_makeFolders imagesDir disk
  unfold store at failed
  split at failed
  next made =>
      cases failed
      rw [made] at grows
      exact ⟨rfl, grows⟩
  next between made =>
      rw [made] at grows
      rcases OnDisk.write_cases path bytes between with ⟨cause, failure⟩ | ⟨_, _, _, _, done⟩
      · rw [failure] at failed
        cases failed
        exact ⟨rfl, grows⟩
      · rw [done] at failed
        cases failed

/-- Bytes are an image if there are some and they begin like one. -/
theorem imageFormat_eq_ok : imageFormat bytes = .ok format ↔ bytes ≠ [] ∧ ImageFormat.ofBytes? bytes = some format := by
  unfold imageFormat
  split
  next empty => simp_all
  next some_ =>
      have some_ : bytes ≠ [] := by simpa using some_
      split <;> simp_all

theorem Stored.isArtifact (stored : Stored imagesDir stem format bytes path disk disk') (some_ : bytes ≠ [])
    (image : ImageFormat.ofBytes? bytes = some format) : disk'.isArtifact path = true := by
  simp [Disk.isArtifact, stored.content, some_, image]

/-- What is kept is an image, and is stored. -/
theorem exists_of_keep (plain : FileName.isPlainStem stem = true)
    (kept : keep imagesDir stem download disk = (.ok path, disk')) :
    ∃ format bytes, download = .ok bytes ∧ bytes ≠ [] ∧ ImageFormat.ofBytes? bytes = some format ∧
      Stored imagesDir stem format bytes path disk disk' := by
  unfold keep at kept
  split at kept
  · cases kept
  next bytes =>
  split at kept
  · cases kept
  next format image =>
      obtain ⟨some_, image⟩ := imageFormat_eq_ok.mp image
      exact ⟨format, bytes, rfl, some_, image, stored_of_store plain kept⟩

/-- What is not kept failed after its download. Nothing was changed unless it failed in being written, and then there
are new folders at most. -/
theorem error_of_keep (failed : keep imagesDir stem download disk = (.error e, disk')) :
    e.comesFirst = false ∧ (e.isWrite = false → disk' = disk) ∧ disk.Grows disk' := by
  unfold keep at failed
  split at failed
  · cases failed
    exact ⟨rfl, fun _ => rfl, .refl disk⟩
  split at failed
  next bytes _ cause refused =>
      cases failed
      unfold imageFormat at refused
      split at refused
      · cases refused
        exact ⟨rfl, fun _ => rfl, .refl disk⟩
      · split at refused
        · cases refused
        · cases refused
          exact ⟨rfl, fun _ => rfl, .refl disk⟩
  · obtain ⟨write, grows⟩ := error_of_store failed
    refine ⟨?_, fun other => (nomatch write.symm.trans other), grows⟩
    cases e <;> first | rfl | cases write

/-! ### Collecting one record -/

/-- A collection ends with what there is, or with what the download is made into. -/
theorem collect_cases (collected : c.collect record stem world = (result, after)) :
    (∃ own, prospect world.disk record stem = .present own ∧ result = .ok own ∧ after = world) ∨
      (∃ cause, prospect world.disk record stem = .refused cause ∧ result = .error cause ∧ after = world) ∨
      ∃ reference, prospect world.disk record stem = .wanted reference ∧
        keep c.imagesDir stem ((c.backend.download reference).perform c.service world).1 world.disk =
          (result, after.disk) := by
  unfold collect at collected
  split at collected
  next own present =>
      cases collected
      exact .inl ⟨own, present, rfl, rfl⟩
  next cause refused =>
      cases collected
      exact .inr (.inl ⟨cause, refused, rfl, rfl⟩)
  next reference wanted =>
      simp only [Task.perform_disk] at collected
      cases collected
      exact .inr (.inr ⟨reference, wanted, rfl⟩)

/-- What is settled before a download is settled without one. -/
theorem offline_of_present (present : prospect world.disk record stem = .present path) :
    c.Offline record stem world (.ok path) := fun backend service => by
  simp only [collect, present]

theorem offline_of_refused (refused : prospect world.disk record stem = .refused e) :
    c.Offline record stem world (.error e) := fun backend service => by
  simp only [collect, refused]

/-- A collection that gives a path gives it for a job that succeeded and has an output, and a file with an image is
there: the record's own, and then nothing was downloaded or changed; or one that was downloaded for that output and
stored under the stem. An error of the record or its stem comes without a download, and any but a failed write without a
change of the files. -/
theorem collect_contained (collected : c.collect record stem world = (result, after)) :
    (∀ path, result = .ok path → record.status = .succeeded ∧ after.disk.isArtifact path = true ∧
      ∃ reference, record.result = some reference ∧
        (record.artifact = some path ∧ world.disk.isArtifact path = true ∧ c.Offline record stem world result ∨
          ∃ format bytes, ((c.backend.download reference).perform c.service world).1 = .ok bytes ∧
            ImageFormat.ofBytes? bytes = some format ∧
            Stored c.imagesDir stem format bytes path world.disk after.disk)) ∧
      ∀ e, result = .error e → (e.comesFirst = true → c.Offline record stem world result) ∧
        (e.isWrite = false → after.disk = world.disk) := by
  rcases collect_cases collected with ⟨own, present, rfl, rfl⟩ | ⟨cause, refused, rfl, rfl⟩ | ⟨reference, wanted, kept⟩
  · obtain ⟨succeeded, ⟨reference, referenced⟩, mine, there⟩ := prospect_eq_present present
    refine ⟨fun path same => ?_, fun e failed => nomatch failed⟩
    cases same
    exact ⟨succeeded, there, reference, referenced, .inl ⟨mine, there, offline_of_present present⟩⟩
  · refine ⟨fun path done => (nomatch done), fun e same => ?_⟩
    cases same
    exact ⟨fun _ => offline_of_refused refused, fun _ => rfl⟩
  · obtain ⟨succeeded, referenced, plain⟩ := prospect_eq_wanted wanted
    refine ⟨fun path done => ?_, fun e failed => ?_⟩
    · subst done
      obtain ⟨format, bytes, given, some_, image, stored⟩ := exists_of_keep plain kept
      have there := stored.isArtifact some_ image
      exact ⟨succeeded, there, reference, referenced, .inr ⟨format, bytes, given, image, stored⟩⟩
    · subst failed
      obtain ⟨late, untouched, -⟩ := error_of_keep kept
      exact ⟨fun first => (nomatch late.symm.trans first), untouched⟩

/-- A collector for whom every output is the start of an image. -/
def studio : Collector Empty (fun _ => Unit) Unit where
  backend := { Tracker.prompt with download := fun _ => .done (.ok [0xff, 0xd8, 0xff]) }
  service := ⟨fun question => nomatch question⟩
  clock := ⟨⟨0, 0⟩⟩
  imagesDir := ⟨"images"⟩

/-- The first image goes into a folder that is made for it. -/
theorem collect_contained_studio : ∃ record after,
    studio.collect record "ada" ⟨(), ⟨[]⟩, 0⟩ = (.ok ⟨"images/ada.jpg"⟩, after) ∧ record.artifact = none ∧
      after.disk.isArtifact ⟨"images/ada.jpg"⟩ = true ∧ ∃ format bytes, ImageFormat.ofBytes? bytes = some format ∧
        Stored ⟨"images"⟩ "ada" format bytes ⟨"images/ada.jpg"⟩ ⟨[]⟩ after.disk := by
  obtain ⟨record, after, collected, without⟩ : ∃ record after,
      studio.collect record "ada" ⟨(), ⟨[]⟩, 0⟩ = (.ok ⟨"images/ada.jpg"⟩, after) ∧ record.artifact = none :=
    ⟨{ JobRecord.fresh "ada" with status := .succeeded, result := some ⟨"1", "ada", "", "output"⟩ }, _, rfl, rfl⟩
  obtain ⟨-, image, reference, -, ⟨own, -⟩ | ⟨format, bytes, -, formatted, stored⟩⟩ :=
    (collect_contained collected).1 _ rfl
  · cases without.symm.trans own
  · exact ⟨record, after, collected, without, image, format, bytes, formatted, stored⟩

end Collector

end ImageBatch
