import ImageBatch.Proofs.Artifact.Accounts
import ImageBatch.Proofs.Artifact.Agreement
import ImageBatch.Proofs.Artifact.Containment
import ImageBatch.Proofs.Batch.Resaving

/-!
Collecting a second time.

A record is at rest when its job has not succeeded, or its image is there (`JobRecord.IsCollected`). Each visit of a
collection leaves the record of its key at rest, and takes no image from another one (`Collector.exists_rest`), since
what it writes is an image in its turn; so after a collection all records of its keys are at rest. A collection that
finds them so changes neither the store nor anything else (`Collector.collectEach_again`).

Between the two the store is saved, which leaves the records at rest unless it is saved over one of their images
(`Collector.allCollected_of_saved`); then the second collection downloads that image again.
-/

namespace ImageBatch

/-! ### Images -/

namespace Disk

variable {disk disk' disk'' : Disk} {path : Path} {at_ : Location} {bytes : Bytes} {format : ImageFormat}

theorem isArtifact_iff : disk.isArtifact path = true ↔
    ∃ bytes, disk.read path = .ok bytes ∧ bytes ≠ [] ∧ (ImageFormat.ofBytes? bytes).isSome = true := by
  unfold isArtifact
  cases disk.read path <;> simp

/-- Where an image is, there is one still. -/
def ImagesStay (disk disk' : Disk) : Prop := ∀ path, disk.isArtifact path = true → disk'.isArtifact path = true

theorem ImagesStay.refl (disk : Disk) : ImagesStay disk disk := fun _ => id

theorem ImagesStay.trans (first : ImagesStay disk disk') (second : ImagesStay disk' disk'') : ImagesStay disk disk'' :=
  fun path image => second path (first path image)

theorem Grows.imagesStay (grows : Grows disk disk') : ImagesStay disk disk' := by
  intro path image
  obtain ⟨bytes, read, isImage⟩ := isArtifact_iff.mp image
  obtain ⟨at_, names, there⟩ := read_eq_ok.mp read
  exact isArtifact_iff.mpr ⟨bytes, read_eq_ok.mpr ⟨at_, grows.foldersStay.names names, grows.kept at_ _ there⟩, isImage⟩

/-- An image may take the place of another one. -/
theorem imagesStay_put (below : at_ ≠ []) (noFolder : disk.node? at_ ≠ some .folder) (some_ : bytes ≠ [])
    (image : ImageFormat.ofBytes? bytes = some format) : ImagesStay disk (disk.put at_ (.file bytes)) := by
  intro path was
  have stays := foldersStay_put (.file bytes) noFolder
  obtain ⟨old, read, isImage⟩ := isArtifact_iff.mp was
  obtain ⟨own, names, there⟩ := read_eq_ok.mp read
  by_cases here : own = at_
  · subst here
    have written : (disk.put own (.file bytes)).node? own = some (.file bytes) := by simp [node?_put _ below]
    exact isArtifact_iff.mpr ⟨bytes, read_eq_ok.mpr ⟨own, stays.names names, written⟩, some_, by rw [image]; rfl⟩
  · have kept : (disk.put at_ (.file bytes)).node? own = some (.file old) := by simp [node?_put _ below, here, there]
    exact isArtifact_iff.mpr ⟨old, read_eq_ok.mpr ⟨own, stays.names names, kept⟩, isImage⟩

end Disk

/-! ### Records at rest -/

/-- If the job has succeeded, its output is known and its image is there. -/
def JobRecord.IsCollected (disk : Disk) (record : JobRecord) : Prop :=
  record.status = .succeeded → (∃ reference, record.result = some reference) ∧
    ∃ path, record.artifact = some path ∧ disk.isArtifact path = true

theorem JobRecord.IsCollected.mono {disk disk' : Disk} {record : JobRecord} (collected : record.IsCollected disk)
    (stay : disk.ImagesStay disk') : record.IsCollected disk' := fun succeeded =>
  have ⟨referenced, path, own, image⟩ := collected succeeded
  ⟨referenced, path, own, stay path image⟩

theorem JobRecord.isCollected_demoted (disk : Disk) (record : JobRecord) (message : String) (now : Timestamp) :
    (record.demoted message now).IsCollected disk := by
  intro succeeded
  cases succeeded

/-- The records of these keys are at rest. -/
def BatchStore.AllCollected (store : BatchStore) (keys : List String) (disk : Disk) : Prop :=
  ∀ key ∈ keys, ∀ record, store.get? key = some record → record.IsCollected disk

namespace Collector

variable {Ask : Type} {Answer : Ask → Type} {σ : Type} {c : Collector Ask Answer σ} {record : JobRecord}
  {stem : String} {world after : World σ} {disk : Disk} {path : Path} {result : Except CollectionError Path}
  {features : FeatureSet} {batch : BatchStore} {entries : Entries ArtifactEntry} {keys : List String}

theorem prospect_of_isCollected (collected : record.IsCollected disk) (succeeded : record.status = .succeeded) :
    ∃ path, record.artifact = some path ∧ ∀ stem, prospect disk record stem = .present path := by
  obtain ⟨⟨reference, referenced⟩, path, own, image⟩ := collected succeeded
  refine ⟨path, own, fun stem => ?_⟩
  have valid : record.artifact.filter disk.isArtifact = some path := Option.filter_eq_some_iff.mpr ⟨own, image⟩
  simp [prospect, succeeded, referenced, valid]

/-! ### The first time -/

/-- A collection takes no image away: what it writes is one. -/
theorem imagesStay_of_collect (collected : c.collect record stem world = (result, after)) :
    world.disk.ImagesStay after.disk := by
  rcases collect_cases collected with ⟨_, _, _, rfl⟩ | ⟨_, _, _, rfl⟩ | ⟨reference, wanted, kept⟩
  · exact .refl _
  · exact .refl _
  · cases result with
    | error e => exact (error_of_keep kept).2.2.imagesStay
    | ok path =>
        obtain ⟨format, bytes, -, some_, image, stored⟩ := exists_of_keep (prospect_eq_wanted wanted).2.2 kept
        obtain ⟨folder, between, grows, -, noFolder, left⟩ := stored.written
        rw [left]
        exact grows.imagesStay.trans (Disk.imagesStay_put (by simp) noFolder some_ image)

/-- With the path that a collection gives, the record is at rest. -/
theorem isCollected_of_collect (collected : c.collect record stem world = (.ok path, after)) :
    { record with artifact := some path }.IsCollected after.disk := by
  rcases collect_cases collected with ⟨own, present, same, rfl⟩ | ⟨_, _, failed, _⟩ | ⟨reference, wanted, kept⟩
  · cases same
    obtain ⟨-, referenced, -, image⟩ := prospect_eq_present present
    exact fun _ => ⟨referenced, path, rfl, image⟩
  · cases failed
  · obtain ⟨-, referenced, plain⟩ := prospect_eq_wanted wanted
    obtain ⟨format, bytes, -, some_, image, stored⟩ := exists_of_keep plain kept
    exact fun _ => ⟨⟨reference, referenced⟩, path, rfl, stored.isArtifact some_ image⟩

/-- A visit puts a record for its key that is at rest, and takes no image away. -/
theorem exists_rest (c : Collector Ask Answer σ) (entries : Entries ArtifactEntry) (world : World σ)
    (found : batch.get? features.key = some record) :
    ∃ next, next.userId = features.key ∧ next.IsCollected (c.collectOne features batch entries world).2.2.disk ∧
      (c.collectOne features batch entries world).1 = batch.put next ∧
      world.disk.ImagesStay (c.collectOne features batch entries world).2.2.disk := by
  have own := BatchStore.userId_of_get? found
  simp only [collectOne, found]
  by_cases succeeded : record.status = .succeeded
  · simp only [if_pos succeeded, JobRecord.transition_collectionFailed succeeded]
    rcases collected : c.collect record features.fileStem world with ⟨e | path, after⟩
    · exact ⟨record.demoted e.message (c.clock.at after.now), own, JobRecord.isCollected_demoted _ _ _ _, rfl,
        imagesStay_of_collect collected⟩
    · exact ⟨{ record with artifact := some path }, own, isCollected_of_collect collected, rfl,
        imagesStay_of_collect collected⟩
  · simp only [if_neg succeeded]
    exact ⟨record, own, fun done => absurd done succeeded, (BatchStore.put_of_get? (own ▸ found)).symm, .refl _⟩

/-- A visit leaves the record of its key at rest, and those that were. -/
theorem allCollected_collectOne (rest : batch.AllCollected keys world.disk) (c : Collector Ask Answer σ)
    (features : FeatureSet) (entries : Entries ArtifactEntry) :
    (c.collectOne features batch entries world).1.AllCollected (keys ++ [features.key])
      (c.collectOne features batch entries world).2.2.disk := by
  intro key member record stands
  cases found : batch.get? features.key with
  | none =>
      simp only [collectOne, found] at stands ⊢
      rcases List.mem_append.mp member with old | new
      · exact rest key old record stands
      · rw [List.mem_singleton.mp new, found] at stands
        cases stands
  | some visited =>
      obtain ⟨next, own, collected, stored, stay⟩ := exists_rest c entries world found
      rw [stored, BatchStore.get?_put, own] at stands
      split at stands
      next =>
          cases stands
          exact collected
      next other =>
          have old : key ∈ keys := by simpa [Ne.symm other] using member
          exact (rest key old record stands).mono stay

/-- After a collection the records of its keys are at rest. -/
theorem allCollected_collectEach (rest : batch.AllCollected keys world.disk) (c : Collector Ask Answer σ)
    (features : List FeatureSet) (entries : Entries ArtifactEntry) :
    (c.collectEach batch entries world features).1.AllCollected (keys ++ features.map (·.key))
      (c.collectEach batch entries world features).2.2.disk := by
  induction features generalizing batch entries world keys with
  | nil =>
      rw [List.map_nil, List.append_nil]
      exact rest
  | cons first more ih =>
      have all := ih (allCollected_collectOne rest c first entries) (c.collectOne first batch entries world).2.1
      rwa [List.append_assoc] at all

/-! ### The next time -/

/-- A visit that finds the record of its key at rest changes nothing. -/
theorem collectOne_again (c : Collector Ask Answer σ) (entries : Entries ArtifactEntry)
    (rest : ∀ record, batch.get? features.key = some record → record.IsCollected world.disk) :
    ∃ told, c.collectOne features batch entries world = (batch, told, world) := by
  unfold collectOne
  cases found : batch.get? features.key with
  | none => exact ⟨entries, rfl⟩
  | some record =>
      by_cases succeeded : record.status = .succeeded
      · obtain ⟨path, own, present⟩ := prospect_of_isCollected (rest record found) succeeded
        have same : { record with artifact := some path } = record := by rw [← own]
        have stays : batch.put record = batch := BatchStore.put_of_get? (BatchStore.userId_of_get? found ▸ found)
        refine ⟨Entries.insert features.key (.ready path) entries, ?_⟩
        simp only [if_pos succeeded, collect, present, same, stays]
      · refine ⟨Entries.insert features.key (failedEntry record) entries, ?_⟩
        simp only [if_neg succeeded]

/-- A collection that finds all its records at rest changes nothing. -/
theorem collectEach_again (c : Collector Ask Answer σ) (features : List FeatureSet) (entries : Entries ArtifactEntry)
    (rest : batch.AllCollected (features.map (·.key)) world.disk) :
    ∃ told, c.collectEach batch entries world features = (batch, told, world) := by
  induction features generalizing entries with
  | nil => exact ⟨entries, rfl⟩
  | cons first more ih =>
      obtain ⟨told, once⟩ := c.collectOne_again entries (rest first.key List.mem_cons_self)
      obtain ⟨all, again⟩ := ih told fun key member => rest key (List.mem_cons_of_mem _ member)
      refine ⟨all, ?_⟩
      rw [collectEach, once]
      exact again

end Collector

/-! ### What the manifests say -/

/-- What an entry says apart from reasons: the path of the image, or the status of the job. -/
def ArtifactEntry.gist : ArtifactEntry → Path ⊕ JobStatus
  | .ready path => .inl path
  | .failed status _ => .inr status

/-- What the entry of a record says. -/
def JobRecord.gist? (record : JobRecord) : Option (Path ⊕ JobStatus) :=
  if record.status = .succeeded then record.artifact.map .inl else some (.inr record.status)

namespace Collector

variable {Ask : Type} {Answer : Ask → Type} {σ : Type} {c : Collector Ask Answer σ}

/-- What an entry says can be told by the record that the key has. -/
theorem Tells.gist {seen : Prop} {had has : Option JobRecord} {last : Option (Except CollectionError Path)}
    {entry : Option ArtifactEntry} (tells : Tells seen had last has entry) (visited : seen) :
    entry.map ArtifactEntry.gist = has.bind JobRecord.gist? := by
  cases tells with
  | unknown => rfl
  | waiting _ unseen => exact absurd visited unseen
  | left record _ other => simp [failedEntry, ArtifactEntry.gist, JobRecord.gist?, other]
  | ready record path _ succeeded => simp [ArtifactEntry.gist, JobRecord.gist?, succeeded]
  | demoted => rfl

/-- A key that was not visited has no entry. -/
theorem Tells.unlisted {seen : Prop} {had has : Option JobRecord} {last : Option (Except CollectionError Path)}
    {entry : Option ArtifactEntry} (tells : Tells seen had last has entry) (unseen : ¬ seen) : entry = none := by
  cases entry with
  | none => rfl
  | some told => exact absurd (tells.listed.mp ⟨told, rfl⟩).1 unseen

/-! ### Collecting and saving -/

variable {before batch : BatchStore} {features : List FeatureSet} {world left : World σ} {manifest : ArtifactManifest}
  {keys : List String}

/-- A save that writes over no image leaves the records at rest. -/
theorem allCollected_of_saved {disk disk' : Disk} (rest : batch.AllCollected keys disk)
    (saved : batch.save disk = (.ok (), disk'))
    (apart : ∀ key ∈ keys, ∀ record path, batch.get? key = some record → record.status = .succeeded →
      record.artifact = some path → ∀ file ∈ batch.files, ¬ disk'.SamePlace path file) :
    batch.AllCollected keys disk' := by
  intro key member record found succeeded
  obtain ⟨referenced, path, own, image⟩ := rest key member record found succeeded
  obtain ⟨bytes, read, isImage⟩ := Disk.isArtifact_iff.mp image
  have kept := BatchStore.read_of_saved saved (apart key member record path found succeeded own) read
  exact ⟨referenced, path, own, Disk.isArtifact_iff.mpr ⟨bytes, kept, isImage⟩⟩

/-- A collection after one that succeeded finds every image there: whoever collects, nobody is asked anything, and
neither the store nor a file is changed. Its manifest says of each key what the first one said. This is so unless the
store was saved where an image went. -/
theorem collectBatch_again {Ask' : Type} {Answer' : Ask' → Type} {τ : Type}
    (collected : c.collectBatch before features world = (.ok manifest, batch, left))
    (apart : ∀ key path, manifest.entries.get? key = some (.ready path) →
      ∀ file ∈ batch.files, ¬ left.disk.SamePlace path file)
    (again : Collector Ask' Answer' τ) (later : World τ) (undisturbed : later.disk = left.disk) :
    (∀ set ∈ features, ∀ record, batch.get? set.key = some record → record.status = .succeeded →
      ∃ path, prospect later.disk record set.fileStem = .present path) ∧
      ∃ repeated, again.collectBatch batch features later = (.ok repeated, batch, later) ∧
        ∀ key, (repeated.entries.get? key).map ArtifactEntry.gist =
          (manifest.entries.get? key).map ArtifactEntry.gist := by
  obtain ⟨between, visited, saved⟩ := exists_of_collectBatch collected
  have accounts := (accounts_start before).collectEach c features world
  have none_ : before.AllCollected [] world.disk := nofun
  have rest := allCollected_collectEach none_ c features []
  rw [visited, List.nil_append] at accounts rest
  have rest : batch.AllCollected (features.map (·.key)) later.disk := by
    rw [undisturbed]
    refine allCollected_of_saved rest saved fun key member record path found succeeded own => ?_
    exact apart key path (((accounts.tells key).ready_iff path).mpr ⟨member, record, found, succeeded, own⟩)
  obtain ⟨told, same⟩ := again.collectEach_again features [] rest
  have accounts' := (accounts_start batch).collectEach again features later
  rw [same, List.nil_append] at accounts'
  refine ⟨fun set member record found succeeded => ?_, ⟨again.clock.at later.now, told⟩, ?_, fun key => ?_⟩
  · have collected := rest set.key (List.mem_map_of_mem member) record found
    obtain ⟨path, -, present⟩ := prospect_of_isCollected collected succeeded
    exact ⟨path, present _⟩
  · have unchanged : batch.save later.disk = (.ok (), later.disk) := by
      rw [undisturbed]
      exact BatchStore.save_again saved
    simp only [collectBatch, same, unchanged]
    rfl
  · by_cases member : key ∈ features.map (·.key)
    · exact ((accounts'.tells key).gist member).trans ((accounts.tells key).gist member).symm
    · rw [(accounts'.tells key).unlisted member, (accounts.tells key).unlisted member]

/-- A collector whose service counts the downloads, each of which gives the start of an image. -/
def teller : Collector Unit (fun _ => Unit) Nat where
  backend := {
    submit := fun job => .done (.ok job.key)
    poll := fun _ => .done (.ok .done)
    fetchResult := fun jobId => .done (.ok ⟨"1", jobId, "", "output"⟩)
    download := fun _ => .ask () fun _ => .done (.ok [0xff, 0xd8, 0xff]) }
  service := ⟨fun _ _ now count => ⟨(), now, count + 1⟩⟩
  clock := ⟨⟨0, 0⟩⟩
  imagesDir := ⟨"images"⟩

/-- A store at a path, with a job that succeeded and may have an image. -/
def album (path : Path) (artifact : Option Path) : BatchStore where
  path := some path
  records := [
    { JobRecord.fresh "ada" with status := .succeeded, result := some ⟨"1", "ada", "", "output"⟩, artifact }]

/-- Features of one job that come up twice. -/
def doubled : List FeatureSet := ["ada", "ada"].map fun key => ⟨key, none, key, [], []⟩

/-- The one image is downloaded once. -/
theorem collectBatch_again_teller : ∃ manifest batch left,
    teller.collectBatch (album ⟨"batch.json"⟩ none) doubled ⟨0, ⟨[]⟩, 0⟩ = (.ok manifest, batch, left) ∧ left.state = 1 ∧
      ∃ repeated, teller.collectBatch batch doubled left = (.ok repeated, batch, left) ∧
        (repeated.entries.get? "ada").map ArtifactEntry.gist = some (.inl ⟨"images/ada.jpg"⟩) := by
  have told : (fun first => (first.1.toOption.map ArtifactManifest.entries, first.2.2.state,
      decide (∀ file ∈ first.2.1.files, ¬ first.2.2.disk.SamePlace ⟨"images/ada.jpg"⟩ file)))
        (teller.collectBatch (album ⟨"batch.json"⟩ none) doubled ⟨0, ⟨[]⟩, 0⟩) =
      (some [("ada", .ready ⟨"images/ada.jpg"⟩)], 1, true) := by decide +kernel
  rcases collected : teller.collectBatch (album ⟨"batch.json"⟩ none) doubled ⟨0, ⟨[]⟩, 0⟩ with ⟨e | manifest, batch, left⟩
  · simp [collected, Except.toOption] at told
  · simp only [collected, Except.toOption, Option.map_some, Prod.mk.injEq, Option.some.injEq,
      decide_eq_true_eq] at told
    obtain ⟨entries, once, apart⟩ := told
    have apart (key : String) (path : Path) (listed : manifest.entries.get? key = some (.ready path)) :
        ∀ file ∈ batch.files, ¬ left.disk.SamePlace path file := by
      have member := Entries.mem_of_get? listed
      rw [entries] at member
      cases List.mem_singleton.mp member
      exact apart
    obtain ⟨-, repeated, again, gist⟩ := collectBatch_again collected apart teller left rfl
    refine ⟨manifest, batch, left, rfl, once, repeated, again, ?_⟩
    rw [gist, entries]
    rfl

/-- Whether a second collection makes a download can be computed. -/
theorem exists_of_count {store : BatchStore} {disk : Disk}
    (told : (fun first => (first.1.toOption.isSome,
      decide (first.2.2.state < (teller.collectBatch first.2.1 doubled first.2.2).2.2.state)))
        (teller.collectBatch store doubled ⟨0, disk, 0⟩) = (true, true)) :
    ∃ manifest batch left, teller.collectBatch store doubled ⟨0, disk, 0⟩ = (.ok manifest, batch, left) ∧
      left.state < (teller.collectBatch batch doubled left).2.2.state := by
  rcases collected : teller.collectBatch store doubled ⟨0, disk, 0⟩ with ⟨e | manifest, batch, left⟩
  · simp [collected, Except.toOption] at told
  · rw [collected] at told
    exact ⟨manifest, batch, left, rfl, of_decide_eq_true (Prod.mk.inj told).2⟩

/-- Two stores that are saved over an image, so that the second collection downloads it again: the one goes where the
image went, and the other is written first where the image of its job is. -/
theorem downloads_again :
    ((album ⟨"images/ada.jpg"⟩ none).Distinct ∧ ∃ manifest batch left,
      teller.collectBatch (album ⟨"images/ada.jpg"⟩ none) doubled ⟨0, ⟨[]⟩, 0⟩ = (.ok manifest, batch, left) ∧
        left.state < (teller.collectBatch batch doubled left).2.2.state) ∧
    (album ⟨"batch.json"⟩ (some ⟨"batch.json.tmp"⟩)).Distinct ∧ ∃ manifest batch left,
      teller.collectBatch (album ⟨"batch.json"⟩ (some ⟨"batch.json.tmp"⟩)) doubled
          ⟨0, ⟨[(["batch.json.tmp"], .file [0xff, 0xd8, 0xff])]⟩, 0⟩ = (.ok manifest, batch, left) ∧
        left.state < (teller.collectBatch batch doubled left).2.2.state := by
  have distinct (path : Path) (artifact : Option Path) : (album path artifact).Distinct := by
    simp [BatchStore.Distinct, album]
  exact ⟨⟨distinct _ _, exists_of_count (by decide +kernel)⟩, distinct _ _, exists_of_count (by decide +kernel)⟩

end Collector

end ImageBatch
