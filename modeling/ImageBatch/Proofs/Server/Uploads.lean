import ImageBatch.Proofs.Server.Races
import ImageBatch.Proofs.Server.Traffic
import ImageBatch.Proofs.Template.Filling

/-!
How often a file is uploaded.

A submit asks whether a file has been uploaded before it uploads the file, and has that recorded afterwards. In between
other submits may ask as well. So no submit uploads a file twice, and a second one does so only if it asked before the
first one had the file recorded (`Traffic.uploads_race`). That does happen: two submits that ask one after the other and
then upload the file do so both (`Traffic.uploads_twice`).
-/

namespace ImageBatch.Server.Traffic

variable {ι : Type} [DecidableEq ι] {c : Connection} {jobs : ι → ResolvedJob} {log : Log ι}
  {rest : ι → Work (Except BackendError String)}

/-- A submit that uploads a file was about to send that file. -/
theorem exists_account_of_uploads {entry : ι × Exchange Ask Answer} {i : ι} {path : Path} {bytes : Bytes}
    {answer : Except TransportError Response} (traffic : Traffic c jobs (entry :: log) rest)
    (uploads : Uploads c i path bytes answer (entry :: log)) :
    ∃ bytes' url later, Account c (jobs i) i log (.sends path bytes' url later) := by
  cases uploads with
  | intro address contents =>
      cases traffic with
      | answers before _ asks answer =>
          obtain ⟨phase, submits, account⟩ := before.accounts i
          obtain ⟨phase', step, -⟩ := submits.asks asks answer
          obtain ⟨path', bytes', url', later, rfl⟩ := step.eq_of_upload rfl
          obtain ⟨readAt, cameAt, earlier, also⟩ := account.sends _ _ _ _ rfl
          cases contents.symm.trans also
          exact ⟨_, url', later, account⟩

/-- A submit that has uploaded a file with success has had that recorded, or asks for that next, or has failed. A submit
uploads a file that has been uploaded with success only if that was done by another submit, and if it was told before
that the file was not recorded, which was so at that time. -/
theorem uploads_race (traffic : Traffic c jobs log rest) :
    (∀ i path, HasUploaded c i path log →
      Asked i (.markUploaded path) log ∨ (∃ next, rest i = .ask (.markUploaded path) next) ∨
        ∃ e, rest i = .done (.error e)) ∧
    ∀ j again bytes answer entry before, entry :: before <:+ log → Uploads c j again bytes answer (entry :: before) →
      ∀ i path, HasUploaded c i path before → path.sameAs again = true →
        i ≠ j ∧ ∃ askedAt comesAt earlier, (j, ⟨.isUploaded again, false, askedAt, comesAt⟩) :: earlier <:+ before ∧
          ∀ known ∈ recordedFiles earlier, known.sameAs again = false := by
  constructor
  · intro i path uploaded
    obtain ⟨phase, submits, account⟩ := traffic.accounts i
    obtain asked | ⟨later, rfl⟩ | rfl := account.recorded path uploaded
    · exact .inl asked
    · exact .inr (.inl (submits.exists_asks rfl))
    · generalize rest i = left at submits
      cases submits
      exact .inr (.inr ⟨_, rfl⟩)
  · intro j again bytes answer entry before suffix uploads i path uploaded same
    obtain ⟨rest', traffic⟩ := traffic.exists_of_suffix suffix
    obtain ⟨bytes', url, later, account⟩ := traffic.exists_account_of_uploads uploads
    obtain ⟨⟨askedAt, comesAt, earlier, told, new⟩, unrecorded⟩ := account.trying again rfl
    refine ⟨?_, askedAt, comesAt, earlier, told, new⟩
    rintro rfl
    obtain asked | ⟨_, ⟨⟩⟩ | ended := account.recorded path uploaded
    · cases same.symm.trans (unrecorded path asked)
    · cases ended

/-! ### Two portraits -/

/-- The features of a portrait. -/
def portraitFeatures (image : Path) : FeatureSet :=
  .ofValues "ada" [("image", .path image), ("prompt", .text "a fox")]

/-- The slot of the image. -/
def portraitImage : Slot := ⟨"1", "image", "image", .image, false, none, none, none⟩

section Portrait

variable {name : String}

theorem portraitImage_outcome {image : Path} (given : image.fileName? = some name) :
    WorkflowTemplate.portrait.outcome (portraitFeatures image) portraitImage =
      .bound { value := .text name, upload := some image } .feature := by
  have makes : portraitImage.Makes (.path image) { value := .text name, upload := some image } := .file rfl given
  exact WorkflowTemplate.outcome_eq_bound.mpr (.inl ⟨.path image, rfl, Slot.bindFeature_eq_ok.mpr makes, rfl⟩)

/-- A portrait of an image uploads it, and shows what has its name. -/
theorem exists_portrait (image : Path) (given : image.fileName? = some name) :
    ∃ job, WorkflowTemplate.portrait.resolve (portraitFeatures image) = .ok job ∧ job.uploads = [image] ∧
      job.graph.at? portraitImage.ref.path = some (.text name) := by
  have outcomes : WorkflowTemplate.portrait.outcomes (portraitFeatures image) = [
      (⟨"2", "text", "prompt", .text, true, none, none, none⟩, .bound { value := .text "a fox" } .feature),
      (portraitImage, .bound { value := .text name, upload := some image } .feature),
      (⟨"2", "steps", "steps", .integer, false, some (.integer 20), none, none⟩,
        .bound { value := .integer 20 } .default)] := by
    rw [← portraitImage_outcome given]
    rfl
  obtain ⟨job, resolved, uploads⟩ : ∃ job, WorkflowTemplate.portrait.resolve (portraitFeatures image) = .ok job ∧
      job.uploads = [image] := by
    unfold WorkflowTemplate.resolve
    rw [outcomes]
    exact ⟨_, rfl, rfl⟩
  have member : portraitImage ∈ WorkflowTemplate.portrait.slots := .tail _ (.head _)
  obtain ⟨bound, source, also, inGraph, -⟩ :=
    WorkflowTemplate.exists_bound_of_resolve WorkflowTemplate.ofJson_portrait resolved member
  obtain ⟨rfl, -⟩ := SlotOutcome.bound.inj ((portraitImage_outcome given).symm.trans also)
  exact ⟨job, resolved, uploads, inGraph⟩

end Portrait

/-- The answer of the service when it has taken a file. -/
def takenFile : Response := ⟨200, Text.toBytes "\x7b\"name\":\"x.png\"\x7d"⟩

theorem exists_read_takenFile : ∃ name, Document.read? asUpload takenFile.body = some name :=
  Option.isSome_iff_exists.mp (by decide +kernel)

theorem desk_url {path : String}
    (address : (Connection.desk.client.url path).toOption = some (Connection.deskUrl path)) :
    Connection.desk.client.url path = .ok (Connection.deskUrl path) := by
  cases given : Connection.desk.client.url path with
  | ok url =>
      rw [given] at address
      exact congrArg Except.ok (Option.some.inj address)
  | error e =>
      rw [given] at address
      cases address

theorem desk_upload_url : Connection.desk.client.url "/upload/image" = .ok (Connection.deskUrl "/upload/image") :=
  desk_url (by decide +kernel)

/-- Two submits of one file ask about it, and then each of them uploads it. -/
theorem exists_desk_uploads {job : ResolvedJob} {path : Path} (uploads : job.uploads = [path]) :
    ∃ entry before rest, Traffic Connection.desk (fun _ : Bool => job) (entry :: before) rest ∧
      HasUploaded Connection.desk false path before ∧
      ∃ bytes answer, Uploads Connection.desk true path bytes answer (entry :: before) ∧ Succeeds answer := by
  have askable : (Connection.deskUrl "/upload/image").isAskable = true := by decide +kernel
  obtain ⟨name, readable⟩ := exists_read_takenFile
  have submits : Submits Connection.desk job (.checks path []) (Connection.desk.submit job) := .begun _ uploads
  have traffic : Traffic Connection.desk (fun _ : Bool => job) [] fun _ => Connection.desk.submit job := .begun
  obtain ⟨rest, reads, others, traffic⟩ := traffic.exists_unknown (i := false) submits rfl
  have asks : Submits Connection.desk job (.checks path []) (rest true) := others true (by decide) ▸ submits
  obtain ⟨rest, readsToo, others, traffic⟩ := traffic.exists_unknown (i := true) asks rfl
  rw [← others false (by decide)] at reads
  obtain ⟨rest, -, others, traffic⟩ := traffic.exists_uploads reads desk_upload_url askable rfl readable []
  rw [← others true (by decide)] at readsToo
  obtain ⟨rest, -, -, traffic⟩ := traffic.exists_uploads readsToo desk_upload_url askable rfl readable []
  have success : Succeeds (.ok takenFile) := ⟨takenFile, rfl, rfl⟩
  refine ⟨_, _, rest, traffic, ⟨[], _, _, List.suffix_cons .., ?_, success⟩, [], _, ?_, success⟩
  · exact uploads_cons_cons desk_upload_url
  · exact uploads_cons_cons desk_upload_url

/-- The submits of two jobs with one image both upload it with success. -/
theorem uploads_twice : ∃ job, WorkflowTemplate.portrait.resolve (portraitFeatures ⟨"fox/x.png"⟩) = .ok job ∧
    ∃ entry before rest, Traffic Connection.desk (fun _ : Bool => job) (entry :: before) rest ∧
      HasUploaded Connection.desk false ⟨"fox/x.png"⟩ before ∧
      ∃ bytes answer, Uploads Connection.desk true ⟨"fox/x.png"⟩ bytes answer (entry :: before) ∧ Succeeds answer := by
  obtain ⟨job, resolved, uploads, -⟩ := exists_portrait ⟨"fox/x.png"⟩ rfl
  exact ⟨job, resolved, exists_desk_uploads uploads⟩

/-- The second one had asked before the first one had the upload recorded. -/
theorem uploads_race_desk : ∃ job, WorkflowTemplate.portrait.resolve (portraitFeatures ⟨"fox/x.png"⟩) = .ok job ∧
    ∃ before rest, Traffic Connection.desk (fun _ : Bool => job) before rest ∧
      HasUploaded Connection.desk false ⟨"fox/x.png"⟩ before ∧
      ∃ askedAt comesAt earlier, (true, ⟨.isUploaded ⟨"fox/x.png"⟩, false, askedAt, comesAt⟩) :: earlier <:+ before ∧
        ∀ known ∈ recordedFiles earlier, known.sameAs ⟨"fox/x.png"⟩ = false := by
  obtain ⟨job, resolved, uploads, -⟩ := exists_portrait ⟨"fox/x.png"⟩ rfl
  obtain ⟨entry, before, rest, traffic, first, bytes, answer, second, -⟩ := exists_desk_uploads uploads
  obtain ⟨-, race⟩ := traffic.uploads_race
  obtain ⟨-, told⟩ := race true _ bytes answer entry before List.suffix_rfl second false _ first (beq_self_eq_true _)
  obtain ⟨rest, traffic⟩ := traffic.exists_of_suffix (List.suffix_cons ..)
  exact ⟨job, resolved, before, rest, traffic, first, told⟩

end ImageBatch.Server.Traffic
