import ImageBatch.Proofs.Server.Uploads

/-!
What the service keeps when a graph is handed over.

The service keeps a file under its name, and a later file of that name takes its place (`Keeps`). When a submit hands
over its graph, each file of the job has been uploaded, so under its name the service keeps that file, or another file
of the name (`Traffic.posts_with_files`). The other one may well come from another folder: then the job reads the image
of another one (`Traffic.posts_with_another`).
-/

namespace ImageBatch.Server

variable {ι : Type} [DecidableEq ι]

/-- The files that the service keeps: under each name the path from which it came, and the contents. -/
abbrev Shelf := String → Option (Path × Bytes)

/-- The service keeps a file under its name, in place of the file that was there. If it does not answer with success, it
may have kept the file or not. -/
inductive Keeps (c : Connection) : Log ι → Shelf → Prop where
  | nothing : Keeps c [] fun _ => none
  | stores {log shelf entry i path bytes answer} (before : Keeps c log shelf)
      (uploads : Uploads c i path bytes answer (entry :: log)) :
      Keeps c (entry :: log) (Function.update shelf (uploadName path) (some (path, bytes)))
  | passes {log shelf entry} (before : Keeps c log shelf)
      (other : ∀ i path bytes answer, Uploads c i path bytes answer (entry :: log) → ¬ Succeeds answer) :
      Keeps c (entry :: log) shelf

section Keeps

variable {c : Connection} {log : Log ι} {shelf : Shelf} {i j : ι} {path other : Path} {bytes bytes' : Bytes}
  {answer answer' : Except TransportError Response}

/-- What is sent was read just before. -/
theorem Uploads.exists_contents (uploads : Uploads c i path bytes answer log) :
    ∃ exchange before readAt cameAt earlier, log = (i, exchange) :: before ∧
      own i before = ⟨.read path, (.ok bytes : Except IoError Bytes), readAt, cameAt⟩ :: earlier := by
  cases uploads with
  | intro address contents => exact ⟨_, _, _, _, _, rfl, contents⟩

/-- An exchange is the upload of one file. -/
theorem Uploads.unique (uploads : Uploads c i path bytes answer log) (also : Uploads c j other bytes' answer' log) :
    other = path := by
  obtain ⟨exchange, before, _, _, _, rfl, contents⟩ := uploads.exists_contents
  obtain ⟨_, _, _, _, _, ⟨⟩, contents'⟩ := also.exists_contents
  cases contents.symm.trans contents'
  rfl

/-- There is something the service may keep. -/
theorem exists_keeps (c : Connection) (log : Log ι) : ∃ shelf, Keeps c log shelf := by
  induction log with
  | nil => exact ⟨_, .nothing⟩
  | cons entry log ih =>
      obtain ⟨shelf, keeps⟩ := ih
      by_cases uploads : ∃ i path bytes answer, Uploads c i path bytes answer (entry :: log)
      · obtain ⟨i, path, bytes, answer, uploads⟩ := uploads
        exact ⟨_, keeps.stores uploads⟩
      · refine ⟨shelf, keeps.passes ?_⟩
        intro i path bytes answer given
        exact absurd ⟨i, path, bytes, answer, given⟩ uploads

/-- Under the name of a file that was uploaded there is some file. -/
theorem Keeps.exists_of_hasUploaded (keeps : Keeps c log shelf) (uploaded : HasUploaded c i path log) :
    ∃ kept, shelf (uploadName path) = some kept := by
  induction keeps with
  | nothing =>
      obtain ⟨bytes, answer, first, within, uploads, -⟩ := uploaded
      cases List.suffix_nil.mp within
      cases uploads
  | @stores log shelf entry j other bytes' answer' before uploads ih =>
      by_cases same : uploadName path = uploadName other
      · exact ⟨_, by rw [same, Function.update_self]⟩
      · rw [Function.update_of_ne same]
        obtain ⟨bytes, answer, also, -⟩ | uploaded := hasUploaded_cons.mp uploaded
        · exact absurd (congrArg uploadName (uploads.unique also)) same
        · exact ih uploaded
  | passes before other ih =>
      obtain ⟨bytes, answer, uploads, success⟩ | uploaded := hasUploaded_cons.mp uploaded
      · exact absurd success (other i path bytes answer uploads)
      · exact ih uploaded

/-- What the service keeps under a name is a file of that name that was sent. -/
theorem Keeps.exists_uploads (keeps : Keeps c log shelf) {name : String} (there : shelf name = some (path, bytes)) :
    uploadName path = name ∧ ∃ i answer first, first <:+ log ∧ Uploads c i path bytes answer first := by
  induction keeps with
  | nothing => cases there
  | @stores log shelf entry j other bytes' answer' before uploads ih =>
      by_cases same : name = uploadName other
      · rw [same, Function.update_self] at there
        cases there
        exact ⟨same.symm, j, answer', _, List.suffix_rfl, uploads⟩
      · rw [Function.update_of_ne same] at there
        obtain ⟨named, i, answer, first, within, sent⟩ := ih there
        exact ⟨named, i, answer, first, within.trans (List.suffix_cons ..), sent⟩
  | passes before other ih =>
      obtain ⟨named, i, answer, first, within, sent⟩ := ih there
      exact ⟨named, i, answer, first, within.trans (List.suffix_cons ..), sent⟩

end Keeps

/-- A job that was built from a template that was accepted. -/
def Arises (job : ResolvedJob) : Prop :=
  ∃ value template features, WorkflowTemplate.ofJson value = .ok template ∧ template.resolve features = .ok job

/-- Under the name of a file the service keeps a file with the contents that a submit read. It is that file, or another
file of the name that some job uploads. -/
def Finds (jobs : ι → ResolvedJob) (log : Log ι) (shelf : Shelf) (path : Path) (name : String) : Prop :=
  ∃ kept bytes, shelf name = some (kept, bytes) ∧
    (∃ j readAt cameAt, ⟨.read kept, (.ok bytes : Except IoError Bytes), readAt, cameAt⟩ ∈ own j log) ∧
    (kept.sameAs path = true ∨
      kept.sameAs path = false ∧ kept.fileName? = some name ∧ ∃ j, kept ∈ (jobs j).uploads)

theorem Finds.of_sameAs {jobs : ι → ResolvedJob} {log : Log ι} {shelf : Shelf} {path other : Path} {name : String}
    (finds : Finds jobs log shelf path name) (same : path.sameAs other = true) : Finds jobs log shelf other name := by
  obtain ⟨kept, bytes, there, read, which⟩ := finds
  have alike : kept.sameAs other = kept.sameAs path := by
    unfold Path.sameAs
    rw [Path.sameAs_iff.mp same]
  refine ⟨kept, bytes, there, read, ?_⟩
  rw [alike]
  exact which

namespace Traffic

variable {c : Connection} {jobs : ι → ResolvedJob} {log : Log ι} {rest : ι → Work (Except BackendError String)}
  {shelf : Shelf}

theorem mem_own_of_suffix {first : Log ι} {exchange : Exchange Ask Answer} {i : ι} (within : first <:+ log)
    (member : exchange ∈ own i first) : exchange ∈ own i log :=
  ((within.filter _).map _).subset member

/-- What the service keeps under a name is a file of some job, with the contents that were read of it. -/
theorem exists_of_keeps (traffic : Traffic c jobs log rest) (keeps : Keeps c log shelf) {name : String} {kept : Path}
    {bytes : Bytes} (there : shelf name = some (kept, bytes)) :
    uploadName kept = name ∧
      (∃ j readAt cameAt, ⟨.read kept, (.ok bytes : Except IoError Bytes), readAt, cameAt⟩ ∈ own j log) ∧
      ∃ j, kept ∈ (jobs j).uploads := by
  obtain ⟨named, j, answer, first, within, uploads⟩ := keeps.exists_uploads there
  obtain ⟨exchange, before, readAt, cameAt, earlier, rfl, contents⟩ := uploads.exists_contents
  have read : (⟨.read kept, (.ok bytes : Except IoError Bytes), readAt, cameAt⟩ : Exchange Ask Answer) ∈ own j before :=
    contents ▸ List.mem_cons_self
  have member := mem_own_of_suffix ((List.suffix_cons _ _).trans within) read
  obtain ⟨phase, -, account⟩ := traffic.accounts j
  exact ⟨named, ⟨j, readAt, cameAt, member⟩, j, account.reads kept ⟨_, member, rfl⟩⟩

/-- When a submit hands over its graph, each of its files has been uploaded. -/
theorem exists_known (traffic : Traffic c jobs log rest) {i : ι} {request : Request} {body : Json}
    {next : Answer (.send request) → Work (Except BackendError String)} (posts : rest i = .ask (.send request) next)
    (graph : request.payload = .json body) {path : Path} (member : path ∈ (jobs i).uploads) :
    ∃ known j, known.sameAs path = true ∧ HasUploaded c j known log := by
  obtain ⟨phase, submits, account⟩ := traffic.accounts i
  obtain ⟨phase', step, -⟩ := submits.asks posts (.error .noAddress : Except TransportError Response)
  obtain rfl := step.eq_of_graph rfl graph
  obtain remains | ⟨known, recorded, same⟩ := account.settled.resolve_left (by simp) path member
  · cases remains
  · obtain ⟨j, asked⟩ := mem_recordedFiles.mp recorded
    obtain ⟨phase, -, account⟩ := traffic.accounts j
    exact ⟨known, j, same, account.uploaded known (.inr asked)⟩

/-- When a submit hands over its graph, the service keeps, under the name of each file of the job, that file or another
one of the name that some job uploads. So an image slot that was given a file has the name of what the service keeps of
that file, unless another file of the name has taken its place. -/
theorem posts_with_files (traffic : Traffic c jobs log rest) (keeps : Keeps c log shelf) (arise : ∀ j, Arises (jobs j))
    {i : ι} {request : Request} {body : Json} {next : Answer (.send request) → Work (Except BackendError String)}
    (posts : rest i = .ask (.send request) next) (graph : request.payload = .json body) :
    (∀ path ∈ (jobs i).uploads, ∃ name, path.fileName? = some name ∧ Finds jobs log shelf path name) ∧
    ∀ value template features, WorkflowTemplate.ofJson value = .ok template →
      template.resolve features = .ok (jobs i) →
      ∀ slot ∈ template.slots, ∀ path, slot.localFile? features = some path →
        ∃ name, (jobs i).graph.at? slot.ref.path = some (.text name) ∧ path.fileName? = some name ∧
          Finds jobs log shelf path name := by
  have named {j : ι} {path : Path} (member : path ∈ (jobs j).uploads) : ∃ name, path.fileName? = some name := by
    obtain ⟨value, template, features, -, resolved⟩ := arise j
    exact WorkflowTemplate.exists_fileName_of_mem_uploads resolved member
  have finds {path : Path} {name : String} (member : path ∈ (jobs i).uploads) (given : path.fileName? = some name) :
      Finds jobs log shelf path name := by
    obtain ⟨known, j, same, uploaded⟩ := traffic.exists_known posts graph member
    have name_eq : uploadName known = name := by
      rw [uploadName, Path.fileName?_of_sameAs same, given, Option.getD_some]
    obtain ⟨⟨kept, bytes⟩, there⟩ := keeps.exists_of_hasUploaded uploaded
    rw [name_eq] at there
    obtain ⟨kept_name, read, k, inUploads⟩ := traffic.exists_of_keeps keeps there
    refine ⟨kept, bytes, there, read, ?_⟩
    cases alike : kept.sameAs path with
    | true => exact .inl rfl
    | false =>
        obtain ⟨own_name, kept_given⟩ := named inUploads
        rw [uploadName, kept_given, Option.getD_some] at kept_name
        exact .inr ⟨rfl, kept_name ▸ kept_given, k, inUploads⟩
  constructor
  · intro path member
    obtain ⟨name, given⟩ := named member
    exact ⟨name, given, finds member given⟩
  · intro value template features accepted resolved slot member path localFile
    obtain ⟨bound, source, outcome, inGraph, uploads, -⟩ :=
      WorkflowTemplate.exists_bound_of_resolve accepted resolved member
    have upload := (WorkflowTemplate.upload_of_outcome outcome).trans localFile
    obtain ⟨name, given, value_eq⟩ := WorkflowTemplate.exists_fileName_of_outcome outcome upload
    obtain ⟨kept, inUploads, same⟩ := uploads path upload
    rw [value_eq] at inGraph
    have kept_given := (Path.fileName?_of_sameAs same).trans given
    exact ⟨name, inGraph, given, (finds inUploads kept_given).of_sameAs same⟩

/-! ### Two files of one name -/

/-- A file that has just been settled is kept under its name. -/
theorem exists_keeps_settling (i : ι) (path : Path) (bytes : Bytes) (response : Response) (log : Log ι) {url : Url}
    (address : c.client.url "/upload/image" = .ok url) :
    ∃ shelf, Keeps c (settling i path bytes url response log) shelf ∧ shelf (uploadName path) = some (path, bytes) := by
  obtain ⟨shelf, keeps⟩ := exists_keeps c
    ((i, ⟨.read path, (.ok bytes : Except IoError Bytes), 0, 0⟩) :: (i, ⟨.isUploaded path, false, 0, 0⟩) :: log)
  refine ⟨_, .passes (keeps.stores (uploads_cons_cons address)) ?_, Function.update_self ..⟩
  -- To have a file recorded is not to upload it.
  rintro _ _ _ _ ⟨⟩

/-- A portrait of a fox and one of an owl, whose images have one name: both images are uploaded, and then the portrait
of the fox is handed over. -/
theorem exists_desk_posts : ∃ jobs : Bool → ResolvedJob,
    WorkflowTemplate.portrait.resolve (portraitFeatures ⟨"fox/x.png"⟩) = .ok (jobs false) ∧
    WorkflowTemplate.portrait.resolve (portraitFeatures ⟨"owl/x.png"⟩) = .ok (jobs true) ∧
    ∃ log rest shelf body next, Traffic Connection.desk jobs log rest ∧ Keeps Connection.desk log shelf ∧
      rest false = .ask (.send ⟨.post, Connection.deskUrl "/prompt", .json body⟩) next ∧
      shelf "x.png" = some (⟨"owl/x.png"⟩, []) := by
  obtain ⟨fox, fox_resolved, fox_uploads, -⟩ := exists_portrait ⟨"fox/x.png"⟩ rfl
  obtain ⟨owl, owl_resolved, owl_uploads, -⟩ := exists_portrait ⟨"owl/x.png"⟩ rfl
  let jobs (i : Bool) : ResolvedJob := if i then owl else fox
  have upload_askable : (Connection.deskUrl "/upload/image").isAskable = true := by decide +kernel
  have askable : (Connection.deskUrl "/prompt").isAskable = true := by decide +kernel
  have address : Connection.desk.client.url "/prompt" = .ok (Connection.deskUrl "/prompt") :=
    desk_url (by decide +kernel)
  obtain ⟨name, readable⟩ := exists_read_takenFile
  have traffic : Traffic Connection.desk jobs [] fun i => Connection.desk.submit (jobs i) := .begun
  obtain ⟨rest, settled, others, traffic⟩ := traffic.exists_settles (i := false) (.begun _ fox_uploads) rfl
    desk_upload_url upload_askable rfl readable []
  have asks : Submits Connection.desk (jobs true) (.checks ⟨"owl/x.png"⟩ []) (rest true) :=
    others true (by decide) ▸ .begun _ owl_uploads
  obtain ⟨rest, -, others, traffic⟩ := traffic.exists_settles asks rfl desk_upload_url upload_askable rfl readable []
  rw [← others false (by decide)] at settled
  obtain ⟨rest, body, next, posts, traffic⟩ := traffic.exists_posts settled address askable
  let url := Connection.deskUrl "/upload/image"
  obtain ⟨shelf, keeps, kept⟩ := exists_keeps_settling true ⟨"owl/x.png"⟩ [] takenFile
    (settling false ⟨"fox/x.png"⟩ [] url takenFile []) desk_upload_url
  refine ⟨jobs, fox_resolved, owl_resolved, _, rest, shelf, body, next, traffic, keeps.passes ?_, posts, kept⟩
  -- Nor is it to ask for a name.
  rintro _ _ _ _ ⟨⟩

/-- The portrait of the fox is handed over when the service keeps the image of the owl under the name that it shows. -/
theorem posts_with_another : ∃ jobs : Bool → ResolvedJob,
    WorkflowTemplate.portrait.resolve (portraitFeatures ⟨"fox/x.png"⟩) = .ok (jobs false) ∧
    WorkflowTemplate.portrait.resolve (portraitFeatures ⟨"owl/x.png"⟩) = .ok (jobs true) ∧
    ⟨"fox/x.png"⟩ ∈ (jobs false).uploads ∧ (jobs false).graph.at? portraitImage.ref.path = some (.text "x.png") ∧
    ∃ log rest shelf request body next, Traffic Connection.desk jobs log rest ∧ Keeps Connection.desk log shelf ∧
      rest false = .ask (.send request) next ∧ request.payload = .json body ∧
      Connection.desk.client.url "/prompt" = .ok request.url ∧
      ∃ kept bytes, shelf "x.png" = some (kept, bytes) ∧ kept.sameAs ⟨"fox/x.png"⟩ = false := by
  obtain ⟨jobs, fox, owl, log, rest, shelf, body, next, traffic, keeps, posts, kept⟩ := exists_desk_posts
  obtain ⟨job, resolved, uploads, shows⟩ := exists_portrait ⟨"fox/x.png"⟩ rfl
  obtain rfl := Except.ok.inj (fox.symm.trans resolved)
  refine ⟨jobs, fox, owl, ?_, shows, log, rest, shelf, _, body, next, traffic, keeps, posts, rfl, ?_, _, _, kept, rfl⟩
  · rw [uploads]
    exact List.mem_cons_self
  · exact desk_url (by decide +kernel)

/-- What is kept under that name is an image of that name which one of the two portraits uploads. -/
theorem posts_with_files_desk : ∃ jobs : Bool → ResolvedJob,
    WorkflowTemplate.portrait.resolve (portraitFeatures ⟨"fox/x.png"⟩) = .ok (jobs false) ∧
    WorkflowTemplate.portrait.resolve (portraitFeatures ⟨"owl/x.png"⟩) = .ok (jobs true) ∧
    ∃ log rest shelf request body next, Traffic Connection.desk jobs log rest ∧ Keeps Connection.desk log shelf ∧
      rest false = .ask (.send request) next ∧ request.payload = .json body ∧
      ∃ name, (jobs false).graph.at? portraitImage.ref.path = some (.text name) ∧
        Finds jobs log shelf ⟨"fox/x.png"⟩ name := by
  obtain ⟨jobs, fox, owl, log, rest, shelf, body, next, traffic, keeps, posts, -⟩ := exists_desk_posts
  have arise : ∀ i, Arises (jobs i)
    | false => ⟨_, _, _, WorkflowTemplate.ofJson_portrait, fox⟩
    | true => ⟨_, _, _, WorkflowTemplate.ofJson_portrait, owl⟩
  obtain ⟨-, shown⟩ := traffic.posts_with_files keeps arise posts rfl
  have member : portraitImage ∈ WorkflowTemplate.portrait.slots := .tail _ (.head _)
  obtain ⟨name, inGraph, -, finds⟩ := shown _ _ _ WorkflowTemplate.ofJson_portrait fox _ member ⟨"fox/x.png"⟩ rfl
  exact ⟨jobs, fox, owl, log, rest, shelf, _, body, next, traffic, keeps, posts, rfl, name, inGraph, finds⟩

end Traffic

end ImageBatch.Server
