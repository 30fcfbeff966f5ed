import ImageBatch.Proofs.File.Following

/-!
Making folders.

On a disk that is a tree everything stands in a folder; writing, moving and making folders keep it one
(`OnDisk.isTree_write`, `OnDisk.isTree_rename`). While folders are made nothing goes and no file comes (`Disk.Grows`),
so a path that leads to a file does so as before. A path that found nothing may come to find a file, but only one that
stood there all along, and only if it goes up out of a folder that was not there (`Disk.Grows.sameFile`).
-/

namespace ImageBatch

namespace Disk

variable {disk disk' disk'' : Disk} {at_ folder : Location} {name : String} {node : Node} {path : Path} {bytes : Bytes}

/-! ### Trees -/

/-- Everything stands in a folder. -/
def IsTree (disk : Disk) : Prop :=
  ∀ at_ name node, disk.node? (at_ ++ [name]) = some node → disk.node? at_ = some .folder

/-- What something stands in, at whatever depth, is a folder. -/
theorem IsTree.folder_of_append (tree : disk.IsTree) {more : Location} (some_ : more ≠ [])
    (there : disk.node? (at_ ++ more) = some node) : disk.node? at_ = some .folder := by
  induction more generalizing at_ with
  | nil => exact absurd rfl some_
  | cons name rest ih =>
      rw [List.append_cons] at there
      cases rest with
      | nil => exact tree at_ name node (by simpa using there)
      | cons next more => exact tree at_ name .folder (ih (by simp) there)

/-- A folder or a file may be put into a folder, where no folder stands. -/
theorem IsTree.put (tree : disk.IsTree) (inside : disk.node? folder = some .folder)
    (noFolder : disk.node? (folder ++ [name]) ≠ some .folder) (node : Node) :
    (disk.put (folder ++ [name]) node).IsTree := by
  have stays := foldersStay_put node noFolder
  intro at_ other old there
  rw [node?_put _ (by simp)] at there
  split at there
  next same =>
      obtain rfl := List.append_inj_left' same rfl
      exact stays _ inside
  next => exact stays _ (tree at_ other old there)

/-- A file may be taken away. -/
theorem IsTree.remove (tree : disk.IsTree) (file : disk.node? at_ = some (.file bytes)) : (disk.remove at_).IsTree := by
  have stays : FoldersStay disk (disk.remove at_) := foldersStay_remove (by simp [file])
  intro inside name node there
  rw [node?_remove, if_neg (by simp)] at there
  split at there
  · cases there
  · exact stays _ (tree inside name node there)

theorem IsTree.enter (tree : disk.IsTree) {start next : Location} {segment : String}
    (begun : disk.node? start = some .folder) (entered : disk.enter start segment = .ok next) :
    disk.node? next = some .folder := by
  rcases enter_eq_ok.mp entered with ⟨-, rfl⟩ | ⟨-, below, rfl⟩ | ⟨-, -, -, -, -, inside⟩
  · exact begun
  · rw [← List.dropLast_concat_getLast below] at begun
    exact tree _ _ _ begun
  · exact inside

/-- Segments lead from a folder to a folder. -/
theorem IsTree.walk (tree : disk.IsTree) {segments : List String} {start : Location}
    (begun : disk.node? start = some .folder) (walked : segments.foldlM disk.enter start = .ok folder) :
    disk.node? folder = some .folder := by
  induction segments generalizing start with
  | nil =>
      cases walked
      exact begun
  | cons segment rest ih =>
      obtain ⟨next, entered, walked⟩ := walk_cons.mp walked
      exact ih (tree.enter begun entered) walked

/-- A path that leads to an entry leads to a folder first. -/
theorem IsTree.folder_of_locate (tree : disk.IsTree) {asFolder : Bool}
    (located : disk.locate path = .ok (.entry folder name, asFolder)) : disk.node? folder = some .folder := by
  obtain ⟨init, -, walked, -⟩ := follow_eq_entry.mp (follow_of_locate located)
  exact tree.walk rfl walked

/-! ### Growth -/

/-- Only folders were made, and in folders. -/
structure Grows (disk disk' : Disk) : Prop where
  kept : ∀ at_ node, disk.node? at_ = some node → disk'.node? at_ = some node
  files : ∀ at_ bytes, disk'.node? at_ = some (.file bytes) → disk.node? at_ = some (.file bytes)
  isTree : disk.IsTree → disk'.IsTree

theorem Grows.refl (disk : Disk) : Grows disk disk := ⟨fun _ _ there => there, fun _ _ there => there, id⟩

theorem Grows.trans (first : Grows disk disk') (second : Grows disk' disk'') : Grows disk disk'' :=
  ⟨fun at_ node there => second.kept at_ node (first.kept at_ node there),
    fun at_ bytes there => first.files at_ bytes (second.files at_ bytes there), second.isTree ∘ first.isTree⟩

theorem Grows.foldersStay (grows : Grows disk disk') : FoldersStay disk disk' := fun at_ => grows.kept at_ .folder

/-- A folder may be made where a path leads and nothing is. -/
theorem grows_put {asFolder : Bool} (located : disk.locate path = .ok (.entry folder name, asFolder))
    (absent : disk.node? (folder ++ [name]) = none) : Grows disk (disk.put (folder ++ [name]) .folder) where
  kept other node there := by
    rw [node?_put _ (by simp), if_neg]
    · exact there
    · rintro rfl
      cases absent.symm.trans there
  files other bytes there := by
    rw [node?_put _ (by simp)] at there
    split at there
    · cases there
    · exact there
  isTree tree := tree.put (tree.folder_of_locate located) (by simp [absent]) .folder

theorem Grows.enter (grows : Grows disk disk') {start next : Location} {segment : String}
    (entered : disk'.enter start segment = .ok next) :
    disk.enter start segment = .ok next ∨ disk.enter start segment = .error .notFound := by
  rcases enter_eq_ok.mp entered with here | up | ⟨named, point, up, short, rfl, inside⟩
  · exact .inl (enter_eq_ok.mpr (.inl here))
  · exact .inl (enter_eq_ok.mpr (.inr (.inl up)))
  · cases there : disk.node? (start ++ [segment]) with
    | none =>
        refine .inr ?_
        simp [Disk.enter, named, point, up, Nat.not_lt.mpr short, there]
    | some node =>
        cases inside.symm.trans (grows.kept _ node there)
        exact .inl (enter_eq_ok.mpr (.inr (.inr ⟨named, point, up, short, rfl, there⟩)))

/-- Segments that lead to an entry once folders were made led there before, or to something missing. -/
theorem Grows.follow (grows : Grows disk disk') {segments : List String} {start : Location}
    (followed : disk'.follow start segments = .ok (.entry folder name)) :
    disk.follow start segments = .ok (.entry folder name) ∨ disk.follow start segments = .error .notFound := by
  induction segments generalizing start with
  | nil => cases followed
  | cons segment rest ih =>
      cases rest with
      | nil =>
          obtain ⟨init, ends, walked, named⟩ := follow_eq_entry.mp followed
          obtain ⟨rfl, -⟩ : init = [] ∧ segment = name := by cases init <;> simp_all
          exact .inl (follow_eq_entry.mpr ⟨[], ends, walked, named⟩)
      | cons next more =>
          simp only [Disk.follow] at followed ⊢
          cases later : disk'.enter start segment with
          | error e => simp [later] at followed
          | ok reached =>
              rw [later] at followed
              rcases grows.enter later with entered | missing
              · rw [entered]
                exact ih followed
              · exact .inr (by rw [missing])

theorem Grows.locate (grows : Grows disk disk') {asFolder : Bool}
    (located : disk'.locate path = .ok (.entry folder name, asFolder)) :
    disk.locate path = .ok (.entry folder name, asFolder) ∨ disk.locate path = .error .notFound := by
  rcases locate_cases path with ⟨e, refused⟩ | ⟨trailing, leads⟩
  · cases (refused disk').symm.trans located
  · have followed := follow_of_locate located
    rw [leads, followed] at located
    rw [leads]
    rcases grows.follow followed with same | missing
    · exact .inl (by rw [same, ← located])
    · exact .inr (by rw [missing]; rfl)

/-- Segments that do not go up lead further down. -/
theorem exists_append_of_walk {segments : List String} {start : Location} (down : ".." ∉ segments)
    (walked : segments.foldlM disk.enter start = .ok folder) : ∃ more, folder = start ++ more := by
  induction segments generalizing start with
  | nil =>
      cases walked
      exact ⟨[], by simp⟩
  | cons segment rest ih =>
      obtain ⟨next, entered, walked⟩ := walk_cons.mp walked
      rw [List.mem_cons, not_or] at down
      obtain ⟨more, rfl⟩ := ih down.2 walked
      rcases enter_eq_ok.mp entered with ⟨-, rfl⟩ | ⟨rfl, -⟩ | ⟨-, -, -, -, rfl, -⟩
      · exact ⟨more, rfl⟩
      · exact absurd rfl down.1
      · exact ⟨segment :: more, by simp⟩

/-- Segments that do not go up lead to a folder that is there, if they lead to it on any disk. -/
theorem IsTree.walk_down (tree : disk.IsTree) {segments : List String} {start : Location} (down : ".." ∉ segments)
    (there : disk.node? folder = some .folder) (walked : segments.foldlM disk'.enter start = .ok folder) :
    segments.foldlM disk.enter start = .ok folder := by
  induction segments generalizing start with
  | nil => exact walked
  | cons segment rest ih =>
      obtain ⟨next, entered, walked⟩ := walk_cons.mp walked
      rw [List.mem_cons, not_or] at down
      refine walk_cons.mpr ⟨next, enter_eq_ok.mpr ?_, ih down.2 walked⟩
      refine (enter_eq_ok.mp entered).imp_right (Or.imp_right fun ⟨named, point, up, short, below, _⟩ => ?_)
      obtain ⟨more, rfl⟩ := exists_append_of_walk down.2 walked
      refine ⟨named, point, up, short, below, ?_⟩
      cases more with
      | nil => simpa using there
      | cons child more => exact tree.folder_of_append (by simp) there

/-- A file that a path finds once folders were made it found before, or the path found nothing: then the file stood
there, and the path goes up, out of a folder that was missing. -/
theorem Grows.lookup (grows : Grows disk disk') (tree : disk.IsTree)
    (found : disk'.lookup path = .ok (at_, .file bytes)) : disk.lookup path = .ok (at_, .file bytes) ∨
      disk.node? at_ = some (.file bytes) ∧ disk.locate path = .error .notFound ∧ ".." ∈ path.segments := by
  obtain ⟨folder, name, located, rfl, there⟩ := lookup_eq_file.mp found
  have stood := grows.files _ bytes there
  rcases grows.locate located with same | missing
  · exact .inl (lookup_eq_file.mpr ⟨folder, name, same, rfl, stood⟩)
  · refine .inr ⟨stood, missing, Decidable.by_contra fun down => ?_⟩
    obtain ⟨init, ends, walked, named⟩ := follow_eq_entry.mp (follow_of_locate located)
    have below : ".." ∉ init := by
      intro up
      have within : ".." ∈ steps path := by simp [ends, up]
      rw [steps, List.mem_reverse] at within
      exact down (List.mem_reverse.mp ((List.dropWhile_sublist _).subset within))
    have before := follow_eq_entry.mpr ⟨init, rfl, tree.walk_down below (tree folder name _ stood) walked, named⟩
    rcases locate_cases path with ⟨e, refused⟩ | ⟨trailing, leads⟩
    · cases (refused disk').symm.trans located
    · rw [leads, ends, before] at missing
      cases missing

/-! ### Contents -/

/-- The contents of the file that a path names, if it names one. -/
def holds? (disk : Disk) (path : Path) : Option Bytes := (disk.read path).toOption

theorem holds?_eq_some : disk.holds? path = some bytes ↔ ∃ at_, disk.lookup path = .ok (at_, .file bytes) := by
  unfold holds? read
  cases disk.lookup path with
  | error e => simp [bind, Except.bind, Except.toOption]
  | ok found =>
      obtain ⟨at_, node⟩ := found
      cases node <;> simp [bind, Except.bind, Except.toOption]

/-- A path names the same file on two disks, or on neither. -/
def SameFile (path : Path) (disk disk' : Disk) : Prop :=
  ∀ at_ bytes, disk'.lookup path = .ok (at_, .file bytes) ↔ disk.lookup path = .ok (at_, .file bytes)

theorem SameFile.holds (same : SameFile path disk disk') : disk'.holds? path = disk.holds? path := by
  refine Option.ext fun bytes => ?_
  rw [holds?_eq_some, holds?_eq_some]
  exact exists_congr fun at_ => same at_ bytes

/-- A path that found nothing, since it goes up out of a folder that was missing, finds a file that stood there. -/
def Uncovers (path : Path) (disk disk' : Disk) : Prop :=
  ".." ∈ path.segments ∧ disk.locate path = .error .notFound ∧
    ∃ at_ bytes, disk.node? at_ = some (.file bytes) ∧ disk'.lookup path = .ok (at_, .file bytes)

theorem Uncovers.same (uncovers : Uncovers path disk disk') (same : SameFile path disk' disk'') :
    Uncovers path disk disk'' := by
  obtain ⟨up, missing, at_, bytes, there, found⟩ := uncovers
  exact ⟨up, missing, at_, bytes, there, (same at_ bytes).mpr found⟩

/-- While folders are made a path holds what it held, or finds a file that stood there. -/
theorem Grows.sameFile (grows : Grows disk disk') (tree : disk.IsTree) (path : Path) :
    SameFile path disk disk' ∨ Uncovers path disk disk' := by
  by_cases covered : Uncovers path disk disk'
  · exact .inr covered
  refine .inl fun at_ bytes => ⟨fun found => ?_, fun found => ?_⟩
  · rcases grows.lookup tree found with same | ⟨there, missing, up⟩
    · exact same
    · exact absurd ⟨up, missing, at_, bytes, there, found⟩ covered
  · obtain ⟨folder, name, located, rfl, there⟩ := lookup_eq_file.mp found
    exact lookup_eq_file.mpr ⟨folder, name, grows.foldersStay.locate located, rfl, grows.kept _ _ there⟩

/-- Writing a file elsewhere leaves a path what it names. -/
theorem sameFile_put (noFolder : disk.node? at_ ≠ some .folder)
    (elsewhere : ∀ {other : Disk} {folder name}, other.locate path = .ok (.entry folder name, false) →
      at_ ≠ folder ++ [name]) (below : at_ ≠ []) : SameFile path disk (disk.put at_ (.file bytes)) := by
  have stays := foldersStay_put (.file bytes) noFolder
  refine fun other old => ⟨fun found => ?_, fun found => ?_⟩
  all_goals
    obtain ⟨folder, name, located, rfl, there⟩ := lookup_eq_file.mp found
    have kept : (disk.put at_ (.file bytes)).node? (folder ++ [name]) = disk.node? (folder ++ [name]) := by
      rw [node?_put _ below, if_neg (elsewhere located).symm]
  · exact lookup_eq_file.mpr ⟨folder, name, (foldersStay_of_put below).locate located, rfl, kept.symm.trans there⟩
  · exact lookup_eq_file.mpr ⟨folder, name, stays.locate located, rfl, kept.trans there⟩

end Disk

/-! ### Operations -/

namespace OnDisk

variable {α β : Type}

/-- However it ends, the operation only makes folders. -/
def Grows (operation : OnDisk α) : Prop := ∀ disk, Disk.Grows disk (operation.run.run disk).2

theorem grows_pure (a : α) : Grows (pure a) := Disk.Grows.refl

theorem grows_throw (e : IoError) : Grows (throw e : OnDisk α) := Disk.Grows.refl

theorem Grows.bind {first : OnDisk α} {rest : α → OnDisk β} (one : Grows first) (all : ∀ a, Grows (rest a)) :
    Grows (first >>= rest) := by
  intro disk
  have run : (first >>= rest).run.run disk = ExceptT.bindCont (fun a => ExceptT.mk (rest a).run) (first.run.run disk).1
      (first.run.run disk).2 := rfl
  rw [run]
  cases (first.run.run disk).1 with
  | ok a => exact (one disk).trans (all a _)
  | error e => exact one disk

/-- An operation that fails is followed by what handles its failure. -/
theorem tryCatch_run (operation : OnDisk α) (handle : IoError → OnDisk α) (disk : Disk) :
    (tryCatchThe IoError operation handle).run.run disk =
      match operation.run.run disk with
      | (.ok a, next) => (.ok a, next)
      | (.error e, next) => (handle e).run.run next := by
  have bare : StateT.run operation disk = operation.run.run disk := rfl
  simp only [tryCatchThe, MonadExceptOf.tryCatch, ExceptT.tryCatch, ExceptT.run_mk, StateT.run_bind, bare]
  rcases operation.run.run disk with ⟨e | a, next⟩ <;> rfl

theorem Grows.tryCatch {operation : OnDisk α} {handle : IoError → OnDisk α} (one : Grows operation)
    (all : ∀ e, Grows (handle e)) : Grows (tryCatchThe IoError operation handle) := by
  intro disk
  rw [tryCatch_run]
  have first := one disk
  generalize operation.run.run disk = ended at first
  obtain ⟨e | a, next⟩ := ended
  · exact first.trans (all e next)
  · exact first

theorem get_bind (rest : Disk → OnDisk α) (disk : Disk) : (get >>= rest).run.run disk = (rest disk).run.run disk := rfl

theorem grows_makeFolder (path : Path) : Grows (makeFolder path) := by
  intro disk
  rw [makeFolder, ask_bind]
  cases located : disk.locate path with
  | error e => exact .refl disk
  | ok found =>
      obtain ⟨goal, asFolder⟩ := found
      cases goal with
      | reached folder => exact .refl disk
      | entry folder name =>
          simp only [get_bind]
          cases there : disk.node? (folder ++ [name]) with
          | some node => exact .refl disk
          | none => exact Disk.grows_put located there

/-- Making the folders of a path makes folders only, however far it gets. -/
theorem grows_makeEach (paths : List Path) : Grows (makeEach paths) := by
  induction paths with
  | nil => exact grows_pure ()
  | cons path above ih =>
      have unless_ (e : IoError) : Grows (do unless (← get).isFolder path do throw e) := by
        refine Grows.bind (fun disk => .refl disk) fun disk => ?_
        split
        · exact grows_pure ()
        · exact grows_throw e
      unfold makeEach
      split
      · exact grows_pure ()
      · refine Grows.tryCatch (grows_makeFolder path) fun e => ?_
        split
        · exact Grows.bind ih fun _ => Grows.tryCatch (grows_makeFolder path) unless_
        · exact unless_ e

theorem grows_makeFolders (path : Path) : Grows (makeFolders path) := grows_makeEach _

/-! ### Trees on the way -/

variable {disk : Disk} {path source target : Path} {bytes : Bytes}

theorem isTree_write (tree : disk.IsTree) (path : Path) (bytes : Bytes) :
    ((write path bytes).run.run disk).2.IsTree := by
  rcases write_cases path bytes disk with ⟨e, failed⟩ | ⟨folder, name, located, noFolder, done⟩
  · rw [failed]
    exact tree
  · rw [done]
    exact tree.put (tree.folder_of_locate located) noFolder _

theorem isTree_rename (tree : disk.IsTree) (source target : Path) :
    ((rename source target).run.run disk).2.IsTree := by
  rcases rename_cases source target disk with
    ⟨e, failed⟩ | ⟨origin, bytes, folder, name, found, located, noFolder, done⟩
  · rw [failed]
    exact tree
  · rw [done]
    obtain ⟨_, _, -, -, stood⟩ := Disk.lookup_eq_file.mp found
    have stays : Disk.FoldersStay disk (disk.remove origin) := Disk.foldersStay_remove (by simp [stood])
    refine (tree.remove stood).put (stays _ (tree.folder_of_locate located)) ?_ _
    rw [Disk.node?_remove, if_neg (by simp)]
    split
    · simp
    · exact noFolder

end OnDisk

end ImageBatch
