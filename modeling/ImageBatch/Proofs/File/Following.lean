import ImageBatch.File.Disk

/-!
Paths after a change of the disk.

`Disk.FoldersStay` says that what was a folder still is one. Then every path that could be followed is followed
to the same place (`Disk.FoldersStay.locate`). Writing a file where no folder stands keeps the folders, and so
does moving one; what was written is read back under the same path (`Disk.lookup_of_write`, `Disk.read_of_rename`).
-/

namespace ImageBatch

namespace Disk

variable {disk disk' disk'' : Disk} {at_ other : Location} {node : Node} {path : Path} {bytes : Bytes}

/-- Every folder of a disk is still there on another. -/
def FoldersStay (disk disk' : Disk) : Prop := ∀ at_, disk.node? at_ = some .folder → disk'.node? at_ = some .folder

theorem FoldersStay.trans (first : FoldersStay disk disk') (second : FoldersStay disk' disk'') :
    FoldersStay disk disk'' := fun at_ folder => second at_ (first at_ folder)

theorem find?_filter (at_ other : Location) (nodes : List (Location × Node)) :
    find? other (nodes.filter fun entry => entry.1 != at_) =
      if other = at_ then none else find? other nodes := by
  induction nodes with
  | nil => simp [find?]
  | cons entry rest ih =>
      obtain ⟨location, node⟩ := entry
      by_cases removed : location = at_
      · subst removed
        rw [List.filter_cons_of_neg (by simp), ih]
        by_cases asked : other = location
        · simp [asked]
        · simp [asked, find?, Ne.symm asked]
      · rw [List.filter_cons_of_pos (by simpa using removed)]
        by_cases asked : location = other
        · subst asked
          simp [find?, removed]
        · simp [find?, asked, ih]

/-- After a removal every other location has what it had. -/
theorem node?_remove (disk : Disk) (at_ other : Location) :
    (disk.remove at_).node? other =
      if other = [] then some .folder else if other = at_ then none else disk.node? other := by
  have kept : (disk.remove at_).nodes = disk.nodes.filter fun entry => entry.1 != at_ := rfl
  unfold node?
  rw [kept, find?_filter]
  by_cases root : other = [] <;> simp [root]

/-- Where no folder stands, a node may be put. -/
theorem foldersStay_put (node : Node) (noFolder : disk.node? at_ ≠ some .folder) :
    FoldersStay disk (disk.put at_ node) := by
  intro other folder
  have root : at_ ≠ [] := by
    rintro rfl
    exact noFolder rfl
  rw [node?_put node root, if_neg]
  · exact folder
  · rintro rfl
    exact noFolder folder

/-- A file that is put makes no folder. -/
theorem foldersStay_of_put (below : at_ ≠ []) : FoldersStay (disk.put at_ (.file bytes)) disk := by
  intro other folder
  rw [node?_put _ below] at folder
  split at folder
  · cases folder
  · exact folder

theorem foldersStay_remove (noFolder : disk.node? at_ ≠ some .folder) : FoldersStay disk (disk.remove at_) := by
  intro other folder
  rw [node?_remove]
  split
  · rfl
  · rw [if_neg]
    · exact folder
    · rintro rfl
      exact noFolder folder

/-! ### Following -/

/-- A segment leads nowhere else, up, or into a folder of its name. -/
theorem enter_eq_ok {start next : Location} {segment : String} :
    disk.enter start segment = .ok next ↔ (segment = "" ∨ segment = ".") ∧ next = start ∨
      segment = ".." ∧ start ≠ [] ∧ next = start.dropLast ∨
      segment ≠ "" ∧ segment ≠ "." ∧ segment ≠ ".." ∧ segment.utf8ByteSize ≤ maxName ∧ next = start ++ [segment] ∧
        disk.node? next = some .folder := by
  unfold enter
  split
  next here => grind
  next =>
  split
  next up => split <;> grind
  next =>
  split
  next long => grind
  next => split <;> grind

theorem FoldersStay.enter (stay : FoldersStay disk disk') {start next : Location} {segment : String}
    (entered : disk.enter start segment = .ok next) : disk'.enter start segment = .ok next := by
  rw [enter_eq_ok] at entered ⊢
  exact entered.imp_right (Or.imp_right fun ⟨named, point, up, short, below, folder⟩ =>
    ⟨named, point, up, short, below, stay next folder⟩)

theorem FoldersStay.follow (stay : FoldersStay disk disk') (segments : List String) {folder : Location}
    {goal : Goal} (followed : disk.follow folder segments = .ok goal) :
    disk'.follow folder segments = .ok goal := by
  induction segments generalizing folder with
  | nil => exact followed
  | cons segment rest ih =>
      cases rest with
      | nil =>
          simp only [Disk.follow] at followed ⊢
          split
          next dots =>
              rw [if_pos dots] at followed
              cases entered : disk.enter folder segment with
              | error e => simp [entered, Except.map] at followed
              | ok next =>
                  rw [entered] at followed
                  rw [stay.enter entered]
                  exact followed
          next named => rwa [if_neg named] at followed
      | cons next more =>
          simp only [Disk.follow] at followed ⊢
          cases entered : disk.enter folder segment with
          | error e => simp [entered] at followed
          | ok reached =>
              simp only [entered] at followed
              simp only [stay.enter entered]
              exact ih followed

/-- The segments of a path that are followed: all but the blanks at its end. -/
def steps (path : Path) : List String := (path.segments.reverse.dropWhile (· == "")).reverse

/-- A path is refused as it is written, or it leads where its segments do. -/
theorem locate_cases (path : Path) : (∃ e, ∀ disk : Disk, disk.locate path = .error e) ∨
    ∃ asFolder, ∀ disk : Disk, disk.locate path = (disk.follow [] (steps path)).map fun goal => (goal, asFolder) := by
  unfold locate
  split
  · exact .inl ⟨_, fun _ => rfl⟩
  split
  · exact .inl ⟨_, fun _ => rfl⟩
  split
  · exact .inl ⟨_, fun _ => rfl⟩
  split
  · exact .inl ⟨_, fun _ => rfl⟩
  · exact .inr ⟨_, fun _ => rfl⟩

/-- What a path is found to lead to is where its segments lead. -/
theorem follow_of_locate {goal : Goal} {asFolder : Bool} (located : disk.locate path = .ok (goal, asFolder)) :
    disk.follow [] (steps path) = .ok goal := by
  rcases locate_cases path with ⟨e, refused⟩ | ⟨trailing, leads⟩
  · cases (refused disk).symm.trans located
  · rw [leads] at located
    cases followed : disk.follow [] (steps path) with
    | error e => simp [followed, Except.map] at located
    | ok found =>
        rw [followed] at located
        cases located
        rfl

theorem FoldersStay.locate (stay : FoldersStay disk disk') {found : Goal × Bool}
    (located : disk.locate path = .ok found) : disk'.locate path = .ok found := by
  rcases locate_cases path with ⟨e, refused⟩ | ⟨trailing, leads⟩
  · cases (refused disk).symm.trans located
  · rw [leads, stay.follow _ (follow_of_locate located), ← located, leads, follow_of_locate located]

theorem walk_cons {start folder : Location} {segment : String} {rest : List String} :
    (segment :: rest).foldlM disk.enter start = .ok folder ↔
      ∃ next, disk.enter start segment = .ok next ∧ rest.foldlM disk.enter next = .ok folder := by
  rw [List.foldlM_cons]
  cases disk.enter start segment with
  | error e => simp [bind, Except.bind]
  | ok next => simp [bind, Except.bind]

/-- A path leads to an entry through the folders that all its segments but the last lead to. -/
theorem follow_eq_entry {start folder : Location} {segments : List String} {name : String} :
    disk.follow start segments = .ok (.entry folder name) ↔ ∃ init, segments = init ++ [name] ∧
      init.foldlM disk.enter start = .ok folder ∧ name ≠ "." ∧ name ≠ ".." ∧ name.utf8ByteSize ≤ maxName := by
  induction segments generalizing start with
  | nil => simp [Disk.follow]
  | cons segment rest ih =>
      cases rest with
      | nil =>
          have alone (init : List String) : [segment] = init ++ [name] ↔ init = [] ∧ segment = name := by
            cases init <;> simp
          have there : [].foldlM disk.enter start = .ok start := rfl
          simp only [Disk.follow, alone]
          split
          next dots =>
              cases entered : disk.enter start segment <;> simp [Except.map] <;> grind
          next named => grind
      | cons next more =>
          simp only [Disk.follow]
          constructor
          · intro followed
            split at followed
            next reached entered =>
                obtain ⟨init, ends, walked, named⟩ := ih.mp followed
                exact ⟨segment :: init, by rw [ends]; rfl, walk_cons.mpr ⟨reached, entered, walked⟩, named⟩
            next => cases followed
          · rintro ⟨init, ends, walked, named⟩
            cases init with
            | nil => simp at ends
            | cons first others =>
                obtain ⟨rfl, tail⟩ := List.cons.inj ends
                obtain ⟨reached, entered, walked⟩ := walk_cons.mp walked
                rw [entered]
                exact ih.mpr ⟨others, tail, walked, named⟩

/-- A path names a file if it leads to where that stands. -/
theorem lookup_eq_file : disk.lookup path = .ok (at_, .file bytes) ↔ ∃ folder name,
    disk.locate path = .ok (.entry folder name, false) ∧ at_ = folder ++ [name] ∧
      disk.node? at_ = some (.file bytes) := by
  unfold lookup
  cases located : disk.locate path with
  | error e => simp [bind, Except.bind]
  | ok found =>
      obtain ⟨goal, asFolder⟩ := found
      cases goal with
      | reached folder => simp [bind, Except.bind]
      | entry folder name =>
          cases there : disk.node? (folder ++ [name]) with
          | none =>
              simp [there, bind, Except.bind]
              grind
          | some node => cases node <;> cases asFolder <;> simp [there, bind, Except.bind] <;> grind

end Disk

namespace OnDisk

open Disk

variable {disk disk' : Disk} {path source target : Path} {bytes : Bytes}

/-- An operation goes on with what a question about the disk is answered. -/
theorem ask_bind {α β : Type} (question : Disk → Except IoError α) (rest : α → OnDisk β) (disk : Disk) :
    (ask question >>= rest).run.run disk =
      match question disk with
      | .ok a => (rest a).run.run disk
      | .error e => (.error e, disk) := by
  have asked : (ask question >>= rest).run.run disk =
      ExceptT.bindCont (fun a => ExceptT.mk (rest a).run) (question disk) disk := rfl
  cases answer : question disk with
  | ok a => rw [asked, answer]; rfl
  | error e => rw [asked, answer]; rfl

/-- Puts a file at a location where no folder stands, or fails. -/
theorem put_cases (disk : Disk) (at_ : Location) (change : Disk → Disk) :
    let put : OnDisk Unit := match disk.node? at_ with
      | some .folder => throw .isAFolder
      | _ => modify change
    (∃ e, put.run.run disk = (.error e, disk)) ∨
      disk.node? at_ ≠ some .folder ∧ put.run.run disk = (.ok (), change disk) := by
  cases disk.node? at_ with
  | none => exact .inr ⟨by simp, rfl⟩
  | some node =>
      cases node with
      | folder => exact .inl ⟨_, rfl⟩
      | file old => exact .inr ⟨by simp, rfl⟩

/-- Writing puts a file where the path leads, or fails. -/
theorem write_cases (path : Path) (bytes : Bytes) (disk : Disk) :
    (∃ e, (write path bytes).run.run disk = (.error e, disk)) ∨
      ∃ folder name, disk.locate path = .ok (.entry folder name, false) ∧ disk.node? (folder ++ [name]) ≠ some .folder ∧
        (write path bytes).run.run disk = (.ok (), disk.put (folder ++ [name]) (.file bytes)) := by
  rw [write, ask_bind]
  cases located : disk.locate path with
  | error e => exact .inl ⟨e, rfl⟩
  | ok found =>
      obtain ⟨goal, asFolder⟩ := found
      cases goal with
      | reached folder => exact .inl ⟨_, rfl⟩
      | entry folder name =>
          cases asFolder with
          | true => exact .inl ⟨_, rfl⟩
          | false =>
              refine (put_cases disk (folder ++ [name]) _).imp_right ?_
              rintro ⟨noFolder, done⟩
              exact ⟨folder, name, rfl, noFolder, done⟩

/-- Moving takes a file away from where the source leads and puts it where the target leads, or fails. -/
theorem rename_cases (source target : Path) (disk : Disk) :
    (∃ e, (rename source target).run.run disk = (.error e, disk)) ∨
      ∃ origin bytes folder name, disk.lookup source = .ok (origin, .file bytes) ∧
        disk.locate target = .ok (.entry folder name, false) ∧ disk.node? (folder ++ [name]) ≠ some .folder ∧
        (rename source target).run.run disk = (.ok (), (disk.remove origin).put (folder ++ [name]) (.file bytes)) := by
  rw [rename, ask_bind]
  cases found : disk.lookup source with
  | error e => exact .inl ⟨e, rfl⟩
  | ok entry =>
      obtain ⟨origin, node⟩ := entry
      cases node with
      | folder => exact .inl ⟨_, rfl⟩
      | file bytes =>
          simp only [ask_bind]
          cases located : disk.locate target with
          | error e => exact .inl ⟨e, rfl⟩
          | ok found =>
              obtain ⟨goal, asFolder⟩ := found
              cases goal with
              | reached folder => exact .inl ⟨_, rfl⟩
              | entry folder name =>
                  cases asFolder with
                  | true => exact .inl ⟨_, rfl⟩
                  | false =>
                      refine (put_cases disk (folder ++ [name]) _).imp_right ?_
                      rintro ⟨noFolder, done⟩
                      exact ⟨origin, bytes, folder, name, rfl, rfl, noFolder, done⟩

/-- Writing, if it succeeds, puts a file where the path leads. -/
theorem write_ok (written : (write path bytes).run.run disk = (.ok (), disk')) :
    ∃ folder name, disk.locate path = .ok (.entry folder name, false) ∧
      disk.node? (folder ++ [name]) ≠ some .folder ∧ disk' = disk.put (folder ++ [name]) (.file bytes) := by
  rcases write_cases path bytes disk with ⟨e, failed⟩ | ⟨folder, name, located, noFolder, done⟩
  · cases failed.symm.trans written
  · cases done.symm.trans written
    exact ⟨folder, name, located, noFolder, rfl⟩

/-- Moving, if it succeeds, takes a file from where the source leads to where the target leads. -/
theorem rename_ok (moved : (rename source target).run.run disk = (.ok (), disk')) :
    ∃ origin bytes folder name, disk.lookup source = .ok (origin, .file bytes) ∧
      disk.locate target = .ok (.entry folder name, false) ∧ disk.node? (folder ++ [name]) ≠ some .folder ∧
      disk' = (disk.remove origin).put (folder ++ [name]) (.file bytes) := by
  rcases rename_cases source target disk with
    ⟨e, failed⟩ | ⟨origin, bytes, folder, name, found, located, noFolder, done⟩
  · cases failed.symm.trans moved
  · cases done.symm.trans moved
    exact ⟨origin, bytes, folder, name, found, located, noFolder, rfl⟩

end OnDisk

namespace Disk

variable {disk disk' : Disk} {path source target : Path} {bytes : Bytes}

/-- A file that stands where the path leads is what the path reads. -/
theorem read_of_locate {folder : Location} {name : String}
    (located : disk.locate path = .ok (.entry folder name, false))
    (there : disk.node? (folder ++ [name]) = some (.file bytes)) : disk.read path = .ok bytes := by
  have found := lookup_eq_file.mpr ⟨folder, name, located, rfl, there⟩
  simp [read, found, bind, Except.bind]

/-- What was written is found under the path. -/
theorem lookup_of_write (written : (OnDisk.write path bytes).run.run disk = (.ok (), disk')) :
    ∃ at_, disk'.lookup path = .ok (at_, .file bytes) := by
  obtain ⟨folder, name, located, noFolder, rfl⟩ := OnDisk.write_ok written
  have stays := foldersStay_put (.file bytes) noFolder
  exact ⟨_, lookup_eq_file.mpr ⟨folder, name, stays.locate located, rfl, by rw [node?_put _ (by simp), if_pos rfl]⟩⟩

/-- What was moved is read under its new path. -/
theorem read_of_rename {at_ : Location} (found : disk.lookup source = .ok (at_, .file bytes))
    (moved : (OnDisk.rename source target).run.run disk = (.ok (), disk')) : disk'.read target = .ok bytes := by
  obtain ⟨origin, bytes', folder, name, found', located, noFolder, rfl⟩ := OnDisk.rename_ok moved
  obtain ⟨rfl, rfl⟩ : origin = at_ ∧ bytes' = bytes := by simpa [found, eq_comm] using found'
  obtain ⟨_, _, -, -, stood⟩ := lookup_eq_file.mp found
  have file : disk.node? origin ≠ some .folder := by simp [stood]
  have without : (disk.remove origin).node? (folder ++ [name]) ≠ some .folder := by
    rw [node?_remove, if_neg (by simp)]
    split
    · simp
    · exact noFolder
  have stays := (foldersStay_remove file).trans (foldersStay_put (.file bytes') without)
  exact read_of_locate (stays.locate located) (by rw [node?_put _ (by simp), if_pos rfl])

end Disk

end ImageBatch
