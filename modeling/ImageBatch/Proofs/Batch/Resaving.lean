import ImageBatch.Proofs.Batch.Restoring

/-!
Saving a store a second time.

A save that succeeds makes folders, writes the document beside its place and moves it there
(`BatchStore.Published`). Once that is done the same save finds its folders made, puts the temporary file where nothing
is and takes it away again, and puts the document where it is: it changes nothing (`BatchStore.save_again`). What other
paths read a save leaves alone (`BatchStore.read_of_saved`).
-/

namespace ImageBatch

/-! ### Putting and removing -/

namespace Disk

variable {disk disk' : Disk} {at_ : Location} {node : Node} {path other : Path} {bytes : Bytes}

theorem find?_eq_none {nodes : List (Location × Node)} : find? at_ nodes = none ↔ ∀ entry ∈ nodes, entry.1 ≠ at_ := by
  induction nodes with
  | nil => simp [find?]
  | cons entry rest ih =>
      obtain ⟨location, old⟩ := entry
      by_cases same : location = at_ <;> simp [find?, same, ih]

theorem replace_of_absent {nodes : List (Location × Node)} (absent : find? at_ nodes = none) (node : Node) :
    replace at_ node nodes = nodes ++ [(at_, node)] := by
  induction nodes with
  | nil => rfl
  | cons entry rest ih =>
      obtain ⟨location, old⟩ := entry
      have other : location ≠ at_ := find?_eq_none.mp absent _ List.mem_cons_self
      rw [find?, if_neg other] at absent
      simp [replace, other, ih absent]

theorem replace_of_find? {nodes : List (Location × Node)} (there : find? at_ nodes = some node) :
    replace at_ node nodes = nodes := by
  induction nodes with
  | nil => cases there
  | cons entry rest ih =>
      obtain ⟨location, old⟩ := entry
      by_cases same : location = at_
      · rw [find?, if_pos same] at there
        cases there
        simp [replace, same]
      · rw [find?, if_neg same] at there
        simp [replace, same, ih there]

/-- Putting what is there changes nothing. -/
theorem put_of_node? (below : at_ ≠ []) (there : disk.node? at_ = some node) : disk.put at_ node = disk := by
  rw [node?, if_neg below] at there
  rw [put, replace_of_find? there]

/-- What is put where nothing is can be taken away again. -/
theorem remove_put (absent : disk.node? at_ = none) (node : Node) : (disk.put at_ node).remove at_ = disk := by
  have below : at_ ≠ [] := by
    rintro rfl
    cases absent
  rw [node?, if_neg below] at absent
  have others : disk.nodes.filter (fun entry => entry.1 != at_) = disk.nodes :=
    List.filter_eq_self.mpr fun entry member => by simpa using find?_eq_none.mp absent entry member
  simp [put, remove, replace_of_absent absent, others]

/-! ### Places of paths -/

/-- The path leads to this location, where a file may be. -/
def Names (disk : Disk) (path : Path) (at_ : Location) : Prop :=
  ∃ folder name, disk.locate path = .ok (.entry folder name, false) ∧ at_ = folder ++ [name]

/-- The location that a path leads to. -/
def place? (disk : Disk) (path : Path) : Option Location :=
  match disk.locate path with
  | .ok (.entry folder name, false) => some (folder ++ [name])
  | _ => none

/-- Two paths lead to one location. -/
def SamePlace (disk : Disk) (path other : Path) : Prop :=
  (disk.place? path).isSome = true ∧ disk.place? path = disk.place? other

instance (disk : Disk) (path other : Path) : Decidable (disk.SamePlace path other) :=
  inferInstanceAs (Decidable (_ ∧ _))

theorem Names.place?_eq (names : disk.Names path at_) : disk.place? path = some at_ := by
  obtain ⟨folder, name, located, rfl⟩ := names
  rw [place?, located]

theorem Names.samePlace (names : disk.Names path at_) (also : disk.Names other at_) : disk.SamePlace path other := by
  simp [SamePlace, names.place?_eq, also.place?_eq]

theorem Names.below (names : disk.Names path at_) : at_ ≠ [] := by
  obtain ⟨folder, name, -, rfl⟩ := names
  simp

theorem Names.unique {at' : Location} (names : disk.Names path at_) (also : disk.Names path at') : at_ = at' :=
  Option.some.inj (names.place?_eq.symm.trans also.place?_eq)

theorem FoldersStay.names (stay : FoldersStay disk disk') (names : disk.Names path at_) : disk'.Names path at_ := by
  obtain ⟨folder, name, located, same⟩ := names
  exact ⟨folder, name, stay.locate located, same⟩

theorem read_eq_ok : disk.read path = .ok bytes ↔ ∃ at_, disk.Names path at_ ∧ disk.node? at_ = some (.file bytes) := by
  have read : disk.read path = .ok bytes ↔ disk.holds? path = some bytes := by
    unfold holds?
    cases disk.read path <;> simp [Except.toOption]
  rw [read, holds?_eq_some]
  refine exists_congr fun at_ => ?_
  rw [lookup_eq_file]
  constructor
  · rintro ⟨folder, name, located, same, there⟩
    exact ⟨⟨folder, name, located, same⟩, there⟩
  · rintro ⟨⟨folder, name, located, same⟩, there⟩
    exact ⟨folder, name, located, same, there⟩

/-! ### Folders that are there -/

theorem isFolder_iff : disk.isFolder path = true ↔ ∃ at_, disk.lookup path = .ok (at_, .folder) := by
  unfold isFolder
  rcases disk.lookup path with e | ⟨at_, old | bytes⟩ <;> simp

theorem FoldersStay.isFolder (stay : FoldersStay disk disk') (there : disk.isFolder path = true) :
    disk'.isFolder path = true := by
  obtain ⟨at_, found⟩ := isFolder_iff.mp there
  refine isFolder_iff.mpr ⟨at_, ?_⟩
  unfold lookup at found ⊢
  cases located : disk.locate path with
  | error e => simp [located, bind, Except.bind] at found
  | ok goal =>
      rw [stay.locate located]
      obtain ⟨goal, asFolder⟩ := goal
      cases goal with
      | reached folder => simpa [located, bind, Except.bind] using found
      | entry folder name =>
          rcases node : disk.node? (folder ++ [name]) with _ | old | bytes
          · simp [located, node, bind, Except.bind] at found
          · simpa [located, node, stay _ node, bind, Except.bind] using found
          · cases asFolder <;> simp [located, node, bind, Except.bind] at found

end Disk

namespace OnDisk

open Disk

variable {disk disk' : Disk} {path : Path} {above : List Path} {e : IoError}

/-- Operations one after another succeed together. -/
theorem exists_of_bind_ok {α β : Type} {first : OnDisk α} {rest : α → OnDisk β} {b : β}
    (done : (first >>= rest).run.run disk = (.ok b, disk')) :
    ∃ a next, first.run.run disk = (.ok a, next) ∧ (rest a).run.run next = (.ok b, disk') := by
  have run : (first >>= rest).run.run disk = ExceptT.bindCont (fun a => ExceptT.mk (rest a).run) (first.run.run disk).1
      (first.run.run disk).2 := rfl
  rw [run] at done
  generalize first.run.run disk = ended at done
  obtain ⟨e | a, next⟩ := ended
  · cases done
  · exact ⟨a, next, rfl, done⟩

/-- Where a folder is there is nothing to refuse. -/
theorem unless_run (path : Path) (e : IoError) (disk : Disk) :
    (do unless (← get).isFolder path do throw e : OnDisk Unit).run.run disk =
      (if disk.isFolder path then .ok () else .error e, disk) := by
  rw [get_bind]
  cases disk.isFolder path <;> rfl

/-- A folder that is there is not made again. -/
theorem makeFolder_of_isFolder (there : disk.isFolder path = true) :
    (makeFolder path).run.run disk = (.error .exists, disk) := by
  obtain ⟨at_, found⟩ := isFolder_iff.mp there
  rw [makeFolder, ask_bind]
  unfold lookup at found
  cases located : disk.locate path with
  | error e => simp [located, bind, Except.bind] at found
  | ok goal =>
      obtain ⟨goal, asFolder⟩ := goal
      cases goal with
      | reached folder => rfl
      | entry folder name =>
          simp only [get_bind]
          cases node : disk.node? (folder ++ [name]) with
          | none => simp [located, node, bind, Except.bind] at found
          | some node => rfl

/-- Making the folder of a path, and if that finds no place, those above it first. -/
theorem makeEach_cons (named : path.text ≠ "") (above : List Path) : makeEach (path :: above) =
    tryCatchThe IoError (makeFolder path) fun e =>
      if e = .notFound then makeEach above >>= fun _ => tryCatchThe IoError (makeFolder path) fun e =>
        (do unless (← get).isFolder path do throw e)
      else (do unless (← get).isFolder path do throw e) := by
  rw [makeEach, if_neg named]
  rfl

theorem makeEach_of_isFolder (there : disk.isFolder path = true) (above : List Path) :
    (makeEach (path :: above)).run.run disk = (.ok (), disk) := by
  by_cases named : path.text = ""
  · rw [makeEach, if_pos named]
    rfl
  · rw [makeEach_cons named, tryCatch_run, makeFolder_of_isFolder there]
    simp only [reduceCtorEq, if_false]
    rw [unless_run, there]
    rfl

/-- A folder that was made is there. -/
theorem isFolder_of_makeFolder (made : (makeFolder path).run.run disk = (.ok (), disk')) :
    disk'.isFolder path = true := by
  rw [makeFolder, ask_bind] at made
  cases located : disk.locate path with
  | error e =>
      rw [located] at made
      cases made
  | ok goal =>
      obtain ⟨goal, asFolder⟩ := goal
      rw [located] at made
      cases goal with
      | reached folder => cases made
      | entry folder name =>
          simp only [get_bind] at made
          cases node : disk.node? (folder ++ [name]) with
          | some node =>
              rw [node] at made
              cases made
          | none =>
              rw [node] at made
              cases made
              have stays := foldersStay_put .folder (show disk.node? (folder ++ [name]) ≠ some .folder by simp [node])
              refine isFolder_iff.mpr ⟨folder ++ [name], ?_⟩
              unfold lookup
              rw [stays.locate located]
              simp [node?_put, bind, Except.bind]

/-- After its folders were made a path names a folder. -/
theorem isFolder_of_makeEach (named : path.text ≠ "")
    (made : (makeEach (path :: above)).run.run disk = (.ok (), disk')) : disk'.isFolder path = true := by
  -- A folder that could not be made must have been there.
  have there {e : IoError} {disk : Disk}
      (kept : (do unless (← get).isFolder path do throw e : OnDisk Unit).run.run disk = (.ok (), disk')) :
      disk'.isFolder path = true := by
    rw [unless_run] at kept
    split at kept
    next there =>
        cases kept
        exact there
    next => cases kept
  rw [makeEach_cons named, tryCatch_run] at made
  rcases first : (makeFolder path).run.run disk with ⟨e | _, next⟩
  · rw [first] at made
    dsimp only at made
    split at made
    · obtain ⟨_, later, -, made⟩ := exists_of_bind_ok made
      rw [tryCatch_run] at made
      rcases second : (makeFolder path).run.run later with ⟨e | _, last⟩
      · rw [second] at made
        exact there made
      · rw [second] at made
        cases made
        exact isFolder_of_makeFolder second
    · exact there made
  · rw [first] at made
    cases made
    exact isFolder_of_makeFolder first

/-- Folders that were made are not made again. -/
theorem makeFolders_again {next : Disk} (named : path.text ≠ "")
    (made : (makeFolders path).run.run disk = (.ok (), next)) (stay : FoldersStay next disk') :
    (makeFolders path).run.run disk' = (.ok (), disk') := by
  obtain ⟨above, own⟩ : ∃ above, ancestors path (path.components.length + 1) = path :: above := by
    unfold ancestors
    split <;> exact ⟨_, rfl⟩
  rw [makeFolders, own] at made ⊢
  exact makeEach_of_isFolder (stay.isFolder (isFolder_of_makeEach named made)) above

end OnDisk

namespace BatchStore

open Disk OnDisk

variable {store : BatchStore} {path other : Path} {disk disk' next : Disk} {bytes held : Bytes} {beside at_ : Location}

/-- Where a save writes: the place of the document and the one beside it. -/
def files (store : BatchStore) : List Path :=
  match store.path with
  | none => []
  | some path => [path, temporary path]

/-! ### The document on its way -/

/-- The steps that bring a document to its path. -/
def publishSteps (path : Path) (bytes : Bytes) : List SaveStep :=
  [.write (temporary path) bytes, .move (temporary path) path]

/-- The document was written beside its place and moved there. -/
structure Published (path : Path) (bytes : Bytes) (disk disk' : Disk) (beside at_ : Location) : Prop where
  first : disk.Names (temporary path) beside
  last : disk.Names path at_
  apart : beside ≠ at_
  noFolder : disk.node? beside ≠ some .folder ∧ disk.node? at_ ≠ some .folder
  left : disk' = ((disk.put beside (.file bytes)).remove beside).put at_ (.file bytes)

theorem exists_published (done : performAll (publishSteps path bytes) disk = (.ok (), disk')) :
    ∃ beside at_, Published path bytes disk disk' beside at_ := by
  obtain ⟨mid, written, performed⟩ := performAll_cons done
  obtain ⟨last, moved, performed⟩ := performAll_cons performed
  cases performed
  obtain ⟨folder, name, located, free, rfl⟩ := write_ok written
  have stays := foldersStay_put (.file bytes) free
  have back : FoldersStay (disk.put (folder ++ [name]) (.file bytes)) disk := foldersStay_of_put (by simp)
  obtain ⟨origin, held, folder', name', found, located', free', rfl⟩ := rename_ok moved
  have stood := lookup_eq_file.mpr ⟨folder, name, stays.locate located, rfl,
    show (disk.put (folder ++ [name]) (.file bytes)).node? (folder ++ [name]) = some (.file bytes) by simp [node?_put]⟩
  cases stood.symm.trans found
  have apart := entry_ne_of_withExtension located' located (by decide) (by decide) (by decide)
  rw [node?_put _ (by simp), if_neg (Ne.symm apart)] at free'
  exact ⟨_, _, ⟨folder, name, located, rfl⟩, ⟨folder', name', back.locate located', rfl⟩, apart, ⟨free, free'⟩, rfl⟩

namespace Published

variable (published : Published path bytes disk disk' beside at_)
include published

theorem node?_eq (other : Location) : disk'.node? other =
    if other = at_ then some (.file bytes) else if other = beside then none else disk.node? other := by
  have below := published.first.below
  rw [published.left, node?_put _ published.last.below, node?_remove, node?_put _ below]
  by_cases root : other = []
  · subst root
    simp [Ne.symm below, Ne.symm published.last.below, node?]
  · grind

theorem foldersStay : FoldersStay disk disk' := by
  intro other folder
  rw [published.node?_eq, if_neg, if_neg]
  · exact folder
  · rintro rfl
    exact published.noFolder.1 folder
  · rintro rfl
    exact published.noFolder.2 folder

/-- Brought to its place again, the document changes nothing. -/
theorem again : performAll (publishSteps path bytes) disk' = (.ok (), disk') := by
  have stay := published.foldersStay
  have absent : disk'.node? beside = none := by rw [published.node?_eq, if_neg published.apart, if_pos rfl]
  have there : disk'.node? at_ = some (.file bytes) := by rw [published.node?_eq, if_pos rfl]
  have takes {path : Path} {at_ : Location} (names : disk'.Names path at_) (free : disk'.node? at_ ≠ some .folder) :
      disk'.Takes path := by
    obtain ⟨folder, name, located, rfl⟩ := names
    exact ⟨folder, name, located, free⟩
  obtain ⟨disk'', done⟩ := (exists_publish path bytes disk').mpr
    ⟨takes (stay.names published.first) (by simp [absent]), takes (stay.names published.last) (by simp [there])⟩
  obtain ⟨beside', at', later⟩ := exists_published done
  obtain rfl := later.first.unique (stay.names published.first)
  obtain rfl := later.last.unique (stay.names published.last)
  rw [publishSteps, done, later.left, remove_put absent, put_of_node? published.last.below there]

end Published

/-! ### Saving again -/

/-- What a save that succeeds does: folders, and then the document. -/
theorem exists_of_saved (placed : store.path = some path) (saved : store.save disk = (.ok (), disk')) :
    ∃ next beside at_, performAll (folderSteps path) disk = (.ok (), next) ∧
      Published path store.contents next disk' beside at_ := by
  rw [save, saveSteps_eq placed] at saved
  obtain ⟨next, made, done⟩ := performAll_append saved
  obtain ⟨beside, at_, published⟩ := exists_published done
  exact ⟨next, beside, at_, made, published⟩

/-- One folder is made for a path, or none. -/
theorem folderSteps_cases (path : Path) :
    folderSteps path = [] ∨ ∃ folder : Path, folder.text ≠ "" ∧ folderSteps path = [.makeFolders folder] := by
  cases parent : path.parent?.filter (·.text != "") with
  | none => exact .inl (by simp [folderSteps, parent])
  | some folder =>
      have named : folder.text ≠ "" := by simpa using (Option.filter_eq_some_iff.mp parent).2
      exact .inr ⟨folder, named, by simp [folderSteps, parent]⟩

/-- Folders only are made for a path. -/
theorem grows_folderSteps (made : performAll (folderSteps path) disk = (.ok (), next)) : disk.Grows next := by
  rcases folderSteps_cases path with none_ | ⟨folder, -, single⟩
  · rw [none_] at made
    cases made
    exact .refl disk
  · rw [single] at made
    obtain ⟨last, made, performed⟩ := performAll_cons made
    cases performed
    have grown := grows_makeFolders folder disk
    rwa [show (makeFolders folder).run.run disk = (.ok (), _) from made] at grown

/-- The folders of a path that were made are not made again. -/
theorem folderSteps_again (made : performAll (folderSteps path) disk = (.ok (), next)) (stay : FoldersStay next disk') :
    performAll (folderSteps path) disk' = (.ok (), disk') := by
  rcases folderSteps_cases path with none_ | ⟨folder, named, single⟩
  · rw [none_]
    rfl
  · rw [single] at made ⊢
    obtain ⟨last, made, performed⟩ := performAll_cons made
    cases performed
    simp only [performAll, SaveStep.perform, makeFolders_again named made stay]

/-- A save that succeeded changes nothing the second time. -/
theorem save_again (saved : store.save disk = (.ok (), disk')) : store.save disk' = (.ok (), disk') := by
  cases placed : store.path with
  | none => simp [save, saveSteps, placed, performAll]
  | some path =>
      obtain ⟨next, beside, at_, made, published⟩ := exists_of_saved placed saved
      rw [save, saveSteps_eq placed, performAll_append_of_ok (folderSteps_again made published.foldersStay)]
      exact published.again

/-- A file that leads to neither of the places of a store is left by a save as it was. -/
theorem read_of_saved (saved : store.save disk = (.ok (), disk'))
    (apart : ∀ file ∈ store.files, ¬ disk'.SamePlace other file) (read : disk.read other = .ok held) :
    disk'.read other = .ok held := by
  cases placed : store.path with
  | none =>
      simp only [save, saveSteps, placed, performAll] at saved
      cases saved
      exact read
  | some path =>
      obtain ⟨next, beside, at_, made, published⟩ := exists_of_saved placed saved
      have grows := grows_folderSteps made
      have stay := published.foldersStay
      obtain ⟨own, names, there⟩ := read_eq_ok.mp read
      have names := stay.names (grows.foldersStay.names names)
      have files : store.files = [path, temporary path] := by simp only [files, placed]
      have notLast : own ≠ at_ := by
        rintro rfl
        exact apart path (by simp [files]) (names.samePlace (stay.names published.last))
      have notFirst : own ≠ beside := by
        rintro rfl
        exact apart (temporary path) (by simp [files]) (names.samePlace (stay.names published.first))
      refine read_eq_ok.mpr ⟨own, names, ?_⟩
      rw [published.node?_eq, if_neg notLast, if_neg notFirst]
      exact grows.kept own _ there

end BatchStore

end ImageBatch
