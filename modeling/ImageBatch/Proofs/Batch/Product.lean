import ImageBatch.Batch.Load
import ImageBatch.Proofs.Batch.Identity
import ImageBatch.Proofs.Batch.Table
import Mathlib.Data.List.Basic

/-!
A batch is the product of its users and its style seeds.

The ids of the seeds in a folder are the usable ones that a text or a folder of images has (`Seeds.Found`), each once
and in their order (`Seeds.mem_of_ids`). The users of a run are those of the table that are asked for, and of these the
first ones where there is a limit (`RunnerConfig.Selects`). A batch that loads has the features of every such user with
every seed, user by user, and nothing else (`Tracker.Batch.load_product`).
-/

namespace ImageBatch

/-- One step for each item of a list. -/
theorem Checks.mapM_eq_ok {ε α β : Type} {step : α → Except ε β} {items : List α} {results : List β} :
    items.mapM step = .ok results ↔ List.Forall₂ (fun item result => step item = .ok result) items results := by
  induction items generalizing results with
  | nil =>
      rw [List.mapM_nil, List.forall₂_nil_left_iff]
      constructor
      · rintro ⟨⟩
        rfl
      · rintro rfl
        rfl
  | cons item rest ih =>
      simp only [List.mapM_cons, bind_eq_ok, List.forall₂_cons_left_iff, ih]
      constructor
      · rintro ⟨result, went, others, all, ⟨⟩⟩
        exact ⟨result, others, went, all, rfl⟩
      · rintro ⟨result, others, went, all, rfl⟩
        exact ⟨result, went, others, all, rfl⟩

/-! ### Seeds -/

namespace Seeds

/-- An id that stands in a folder of seeds: the name of a text without its extension, or of a folder of images. -/
inductive Found (disk : Disk) (folder : Path) (id : String) : Prop where
  | text {paths path} (listed : disk.list (folder.join "texts") = .ok paths) (there : path ∈ paths)
      (extension : path.extension? = some "txt") (isFile : disk.isFile path = true) (named : path.stem? = some id)
  | images {paths path} (listed : disk.list (folder.join "images") = .ok paths) (there : path ∈ paths)
      (isFolder : disk.isFolder path = true) (named : path.fileName? = some id)

variable {disk : Disk} {folder path : Path} {paths : List Path} {id : String}

theorem pairwise_sorted (texts : List String) : (sorted texts).Pairwise (· < ·) := Entries.sorted_ofList _

theorem mem_sorted {text : String} {texts : List String} : text ∈ sorted texts ↔ text ∈ texts := by
  rw [sorted, ← Entries.contains_iff, Entries.contains, Entries.get?_ofList]
  simp

theorem mem_of_listFolder (listed : listFolder disk folder = .ok paths) :
    path ∈ paths ↔ ∃ there, disk.list folder = .ok there ∧ path ∈ there := by
  unfold listFolder at listed
  split at listed
  next there stands =>
      cases listed
      simp [stands]
  next missing =>
      cases listed
      simp [missing]
  next => cases listed

theorem textId?_eq_some :
    textId? disk path = some id ↔ path.extension? = some "txt" ∧ disk.isFile path = true ∧ path.stem? = some id := by
  rw [textId?, Option.ite_none_right_eq_some, and_assoc]

theorem folderId?_eq_some : folderId? disk path = some id ↔ disk.isFolder path = true ∧ path.fileName? = some id := by
  rw [folderId?, Option.ite_none_right_eq_some]

/-- The ids of a folder's seeds are those that stand in it and are usable. -/
theorem mem_of_ids {found : List String} (listed : ids disk folder = .ok found) :
    id ∈ found ↔ FileName.isSafeId id = true ∧ Found disk folder id := by
  simp only [ids, Checks.bind_eq_ok] at listed
  obtain ⟨texts, inTexts, images, inImages, same⟩ := listed
  cases same
  rw [mem_sorted, List.mem_filter, and_comm, List.mem_append, List.mem_filterMap, List.mem_filterMap]
  refine and_congr_right fun _ => ?_
  simp only [mem_of_listFolder inTexts, mem_of_listFolder inImages, textId?_eq_some, folderId?_eq_some]
  constructor
  · rintro (⟨path, ⟨paths, listed, there⟩, extension, isFile, named⟩ | ⟨path, ⟨paths, listed, there⟩, isFolder, named⟩)
    · exact .text listed there extension isFile named
    · exact .images listed there isFolder named
  · rintro (⟨listed, there, extension, isFile, named⟩ | ⟨listed, there, isFolder, named⟩)
    · exact .inl ⟨_, ⟨_, listed, there⟩, extension, isFile, named⟩
    · exact .inr ⟨_, ⟨_, listed, there⟩, isFolder, named⟩

theorem pairwise_of_ids {found : List String} (listed : ids disk folder = .ok found) : found.Pairwise (· < ·) := by
  simp only [ids, Checks.bind_eq_ok] at listed
  obtain ⟨texts, -, images, -, same⟩ := listed
  cases same
  exact pairwise_sorted _

/-- A seed that is read has the id by which it is read. -/
theorem id_of_load {seed : StyleSeed} (loaded : load disk folder id = .ok seed) : seed.id = id := by
  unfold load at loaded
  obtain ⟨-, loaded⟩ := Checks.guard_eq_ok.mp loaded
  obtain ⟨found, -, loaded⟩ := Checks.bind_eq_ok.mp loaded
  dsimp only at loaded
  split at loaded
  next =>
      cases loaded
      rfl
  next =>
      cases loaded
      rfl
  next => cases loaded

end Seeds

/-! ### Batches -/

namespace RunnerConfig

/-- The user is asked for, or none in particular is. -/
def asks (config : RunnerConfig) (user : UserRecord) : Bool := config.runUsers.all (·.contains user.userId)

/-- The users of a run: those of the table that are asked for, and only the first ones where there is a limit. -/
structure Selects (config : RunnerConfig) (table users : List UserRecord) : Prop where
  unlimited : config.runLimit = none → users = table.filter config.asks
  limited : ∀ n, config.runLimit = some n → users = (table.filter config.asks).take n

/-- The ids of the seeds of a run: the one that is configured, or all usable ones of the folder in their order. -/
structure HasSeeds (config : RunnerConfig) (disk : Disk) (ids : List String) : Prop where
  pinned : ∀ id, config.styleSeedId = some id → ids = [id]
  listed : config.styleSeedId = none →
    ids.Pairwise (· < ·) ∧ ∀ id, id ∈ ids ↔ FileName.isSafeId id = true ∧ Seeds.Found disk config.seedsDir id

theorem selects_select (config : RunnerConfig) (table : List UserRecord) :
    config.Selects table (Users.select table config.runUsers config.runLimit) := by
  have asked : Users.select table config.runUsers none = table.filter config.asks := by
    unfold Users.select asks
    cases config.runUsers with
    | none => simp
    | some ids => rfl
  constructor
  · intro unlimited
    rw [unlimited, asked]
  · intro n limited
    rw [limited, ← asked]
    rfl

theorem hasSeeds_of_seedIds {config : RunnerConfig} {disk : Disk} {ids : List String}
    (given : config.seedIds disk = .ok ids) : config.HasSeeds disk ids := by
  unfold seedIds at given
  cases pinned : config.styleSeedId with
  | some id =>
      rw [pinned] at given
      cases given
      constructor
      · rintro _ same
        cases pinned.symm.trans same
        rfl
      · intro none_
        cases pinned.symm.trans none_
  | none =>
      rw [pinned] at given
      constructor
      · intro id same
        cases pinned.symm.trans same
      · exact fun _ => ⟨Seeds.pairwise_of_ids given, fun _ => Seeds.mem_of_ids given⟩

end RunnerConfig

namespace Tracker.Batch

variable {config : RunnerConfig} {disk : Disk} {batch : Batch}

/-- A batch has the features of every selected user with every seed, user by user and then seed by seed, or those of
every user without a style where there is no seed, and nothing else. -/
theorem load_product (loaded : load config disk = .ok batch) :
    ∃ mapping columns rows table users ids seeds,
      KeywordMapping.load disk config.mappingPath = .ok mapping ∧
      WorkflowTemplate.load disk config.templatePath = .ok batch.template ∧
      Users.HasTable disk config.userTable columns rows ∧
      Users.AreUsersOf mapping.idColumn columns rows table ∧
      config.Selects table users ∧
      config.HasSeeds disk ids ∧
      List.Forall₂ (fun id seed => Seeds.load disk config.seedsDir id = .ok seed ∧ seed.id = id) ids seeds ∧
      (ids = [] → batch.features =
        users.map fun user => FeatureSet.build disk mapping ⟨some config.userImagesDir, none⟩ user) ∧
      (ids ≠ [] → batch.features = (users.product seeds).map fun (user, seed) =>
        FeatureSet.build disk mapping ⟨some config.userImagesDir, some seed⟩ user) := by
  simp only [load, Checks.bind_eq_ok] at loaded
  obtain ⟨mapping, mapped, template, read, table, tabled, ids, given, seeds, all, same⟩ := loaded
  cases same
  obtain ⟨columns, rows, has, -, are⟩ := Users.exists_of_load tabled
  have every := Checks.mapM_eq_ok.mp all
  refine ⟨mapping, columns, rows, table, _, ids, seeds, mapped, read, has, are, config.selects_select table,
    RunnerConfig.hasSeeds_of_seedIds given, every.imp fun _ _ found => ⟨found, Seeds.id_of_load found⟩, ?_, ?_⟩
  · rintro rfl
    obtain rfl := List.forall₂_nil_left_iff.mp every
    exact List.flatMap_pure_eq_map _ _
  · intro some_
    have seeded : seeds.isEmpty = false := by
      rw [List.isEmpty_eq_false_iff]
      rintro rfl
      exact some_ (List.forall₂_nil_right_iff.mp every)
    dsimp only
    rw [List.product, List.map_flatMap, RunnerConfig.contexts, seeded]
    simp only [Bool.false_eq_true, if_false, List.map_map]
    rfl

/-- One of two users that are asked for, and every style. -/
def eveningConfig : RunnerConfig :=
  { crossedConfig with runUsers := some ["b", "a"], runLimit := some 1 }

/-- A table with a column twice, a row without its second cell and an id that comes up again; a style that is a text and
one that is a folder. -/
def eveningDisk : Disk where
  nodes := [
    (["mapping.json"], .file (Text.toBytes "\x7b\x7d")),
    (["template.json"], .file (Text.toBytes
      "\x7b\"name\":\"card\",\"graph\":\x7b\"1\":\x7b\"class_type\":\"Save\"\x7d\x7d\x7d")),
    (["users.csv"], .file (Text.toBytes "number,color,number\nx,red,c\na,blue\na,black\nb\n")),
    (["seeds"], .folder),
    (["seeds", "texts"], .folder),
    (["seeds", "texts", "dusk.txt"], .file []),
    (["seeds", "images"], .folder),
    (["seeds", "images", "dawn"], .folder)]

theorem exists_evening : ∃ batch, load eveningConfig eveningDisk = .ok batch ∧
    batch.features.map (fun f => (f.userId, f.styleSeed)) = [("a", some "dawn"), ("a", some "dusk")] := by
  have shown : ((load eveningConfig eveningDisk).toOption.map fun batch =>
      batch.features.map fun f => (f.userId, f.styleSeed)) =
        some [("a", some "dawn"), ("a", some "dusk")] := by decide +kernel
  exact Checks.exists_of_toOption shown

theorem load_product_evening : ∃ batch, load eveningConfig eveningDisk = .ok batch ∧
    batch.features.map (fun f => (f.userId, f.styleSeed)) = [("a", some "dawn"), ("a", some "dusk")] ∧
    ∃ mapping columns rows table users ids, ∃ seeds : List StyleSeed,
      Users.HasTable eveningDisk eveningConfig.userTable columns rows ∧
      Users.AreUsersOf mapping.idColumn columns rows table ∧ eveningConfig.Selects table users ∧
      eveningConfig.HasSeeds eveningDisk ids ∧
      batch.features = (List.product users seeds).map fun (user, seed) =>
        FeatureSet.build eveningDisk mapping ⟨some eveningConfig.userImagesDir, some seed⟩ user := by
  obtain ⟨batch, loaded, pairs⟩ := exists_evening
  obtain ⟨mapping, columns, rows, table, users, ids, seeds, -, -, has, are, selects, hasSeeds, -, plain, styled⟩ :=
    load_product loaded
  have some_ : ids ≠ [] := by
    intro none_
    rw [plain none_] at pairs
    cases users with
    | nil => cases pairs
    | cons user others =>
        have style := congrArg Prod.snd (List.cons.inj pairs).1
        cases style
  exact ⟨batch, loaded, pairs, mapping, columns, rows, table, users, ids, seeds, has, are, selects, hasSeeds, styled some_⟩

end Tracker.Batch

end ImageBatch
