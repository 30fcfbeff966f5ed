import ImageBatch.Artifact.Collect
import ImageBatch.Batch.Load
import ImageBatch.Proofs.Batch.Lookup
import ImageBatch.Proofs.Checks
import ImageBatch.Proofs.Entries

/-!
What the keys of a batch tell apart.

A key is a user's id and a style's id with an underscore between them, and either id may have underscores of its own.
So two feature sets of a batch that come from different users or styles have one key exactly if they cross
(`FeatureSet.Crosses`): the one user's id goes on after the other's with what the other style's id has in front of the
one's. A batch may have such sets (`Tracker.Batch.load_crossed`). Those that do not cross share no record, and no image
either, unless a number takes the place of the name in one of them (`Tracker.Batch.load_identifies`).
-/

namespace ImageBatch

/-! ### Keys -/

/-- A longer user's id takes something from the front of the style's, or it is not longer after all. -/
theorem eq_or_exists_shift {user other seed otherSeed : String} {between : List Char}
    (longer : other.toList = user.toList ++ between)
    (rest : '_' :: seed.toList = between ++ '_' :: otherSeed.toList) :
    (user = other ∧ seed = otherSeed) ∨ ∃ shift, other = user ++ "_" ++ shift ∧ seed = shift ++ "_" ++ otherSeed := by
  cases between with
  | nil =>
      rw [List.append_nil] at longer
      exact .inl ⟨String.toList_inj.mp longer.symm, String.toList_inj.mp (List.cons.inj rest).2⟩
  | cons first shift =>
      obtain ⟨rfl, inner⟩ := List.cons.inj rest
      refine .inr ⟨String.ofList shift, String.toList_inj.mp ?_, String.toList_inj.mp ?_⟩
      · simp [longer]
      · simpa using inner

/-- Two pairs have one key if they are the same, or if a part of the key goes to the user in the one and to the style in
the other. -/
theorem jobKey_eq_iff {user other seed otherSeed : String} :
    jobKey user (some seed) = jobKey other (some otherSeed) ↔
      (user = other ∧ seed = otherSeed) ∨
      (∃ shift, user = other ++ "_" ++ shift ∧ otherSeed = shift ++ "_" ++ seed) ∨
      ∃ shift, other = user ++ "_" ++ shift ∧ seed = shift ++ "_" ++ otherSeed := by
  constructor
  · intro same
    have chars : user.toList ++ ('_' :: seed.toList) = other.toList ++ ('_' :: otherSeed.toList) := by
      simpa [jobKey] using congrArg String.toList same
    rcases List.append_eq_append_iff.mp chars with ⟨between, longer, rest⟩ | ⟨between, longer, rest⟩
    · rcases eq_or_exists_shift longer rest with same | shifted
      · exact .inl same
      · exact .inr (.inr shifted)
    · rcases eq_or_exists_shift longer rest with ⟨rfl, rfl⟩ | shifted
      · exact .inl ⟨rfl, rfl⟩
      · exact .inr (.inl shifted)
  · rintro (⟨rfl, rfl⟩ | ⟨shift, rfl, rfl⟩ | ⟨shift, rfl, rfl⟩)
    · rfl
    · simp only [jobKey, String.append_assoc]
    · simp only [jobKey, String.append_assoc]

namespace FeatureSet

/-- The user's id goes on after the other's with what the other style's id has in front of this one's. -/
def Crosses (features other : FeatureSet) : Prop :=
  ∃ shift seed otherSeed, features.styleSeed = some seed ∧ other.styleSeed = some otherSeed ∧
    features.userId = other.userId ++ "_" ++ shift ∧ otherSeed = shift ++ "_" ++ seed

theorem crosses_iff {features other : FeatureSet} {seed otherSeed : String} (styled : features.styleSeed = some seed)
    (alsoStyled : other.styleSeed = some otherSeed) :
    features.Crosses other ↔
      ∃ shift, features.userId = other.userId ++ "_" ++ shift ∧ otherSeed = shift ++ "_" ++ seed := by
  constructor
  · rintro ⟨shift, given, otherGiven, style, otherStyle, users, styles⟩
    cases styled.symm.trans style
    cases alsoStyled.symm.trans otherStyle
    exact ⟨shift, users, styles⟩
  · rintro ⟨shift, users, styles⟩
    exact ⟨shift, seed, otherSeed, styled, alsoStyled, users, styles⟩

/-- The name of the image is a text, and no number has taken its place. -/
def IsNamed (features : FeatureSet) : Prop := ∃ stem, features.get? "filename_prefix" = some (.text stem)

/-! ### Names of images -/

variable {disk : Disk} {mapping : KeywordMapping} {context : MapperContext} {user : UserRecord}

theorem styleImageName_ne (slot : Nat) : styleImageName slot ≠ "filename_prefix" := by
  intro same
  have first := congrArg (·.toList.head?) same
  simp [styleImageName] at first

/-- Features that are not named like the image. -/
theorem find?_others {features : List (String × FeatureValue)}
    (others : ∀ entry ∈ features, entry.1 ≠ "filename_prefix") :
    features.reverse.find? (·.1 == "filename_prefix") = none := by
  rw [List.find?_eq_none]
  intro entry member
  simpa using others entry (List.mem_reverse.mp member)

theorem reference_others : ∀ entry ∈ referenceFeatures disk user context, entry.1 ≠ "filename_prefix" := by
  intro entry member
  unfold referenceFeatures at member
  split at member
  · rw [List.mem_singleton.mp member]
    exact ne_of_beq_false rfl
  · cases member

theorem style_others : ∀ entry ∈ styleFeatures disk mapping context, entry.1 ≠ "filename_prefix" := by
  intro entry member
  unfold styleFeatures at member
  split at member
  · cases member
  · obtain ⟨⟨slot, image⟩, -, rfl⟩ := List.mem_map.mp member
    exact styleImageName_ne slot

theorem weights_float : ∀ entry ∈ defaultWeights mapping ++ ruleWeights mapping user, ∃ x, entry.2 = .float x := by
  intro entry member
  rcases List.mem_append.mp member with default | rule
  · obtain ⟨⟨name, x⟩, -, rfl⟩ := List.mem_map.mp default
    exact ⟨x, rfl⟩
  · obtain ⟨applied, -, rfl⟩ := List.mem_map.mp rule
    exact ⟨applied.value, rfl⟩

/-- The name of a built set's image is its key after the prefix, or a number of the mapping is in its place. -/
theorem get?_filenamePrefix (disk : Disk) (mapping : KeywordMapping) (context : MapperContext) (user : UserRecord) :
    (build disk mapping context user).get? "filename_prefix" =
        some (.text (mapping.filenamePrefix ++ "_" ++ (build disk mapping context user).key)) ∨
      ∃ x, (build disk mapping context user).get? "filename_prefix" = some (.float x) := by
  have values : (build disk mapping context user).get? "filename_prefix" =
      (((defaultWeights mapping ++ ruleWeights mapping user).reverse.find? (·.1 == "filename_prefix")).map (·.2)).or
        (Entries.get? "filename_prefix"
          (Entries.ofList (tokenFeatures mapping user ++ builtInFeatures mapping user context.styleSeed))) := by
    rw [get?, build, assignments, Entries.get?_ofList_append, Entries.get?_ofList_append, find?_others style_others,
      find?_others reference_others, List.append_assoc _ (defaultWeights mapping), Entries.get?_ofList_append]
    rfl
  rw [values]
  cases weights : (defaultWeights mapping ++ ruleWeights mapping user).reverse.find? (·.1 == "filename_prefix") with
  | some entry =>
      obtain ⟨x, number⟩ := weights_float entry (List.mem_reverse.mp (List.mem_of_find?_eq_some weights))
      exact .inr ⟨x, congrArg some number⟩
  | none =>
      left
      rw [Entries.get?_ofList_append]
      rfl

theorem fileStem_of_isNamed (named : IsNamed (build disk mapping context user)) :
    (build disk mapping context user).fileStem =
      mapping.filenamePrefix ++ "_" ++ (build disk mapping context user).key := by
  obtain ⟨stem, given⟩ := named
  unfold fileStem
  rcases get?_filenamePrefix disk mapping context user with text | ⟨x, number⟩
  · rw [text]
    refine if_neg fun none_ => ?_
    have chars := congrArg String.toList none_
    simp at chars
  · cases given.symm.trans number

theorem fileStem_of_not_isNamed (unnamed : ¬ IsNamed (build disk mapping context user)) :
    (build disk mapping context user).fileStem = (build disk mapping context user).key := by
  unfold fileStem
  rcases get?_filenamePrefix disk mapping context user with text | ⟨x, number⟩
  · exact absurd ⟨_, text⟩ unnamed
  · rw [number]

/-- If both names are texts, or both are not, images with one stem have one key. -/
theorem key_eq_of_fileStem_eq {other : UserRecord} {otherContext : MapperContext}
    (alike : IsNamed (build disk mapping context user) ↔ IsNamed (build disk mapping otherContext other))
    (same : (build disk mapping context user).fileStem = (build disk mapping otherContext other).fileStem) :
    (build disk mapping context user).key = (build disk mapping otherContext other).key := by
  by_cases named : IsNamed (build disk mapping context user)
  · rw [fileStem_of_isNamed named, fileStem_of_isNamed (alike.mp named)] at same
    simpa using same
  · rwa [fileStem_of_not_isNamed named, fileStem_of_not_isNamed (mt alike.mpr named)] at same

/-- Built sets of different pairs have one key exactly if they cross. -/
theorem key_eq_iff {other : UserRecord} {otherContext : MapperContext}
    (styles : (context.styleSeed = none ∧ otherContext.styleSeed = none) ∨
      ∃ seed otherSeed, context.styleSeed = some seed ∧ otherContext.styleSeed = some otherSeed)
    (different : (user.userId, context.styleSeed.map (·.id)) ≠ (other.userId, otherContext.styleSeed.map (·.id))) :
    (build disk mapping context user).key = (build disk mapping otherContext other).key ↔
      (build disk mapping context user).Crosses (build disk mapping otherContext other) ∨
        (build disk mapping otherContext other).Crosses (build disk mapping context user) := by
  rcases styles with ⟨plain, alsoPlain⟩ | ⟨seed, otherSeed, styled, alsoStyled⟩
  · -- Without a style the key is the user's id, and nothing crosses.
    have users : user.userId ≠ other.userId := by
      intro same
      simp [plain, alsoPlain, same] at different
    simp [Crosses, build, jobKey, plain, alsoPlain, users]
  · have notSame : ¬ (user.userId = other.userId ∧ seed.id = otherSeed.id) := by
      rintro ⟨sameUser, sameSeed⟩
      simp [styled, alsoStyled, sameUser, sameSeed] at different
    have style : (build disk mapping context user).styleSeed = some seed.id := by
      rw [build, styled, Option.map_some]
    have otherStyle : (build disk mapping otherContext other).styleSeed = some otherSeed.id := by
      rw [build, alsoStyled, Option.map_some]
    rw [crosses_iff style otherStyle, crosses_iff otherStyle style]
    simp only [build, styled, alsoStyled, Option.map_some, jobKey_eq_iff, notSame, false_or]

end FeatureSet

namespace Tracker.Batch

variable {config : RunnerConfig} {disk : Disk} {batch : Batch} {f g : FeatureSet}

/-- A loaded batch has the features of some users, each in all of the contexts. -/
theorem exists_of_load (loaded : load config disk = .ok batch) :
    ∃ mapping seeds, ∃ users : List UserRecord, batch.features = users.flatMap fun user =>
      (config.contexts seeds).map fun context => FeatureSet.build disk mapping context user := by
  simp only [load, Checks.bind_eq_ok] at loaded
  obtain ⟨mapping, -, template, -, table, -, ids, -, seeds, -, same⟩ := loaded
  cases same
  exact ⟨mapping, seeds, _, rfl⟩

/-- Either all contexts have a style or none has. -/
theorem styles_of_contexts {seeds : List StyleSeed} {context other : MapperContext}
    (member : context ∈ config.contexts seeds) (alsoMember : other ∈ config.contexts seeds) :
    (context.styleSeed = none ∧ other.styleSeed = none) ∨
      ∃ seed otherSeed, context.styleSeed = some seed ∧ other.styleSeed = some otherSeed := by
  unfold RunnerConfig.contexts at member alsoMember
  by_cases plain : seeds.isEmpty = true
  · rw [if_pos plain] at member alsoMember
    obtain rfl := List.mem_singleton.mp member
    obtain rfl := List.mem_singleton.mp alsoMember
    exact .inl ⟨rfl, rfl⟩
  · rw [if_neg plain] at member alsoMember
    obtain ⟨seed, -, rfl⟩ := List.mem_map.mp member
    obtain ⟨otherSeed, -, rfl⟩ := List.mem_map.mp alsoMember
    exact .inr ⟨seed, otherSeed, rfl, rfl⟩

/-- Two users and two styles, without anything else. -/
def crossedConfig : RunnerConfig where
  serviceUrl := "http://127.0.0.1:8188"
  requestTimeout := Duration.ofSeconds 30
  userTable := ⟨"users.csv"⟩
  mappingPath := ⟨"mapping.json"⟩
  templatePath := ⟨"template.json"⟩
  userImagesDir := ⟨"images"⟩
  seedsDir := ⟨"seeds"⟩
  styleSeedId := none
  outputDir := ⟨"outputs"⟩
  tracker := {}
  retry := {}
  runLimit := none
  runUsers := none
  logFormat := .text

/-- The user `a_b` and the style `c` have one key with the user `a` and the style `b_c`. -/
def crossedDisk : Disk where
  nodes := [
    (["mapping.json"], .file (Text.toBytes "\x7b\x7d")),
    (["template.json"], .file (Text.toBytes
      "\x7b\"name\":\"card\",\"graph\":\x7b\"1\":\x7b\"class_type\":\"Save\"\x7d\x7d\x7d")),
    (["users.csv"], .file (Text.toBytes "number\na_b\na\n")),
    (["seeds"], .folder),
    (["seeds", "texts"], .folder),
    (["seeds", "texts", "b_c.txt"], .file []),
    (["seeds", "texts", "c.txt"], .file [])]

/-- The users and styles of the batch, with the keys and the stems of their images. -/
def crossedRows : List (String × Option String × String × String) :=
  [("a_b", some "b_c", "a_b_b_c", "monster_a_b_b_c"), ("a_b", some "c", "a_b_c", "monster_a_b_c"),
    ("a", some "b_c", "a_b_c", "monster_a_b_c"), ("a", some "c", "a_c", "monster_a_c")]

theorem exists_crossed : ∃ batch, load crossedConfig crossedDisk = .ok batch ∧
    ∀ row ∈ crossedRows, ∃ f ∈ batch.features, (f.userId, f.styleSeed, f.key, f.fileStem) = row := by
  have shown : ((load crossedConfig crossedDisk).toOption.map fun batch =>
      batch.features.map fun f => (f.userId, f.styleSeed, f.key, f.fileStem)) = some crossedRows := by decide +kernel
  obtain ⟨batch, loaded, rows⟩ := Checks.exists_of_toOption shown
  refine ⟨batch, loaded, fun row member => ?_⟩
  rw [← rows] at member
  exact List.mem_map.mp member

/-- Users and styles that are not the same may have one key, and their images one name. -/
theorem load_crossed : ∃ batch, load crossedConfig crossedDisk = .ok batch ∧
    ∃ f ∈ batch.features, ∃ g ∈ batch.features, (f.userId, f.styleSeed) ≠ (g.userId, g.styleSeed) ∧
      f.key = g.key ∧ f.fileStem = g.fileStem := by
  obtain ⟨batch, loaded, rows⟩ := exists_crossed
  obtain ⟨f, inBatch, first⟩ := rows ("a_b", some "c", "a_b_c", "monster_a_b_c") (by decide)
  obtain ⟨g, alsoInBatch, second⟩ := rows ("a", some "b_c", "a_b_c", "monster_a_b_c") (by decide)
  simp only [Prod.mk.injEq] at first second
  obtain ⟨user, style, key, stem⟩ := first
  obtain ⟨otherUser, otherStyle, otherKey, otherStem⟩ := second
  refine ⟨batch, loaded, f, inBatch, g, alsoInBatch, ?_, key.trans otherKey.symm, stem.trans otherStem.symm⟩
  rw [user, style, otherUser, otherStyle]
  decide

/-- Two feature sets of a batch that come from different users or styles have one key exactly if they cross. If they
do not, they share no record, and no stem of an image either, unless a number is in the place of the name in just one of
them. -/
theorem load_identifies (loaded : load config disk = .ok batch) (inBatch : f ∈ batch.features)
    (alsoInBatch : g ∈ batch.features) (different : (f.userId, f.styleSeed) ≠ (g.userId, g.styleSeed)) :
    (f.key = g.key ↔ f.Crosses g ∨ g.Crosses f) ∧
    (f.key ≠ g.key →
      (∀ (store : BatchStore) record other, store.get? f.key = some record → store.get? g.key = some other →
        record ≠ other) ∧
      ((f.IsNamed ↔ g.IsNamed) → f.fileStem ≠ g.fileStem)) := by
  obtain ⟨mapping, seeds, users, features⟩ := exists_of_load loaded
  rw [features] at inBatch alsoInBatch
  obtain ⟨user, -, there⟩ := List.mem_flatMap.mp inBatch
  obtain ⟨context, inContexts, rfl⟩ := List.mem_map.mp there
  obtain ⟨other, -, alsoThere⟩ := List.mem_flatMap.mp alsoInBatch
  obtain ⟨otherContext, alsoInContexts, rfl⟩ := List.mem_map.mp alsoThere
  refine ⟨?_, fun keys => ⟨?_, ?_⟩⟩
  · exact FeatureSet.key_eq_iff (styles_of_contexts inContexts alsoInContexts) different
  · rintro store record _ found alsoFound rfl
    exact keys ((BatchStore.userId_of_get? found).symm.trans (BatchStore.userId_of_get? alsoFound))
  · intro alike same
    exact keys (FeatureSet.key_eq_of_fileStem_eq alike same)

theorem load_identifies_crossed : ∃ batch, load crossedConfig crossedDisk = .ok batch ∧
    ∃ f ∈ batch.features, ∃ g ∈ batch.features, (f.Crosses g ∨ g.Crosses f) ∧
      ∃ h ∈ batch.features, ∀ (store : BatchStore) record other, store.get? f.key = some record →
        store.get? h.key = some other → record ≠ other := by
  obtain ⟨batch, loaded, rows⟩ := exists_crossed
  obtain ⟨f, inBatch, first⟩ := rows ("a_b", some "c", "a_b_c", "monster_a_b_c") (by decide)
  obtain ⟨g, alsoInBatch, second⟩ := rows ("a", some "b_c", "a_b_c", "monster_a_b_c") (by decide)
  obtain ⟨h, inBatchToo, third⟩ := rows ("a", some "c", "a_c", "monster_a_c") (by decide)
  simp only [Prod.mk.injEq] at first second third
  obtain ⟨user, style, key, -⟩ := first
  obtain ⟨otherUser, otherStyle, otherKey, -⟩ := second
  obtain ⟨thirdUser, thirdStyle, thirdKey, -⟩ := third
  refine ⟨batch, loaded, f, inBatch, g, alsoInBatch, ?_, h, inBatchToo, ?_⟩
  · refine (load_identifies loaded inBatch alsoInBatch ?_).1.mp (key.trans otherKey.symm)
    rw [user, style, otherUser, otherStyle]
    decide
  · refine ((load_identifies loaded inBatch inBatchToo ?_).2 ?_).1
    · rw [user, style, thirdUser, thirdStyle]
      decide
    · rw [key, thirdKey]
      decide

end Tracker.Batch

end ImageBatch
