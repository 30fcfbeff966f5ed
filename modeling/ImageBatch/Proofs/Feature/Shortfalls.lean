import ImageBatch.Feature.Build
import ImageBatch.Proofs.Text.Cutting
import Mathlib.Data.List.Range

/-!
What a user's features do without.

A category does without tokens where the user `Lacks` its column, the reference image may be in none of its places, and
a style may have no images, or not all of them on the disk. Each of these is noted once, and nothing else is
(`FeatureSet.notes_build`): the categories first, in their order, then the reference image, then the slots of the style.
-/

namespace ImageBatch

variable {disk : Disk} {mapping : KeywordMapping} {context : MapperContext} {user : UserRecord}

/-! ### Columns -/

namespace UserRecord

/-- The table has no such column for a user, or nothing but blanks in it. -/
def Lacks (user : UserRecord) (column : String) : Prop :=
  ∀ cell, user.fields.get? column = some cell → ∀ c ∈ cell.toList, Text.isBlank c = true

theorem field?_eq_none {column : String} : user.field? column = none ↔ user.Lacks column := by
  unfold field? Lacks
  cases user.fields.get? column with
  | none => simp
  | some cell => simp [Text.trim_eq_empty]

instance (user : UserRecord) (column : String) : Decidable (user.Lacks column) := decidable_of_iff _ field?_eq_none

end UserRecord

/-! ### Images -/

/-- A folder has a user's reference image under none of its names. -/
def NoReference (disk : Disk) (user : UserRecord) (folder : Path) : Prop :=
  ∀ extension ∈ ["png", "jpg", "jpeg"], disk.isFile (folder.join ("P" ++ user.userId ++ "." ++ extension)) = false

instance (disk : Disk) (user : UserRecord) (folder : Path) : Decidable (NoReference disk user folder) :=
  inferInstanceAs (Decidable (∀ extension ∈ _, _))

/-- The image for a slot of a style: the images take turns in the slots, which are counted from 1. -/
def StyleSeed.image? (seed : StyleSeed) (slot : Nat) : Option Path :=
  seed.images[(slot - 1) % seed.images.length]?

namespace FeatureSet

theorem referenceImage?_eq_none {folder : Path} :
    referenceImage? disk folder user.userId = none ↔ NoReference disk user folder := by
  simp [referenceImage?, referenceExtensions, NoReference]

theorem styleSlots_eq (seed : StyleSeed) (count : Nat) :
    styleSlots seed.images count =
      (List.range' 1 count).filterMap fun slot => (seed.image? slot).map fun image => (slot, image) := by
  have turns : (List.range' 1 count).filterMap (fun slot => (seed.image? slot).map fun image => (slot, image)) =
      (List.range count).filterMap fun i =>
        (seed.images[i % seed.images.length]?).map fun image => (i + 1, image) := by
    rw [List.range'_eq_map_range, List.filterMap_map]
    refine List.filterMap_congr fun i _ => ?_
    simp [StyleSeed.image?, Nat.add_comm 1 i]
  rw [turns, styleSlots]
  split
  next none_ => simp [List.isEmpty_iff.mp none_]
  next => rfl

theorem mem_styleSlots {seed : StyleSeed} {count slot : Nat} {image : Path} :
    (slot, image) ∈ styleSlots seed.images count ↔ seed.image? slot = some image ∧ 1 ≤ slot ∧ slot ≤ count := by
  simp only [styleSlots_eq, List.mem_filterMap, List.mem_range'_1, Option.map_eq_some_iff, Prod.mk.injEq]
  constructor
  · rintro ⟨slot, ⟨from_, upto⟩, image, turn, rfl, rfl⟩
    exact ⟨turn, from_, by omega⟩
  · rintro ⟨turn, from_, upto⟩
    exact ⟨slot, ⟨from_, by omega⟩, image, turn, rfl, rfl⟩

/-- Each slot is filled once. -/
theorem nodup_slots (seed : StyleSeed) (count : Nat) :
    (styleSlots seed.images count).Pairwise fun one other => one.1 ≠ other.1 := by
  rw [styleSlots_eq, List.pairwise_filterMap]
  refine (List.nodup_range' 1).imp ?_
  rintro slot other differ _ filled _ alsoFilled same
  obtain ⟨image, -, rfl⟩ := Option.map_eq_some_iff.mp filled
  obtain ⟨also, -, rfl⟩ := Option.map_eq_some_iff.mp alsoFilled
  exact differ same

theorem styleImageName_inj {slot other : Nat} (same : styleImageName slot = styleImageName other) : slot = other := by
  have digits : Nat.toDigits 10 slot = Nat.toDigits 10 other := by
    rw [← Nat.toList_repr, ← Nat.toList_repr]
    exact congrArg String.toList ((String.append_right_inj _).mp same)
  rw [← Nat.ofDigitChars_ten_toDigits (n := slot), digits, Nat.ofDigitChars_ten_toDigits]

/-! ### Notes -/

/-- A note for each category whose column a user lacks. -/
def columnShortfalls (mapping : KeywordMapping) (user : UserRecord) : List String :=
  (mapping.categories.filter fun category => user.Lacks category.column).map fun category =>
    "column '" ++ category.column ++ "' missing or empty, no " ++ category.name ++ " tokens"

/-- A note if there is a folder to look in and the reference image is in none of its places. -/
def referenceShortfalls (disk : Disk) (context : MapperContext) (user : UserRecord) : List String :=
  (context.userImagesDir.toList.filter fun folder => NoReference disk user folder).map fun folder =>
    "no reference image P" ++ user.userId ++ ".* in " ++ folder.text ++ ", control_image uses template default"

/-- A note for a style without images, or for each slot whose image is not on the disk. -/
def styleShortfalls (disk : Disk) (mapping : KeywordMapping) (context : MapperContext) : List String :=
  context.styleSeed.toList.flatMap fun seed =>
    if seed.images = [] then
      ["style seed '" ++ seed.id ++ "' has no images, style image slots use template defaults"]
    else
      (List.range' 1 mapping.styleImageSlots).flatMap fun slot =>
        ((seed.image? slot).toList.filter fun image => disk.isFile image = false).map fun image =>
          "style image " ++ image.text ++ " missing, " ++ ("style_image_" ++ toString slot) ++ " uses template default"

theorem columnNotes_eq (mapping : KeywordMapping) (user : UserRecord) :
    columnNotes mapping user = columnShortfalls mapping user := by
  unfold columnNotes columnShortfalls
  congr 1
  refine List.filter_congr fun category _ => ?_
  rw [Bool.eq_iff_iff, decide_eq_true_eq, Option.isNone_iff_eq_none, UserRecord.field?_eq_none]

theorem referenceNotes_eq (disk : Disk) (context : MapperContext) (user : UserRecord) :
    referenceNotes disk user context = referenceShortfalls disk context user := by
  unfold referenceNotes referenceShortfalls
  cases context.userImagesDir with
  | none => rfl
  | some folder =>
      by_cases nowhere : NoReference disk user folder
      · simp [referenceImage?_eq_none.mpr nowhere, nowhere]
      · obtain ⟨image, found⟩ := Option.ne_none_iff_exists'.mp (mt referenceImage?_eq_none.mp nowhere)
        simp [found, nowhere]

theorem styleNotes_eq (disk : Disk) (mapping : KeywordMapping) (context : MapperContext) :
    styleNotes disk mapping context = styleShortfalls disk mapping context := by
  unfold styleNotes styleShortfalls
  cases context.styleSeed with
  | none => rfl
  | some seed =>
      simp only [styleSlots_eq, List.isEmpty_iff, Option.toList_some, List.flatMap_singleton]
      split
      next => rfl
      next =>
          rw [List.filterMap_eq_flatMap_toList, List.filter_flatMap, List.map_flatMap]
          refine List.flatMap_congr fun slot _ => ?_
          cases seed.image? slot with
          | none => rfl
          | some image => cases there : disk.isFile image <;> simp [there, styleImageName]

/-- The notes of a user are one for each shortfall. -/
theorem notes_build (disk : Disk) (mapping : KeywordMapping) (context : MapperContext) (user : UserRecord) :
    (build disk mapping context user).notes =
      columnShortfalls mapping user ++ referenceShortfalls disk context user ++
        styleShortfalls disk mapping context := by
  rw [← columnNotes_eq, ← referenceNotes_eq, ← styleNotes_eq]
  rfl

end FeatureSet

end ImageBatch
