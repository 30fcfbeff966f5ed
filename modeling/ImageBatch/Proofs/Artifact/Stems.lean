import ImageBatch.Proofs.Artifact.Containment
import ImageBatch.Proofs.Batch.Product

/-!
Ids that may become part of a file name make stems that are plain.

A stem is plain if it has no separator and is no point or two (`FileName.isPlainStem_iff`). The id of a user, and the key
of a user with a style, is such a stem, and so is it after the prefix of a mapping that has no separator
(`FeatureSet.isPlainStem_fileStem`), also where a number has taken the place of the name. The users and styles of a
batch that loads have usable ids, so no image of the batch is refused for its name (`Tracker.Batch.stems_plain`).
-/

namespace ImageBatch

namespace FileName

variable {stem id : String}

/-- A stem without a slash is one part of a path, so its parts need not be counted. -/
theorem isPlainStem_iff : isPlainStem stem = true ↔ Path.IsPlain stem ∧ '\\' ∉ stem.toList := by
  have single (plain : Path.IsPlain stem) : (Path.mk stem).isSingle = true := by
    have segments : (Path.mk stem).segments = [stem] := by simp [Path.segments, Path.splitOn_of_isPlain plain]
    have component := Path.componentOf?_eq_name.mpr ⟨rfl, plain.2⟩
    simp [Path.isSingle, Path.components, segments, Path.not_isAbsolute_of_isPlain plain, plain.2.2.1, component]
  have separators : (stem.toList.any fun c => c == '/' || c == '\\') = false ↔
      '/' ∉ stem.toList ∧ '\\' ∉ stem.toList := by
    simp only [List.any_eq_false, Bool.or_eq_true, beq_iff_eq, not_or]
    constructor
    · intro others
      exact ⟨fun member => (others _ member).1 rfl, fun member => (others _ member).2 rfl⟩
    · rintro ⟨slash, backslash⟩ c member
      exact ⟨fun same => slash (same ▸ member), fun same => backslash (same ▸ member)⟩
  simp only [isPlainStem, Bool.and_eq_true, bne_iff_ne, Bool.not_eq_true', separators]
  constructor
  · rintro ⟨⟨⟨⟨some_, here⟩, up⟩, slash, backslash⟩, -⟩
    exact ⟨⟨slash, some_, here, up⟩, backslash⟩
  · rintro ⟨plain, backslash⟩
    exact ⟨⟨⟨⟨plain.2.1, plain.2.2.1⟩, plain.2.2.2⟩, plain.1, backslash⟩, single plain⟩

/-- A usable id is not empty, begins with no point and has no separator, colon or control character. -/
theorem isSafeId_iff : isSafeId id = true ↔
    (∃ first rest, id.toList = first :: rest ∧ first ≠ '.') ∧ ∀ c ∈ id.toList, isForbidden c = false := by
  unfold isSafeId
  cases chars : id.toList with
  | nil => simp
  | cons first rest => simp [isForbidden]

theorem not_mem_of_isSafeId {c : Char} (safe : isSafeId id = true) (forbidden : isForbidden c = true) :
    c ∉ id.toList := fun member =>
  nomatch ((isSafeId_iff.mp safe).2 c member).symm.trans forbidden

/-- A usable id is itself a plain stem. -/
theorem isPlainStem_of_isSafeId (safe : isSafeId id = true) : isPlainStem id = true := by
  obtain ⟨⟨first, rest, chars, noPoint⟩, -⟩ := isSafeId_iff.mp safe
  refine isPlainStem_iff.mpr ⟨⟨not_mem_of_isSafeId safe rfl, ?_, ?_, ?_⟩, not_mem_of_isSafeId safe rfl⟩
  · rintro rfl
    cases chars
  · rintro rfl
    exact noPoint (List.cons.inj chars).1.symm
  · rintro rfl
    exact noPoint (List.cons.inj chars).1.symm

/-- The key of a user with a style is as usable as their ids. -/
theorem isSafeId_jobKey {user : String} {style : Option String} (safe : isSafeId user = true)
    (alsoSafe : ∀ seed, style = some seed → isSafeId seed = true) : isSafeId (jobKey user style) = true := by
  cases style with
  | none => exact safe
  | some seed =>
      obtain ⟨⟨first, rest, chars, noPoint⟩, allowed⟩ := isSafeId_iff.mp safe
      obtain ⟨-, alsoAllowed⟩ := isSafeId_iff.mp (alsoSafe seed rfl)
      have key : (jobKey user (some seed)).toList = user.toList ++ '_' :: seed.toList := by simp [jobKey]
      refine isSafeId_iff.mpr ⟨⟨first, rest ++ '_' :: seed.toList, ?_, noPoint⟩, fun c member => ?_⟩
      · rw [key, chars, List.cons_append]
      · rw [key, List.mem_append, List.mem_cons] at member
        rcases member with member | rfl | member
        · exact allowed c member
        · rfl
        · exact alsoAllowed c member

/-- A text without separators may stand in front of a usable id, with an underscore between them. -/
theorem isPlainStem_append {label : String} (slash : '/' ∉ label.toList) (backslash : '\\' ∉ label.toList)
    (safe : isSafeId id = true) : isPlainStem (label ++ "_" ++ id) = true := by
  have chars : (label ++ "_" ++ id).toList = label.toList ++ '_' :: id.toList := by simp
  have without {c : Char} (here : c ∉ label.toList) (there : c ∉ id.toList) (other : c ≠ '_') :
      c ∉ (label ++ "_" ++ id).toList := by
    rw [chars, List.mem_append, List.mem_cons]
    rintro (member | same | member)
    · exact here member
    · exact other same
    · exact there member
  have underscore : '_' ∈ (label ++ "_" ++ id).toList := by simp
  refine isPlainStem_iff.mpr ⟨⟨?_, ?_, ?_, ?_⟩, ?_⟩
  · exact without slash (not_mem_of_isSafeId safe rfl) (by decide)
  · exact fun same => absurd (same ▸ underscore) (by decide)
  · exact fun same => absurd (same ▸ underscore) (by decide)
  · exact fun same => absurd (same ▸ underscore) (by decide)
  · exact without backslash (not_mem_of_isSafeId safe rfl) (by decide)

end FileName

/-- The stem of the image of a user is plain if the ids are usable and the mapping's prefix has no separator. -/
theorem FeatureSet.isPlainStem_fileStem {mapping : KeywordMapping} (slash : '/' ∉ mapping.filenamePrefix.toList)
    (backslash : '\\' ∉ mapping.filenamePrefix.toList) (disk : Disk) {context : MapperContext} {user : UserRecord}
    (safe : FileName.isSafeId user.userId = true)
    (alsoSafe : ∀ seed, context.styleSeed = some seed → FileName.isSafeId seed.id = true) :
    FileName.isPlainStem (build disk mapping context user).fileStem = true := by
  have key : FileName.isSafeId (build disk mapping context user).key = true := by
    refine FileName.isSafeId_jobKey safe fun id given => ?_
    obtain ⟨seed, styled, rfl⟩ := Option.map_eq_some_iff.mp given
    exact alsoSafe seed styled
  by_cases named : IsNamed (build disk mapping context user)
  · rw [fileStem_of_isNamed named]
    exact FileName.isPlainStem_append slash backslash key
  · rw [fileStem_of_not_isNamed named]
    exact FileName.isPlainStem_of_isSafeId key

namespace Collector

variable {Ask : Type} {Answer : Ask → Type} {σ : Type} {c : Collector Ask Answer σ} {disk : Disk} {record : JobRecord}
  {stem other : String} {world : World σ}

theorem isPlainStem_eq_false (refused : prospect disk record stem = .refused (.unsafeName other)) :
    FileName.isPlainStem stem = false := by
  unfold prospect at refused
  split at refused
  · cases refused
  split at refused
  · cases refused
  split at refused
  · cases refused
  split at refused
  · cases refused
  next unsafe_ => exact Bool.eq_false_iff.mpr unsafe_

/-- A plain stem is refused by no collection. -/
theorem not_unsafeName (plain : FileName.isPlainStem stem = true) :
    (c.collect record stem world).1 ≠ .error (.unsafeName other) := by
  intro failed
  rcases collect_cases (Prod.eta (c.collect record stem world)).symm with
    ⟨own, -, done, -⟩ | ⟨cause, refused, given, -⟩ | ⟨reference, -, kept⟩
  · cases failed.symm.trans done
  · cases failed.symm.trans given
    cases plain.symm.trans (isPlainStem_eq_false refused)
  · rw [failed] at kept
    cases (error_of_keep kept).1

end Collector

/-- What holds of each item that is related to another one holds of all. -/
theorem forall_mem_of_forall₂ {α β : Type} {related : α → β → Prop} {p : β → Prop} {items : List α}
    {results : List β} (every : List.Forall₂ related items results) (holds : ∀ item result, related item result → p result) :
    ∀ result ∈ results, p result := by
  induction every with
  | nil => exact nofun
  | cons first _ ih => exact List.forall_mem_cons.mpr ⟨holds _ _ first, ih⟩

/-- The users that a table has can be part of a file name. -/
theorem Users.AreUsersOf.isSafeId {idColumn : String} {columns : List String} {rows : List (List String)}
    {users : List UserRecord} {user : UserRecord} (are : AreUsersOf idColumn columns rows users)
    (member : user ∈ users) : FileName.isSafeId user.userId = true := by
  obtain ⟨places, -, first⟩ := are.first
  have safe : ∀ user ∈ users, FileName.isSafeId user.userId = true := by
    refine forall_mem_of_forall₂ first ?_
    rintro place user ⟨row, -, has, -⟩
    exact has.2.2
  exact safe user member

theorem RunnerConfig.Selects.subset {config : RunnerConfig} {table users : List UserRecord}
    (selects : config.Selects table users) : users ⊆ table := by
  cases limit : config.runLimit with
  | none =>
      rw [selects.unlimited limit]
      exact List.filter_subset_self table
  | some n =>
      rw [selects.limited n limit]
      exact fun user member => List.filter_subset_self table (List.mem_of_mem_take member)

/-- A seed that is read has a usable id. -/
theorem Seeds.isSafeId_of_load {disk : Disk} {folder : Path} {id : String} {seed : StyleSeed}
    (loaded : load disk folder id = .ok seed) : FileName.isSafeId seed.id = true := by
  rw [id_of_load loaded]
  unfold load at loaded
  simpa using (Checks.guard_eq_ok.mp loaded).1

namespace Tracker.Batch

variable {config : RunnerConfig} {disk : Disk} {batch : Batch} {mapping : KeywordMapping} {features : FeatureSet}

/-- The features of a batch are built with its mapping from a user and a style, or none, with usable ids. -/
theorem exists_safe_of_load (mapped : KeywordMapping.load disk config.mappingPath = .ok mapping)
    (loaded : load config disk = .ok batch) (member : features ∈ batch.features) :
    ∃ context user, features = FeatureSet.build disk mapping context user ∧ FileName.isSafeId user.userId = true ∧
      ∀ seed, context.styleSeed = some seed → FileName.isSafeId seed.id = true := by
  simp only [load, Checks.bind_eq_ok] at loaded
  obtain ⟨mapping', mapped', template, -, table, tabled, ids, -, seeds, all, same⟩ := loaded
  cases same
  cases mapped.symm.trans mapped'
  obtain ⟨columns, rows, -, -, are⟩ := Users.exists_of_load tabled
  obtain ⟨user, selected, there⟩ := List.mem_flatMap.mp member
  obtain ⟨context, inContexts, rfl⟩ := List.mem_map.mp there
  refine ⟨context, user, rfl, are.isSafeId ((config.selects_select table).subset selected), fun seed styled => ?_⟩
  have usable : ∀ seed ∈ seeds, FileName.isSafeId seed.id = true :=
    forall_mem_of_forall₂ (Checks.mapM_eq_ok.mp all) fun _ _ => Seeds.isSafeId_of_load
  unfold RunnerConfig.contexts at inContexts
  split at inContexts
  · obtain rfl := List.mem_singleton.mp inContexts
    cases styled
  · obtain ⟨given, inSeeds, rfl⟩ := List.mem_map.mp inContexts
    cases styled
    exact usable seed inSeeds

/-- Where the prefix of the mapping has no separator, usable ids make plain stems, whatever else the mapping says; and no
image of a batch that loads is refused for its name. -/
theorem stems_plain (mapping : KeywordMapping) (slash : '/' ∉ mapping.filenamePrefix.toList)
    (backslash : '\\' ∉ mapping.filenamePrefix.toList) :
    (∀ disk context (user : UserRecord), FileName.isSafeId user.userId = true →
      (∀ seed, context.styleSeed = some seed → FileName.isSafeId seed.id = true) →
      FileName.isPlainStem (FeatureSet.build disk mapping context user).fileStem = true) ∧
    ∀ config disk batch, KeywordMapping.load disk config.mappingPath = .ok mapping → load config disk = .ok batch →
      ∀ features ∈ batch.features, ∀ (Ask : Type) (Answer : Ask → Type) (σ : Type) (c : Collector Ask Answer σ)
        (record : JobRecord) (world : World σ) (stem : String),
        (c.collect record features.fileStem world).1 ≠ .error (.unsafeName stem) := by
  have plain (disk : Disk) (context : MapperContext) (user : UserRecord) (safe : FileName.isSafeId user.userId = true)
      (alsoSafe : ∀ seed, context.styleSeed = some seed → FileName.isSafeId seed.id = true) :=
    FeatureSet.isPlainStem_fileStem slash backslash disk safe alsoSafe
  refine ⟨plain, ?_⟩
  intro config disk batch mapped loaded features member Ask Answer σ c record world stem
  obtain ⟨context, user, rfl, safe, alsoSafe⟩ := exists_safe_of_load mapped loaded member
  exact Collector.not_unsafeName (plain disk context user safe alsoSafe)

/-- A prefix that would be no plain stem, and a number in the place of every name. -/
def dottedDisk : Disk :=
  eveningDisk.put ["mapping.json"] (.file (Text.toBytes
    "\x7b\"filename_prefix\":\"..\",\"numeric_defaults\":\x7b\"filename_prefix\":1\x7d\x7d"))

theorem stems_plain_dotted : ∃ mapping batch, KeywordMapping.load dottedDisk eveningConfig.mappingPath = .ok mapping ∧
    mapping.filenamePrefix = ".." ∧ load eveningConfig dottedDisk = .ok batch ∧
    batch.features.map (·.fileStem) = ["a_dawn", "a_dusk"] ∧
    (∀ features ∈ batch.features, ∀ (record : JobRecord) (world : World Unit) (stem : String),
      (Collector.studio.collect record features.fileStem world).1 ≠ .error (.unsafeName stem)) ∧
    FileName.isPlainStem (FeatureSet.build dottedDisk mapping ⟨none, none⟩ ⟨"ada", []⟩).fileStem = true := by
  have given : (KeywordMapping.load dottedDisk eveningConfig.mappingPath).toOption.map (·.filenamePrefix) = some ".." := by
    decide +kernel
  have shown : (load eveningConfig dottedDisk).toOption.map (·.features.map (·.fileStem)) =
      some ["a_dawn", "a_dusk"] := by decide +kernel
  obtain ⟨mapping, mapped, label⟩ := Checks.exists_of_toOption given
  obtain ⟨batch, loaded, stems⟩ := Checks.exists_of_toOption shown
  obtain ⟨plain, collectable⟩ := stems_plain mapping (by rw [label]; decide) (by rw [label]; decide)
  refine ⟨mapping, batch, mapped, label, loaded, stems, fun features member => ?_, ?_⟩
  · exact collectable _ _ batch mapped loaded features member _ _ _ Collector.studio
  · exact plain dottedDisk ⟨none, none⟩ ⟨"ada", []⟩ (by decide) nofun

end Tracker.Batch

end ImageBatch
