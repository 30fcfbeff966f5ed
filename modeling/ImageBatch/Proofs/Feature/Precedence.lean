import ImageBatch.Proofs.Entries
import ImageBatch.Proofs.Feature.Shortfalls
import ImageBatch.Proofs.Feature.Tokens

/-!
Which value a feature gets.

Features have values from six sources (`FeatureSet.Gives`), and a mapping may make several of them meet at one name. The
strongest source that has a value decides (`FeatureSource.all` has the strongest first), within one source the last rule,
number or category for the name, and a feature for which no source has a value is absent. `FeatureSet.build_strongest`
says so for all mappings, users and disks, together with the notes about what is missing.
-/

namespace ImageBatch

/-- Where the value of a feature comes from. -/
inductive FeatureSource where
  | styleImage
  | referenceImage
  | weightRule
  | numericDefault
  | builtIn
  | tokens
deriving DecidableEq, Repr

/-- The sources, the strongest first. -/
def FeatureSource.all : List FeatureSource :=
  [.styleImage, .referenceImage, .weightRule, .numericDefault, .builtIn, .tokens]

theorem FeatureSource.mem_all (source : FeatureSource) : source ∈ all := by
  cases source <;> simp [all]

theorem WeightRule.applies_iff {rule : WeightRule} {user : UserRecord} :
    rule.applies user = true ↔ ∃ keyword ∈ user.keywords rule.column, rule.contains.toList <:+: keyword.toList := by
  simp only [WeightRule.applies, List.any_eq_true, Text.contains_iff]

namespace FeatureSet

variable {disk : Disk} {mapping : KeywordMapping} {context : MapperContext} {user : UserRecord}
variable {source : FeatureSource} {name : String} {value : FeatureValue}

/-! ### What the sources give -/

/-- The texts and the seed that every user has. -/
inductive BuiltIn (mapping : KeywordMapping) (context : MapperContext) (user : UserRecord) :
    String → FeatureValue → Prop
  | creature : BuiltIn mapping context user "creature_type" (.text (mapping.creature.creature user))
  | positive :
      BuiltIn mapping context user "positive_prompt"
        (.text (positivePrompt mapping (mapping.creature.creature user)
          (mapping.categories.flatMap fun category => (category.tokens user).take category.promptTokens)
          context.styleSeed))
  | negative :
      BuiltIn mapping context user "negative_prompt"
        (.text (", ".intercalate (mapping.negativeTerms.take mapping.negativeCount)))
  | seed : BuiltIn mapping context user "seed" (.integer (samplerSeed user.userId))
  | filename :
      BuiltIn mapping context user "filename_prefix"
        (.text (mapping.filenamePrefix ++ "_" ++ jobKey user.userId (context.styleSeed.map (·.id))))

/-- The values that each source has for a feature, whatever the others have. -/
inductive Gives (disk : Disk) (mapping : KeywordMapping) (context : MapperContext) (user : UserRecord) :
    FeatureSource → String → FeatureValue → Prop
  | styleImage {seed : StyleSeed} {slot : Nat} {image : Path} (styled : context.styleSeed = some seed)
      (from_ : 1 ≤ slot) (upto : slot ≤ mapping.styleImageSlots) (turn : seed.image? slot = some image)
      (there : disk.isFile image = true) :
      Gives disk mapping context user .styleImage ("style_image_" ++ toString slot) (.path image)
  | referenceImage {folder : Path} {extension : String} (asked : context.userImagesDir = some folder)
      (first : FirstSuch (fun extension => disk.isFile (folder.join ("P" ++ user.userId ++ "." ++ extension)) = true)
        ["png", "jpg", "jpeg"] extension) :
      Gives disk mapping context user .referenceImage "control_image"
        (.path (folder.join ("P" ++ user.userId ++ "." ++ extension)))
  | weightRule {name : String} {rule : WeightRule}
      (last : LastSuch (fun rule : WeightRule => rule.feature = name ∧
          ∃ keyword ∈ user.keywords rule.column, rule.contains.toList <:+: keyword.toList)
        mapping.weightRules rule) :
      Gives disk mapping context user .weightRule name (.float rule.value)
  | numericDefault {name : String} {number : Double}
      (last : LastSuch (fun entry : String × Double => entry.1 = name) mapping.numericDefaults (name, number)) :
      Gives disk mapping context user .numericDefault name (.float number)
  | builtIn {name : String} {value : FeatureValue} (made : BuiltIn mapping context user name value) :
      Gives disk mapping context user .builtIn name value
  | tokens {name : String} {category : KeywordCategory}
      (last : LastSuch (fun category : KeywordCategory => category.name ++ "_tokens" = name) mapping.categories
        category) :
      Gives disk mapping context user .tokens name (.text (", ".intercalate (category.tokens user)))

/-- The assignments that come from a source. -/
def assigned (disk : Disk) (mapping : KeywordMapping) (context : MapperContext) (user : UserRecord) :
    FeatureSource → List (String × FeatureValue)
  | .styleImage => styleFeatures disk mapping context
  | .referenceImage => referenceFeatures disk user context
  | .weightRule => ruleWeights mapping user
  | .numericDefault => defaultWeights mapping
  | .builtIn => builtInFeatures mapping user context.styleSeed
  | .tokens => tokenFeatures mapping user

/-- The value that a source gives a feature. -/
def given? (disk : Disk) (mapping : KeywordMapping) (context : MapperContext) (user : UserRecord) (name : String)
    (source : FeatureSource) : Option FeatureValue :=
  Entries.get? name (Entries.ofList (assigned disk mapping context user source))

theorem get?_build :
    (build disk mapping context user).get? name =
      FeatureSource.all.findSome? (given? disk mapping context user name) := by
  have layers : assignments disk mapping context user =
      (FeatureSource.all.map (assigned disk mapping context user)).reverse.flatten := by
    simp [assignments, FeatureSource.all, assigned]
  rw [FeatureSet.get?, build, layers, Entries.get?_ofList_flatten, List.findSome?_map]
  rfl

/-! ### Each source by itself -/

/-- Where some of the items assign a value, the last of them that has the name decides. -/
theorem get?_ofList_map {α : Type} {p : α → Prop} {items : List α} {counts : α → Bool} {nameOf : α → String}
    {valueOf : α → FeatureValue} (agrees : ∀ item, p item ↔ nameOf item = name ∧ counts item = true) :
    Entries.get? name (Entries.ofList ((items.filter counts).map fun item => (nameOf item, valueOf item))) =
        some value ↔
      ∃ item, LastSuch p items item ∧ valueOf item = value := by
  rw [Entries.get?_ofList, ← List.map_reverse, ← List.filter_reverse, List.find?_map, List.find?_filter, Option.map_map,
    Option.map_eq_some_iff]
  refine exists_congr fun item => and_congr_left fun _ => ?_
  exact find?_reverse_eq_some_iff_lastSuch fun item => by simp [agrees, and_comm]

theorem given?_tokens :
    given? disk mapping context user name .tokens = some value ↔ Gives disk mapping context user .tokens name value := by
  have all : tokenFeatures mapping user = (mapping.categories.filter fun _ => true).map fun category =>
      (category.name ++ "_tokens", .text (Text.commaJoin (category.tokens user))) := by
    rw [List.filter_true, tokenFeatures]
  rw [given?, assigned, all, get?_ofList_map fun _ => (and_iff_left rfl).symm]
  constructor
  · rintro ⟨category, last, rfl⟩
    exact .tokens last
  · intro given
    cases given with
    | tokens last => exact ⟨_, last, rfl⟩

theorem given?_numericDefault :
    given? disk mapping context user name .numericDefault = some value ↔
      Gives disk mapping context user .numericDefault name value := by
  have all : defaultWeights mapping = (mapping.numericDefaults.filter fun _ => true).map fun entry =>
      (entry.1, .float entry.2) := by
    rw [List.filter_true, defaultWeights]
  rw [given?, assigned, all, get?_ofList_map fun _ => (and_iff_left rfl).symm]
  constructor
  · rintro ⟨⟨_, number⟩, last, rfl⟩
    obtain rfl := last.mem.2
    exact .numericDefault last
  · intro given
    cases given with
    | numericDefault last => exact ⟨_, last, rfl⟩

theorem given?_weightRule :
    given? disk mapping context user name .weightRule = some value ↔
      Gives disk mapping context user .weightRule name value := by
  rw [given?, assigned, ruleWeights, get?_ofList_map fun _ => and_congr_right fun _ => WeightRule.applies_iff.symm]
  constructor
  · rintro ⟨rule, last, rfl⟩
    exact .weightRule last
  · intro given
    cases given with
    | weightRule last => exact ⟨_, last, rfl⟩

theorem mem_builtInFeatures :
    (name, value) ∈ builtInFeatures mapping user context.styleSeed ↔ BuiltIn mapping context user name value := by
  simp only [builtInFeatures, List.mem_cons, List.not_mem_nil, or_false, Prod.mk.injEq]
  constructor
  · rintro (⟨rfl, rfl⟩ | ⟨rfl, rfl⟩ | ⟨rfl, rfl⟩ | ⟨rfl, rfl⟩ | ⟨rfl, rfl⟩)
    · exact .creature
    · exact .positive
    · exact .negative
    · exact .seed
    · exact .filename
  · intro made
    cases made <;> simp [Text.commaJoin]

theorem given?_builtIn :
    given? disk mapping context user name .builtIn = some value ↔
      Gives disk mapping context user .builtIn name value := by
  have once : ((builtInFeatures mapping user context.styleSeed).map (·.1)).Nodup := by
    simp [builtInFeatures]
  rw [given?, assigned, Entries.get?_ofList_eq_some_iff once, mem_builtInFeatures]
  constructor
  · exact .builtIn
  · intro given
    cases given with
    | builtIn made => exact made

theorem referenceImage?_eq_some {folder image : Path} :
    referenceImage? disk folder user.userId = some image ↔
      ∃ extension, FirstSuch
        (fun extension => disk.isFile (folder.join ("P" ++ user.userId ++ "." ++ extension)) = true)
        ["png", "jpg", "jpeg"] extension ∧ folder.join ("P" ++ user.userId ++ "." ++ extension) = image := by
  rw [referenceImage?, List.find?_map, Option.map_eq_some_iff]
  refine exists_congr fun extension => and_congr_left fun _ => ?_
  exact find?_eq_some_iff_firstSuch fun _ => Iff.rfl

theorem given?_referenceImage :
    given? disk mapping context user name .referenceImage = some value ↔
      Gives disk mapping context user .referenceImage name value := by
  have once : ((referenceFeatures disk user context).map (·.1)).Nodup := by
    unfold referenceFeatures
    split <;> simp
  have member : (name, value) ∈ referenceFeatures disk user context ↔ ∃ folder image,
      context.userImagesDir = some folder ∧ referenceImage? disk folder user.userId = some image ∧
        name = "control_image" ∧ value = .path image := by
    unfold referenceFeatures
    split
    next image found =>
        obtain ⟨folder, asked, found⟩ := Option.bind_eq_some_iff.mp found
        simp [asked, found]
    next none_ =>
        simp only [List.not_mem_nil, false_iff]
        rintro ⟨folder, image, asked, found, -⟩
        simp [asked, found] at none_
  rw [given?, assigned, Entries.get?_ofList_eq_some_iff once, member]
  constructor
  · rintro ⟨folder, image, asked, found, rfl, rfl⟩
    obtain ⟨extension, first, rfl⟩ := referenceImage?_eq_some.mp found
    exact .referenceImage asked first
  · intro given
    cases given with
    | referenceImage asked first => exact ⟨_, _, asked, referenceImage?_eq_some.mpr ⟨_, first, rfl⟩, rfl, rfl⟩

theorem mem_styleFeatures :
    (name, value) ∈ styleFeatures disk mapping context ↔ Gives disk mapping context user .styleImage name value := by
  constructor
  · intro member
    unfold styleFeatures at member
    split at member
    next => cases member
    next seed styled =>
        obtain ⟨⟨slot, image⟩, filled, same⟩ := List.mem_map.mp member
        obtain ⟨placed, there⟩ := List.mem_filter.mp filled
        obtain ⟨turn, from_, upto⟩ := mem_styleSlots.mp placed
        cases same
        exact .styleImage styled from_ upto turn there
  · intro given
    cases given with
    | styleImage styled from_ upto turn there =>
        unfold styleFeatures
        rw [styled]
        exact List.mem_map.mpr ⟨(_, _), List.mem_filter.mpr ⟨mem_styleSlots.mpr ⟨turn, from_, upto⟩, there⟩, rfl⟩

/-- The slots have different names. -/
theorem nodup_styleFeatures (disk : Disk) (mapping : KeywordMapping) (context : MapperContext) :
    ((styleFeatures disk mapping context).map (·.1)).Nodup := by
  unfold styleFeatures
  split
  next => exact List.nodup_nil
  next seed styled =>
      rw [List.map_map]
      refine List.pairwise_map.mpr (List.Pairwise.filter _ ?_)
      refine (nodup_slots seed mapping.styleImageSlots).imp ?_
      intro one other differ same
      exact differ (styleImageName_inj same)

theorem given?_styleImage :
    given? disk mapping context user name .styleImage = some value ↔
      Gives disk mapping context user .styleImage name value := by
  rw [given?, assigned, Entries.get?_ofList_eq_some_iff (nodup_styleFeatures disk mapping context), mem_styleFeatures]

theorem given?_eq_some_iff (source : FeatureSource) (value : FeatureValue) :
    given? disk mapping context user name source = some value ↔ Gives disk mapping context user source name value := by
  cases source with
  | styleImage => exact given?_styleImage
  | referenceImage => exact given?_referenceImage
  | weightRule => exact given?_weightRule
  | numericDefault => exact given?_numericDefault
  | builtIn => exact given?_builtIn
  | tokens => exact given?_tokens

/-- The strongest source that gives a feature a value decides, a feature that none gives a value is absent, and what is
missing is noted. -/
theorem build_strongest (disk : Disk) (mapping : KeywordMapping) (context : MapperContext) (user : UserRecord)
    (name : String) :
    (∀ value, (build disk mapping context user).get? name = some value ↔
      ∃ source, FirstSuch (fun source => ∃ value, Gives disk mapping context user source name value)
        FeatureSource.all source ∧ Gives disk mapping context user source name value) ∧
    ((build disk mapping context user).get? name = none ↔
      ∀ source value, ¬ Gives disk mapping context user source name value) ∧
    (build disk mapping context user).notes =
      columnShortfalls mapping user ++ referenceShortfalls disk context user ++
        styleShortfalls disk mapping context := by
  refine ⟨fun value => ?_, ?_, notes_build disk mapping context user⟩
  · rw [get?_build, findSome?_eq_some_iff_firstSuch given?_eq_some_iff]
  · rw [get?_build, List.findSome?_eq_none_iff]
    constructor
    · intro nowhere source value given
      rw [← given?_eq_some_iff, nowhere source (FeatureSource.mem_all source)] at given
      cases given
    · intro nowhere source _
      refine Option.eq_none_iff_forall_ne_some.mpr fun value given => ?_
      exact nowhere source value ((given?_eq_some_iff source value).mp given)

end FeatureSet

end ImageBatch
