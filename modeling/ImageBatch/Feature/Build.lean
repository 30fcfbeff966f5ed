import ImageBatch.Feature.Mapping
import ImageBatch.Feature.Sampler
import ImageBatch.Feature.Set
import ImageBatch.File.Disk
import ImageBatch.Style.Keywords
import ImageBatch.Style.Seed
import ImageBatch.Text.Lowercase

/-!
From a user's columns to the features of a job.

A mapping gives a list of assignments, one after another; of several for one name the last wins. What is
missing is no error: the feature is left out or falls back, and a note says so.
-/

namespace ImageBatch

/-- One row of the user table. -/
structure UserRecord where
  userId : String
  fields : Entries String
deriving DecidableEq, Repr

namespace UserRecord

/-- The text of a column without blanks around it, if any is left. -/
def field? (user : UserRecord) (column : String) : Option String :=
  ((user.fields.get? column).map Text.trim).filter (· != "")

/-- The keywords of a column. -/
def keywords (user : UserRecord) (column : String) : List String :=
  match user.field? column with
  | some cell => Keywords.ofCell cell
  | none => []

end UserRecord

/-- Where reference images are looked for, and the style to fuse in. -/
structure MapperContext where
  userImagesDir : Option Path
  styleSeed : Option StyleSeed
deriving Repr

namespace KeywordCategory

/-- The tokens of all texts of the table that a keyword contains, in the order of the table. -/
def matching (category : KeywordCategory) (keyword : String) : List String :=
  category.keywords.flatMap fun (text, tokens) => if Text.contains keyword text then tokens else []

/-- The tokens of a user, each where it first comes up. -/
def tokens (category : KeywordCategory) (user : UserRecord) : List String :=
  let keywords := user.keywords category.column
  let expanded := keywords.flatMap category.matching
  (if expanded.isEmpty && category.fallbackToRaw then keywords else expanded).eraseDups

end KeywordCategory

namespace CreatureRules

/-- The creature of a user: by the first rule whose text stands in the first keyword, letter case aside. -/
def creature (rules : CreatureRules) (user : UserRecord) : String :=
  match rules.column.bind fun column => (user.keywords column).head? with
  | none => rules.default
  | some keyword =>
    let lowered := Text.lowercase keyword
    match rules.rules.find? fun rule => Text.contains lowered (Text.lowercase rule.contains) with
    | some rule => rule.creature
    | none => lowered ++ " creature"

end CreatureRules

namespace WeightRule

/-- Some keyword of the column contains the rule's text. -/
def applies (rule : WeightRule) (user : UserRecord) : Bool :=
  (user.keywords rule.column).any fun keyword => Text.contains keyword rule.contains

end WeightRule

namespace FeatureSet

/-- The style when a seed gives none. -/
def plainStyle : String := "detailed artistic style"

/-- The words of the positive prompt: creature and tokens, quality, style. -/
def positivePrompt (mapping : KeywordMapping) (creature : String) (tokens : List String)
    (seed : Option StyleSeed) : String :=
  let subject := "a " ++ creature ++ if tokens.isEmpty then "" else " with " ++ Text.commaJoin tokens
  let quality := Text.trim mapping.qualitySuffix
  let keywords := match seed with
    | some s => s.keywords
    | none => []
  let style := if keywords.isEmpty then plainStyle else "in style of " ++ Text.commaJoin keywords
  Text.commaJoin ([subject] ++ (if quality = "" then [] else [quality]) ++ [style])

/-- The features that hold the tokens of the categories. -/
def tokenFeatures (mapping : KeywordMapping) (user : UserRecord) : List (String × FeatureValue) :=
  mapping.categories.map fun category =>
    (category.name ++ "_tokens", .text (Text.commaJoin (category.tokens user)))

/-- The features that every set has. -/
def builtInFeatures (mapping : KeywordMapping) (user : UserRecord) (seed : Option StyleSeed) :
    List (String × FeatureValue) :=
  let creature := mapping.creature.creature user
  let tokens := mapping.categories.flatMap fun category =>
    (category.tokens user).take category.promptTokens
  [("creature_type", .text creature),
    ("positive_prompt", .text (positivePrompt mapping creature tokens seed)),
    ("negative_prompt", .text (Text.commaJoin (mapping.negativeTerms.take mapping.negativeCount))),
    ("seed", .integer (samplerSeed user.userId)),
    ("filename_prefix",
      .text (mapping.filenamePrefix ++ "_" ++ jobKey user.userId (seed.map (·.id))))]

/-- The numbers that every user gets. -/
def defaultWeights (mapping : KeywordMapping) : List (String × FeatureValue) :=
  mapping.numericDefaults.map fun (name, value) => (name, .float value)

/-- The numbers of the rules that apply. -/
def ruleWeights (mapping : KeywordMapping) (user : UserRecord) : List (String × FeatureValue) :=
  (mapping.weightRules.filter (·.applies user)).map fun rule => (rule.feature, .float rule.value)

/-- The extensions of a user's reference image, in the order they are tried. -/
def referenceExtensions : List String := ["png", "jpg", "jpeg"]

/-- A user's reference image. -/
def referenceImage? (disk : Disk) (folder : Path) (userId : String) : Option Path :=
  (referenceExtensions.map fun extension => folder.join ("P" ++ userId ++ "." ++ extension)).find?
    disk.isFile

/-- The name of the feature for a slot of the style, counted from 1. -/
def styleImageName (slot : Nat) : String := "style_image_" ++ toString slot

/-- The images of a style that fill its slots, counted from 1, in turn. -/
def styleSlots (images : List Path) (count : Nat) : List (Nat × Path) :=
  if images.isEmpty then []
  else (List.range count).filterMap fun i => (images[i % images.length]?).map fun image => (i + 1, image)

/-- The feature for a reference image. -/
def referenceFeatures (disk : Disk) (user : UserRecord) (context : MapperContext) :
    List (String × FeatureValue) :=
  match context.userImagesDir.bind fun folder => referenceImage? disk folder user.userId with
  | some image => [("control_image", .path image)]
  | none => []

/-- The features for the images of a style that are there. -/
def styleFeatures (disk : Disk) (mapping : KeywordMapping) (context : MapperContext) :
    List (String × FeatureValue) :=
  match context.styleSeed with
  | none => []
  | some seed =>
    ((styleSlots seed.images mapping.styleImageSlots).filter fun (_, image) => disk.isFile image).map
      fun (slot, image) => (styleImageName slot, .path image)

/-- Notes about columns without a keyword. -/
def columnNotes (mapping : KeywordMapping) (user : UserRecord) : List String :=
  (mapping.categories.filter fun category => (user.field? category.column).isNone).map fun category =>
    "column '" ++ category.column ++ "' missing or empty, no " ++ category.name ++ " tokens"

/-- A note about a reference image that was looked for and not found. -/
def referenceNotes (disk : Disk) (user : UserRecord) (context : MapperContext) : List String :=
  match context.userImagesDir with
  | none => []
  | some folder =>
    match referenceImage? disk folder user.userId with
    | some _ => []
    | none =>
      ["no reference image P" ++ user.userId ++ ".* in " ++ folder.text ++
        ", control_image uses template default"]

/-- Notes about a style without images, or about images that are not there. -/
def styleNotes (disk : Disk) (mapping : KeywordMapping) (context : MapperContext) : List String :=
  match context.styleSeed with
  | none => []
  | some seed =>
    if seed.images.isEmpty then
      ["style seed '" ++ seed.id ++ "' has no images, style image slots use template defaults"]
    else
      ((styleSlots seed.images mapping.styleImageSlots).filter
          fun (_, image) => !disk.isFile image).map
        fun (slot, image) =>
          "style image " ++ image.text ++ " missing, " ++ styleImageName slot ++
            " uses template default"

/-- All assignments of a user's features, the strongest last. -/
def assignments (disk : Disk) (mapping : KeywordMapping) (context : MapperContext)
    (user : UserRecord) : List (String × FeatureValue) :=
  tokenFeatures mapping user ++ builtInFeatures mapping user context.styleSeed ++
    defaultWeights mapping ++ ruleWeights mapping user ++ referenceFeatures disk user context ++
    styleFeatures disk mapping context

/-- The features of a user. -/
def build (disk : Disk) (mapping : KeywordMapping) (context : MapperContext) (user : UserRecord) :
    FeatureSet where
  userId := user.userId
  styleSeed := context.styleSeed.map (·.id)
  key := jobKey user.userId (context.styleSeed.map (·.id))
  values := Entries.ofList (assignments disk mapping context user)
  notes := columnNotes mapping user ++ referenceNotes disk user context ++
    styleNotes disk mapping context

end FeatureSet

end ImageBatch
