import ImageBatch.Json.Document
import ImageBatch.Number.Natural

/-!
Keyword mappings: which columns of the user table become which features.

A mapping is read from a document in which every field may be missing; `default` is the mapping of the empty
document.
-/

namespace ImageBatch

/-- A column whose keywords expand into tokens. -/
structure KeywordCategory where
  name : String
  column : String
  /-- Tokens under the text that a keyword must contain to get them. -/
  keywords : Entries (List String)
  /-- How many tokens go into the positive prompt. -/
  promptTokens : Nat
  /-- Keywords stand for themselves when none contains a text of the table. -/
  fallbackToRaw : Bool
deriving DecidableEq, Repr

/-- The creature for a first keyword that contains a text. -/
structure CreatureRule where
  contains : String
  creature : String
deriving DecidableEq, Repr

/-- How a creature follows from the first keyword of a column. -/
structure CreatureRules where
  column : Option String
  rules : List CreatureRule
  default : String
deriving DecidableEq, Repr

/-- A number that a feature gets when a keyword of a column contains a text. -/
structure WeightRule where
  column : String
  contains : String
  feature : String
  value : Double
deriving DecidableEq, Repr

/-- How the columns of a user become features. -/
structure KeywordMapping where
  idColumn : String := "number"
  categories : List KeywordCategory := []
  creature : CreatureRules := ⟨none, [], "creature"⟩
  qualitySuffix : String := "highly detailed, professional, masterpiece, best quality"
  negativeTerms : List String := []
  /-- How many terms go into the negative prompt. -/
  negativeCount : Nat := 15
  weightRules : List WeightRule := []
  numericDefaults : Entries Double := []
  filenamePrefix : String := "monster"
  /-- How many features hold images of the style seed. -/
  styleImageSlots : Nat := 3
deriving DecidableEq, Repr

open Document

namespace KeywordCategory

def layout : Layout :=
  [must "name", must "column", may "keywords", may "prompt_tokens", may "fallback_to_raw"]

def ofDocument? (d : Document) : Option KeywordCategory := do
  let found ← d.asRecord layout
  return {
    name := ← found.required "name" asText
    column := ← found.required "column" asText
    keywords := ← found.withDefault "keywords" [] (asEntries (asList asText))
    promptTokens := ← found.withDefault "prompt_tokens" 0 (asNat Natural.max64)
    fallbackToRaw := ← found.withDefault "fallback_to_raw" true asBool }

def toJson (c : KeywordCategory) : Json :=
  .object [
    ("name", .text c.name),
    ("column", .text c.column),
    ("keywords", .ofEntries (.ofList .text) c.keywords),
    ("prompt_tokens", .integer c.promptTokens),
    ("fallback_to_raw", .bool c.fallbackToRaw)]

end KeywordCategory

namespace CreatureRule

def ofDocument? (d : Document) : Option CreatureRule := do
  let found ← d.asRecord [must "contains", must "creature"]
  return ⟨← found.required "contains" asText, ← found.required "creature" asText⟩

def toJson (r : CreatureRule) : Json :=
  .object [("contains", .text r.contains), ("creature", .text r.creature)]

end CreatureRule

namespace CreatureRules

def ofDocument? (d : Document) : Option CreatureRules := do
  let found ← d.asRecord [must "column", may "rules", may "default"]
  return {
    column := ← found.nullable "column" asText
    rules := ← found.withDefault "rules" [] (asList CreatureRule.ofDocument?)
    default := ← found.withDefault "default" "creature" asText }

def toJson (r : CreatureRules) : Json :=
  .object [
    ("column", .ofOption .text r.column),
    ("rules", .ofList CreatureRule.toJson r.rules),
    ("default", .text r.default)]

end CreatureRules

namespace WeightRule

def ofDocument? (d : Document) : Option WeightRule := do
  let found ← d.asRecord [must "column", must "contains", must "feature", must "value"]
  return {
    column := ← found.required "column" asText
    contains := ← found.required "contains" asText
    feature := ← found.required "feature" asText
    value := ← found.required "value" asDouble }

def toJson (r : WeightRule) : Json :=
  .object [
    ("column", .text r.column),
    ("contains", .text r.contains),
    ("feature", .text r.feature),
    ("value", .ofDouble r.value)]

end WeightRule

namespace KeywordMapping

/-- The mapping of a document that says nothing. -/
def default : KeywordMapping := {}

def layout : Layout :=
  [may "id_column", may "categories", may "creature", may "quality_suffix", may "negative_terms",
    may "negative_count", may "weight_rules", may "numeric_defaults", may "filename_prefix",
    may "style_image_slots"]

def ofDocument? (d : Document) : Option KeywordMapping := do
  let found ← d.asRecord layout
  return {
    idColumn := ← found.withDefault "id_column" default.idColumn asText
    categories := ← found.withDefault "categories" default.categories (asList KeywordCategory.ofDocument?)
    creature := ← found.withDefault "creature" default.creature CreatureRules.ofDocument?
    qualitySuffix := ← found.withDefault "quality_suffix" default.qualitySuffix asText
    negativeTerms := ← found.withDefault "negative_terms" default.negativeTerms (asList asText)
    negativeCount := ← found.withDefault "negative_count" default.negativeCount (asNat Natural.max64)
    weightRules := ← found.withDefault "weight_rules" default.weightRules (asList WeightRule.ofDocument?)
    numericDefaults := ← found.withDefault "numeric_defaults" default.numericDefaults (asEntries asDouble)
    filenamePrefix := ← found.withDefault "filename_prefix" default.filenamePrefix asText
    styleImageSlots := ← found.withDefault "style_image_slots" default.styleImageSlots
      (asNat Natural.max64) }

def toJson (m : KeywordMapping) : Json :=
  .object [
    ("id_column", .text m.idColumn),
    ("categories", .ofList KeywordCategory.toJson m.categories),
    ("creature", m.creature.toJson),
    ("quality_suffix", .text m.qualitySuffix),
    ("negative_terms", .ofList .text m.negativeTerms),
    ("negative_count", .integer m.negativeCount),
    ("weight_rules", .ofList WeightRule.toJson m.weightRules),
    ("numeric_defaults", .ofEntries .ofDouble m.numericDefaults),
    ("filename_prefix", .text m.filenamePrefix),
    ("style_image_slots", .integer m.styleImageSlots)]

end KeywordMapping

end ImageBatch
