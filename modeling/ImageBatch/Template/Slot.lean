import ImageBatch.Json.Document

/-!
Slots: the places in a graph that a job may fill.
-/

namespace ImageBatch

/-- What a slot holds. -/
inductive SlotKind where
  | text
  | integer
  | float
  /-- The name of an image that the service has. -/
  | image
deriving DecidableEq, Repr

namespace SlotKind

def all : List SlotKind := [.text, .integer, .float, .image]

/-- The word for a kind in documents. -/
def word : SlotKind → String
  | .text => "text"
  | .integer => "integer"
  | .float => "float"
  | .image => "image"

/-- The word for a kind in messages. -/
def title : SlotKind → String
  | .text => "Text"
  | .integer => "Integer"
  | .float => "Float"
  | .image => "Image"

def ofWord? (word : String) : Option SlotKind := all.find? (·.word == word)

def isNumeric : SlotKind → Bool
  | .integer | .float => true
  | .text | .image => false

/-- A value is one of the kind. -/
def accepts : SlotKind → Json → Bool
  | .text, value | .image, value => value.isText
  | .integer, value => value.isInteger
  | .float, value => value.isNumber

end SlotKind

/-- A place in a graph: an input of a node. -/
structure SlotRef where
  node : String
  field : String
deriving DecidableEq, Repr

/-- A place as messages name it. -/
def SlotRef.text (ref : SlotRef) : String := ref.node ++ "." ++ ref.field

/-- A slot: its place, the feature that feeds it, and which values it takes. -/
structure Slot where
  node : String
  field : String
  key : String
  kind : SlotKind
  required : Bool
  /-- What an unbound slot gets; without it the graph's own value stays. -/
  default : Option Json
  lower : Option Double
  upper : Option Double
deriving Repr

namespace Slot

def ref (slot : Slot) : SlotRef := ⟨slot.node, slot.field⟩

open Document

def layout : Layout :=
  [must "node", must "field", must "key", must "kind", may "required", may "default", may "min",
    may "max"]

def ofDocument? (d : Document) : Option Slot := do
  let found ← d.asRecord layout
  return {
    node := ← found.required "node" asText
    field := ← found.required "field" asText
    key := ← found.required "key" asText
    kind := ← found.required "kind" fun d => d.asWord.bind SlotKind.ofWord?
    required := ← found.withDefault "required" false asBool
    default := ← found.nullable "default" value?
    lower := ← found.nullable "min" asDouble
    upper := ← found.nullable "max" asDouble }

def toJson (slot : Slot) : Json :=
  .object [
    ("node", .text slot.node),
    ("field", .text slot.field),
    ("key", .text slot.key),
    ("kind", .text slot.kind.word),
    ("required", .bool slot.required),
    ("default", slot.default.getD .null),
    ("min", .ofOption .ofDouble slot.lower),
    ("max", .ofOption .ofDouble slot.upper)]

end Slot

end ImageBatch
