import ImageBatch.Entries
import ImageBatch.Number.Double

/-!
JSON values.

A number is an integer when it is written as one and fits 64 bits, with a sign or without; any other number
is a double. An object keeps its fields in the order of its list; objects that are read have them in the
order of their names, each name once.
-/

namespace ImageBatch

/-- A JSON value. -/
inductive Json where
  | null
  | bool (value : Bool)
  | integer (value : Int)
  | float (value : Double)
  | text (value : String)
  | array (items : List Json)
  | object (fields : List (String × Json))
deriving Repr, Inhabited

namespace Json

/-- The value of a field, if the value is an object that has it. -/
def field? (name : String) : Json → Option Json
  | .object fields => Entries.get? name fields
  | _ => none

/-- The item at a position, if the value is an array that has it. -/
def item? (index : Nat) : Json → Option Json
  | .array items => items[index]?
  | _ => none

def asText? : Json → Option String
  | .text s => some s
  | _ => none

def isObject : Json → Bool
  | .object _ => true
  | _ => false

def isArray : Json → Bool
  | .array _ => true
  | _ => false

def isText : Json → Bool
  | .text _ => true
  | _ => false

def isInteger : Json → Bool
  | .integer _ => true
  | _ => false

def isNumber : Json → Bool
  | .integer _ | .float _ => true
  | _ => false

/-- A double as a value; there is no number for an infinity or a NaN. -/
def ofDouble (x : Double) : Json := if x.isFinite then .float x else .null

/-- A value that may be missing. -/
def ofOption {α : Type} (write : α → Json) : Option α → Json
  | none => .null
  | some a => write a

/-- A list of values. -/
def ofList {α : Type} (write : α → Json) (items : List α) : Json := .array (items.map write)

/-- Values under names. -/
def ofEntries {α : Type} (write : α → Json) (entries : Entries α) : Json :=
  .object (entries.mapValues write)

end Json

end ImageBatch
