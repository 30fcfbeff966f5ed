import ImageBatch.Json.Basic

/-!
Documents: JSON as it was written, and reading values out of it.

A document keeps every field in its order, also fields of one name, and keeps a number that is too large or
a text that is not well-formed as a leaf without a value. What a reader skips may be such a leaf; a reader
that comes upon one has no result.

Readers are functions `Document → Option α`. A record is read by its `Layout`, the names of its fields. It
may be written as an object, whose unknown fields are skipped and whose known ones may stand there once, or
as an array of the fields' values in the layout's order, at whose end fields may be left out if the layout
says so.
-/

namespace ImageBatch

/-- JSON as it was written. -/
inductive Document where
  | null
  | bool (value : Bool)
  | number (value : Option Json)
  | text (value : Option String)
  | array (items : List Document)
  | object (fields : List (Option String × Document))
deriving Repr, Inhabited

namespace Document

/-- How many arrays and objects may stand one inside another in a value that is read. -/
def maxDepth : Nat := 127

mutual

/-- The value of a document that nests arrays and objects at most `room` deep. Of fields with one name the
last stays. -/
def toJson? (room : Nat) : Document → Option Json
  | .null => some .null
  | .bool b => some (.bool b)
  | .number value => value
  | .text value => value.map .text
  | .array items => if room = 0 then none else (items? (room - 1) items).map .array
  | .object fields =>
    if room = 0 then none
    else (fields? (room - 1) fields).map fun pairs => .object (Entries.ofList pairs)

/-- The values of the items of an array. -/
def items? (room : Nat) : List Document → Option (List Json)
  | [] => some []
  | item :: rest =>
    match toJson? room item, items? room rest with
    | some value, some values => some (value :: values)
    | _, _ => none

/-- The names and values of the fields of an object. -/
def fields? (room : Nat) : List (Option String × Document) → Option (List (String × Json))
  | [] => some []
  | (name, item) :: rest =>
    match name, toJson? room item, fields? room rest with
    | some name, some value, some values => some ((name, value) :: values)
    | _, _, _ => none

end

mutual

/-- How deep a document nests arrays and objects. -/
def depth : Document → Nat
  | .null | .bool _ | .number _ | .text _ => 0
  | .array items => itemsDepth items + 1
  | .object fields => fieldsDepth fields + 1

def itemsDepth : List Document → Nat
  | [] => 0
  | item :: rest => max item.depth (itemsDepth rest)

def fieldsDepth : List (Option String × Document) → Nat
  | [] => 0
  | (_, item) :: rest => max item.depth (fieldsDepth rest)

end

/-- The value of a document, however deep it is. -/
def value? (d : Document) : Option Json := d.toJson? d.depth

mutual

/-- A value as a document. -/
def ofJson : Json → Document
  | .null => .null
  | .bool b => .bool b
  | .integer n => .number (some (.integer n))
  | .float x => .number (some (.float x))
  | .text s => .text (some s)
  | .array items => .array (ofItems items)
  | .object fields => .object (ofFields fields)

def ofItems : List Json → List Document
  | [] => []
  | item :: rest => ofJson item :: ofItems rest

def ofFields : List (String × Json) → List (Option String × Document)
  | [] => []
  | (name, value) :: rest => (some name, ofJson value) :: ofFields rest

end

/-! ### Readers -/

/-- Reads every item, if each has a result. -/
def readAll {α β : Type} (read : α → Option β) : List α → Option (List β)
  | [] => some []
  | a :: rest =>
    match read a, readAll read rest with
    | some b, some bs => some (b :: bs)
    | _, _ => none

def asText : Document → Option String
  | .text value => value
  | _ => none

def asBool : Document → Option Bool
  | .bool b => some b
  | _ => none

/-- An integer from `lo` to `hi`; a number with a point or an exponent is none. -/
def asInteger (lo hi : Int) : Document → Option Int
  | .number (some (.integer n)) => if lo ≤ n ∧ n ≤ hi then some n else none
  | _ => none

/-- A natural number up to `hi`. -/
def asNat (hi : Nat) (d : Document) : Option Nat := (d.asInteger 0 hi).map Int.toNat

/-- Any number, as the nearest double. -/
def asDouble : Document → Option Double
  | .number (some (.integer n)) => some (Double.ofInt n)
  | .number (some (.float x)) => some x
  | _ => none

/-- A value that may be null. -/
def orNull {α : Type} (read : Document → Option α) : Document → Option (Option α)
  | .null => some none
  | d => (read d).map some

def asList {α : Type} (read : Document → Option α) : Document → Option (List α)
  | .array items => readAll read items
  | _ => none

/-- The values of an object under their names; of fields with one name the last stays, but each is read. -/
def asEntries {α : Type} (read : Document → Option α) : Document → Option (Entries α)
  | .object fields =>
    (readAll (fun (name, d) => name.bind fun n => (read d).map fun a => (n, a)) fields).map Entries.ofList
  | _ => none

/-- A word on its own, or as the name of the one field of an object with the value null. -/
def asWord : Document → Option String
  | .text value => value
  | .object [(name, .null)] => name
  | _ => none

/-- A field of a record: its name, and whether an array may end before it. -/
structure Slot where
  name : String
  optional : Bool

/-- The fields of a record in the order of an array. -/
abbrev Layout := List Slot

/-- A field that an array must hold. -/
def must (name : String) : Slot := ⟨name, false⟩

/-- A field that an array may leave out at its end. -/
def may (name : String) : Slot := ⟨name, true⟩

/-- The documents found for the fields of a record. -/
abbrev Found := String → Option Document

/-- The first document under a name. -/
def lookup (name : String) : List (Option String × Document) → Option Document
  | [] => none
  | (key, d) :: rest => if key = some name then some d else lookup name rest

/-- How many fields have a name. -/
def occurrences (name : String) (fields : List (Option String × Document)) : Nat :=
  (fields.filter fun (key, _) => key == some name).length

/-- The fields of a record. -/
def asRecord (layout : Layout) : Document → Option Found
  | .object fields =>
    if fields.all (fun (key, _) => key.isSome) ∧
        layout.all (fun slot => occurrences slot.name fields ≤ 1) then
      some fun name => lookup name fields
    else none
  | .array items =>
    if items.length ≤ layout.length ∧ (layout.drop items.length).all (·.optional) then
      some fun name => lookup name ((layout.map (some ·.name)).zip items)
    else none
  | _ => none

namespace Found

/-- A field that must be there. -/
def required {α : Type} (found : Found) (name : String) (read : Document → Option α) : Option α :=
  (found name).bind read

/-- A field that may be missing or null. -/
def nullable {α : Type} (found : Found) (name : String) (read : Document → Option α) :
    Option (Option α) :=
  match found name with
  | none => some none
  | some d => orNull read d

/-- A field with a value of its own when it is missing. -/
def withDefault {α : Type} (found : Found) (name : String) (default : α)
    (read : Document → Option α) : Option α :=
  match found name with
  | none => some default
  | some d => read d

end Found

end Document

end ImageBatch
