import ImageBatch.Proofs.Json.Readers
import ImageBatch.Proofs.Number.Exact
import ImageBatch.Proofs.Template.Soundness

/-!
The bounds of slots.

The numbers of a value are integers of 64 bits, with a sign or without, and finite doubles (`Json.IsSized`). So the
bounds that a template is given are finite (`WorkflowTemplate.finite_of_mem_slots`), and a number lies between them or
not by their exact values (`Slot.InBounds`).
-/

namespace ImageBatch

mutual

/-- A value with no number that a document could not hold. -/
def Json.IsSized : Json → Prop
  | .null | .bool _ | .text _ => True
  | .integer n => Double.int64Min ≤ n ∧ n ≤ Double.nat64Max
  | .float x => x.isFinite = true
  | .array items => Json.AreSized items
  | .object fields => Json.HasSized fields

def Json.AreSized : List Json → Prop
  | [] => True
  | item :: rest => item.IsSized ∧ Json.AreSized rest

def Json.HasSized : List (String × Json) → Prop
  | [] => True
  | (_, value) :: rest => value.IsSized ∧ Json.HasSized rest

end

namespace Json

variable {value part : Json} {x : Double}

theorem areSized_iff {items : List Json} : AreSized items ↔ ∀ item ∈ items, item.IsSized := by
  induction items with
  | nil => simp [AreSized]
  | cons item rest ih => rw [AreSized, ih, List.forall_mem_cons]

theorem hasSized_iff {fields : List (String × Json)} : HasSized fields ↔ ∀ item ∈ fields.map (·.2), item.IsSized := by
  induction fields with
  | nil => simp [HasSized]
  | cons field rest ih =>
      obtain ⟨name, value⟩ := field
      rw [HasSized, ih, List.map_cons, List.forall_mem_cons]

theorem IsSized.of_mem_parts (sized : value.IsSized) (member : part ∈ value.parts) : part.IsSized := by
  cases value with
  | array items => exact areSized_iff.mp sized part member
  | object fields => exact hasSized_iff.mp sized part member
  | null | bool | integer | float | text => cases member

/-- A number of a value is a finite double, also if it was written as an integer. -/
theorem isFinite_of_asDouble (sized : value.IsSized) (read : (Document.ofJson value).asDouble = some x) :
    x.isFinite = true := by
  cases value with
  | integer n =>
      cases read
      have bits : n.natAbs < 2 ^ 64 := by
        obtain ⟨low, high⟩ := sized
        simp only [Double.int64Min, Double.nat64Max] at low high
        omega
      exact Double.isFinite_ofInt bits
  | float y =>
      cases read
      exact sized
  | null | bool | text | array | object => cases read

end Json

namespace Document

variable {value : Json} {found : Found} {name : String}

/-- A number that a record of a value may have is finite if it is there. -/
theorem isFinite_of_nullable {x : Double}
    (parts : ∀ d, found name = some d → ∃ value : Json, value.IsSized ∧ d = ofJson value)
    (read : found.nullable name asDouble = some (some x)) : x.isFinite = true := by
  obtain ⟨d, there, given⟩ := exists_of_nullable read
  obtain ⟨value, sized, rfl⟩ := parts d there
  exact Json.isFinite_of_asDouble sized given

/-- What is read from a list of values is read from one of them. -/
theorem exists_of_mem_asList_ofJson {α : Type} {read : Document → Option α} {items : List α} {item : α}
    (all : (ofJson value).asList read = some items) (member : item ∈ items) :
    ∃ part ∈ value.parts, read (ofJson part) = some item := by
  obtain ⟨documents, same, d, inList, given⟩ := exists_of_mem_asList all member
  cases value with
  | array values =>
      cases same
      rw [ofItems_eq_map] at inList
      obtain ⟨part, there, rfl⟩ := List.mem_map.mp inList
      exact ⟨part, there, given⟩
  | null | bool | integer | float | text | object => cases same

end Document

namespace Slot

/-- A number of units lies within the exact values of the bounds. -/
structure InBounds (slot : Slot) (units : Int) : Prop where
  above : ∀ min, slot.lower = some min → ∃ low, min.units? = some low ∧ low ≤ units
  below : ∀ max, slot.upper = some max → ∃ high, max.units? = some high ∧ units ≤ high

/-- The bounds, where there are any, are finite. -/
structure Finite (slot : Slot) : Prop where
  lower : ∀ min, slot.lower = some min → ∃ low, min.units? = some low
  upper : ∀ max, slot.upper = some max → ∃ high, max.units? = some high

theorem finite_of_ofDocument? {slot : Slot} {written : Json} (sized : written.IsSized)
    (read : ofDocument? (Document.ofJson written) = some slot) : slot.Finite := by
  simp only [ofDocument?, Option.bind_eq_bind, Option.bind_eq_some_iff] at read
  obtain ⟨found, record, node, -, field, -, key, -, kind, -, required, -, default, -, lower, atMin, upper, atMax,
    same⟩ := read
  cases same
  have parts (name : String) (d : Document) (there : found name = some d) :
      ∃ value : Json, value.IsSized ∧ d = Document.ofJson value := by
    obtain ⟨value, member, same⟩ := Document.exists_of_asRecord_ofJson record there
    exact ⟨value, sized.of_mem_parts member, same⟩
  constructor
  · rintro min rfl
    exact Double.isFinite_iff.mp (Document.isFinite_of_nullable (parts "min") atMin)
  · rintro max rfl
    exact Double.isFinite_iff.mp (Document.isFinite_of_nullable (parts "max") atMax)

end Slot

/-- What a document of a template says of its slots is read from parts of the value. -/
theorem TemplateDocument.exists_of_mem_slots {d : TemplateDocument} {value : Json} {slot : Slot}
    (decoded : ofDocument? (Document.ofJson value) = some d) (member : slot ∈ d.slots) :
    ∃ list ∈ value.parts, ∃ written ∈ list.parts, Slot.ofDocument? (Document.ofJson written) = some slot := by
  simp only [ofDocument?, Option.bind_eq_bind, Option.bind_eq_some_iff] at decoded
  obtain ⟨found, record, name, -, graph, -, slots, read, ⟨⟩⟩ := decoded
  unfold Document.Found.withDefault at read
  split at read
  next =>
      rw [← Option.some.inj read] at member
      cases member
  next d there =>
      obtain ⟨list, part, rfl⟩ := Document.exists_of_asRecord_ofJson record there
      exact ⟨list, part, Document.exists_of_mem_asList_ofJson read member⟩

theorem TemplateDocument.finite_of_mem_slots {d : TemplateDocument} {value : Json} {slot : Slot} (sized : value.IsSized)
    (decoded : ofDocument? (Document.ofJson value) = some d) (member : slot ∈ d.slots) : slot.Finite := by
  obtain ⟨list, part, written, inList, given⟩ := exists_of_mem_slots decoded member
  exact Slot.finite_of_ofDocument? ((sized.of_mem_parts part).of_mem_parts inList) given

theorem WorkflowTemplate.finite_of_mem_slots {template : WorkflowTemplate} {value : Json} {slot : Slot}
    (sized : value.IsSized) (accepted : ofJson value = .ok template) (member : slot ∈ template.slots) : slot.Finite :=
  TemplateDocument.finite_of_mem_slots sized (ofJson_eq_ok.mp accepted).1 member

end ImageBatch
