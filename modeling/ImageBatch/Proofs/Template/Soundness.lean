import ImageBatch.Proofs.Checks
import ImageBatch.Proofs.Entries
import ImageBatch.Template.Basic

/-!
Sound templates.

`TemplateDocument.check` looks at the nodes and slots of a document one after another and stops at the first fault.
`WorkflowTemplate.IsSound` says at once what it looks for: every node has a class, every slot names a node and has a
value if it need not be bound, and no two slots share a place. A check comes to its end exactly for the documents of
sound templates (`TemplateDocument.check_eq_ok`). So a value is accepted if and only if it is the document of a sound
template (`WorkflowTemplate.ofJson_eq_ok`), and then the nodes stand in the order of their ids.
-/

namespace ImageBatch

open Checks

/-- The values that lie directly in a value. -/
def Json.parts : Json → List Json
  | .array items => items
  | .object fields => fields.map (·.2)
  | _ => []

/-- A node has a class, and its inputs, if it has any, are an object. -/
structure Json.IsNode (node : Json) : Prop where
  hasClass : ∃ word, node.field? "class_type" = some (.text word)
  inputs : ∀ inputs, node.field? "inputs" = some inputs → inputs.isObject = true

/-- Bounds stand only at numbers, they are in order, and between those of a whole number there is one. -/
structure Slot.BoundsFit (slot : Slot) : Prop where
  numeric : (slot.lower.isSome || slot.upper.isSome) = true → slot.kind.isNumeric = true
  ordered : ∀ min max, slot.lower = some min → slot.upper = some max →
    max.less min = false ∧ (slot.kind = .integer → TemplateDocument.hasInteger min max = true)

/-- An unbound slot gets a value of its kind, or else keeps one that the graph has and that is no link. A slot that must
be bound needs neither. -/
def Slot.HasDefault (slot : Slot) (graph : Graph) : Prop :=
  match slot.default with
  | some default => slot.kind.accepts default = true
  | none => slot.required = true ∨ ∃ literal, graph.input? slot.ref = some literal ∧ literal.isArray = false

/-- A slot that can be bound, or else left as it is, in a graph. -/
structure Slot.IsSound (slot : Slot) (graph : Graph) : Prop where
  named : slot.field ≠ "" ∧ slot.key ≠ ""
  placed : graph.contains slot.node = true
  bounds : slot.BoundsFit
  default : slot.HasDefault graph

/-- A template on which every job can rely. -/
structure WorkflowTemplate.IsSound (template : WorkflowTemplate) : Prop where
  named : Text.trim template.name ≠ ""
  inhabited : template.graph ≠ []
  nodes : ∀ entry ∈ template.graph, entry.2.IsNode
  slots : ∀ slot ∈ template.slots, slot.IsSound template.graph
  distinct : (template.slots.map Slot.ref).Nodup

namespace Document

/-! ### Documents of values -/

theorem exists_of_lookup_ofFields {name : String} {fields : List (String × Json)} {d : Document}
    (found : lookup name (ofFields fields) = some d) : ∃ value ∈ fields.map (·.2), d = ofJson value := by
  induction fields with
  | nil => cases found
  | cons first rest ih =>
      obtain ⟨key, value⟩ := first
      simp only [ofFields, lookup] at found
      split at found
      next =>
          cases found
          exact ⟨value, List.mem_cons_self, rfl⟩
      next =>
          obtain ⟨later, member, same⟩ := ih found
          exact ⟨later, List.mem_cons_of_mem value member, same⟩

theorem exists_of_lookup_ofItems {name : String} {names : List (Option String)} {items : List Json} {d : Document}
    (found : lookup name (names.zip (ofItems items)) = some d) : ∃ value ∈ items, d = ofJson value := by
  induction items generalizing names with
  | nil => cases names <;> cases found
  | cons value rest ih =>
      cases names with
      | nil => cases found
      | cons key others =>
          simp only [ofItems, List.zip_cons_cons, lookup] at found
          split at found
          next =>
              cases found
              exact ⟨value, List.mem_cons_self, rfl⟩
          next =>
              obtain ⟨later, member, same⟩ := ih found
              exact ⟨later, List.mem_cons_of_mem value member, same⟩

/-- The fields of a record that is written as a value are parts of the value. -/
theorem exists_of_asRecord_ofJson {layout : Layout} {record : Json} {found : Found} {name : String} {d : Document}
    (read : (ofJson record).asRecord layout = some found) (there : found name = some d) :
    ∃ value ∈ record.parts, d = ofJson value := by
  cases record with
  | object fields =>
      obtain ⟨-, ⟨⟩⟩ := Option.ite_none_right_eq_some.mp read
      exact exists_of_lookup_ofFields there
  | array items =>
      obtain ⟨-, ⟨⟩⟩ := Option.ite_none_right_eq_some.mp read
      exact exists_of_lookup_ofItems there
  | null | bool | integer | float | text => cases read

/-- The fields of an object that was read stand in the order of their names. -/
theorem sorted_of_toJson? {room : Nat} {value : Json} {fields : Entries Json}
    (read : (ofJson value).toJson? room = some (.object fields)) : Entries.Sorted fields := by
  cases value with
  | object written =>
      simp only [ofJson, toJson?] at read
      split at read
      next => cases read
      next =>
          obtain ⟨pairs, -, ⟨⟩⟩ := Option.map_eq_some_iff.mp read
          exact Entries.sorted_ofList pairs
  | array items =>
      simp only [ofJson, toJson?] at read
      split at read
      next => cases read
      next =>
          obtain ⟨values, -, ⟨⟩⟩ := Option.map_eq_some_iff.mp read
  | null | bool | integer | float | text => cases read

end Document

namespace TemplateDocument

variable {graph : Graph} {slot : Slot} {template : WorkflowTemplate}

/-! ### Nodes -/

theorem checkNode_eq_ok {id : String} {node : Json} : checkNode id node = .ok () ↔ node.IsNode := by
  have text (value : Json) : ¬ value.asText?.isNone = true ↔ ∃ word, value = .text word := by
    cases value <;> simp [Json.asText?]
  have classed : ¬ ((node.field? "class_type").bind Json.asText?).isNone = true ↔
      ∃ word, node.field? "class_type" = some (.text word) := by
    cases node.field? "class_type" with
    | none => simp
    | some value => simp only [Option.bind_some, Option.some.injEq, text]
  unfold checkNode
  constructor
  · intro passed
    split at passed
    next => cases passed
    next hasClass =>
        refine ⟨classed.mp hasClass, ?_⟩
        intro inputs given
        simp only [given] at passed
        split at passed
        next isObject => exact isObject
        next => cases passed
  · rintro ⟨hasClass, inputs⟩
    rw [if_neg (classed.mpr hasClass)]
    cases given : node.field? "inputs" with
    | none => rfl
    | some value => exact if_pos (inputs value given)

theorem checkGraph_eq_ok {value : Json} :
    checkGraph value = .ok graph ↔ value = .object graph ∧ graph ≠ [] ∧ ∀ entry ∈ graph, entry.2.IsNode := by
  cases value with
  | object nodes =>
      cases nodes with
      | nil =>
          constructor
          · intro passed
            cases passed
          · rintro ⟨⟨⟩, some_, -⟩
            exact absurd rfl some_
      | cons first rest =>
          simp only [checkGraph, then_eq_ok, forM_eq_ok, checkNode_eq_ok]
          constructor
          · rintro ⟨nodes, ⟨⟩⟩
            exact ⟨rfl, List.cons_ne_nil first rest, nodes⟩
          · rintro ⟨⟨⟩, -, nodes⟩
            exact ⟨nodes, rfl⟩
  | null | bool | integer | float | text | array => simp [checkGraph]

/-! ### Slots -/

theorem checkBounds_eq_ok : checkBounds slot = .ok () ↔ slot.BoundsFit := by
  unfold checkBounds
  constructor
  · intro passed
    split at passed
    next => cases passed
    next numeric =>
        refine ⟨fun bounded => by simpa [bounded] using numeric, ?_⟩
        intro min max lower upper
        simp only [lower, upper] at passed
        split at passed
        next => cases passed
        next ordered =>
            split at passed
            next => cases passed
            next whole => exact ⟨by simpa using ordered, fun integer => by simpa [integer] using whole⟩
  · rintro ⟨numeric, ordered⟩
    rw [if_neg (by simpa using numeric)]
    split
    next min max lower upper =>
        obtain ⟨inOrder, whole⟩ := ordered min max lower upper
        rw [if_neg (by simp [inOrder]), if_neg]
        rintro ⟨integer, none_⟩
        simp [whole integer] at none_
    next => rfl

theorem checkDefault_eq_ok : checkDefault graph slot = .ok () ↔ slot.HasDefault graph := by
  unfold checkDefault Slot.HasDefault
  cases slot.default with
  | some default => cases slot.kind.accepts default <;> simp
  | none =>
      cases slot.required with
      | true => simp
      | false =>
          cases graph.input? slot.ref with
          | none => simp
          | some literal => cases literal.isArray <;> simp

theorem checkSlot_eq_ok {seen : List SlotRef} :
    checkSlot graph seen slot = .ok () ↔ slot.IsSound graph ∧ slot.ref ∉ seen := by
  simp only [checkSlot, guard_eq_ok, then_eq_ok, checkBounds_eq_ok, checkDefault_eq_ok, not_or]
  constructor
  · rintro ⟨named, placed, new, bounds, default⟩
    exact ⟨⟨named, by simpa using placed, bounds, default⟩, new⟩
  · rintro ⟨⟨named, placed, bounds, default⟩, new⟩
    exact ⟨named, by simpa using placed, new, bounds, default⟩

theorem checkSlots_eq_ok {seen : List SlotRef} {slots : List Slot} :
    checkSlots graph seen slots = .ok () ↔
      (∀ slot ∈ slots, slot.IsSound graph) ∧ (slots.map Slot.ref).Nodup ∧ ∀ slot ∈ slots, slot.ref ∉ seen := by
  induction slots generalizing seen with
  | nil => simp [checkSlots]
  | cons first rest ih =>
      have taken : checkSlots graph seen (first :: rest) = .ok () ↔
          checkSlot graph seen first = .ok () ∧ checkSlots graph (first.ref :: seen) rest = .ok () := by
        rw [checkSlots]
        cases checkSlot graph seen first <;> simp
      rw [taken, checkSlot_eq_ok, ih, List.forall_mem_cons, List.forall_mem_cons, List.map_cons, List.nodup_cons,
        List.mem_map]
      simp only [List.mem_cons, not_or]
      constructor
      · rintro ⟨⟨sound, new⟩, others, distinct, later⟩
        refine ⟨⟨sound, others⟩, ⟨?_, distinct⟩, new, fun slot member => (later slot member).2⟩
        rintro ⟨slot, member, same⟩
        exact (later slot member).1 same
      · rintro ⟨⟨sound, others⟩, ⟨apart, distinct⟩, new, later⟩
        refine ⟨⟨sound, new⟩, others, distinct, fun slot member => ⟨?_, later slot member⟩⟩
        exact fun same => apart ⟨slot, member, same⟩

/-- A check comes to its end exactly for the document of a sound template. -/
theorem check_eq_ok {d : TemplateDocument} :
    d.check = .ok template ↔ d = ⟨template.name, .object template.graph, template.slots⟩ ∧ template.IsSound := by
  rw [check, guard_eq_ok, bind_eq_ok]
  simp only [then_eq_ok, checkGraph_eq_ok, checkSlots_eq_ok]
  constructor
  · rintro ⟨named, graph, ⟨written, inhabited, nodes⟩, ⟨slots, distinct, -⟩, ⟨⟩⟩
    exact ⟨written ▸ rfl, named, inhabited, nodes, slots, distinct⟩
  · rintro ⟨rfl, named, inhabited, nodes, slots, distinct⟩
    exact ⟨named, template.graph, ⟨rfl, inhabited, nodes⟩, ⟨slots, distinct, fun _ _ => List.not_mem_nil⟩, rfl⟩

end TemplateDocument

namespace WorkflowTemplate

variable {template : WorkflowTemplate} {value : Json}

/-- Exactly the documents of sound templates are accepted. -/
theorem ofJson_eq_ok : ofJson value = .ok template ↔
    TemplateDocument.ofDocument? (Document.ofJson value) =
      some ⟨template.name, .object template.graph, template.slots⟩ ∧ template.IsSound := by
  unfold ofJson
  cases TemplateDocument.ofDocument? (Document.ofJson value) with
  | none => simp
  | some d => simp only [TemplateDocument.check_eq_ok, Option.some.injEq]

theorem isSound_of_ofJson (accepted : ofJson value = .ok template) : template.IsSound := (ofJson_eq_ok.mp accepted).2

/-- The nodes of a template that was read stand in the order of their ids. -/
theorem sorted_of_ofJson (accepted : ofJson value = .ok template) : Entries.Sorted template.graph := by
  obtain ⟨written, -⟩ := ofJson_eq_ok.mp accepted
  simp only [TemplateDocument.ofDocument?, Option.bind_eq_bind, Option.bind_eq_some_iff, Document.Found.required]
    at written
  obtain ⟨found, record, name, -, graph, ⟨d, there, read⟩, slots, -, same⟩ := written
  obtain ⟨-, rfl, -⟩ := TemplateDocument.mk.inj (Option.some.inj same)
  obtain ⟨nodes, -, rfl⟩ := Document.exists_of_asRecord_ofJson record there
  exact Document.sorted_of_toJson? read

/-! ### A template -/

/-- A template of two nodes: an image that may be another one, and a prompt whose words must be given. -/
def portrait : WorkflowTemplate where
  name := "portrait"
  graph := [
    ("1", .object [("class_type", .text "LoadImage"), ("inputs", .object [("image", .text "blank.png")])]),
    ("2", .object [("class_type", .text "Prompt")])]
  slots := [
    ⟨"2", "text", "prompt", .text, true, none, none, none⟩,
    ⟨"1", "image", "image", .image, false, none, none, none⟩,
    ⟨"2", "steps", "steps", .integer, false, some (.integer 20), none, none⟩]

/-- The template as it is written. -/
def portraitDocument : Json :=
  .object [("name", .text portrait.name), ("graph", .object portrait.graph),
    ("slots", .ofList Slot.toJson portrait.slots)]

theorem ofJson_portrait : ofJson portraitDocument = .ok portrait := by rfl

end WorkflowTemplate

end ImageBatch
