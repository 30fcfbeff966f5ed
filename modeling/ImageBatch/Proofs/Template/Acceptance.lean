import ImageBatch.Proofs.Template.Bounds
import ImageBatch.Proofs.Template.Positions
import Mathlib.Data.Rat.Floor

/-!
Which documents are templates.

A document is valid (`TemplateDocument.IsValid`) if it has a name, a graph of nodes, and valid slots, each at a place
of its own. A slot is valid (`Slot.IsValid`) if it stands in the graph, has bounds that leave a number of its kind, and
keeps a value if it need not be bound. Exactly the valid documents become templates, and a template is its document
(`WorkflowTemplate.ofJson_accepts`). A part of a document is read however deep it is (`Document.exists_value?_ofJson`).
-/

namespace ImageBatch

/-- The number that a finite double is. -/
def Double.value? (x : Double) : Option ℚ := x.units?.map fun (units : Int) => units / (unitsPerOne : ℚ)

/-- A slot that can be used with a graph: it stands in it, its bounds leave a number of its kind, and it keeps a value
if it need not be bound. An array in the graph is a link to another node, no value. -/
structure Slot.IsValid (slot : Slot) (graph : Json) : Prop where
  named : slot.field ≠ "" ∧ slot.key ≠ ""
  placed : ∃ node, graph.field? slot.node = some node
  numeric : slot.lower ≠ none ∨ slot.upper ≠ none → slot.kind = .integer ∨ slot.kind = .float
  ordered : ∀ min max, slot.lower = some min → slot.upper = some max →
    ∃ low high, min.value? = some low ∧ max.value? = some high ∧ low ≤ high ∧ (slot.kind = .integer → ⌈low⌉ ≤ ⌊high⌋)
  default : ∀ default, slot.default = some default → slot.kind.accepts default = true
  literal : slot.required = false → slot.default = none →
    ∃ literal, graph.at? [slot.node, "inputs", slot.field] = some literal ∧ ∀ items, literal ≠ .array items

/-- A document of a template that can be used, with slots that all have a place of their own. -/
structure TemplateDocument.IsValid (d : TemplateDocument) : Prop where
  named : Text.trim d.name ≠ ""
  graph : ∃ nodes, d.graph = .object nodes ∧ nodes ≠ [] ∧ ∀ entry ∈ nodes, entry.2.IsNode
  slots : ∀ slot ∈ d.slots, slot.IsValid d.graph
  distinct : d.slots.Pairwise fun slot other => ¬ (slot.node = other.node ∧ slot.field = other.field)

/-! ### Bounds -/

namespace Double

variable {x y : Double} {units other : Int}

theorem unitsPerOne_pos_rat : (0 : ℚ) < unitsPerOne := by exact_mod_cast unitsPerOne_pos

theorem value?_eq_some {q : ℚ} (exact : x.units? = some units) :
    x.value? = some q ↔ q = units / (unitsPerOne : ℚ) := by
  rw [value?, exact, Option.map_some, Option.some.injEq, eq_comm]

theorem less_eq_false (left : x.units? = some units) (right : y.units? = some other) :
    y.less x = false ↔ (units / (unitsPerOne : ℚ)) ≤ other / (unitsPerOne : ℚ) := by
  rw [← Bool.not_eq_true, less_eq_true right left, Int.not_lt, div_le_div_iff_of_pos_right unitsPerOne_pos_rat,
    Int.cast_le]

/-- A whole number lies between two finite doubles if the one rounds up to no more than the other rounds down to. -/
theorem hasInteger_iff (left : x.units? = some units) (right : y.units? = some other) :
    TemplateDocument.hasInteger x y = true ↔ ⌈units / (unitsPerOne : ℚ)⌉ ≤ ⌊other / (unitsPerOne : ℚ)⌋ := by
  rw [Rat.ceil_intCast_div_natCast, Rat.floor_intCast_div_natCast]
  unfold TemplateDocument.hasInteger ceil? floor?
  rw [left, right]
  exact decide_eq_true_iff

end Double

namespace Document

/-! ### Values of any depth -/

mutual

/-- Room for the depth of a value is enough to read it. -/
theorem exists_toJson?_ofJson (value : Json) {room : Nat} (deep : (ofJson value).depth ≤ room) :
    ∃ read, (ofJson value).toJson? room = some read := by
  cases value with
  | null | bool | integer | float | text => exact ⟨_, rfl⟩
  | array items =>
      rw [ofJson, depth] at deep
      obtain ⟨read, given⟩ := exists_items?_ofItems items (Nat.le_sub_one_of_lt deep)
      refine ⟨.array read, ?_⟩
      rw [ofJson, toJson?, if_neg (Nat.ne_zero_of_lt deep), given, Option.map_some]
  | object fields =>
      rw [ofJson, depth] at deep
      obtain ⟨read, given⟩ := exists_fields?_ofFields fields (Nat.le_sub_one_of_lt deep)
      refine ⟨.object (Entries.ofList read), ?_⟩
      rw [ofJson, toJson?, if_neg (Nat.ne_zero_of_lt deep), given, Option.map_some]

theorem exists_items?_ofItems (items : List Json) {room : Nat} (deep : itemsDepth (ofItems items) ≤ room) :
    ∃ read, items? room (ofItems items) = some read := by
  cases items with
  | nil => exact ⟨[], rfl⟩
  | cons item rest =>
      rw [ofItems, itemsDepth] at deep
      obtain ⟨first, here⟩ := exists_toJson?_ofJson item (Nat.le_trans (Nat.le_max_left ..) deep)
      obtain ⟨others, later⟩ := exists_items?_ofItems rest (Nat.le_trans (Nat.le_max_right ..) deep)
      exact ⟨first :: others, by simp only [ofItems, items?, here, later]⟩

theorem exists_fields?_ofFields (fields : List (String × Json)) {room : Nat}
    (deep : fieldsDepth (ofFields fields) ≤ room) : ∃ read, fields? room (ofFields fields) = some read := by
  cases fields with
  | nil => exact ⟨[], rfl⟩
  | cons field rest =>
      obtain ⟨name, item⟩ := field
      rw [ofFields, fieldsDepth] at deep
      obtain ⟨first, here⟩ := exists_toJson?_ofJson item (Nat.le_trans (Nat.le_max_left ..) deep)
      obtain ⟨others, later⟩ := exists_fields?_ofFields rest (Nat.le_trans (Nat.le_max_right ..) deep)
      exact ⟨(name, first) :: others, by simp only [ofFields, fields?, here, later]⟩

end

/-- Every value is read, however deep it is. -/
theorem exists_value?_ofJson (value : Json) : ∃ read, (ofJson value).value? = some read :=
  exists_toJson?_ofJson value (Nat.le_refl _)

theorem value?_ofJson_eq_null {value : Json} (read : (ofJson value).value? = some .null) : value = .null := by
  cases value with
  | null => rfl
  | array items | object fields => simp [value?, ofJson, toJson?] at read
  | bool | integer | float | text => cases read

end Document

namespace Slot

variable {slot : Slot} {graph : Graph}

theorem isNumeric_iff {kind : SlotKind} : kind.isNumeric = true ↔ kind = .integer ∨ kind = .float := by
  cases kind <;> simp [SlotKind.isNumeric]

theorem isBounded_iff : (slot.lower.isSome || slot.upper.isSome) = true ↔ slot.lower ≠ none ∨ slot.upper ≠ none := by
  rw [Bool.or_eq_true, Option.isSome_iff_ne_none, Option.isSome_iff_ne_none]

/-- Finite bounds fit if the numbers that they are do. -/
theorem IsValid.boundsFit (valid : slot.IsValid (.object graph)) (finite : slot.Finite) : slot.BoundsFit := by
  refine ⟨fun bounded => isNumeric_iff.mpr (valid.numeric (isBounded_iff.mp bounded)), ?_⟩
  intro min max lower upper
  obtain ⟨low, left⟩ := finite.lower min lower
  obtain ⟨high, right⟩ := finite.upper max upper
  obtain ⟨_, _, isLow, isHigh, inOrder, whole⟩ := valid.ordered min max lower upper
  obtain rfl := (Double.value?_eq_some left).mp isLow
  obtain rfl := (Double.value?_eq_some right).mp isHigh
  exact ⟨(Double.less_eq_false left right).mpr inOrder,
    fun integer => (Double.hasInteger_iff left right).mpr (whole integer)⟩

theorem BoundsFit.ordered_values (fit : slot.BoundsFit) (finite : slot.Finite) {min max : Double}
    (lower : slot.lower = some min) (upper : slot.upper = some max) :
    ∃ low high, min.value? = some low ∧ max.value? = some high ∧ low ≤ high ∧
      (slot.kind = .integer → ⌈low⌉ ≤ ⌊high⌋) := by
  obtain ⟨low, left⟩ := finite.lower min lower
  obtain ⟨high, right⟩ := finite.upper max upper
  obtain ⟨inOrder, whole⟩ := fit.ordered min max lower upper
  exact ⟨_, _, (Double.value?_eq_some left).mpr rfl, (Double.value?_eq_some right).mpr rfl,
    (Double.less_eq_false left right).mp inOrder, fun integer => (Double.hasInteger_iff left right).mp (whole integer)⟩

theorem at?_input (slot : Slot) (graph : Graph) :
    (Json.object graph).at? [slot.node, "inputs", slot.field] = graph.input? slot.ref := by
  refine Option.bind_congr fun node _ => ?_
  rw [Json.at?_cons]
  refine Option.bind_congr fun inputs _ => ?_
  rw [Json.at?_cons]
  exact Option.bind_fun_some _

/-- A declared default is of the slot's kind, and where there is none but might be needed the graph has a value. -/
theorem hasDefault_iff : slot.HasDefault graph ↔
    (∀ default, slot.default = some default → slot.kind.accepts default = true) ∧
    (slot.required = false → slot.default = none →
      ∃ literal, (Json.object graph).at? [slot.node, "inputs", slot.field] = some literal ∧
        ∀ items, literal ≠ .array items) := by
  have noArray (value : Json) : value.isArray = false ↔ ∀ items, value ≠ .array items := by
    cases value <;> simp [Json.isArray]
  unfold HasDefault
  rw [at?_input]
  cases slot.default with
  | some default => simp
  | none =>
      cases slot.required with
      | true => simp
      | false => simp [noArray]

theorem isValid_iff (finite : slot.Finite) : slot.IsValid (.object graph) ↔ slot.IsSound graph := by
  constructor
  · intro valid
    obtain ⟨node, there⟩ := valid.placed
    exact ⟨valid.named, Option.isSome_iff_exists.mpr ⟨node, there⟩, valid.boundsFit finite,
      hasDefault_iff.mpr ⟨valid.default, valid.literal⟩⟩
  · intro sound
    obtain ⟨default, literal⟩ := hasDefault_iff.mp sound.default
    exact ⟨sound.named, Option.isSome_iff_exists.mp sound.placed,
      fun bounded => isNumeric_iff.mp (sound.bounds.numeric (isBounded_iff.mpr bounded)),
      fun _ _ lower upper => sound.bounds.ordered_values finite lower upper, default, literal⟩

/-- A null in the place of a default is none. -/
theorem default_ne_null {written : Json} (read : ofDocument? (Document.ofJson written) = some slot) :
    slot.default ≠ some .null := by
  simp only [ofDocument?, Option.bind_eq_bind, Option.bind_eq_some_iff] at read
  obtain ⟨found, record, node, -, field, -, key, -, kind, -, required, -, default, given, lower, -, upper, -, ⟨⟩⟩ :=
    read
  rintro rfl
  unfold Document.Found.nullable at given
  split at given
  next => cases given
  next d there =>
      obtain ⟨value, -, rfl⟩ := Document.exists_of_asRecord_ofJson record there
      unfold Document.orNull at given
      split at given
      next => cases given
      next visible =>
          obtain ⟨_, taken, same⟩ := Option.map_eq_some_iff.mp given
          cases same
          exact visible (congrArg Document.ofJson (Document.value?_ofJson_eq_null taken))

end Slot

namespace WorkflowTemplate

variable {value : Json} {d : TemplateDocument} {template : WorkflowTemplate}

theorem nodup_refs_iff {slots : List Slot} : (slots.map Slot.ref).Nodup ↔
    slots.Pairwise fun slot other => ¬ (slot.node = other.node ∧ slot.field = other.field) := by
  rw [List.Nodup, List.pairwise_map]
  simp only [Slot.ref, ne_eq, SlotRef.mk.injEq]

/-- A document is valid if it is that of a sound template. -/
theorem isValid_iff (finite : ∀ slot ∈ d.slots, slot.Finite) :
    d.IsValid ↔ ∃ graph, d.graph = .object graph ∧ IsSound ⟨d.name, graph, d.slots⟩ := by
  constructor
  · rintro ⟨named, ⟨graph, written, inhabited, nodes⟩, slots, distinct⟩
    rw [written] at slots
    refine ⟨graph, written, named, inhabited, nodes, ?_, nodup_refs_iff.mpr distinct⟩
    exact fun slot member => (Slot.isValid_iff (finite slot member)).mp (slots slot member)
  · rintro ⟨graph, written, named, inhabited, nodes, slots, distinct⟩
    refine ⟨named, ⟨graph, written, inhabited, nodes⟩, ?_, nodup_refs_iff.mp distinct⟩
    rw [written]
    exact fun slot member => (Slot.isValid_iff (finite slot member)).mpr (slots slot member)

/-- Of the values that are written as templates are, exactly those with a valid document become templates, and the
template is as the document says. A null in the place of a default is none. -/
theorem ofJson_accepts (sized : value.IsSized)
    (decoded : TemplateDocument.ofDocument? (Document.ofJson value) = some d) :
    ((∃ template, ofJson value = .ok template) ↔ d.IsValid) ∧
    (∀ template, ofJson value = .ok template →
      template.name = d.name ∧ .object template.graph = d.graph ∧ template.slots = d.slots) ∧
    ∀ slot ∈ d.slots, slot.default ≠ some .null := by
  have accepted (template : WorkflowTemplate) : ofJson value = .ok template ↔
      d = ⟨template.name, .object template.graph, template.slots⟩ ∧ template.IsSound := by
    rw [ofJson_eq_ok, decoded, Option.some.injEq]
  refine ⟨?_, ?_, ?_⟩
  · rw [isValid_iff fun slot member => TemplateDocument.finite_of_mem_slots sized decoded member]
    constructor
    · rintro ⟨template, read⟩
      obtain ⟨rfl, sound⟩ := (accepted template).mp read
      exact ⟨template.graph, rfl, sound⟩
    · rintro ⟨graph, written, sound⟩
      refine ⟨⟨d.name, graph, d.slots⟩, (accepted _).mpr ⟨?_, sound⟩⟩
      rw [← written]
  · intro template read
    obtain ⟨rfl, -⟩ := (accepted template).mp read
    exact ⟨rfl, rfl, rfl⟩
  · intro slot member
    obtain ⟨list, -, written, -, read⟩ := TemplateDocument.exists_of_mem_slots decoded member
    exact Slot.default_ne_null read

/-- The document of the portrait. -/
def portraitWritten : TemplateDocument := ⟨portrait.name, .object portrait.graph, portrait.slots⟩

theorem isSized_portraitDocument : portraitDocument.IsSized := by
  simp only [portraitDocument, portrait, Json.ofList, Slot.toJson, Json.ofOption, List.map_cons, List.map_nil,
    Option.getD_some, Option.getD_none, Json.IsSized, Json.AreSized, Json.HasSized, and_true, true_and]
  decide

theorem ofJson_accepts_portrait :
    TemplateDocument.ofDocument? (Document.ofJson portraitDocument) = some portraitWritten ∧ portraitWritten.IsValid ∧
      ∀ slot ∈ portraitWritten.slots, slot.default ≠ some .null := by
  have decoded : TemplateDocument.ofDocument? (Document.ofJson portraitDocument) = some portraitWritten := by rfl
  obtain ⟨accepted, -, defaults⟩ := ofJson_accepts isSized_portraitDocument decoded
  exact ⟨decoded, accepted.mp ⟨portrait, ofJson_portrait⟩, defaults⟩

end WorkflowTemplate

end ImageBatch
