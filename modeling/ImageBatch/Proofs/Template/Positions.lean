import ImageBatch.Proofs.Entries
import ImageBatch.Template.Resolve

/-!
Positions in a graph.

A position is the names on the way to it (`Json.at?`). Writing an input of a node changes the position of the input and
what lies above and below it; at any position apart from it (`Apart`) stands what stood there before, or nothing if
nothing did (`Graph.at?_setInput_of_apart`). Writing several inputs one after another does so at all of their positions,
if no two are the same (`WorkflowTemplate.at?_fill`, `WorkflowTemplate.at?_fill_of_apart`).
-/

namespace ImageBatch

/-- The value at the end of a way of names. -/
def Json.at? : List String → Json → Option Json
  | [], value => some value
  | name :: rest, value => (value.field? name).bind (Json.at? rest)

/-- Where an input stands in a graph. -/
def SlotRef.path (ref : SlotRef) : List String := [ref.node, "inputs", ref.field]

/-- Neither of two positions lies within the other. -/
def Apart (path other : List String) : Prop := ¬ path <+: other ∧ ¬ other <+: path

instance (path other : List String) : Decidable (Apart path other) := inferInstanceAs (Decidable (_ ∧ _))

theorem SlotRef.path_injective {ref other : SlotRef} (same : ref.path = other.path) : ref = other := by
  cases ref
  cases other
  cases same
  rfl

/-- Different inputs are apart. -/
theorem SlotRef.apart_path {ref other : SlotRef} (ne : ref ≠ other) : Apart ref.path other.path := by
  constructor
  · intro within
    exact ne (path_injective (within.eq_of_length rfl))
  · intro within
    exact ne (path_injective (within.eq_of_length rfl).symm)

namespace Json

variable {fields : Entries Json} {name key : String} {value : Json} {rest : List String}

theorem at?_nil : value.at? [] = some value := rfl

theorem at?_cons (name : String) : value.at? (name :: rest) = (value.field? name).bind (at? rest) := rfl

/-- Under the name that was inserted lies the new value, under any other what lay there. -/
theorem at?_insert : (Json.object (Entries.insert name value fields)).at? (key :: rest) =
    if key = name then value.at? rest else (Json.object fields).at? (key :: rest) := by
  rw [at?_cons, field?, Entries.get?_insert]
  split
  · rfl
  · rfl

end Json

namespace Graph

variable {graph : Graph} {ref : SlotRef} {value : Json} {node : String} {path : List String}

/-- A node of the graph that takes inputs. -/
def Settable (graph : Graph) (node : String) : Prop :=
  ∃ fields inputs, graph.get? node = some (.object fields) ∧
    (Entries.get? "inputs" fields).getD (.object []) = .object inputs

/-- The graph has a new value under the node's name. -/
theorem exists_of_settable (settable : graph.Settable ref.node) (value : Json) :
    ∃ fields inputs, graph.get? ref.node = some (.object fields) ∧
      (Entries.get? "inputs" fields).getD (.object []) = .object inputs ∧
      graph.setInput ref value = Entries.insert ref.node
        (.object (Entries.insert "inputs" (.object (Entries.insert ref.field value inputs)) fields)) graph := by
  obtain ⟨fields, inputs, there, given⟩ := settable
  refine ⟨fields, inputs, there, given, ?_⟩
  simp only [setInput, there, given]

/-- An input that was written is there. -/
theorem at?_setInput_self (settable : graph.Settable ref.node) :
    (Json.object (graph.setInput ref value)).at? ref.path = some value := by
  obtain ⟨fields, inputs, -, -, written⟩ := exists_of_settable settable value
  rw [written, SlotRef.path, Json.at?_insert, if_pos rfl, Json.at?_insert, if_pos rfl, Json.at?_insert, if_pos rfl,
    Json.at?_nil]

/-- Apart from the input that was written all is as it was. -/
theorem at?_setInput_of_apart (settable : graph.Settable ref.node) (apart : Apart path ref.path) :
    (Json.object (graph.setInput ref value)).at? path = (Json.object graph).at? path := by
  obtain ⟨fields, inputs, there, given, written⟩ := exists_of_settable settable value
  obtain ⟨above, below⟩ := apart
  rw [written]
  -- The position leaves the way to the input at the node, at its inputs, or at the field.
  cases path with
  | nil => exact absurd List.nil_prefix above
  | cons node rest =>
      rw [Json.at?_insert]
      by_cases sameNode : node = ref.node
      · subst sameNode
        rw [if_pos rfl]
        have inNode : (Json.object graph).at? (ref.node :: rest) = (Json.object fields).at? rest := by
          rw [Json.at?_cons, Json.field?, there, Option.bind_some]
        rw [inNode]
        cases rest with
        | nil => exact absurd ⟨["inputs", ref.field], rfl⟩ above
        | cons part rest =>
            rw [Json.at?_insert]
            by_cases inInputs : part = "inputs"
            · subst inInputs
              rw [if_pos rfl]
              cases rest with
              | nil => exact absurd ⟨[ref.field], rfl⟩ above
              | cons field rest =>
                  have other : field ≠ ref.field := by
                    rintro rfl
                    exact below ⟨rest, rfl⟩
                  rw [Json.at?_insert, if_neg other, ← given, Json.at?_cons "inputs", Json.field?]
                  cases Entries.get? "inputs" fields <;> rfl
            · rw [if_neg inInputs]
      · rw [if_neg sameNode]

theorem Settable.setInput (settable : graph.Settable node) (ref : SlotRef) (value : Json) :
    (graph.setInput ref value).Settable node := by
  obtain ⟨fields, inputs, there, given⟩ := settable
  by_cases same : node = ref.node
  · subst same
    obtain ⟨fields, inputs, -, -, written⟩ := exists_of_settable ⟨fields, inputs, there, given⟩ value
    exact ⟨_, _, by rw [written, Entries.get?_insert_self], by rw [Entries.get?_insert_self]; rfl⟩
  · refine ⟨fields, inputs, ?_, given⟩
    unfold Graph.setInput
    split
    · split
      · rw [Entries.get?_insert_of_ne same, there]
      · exact there
    · exact there

/-- The nodes stay where they are. -/
theorem names_setInput (sorted : Entries.Sorted graph) (ref : SlotRef) (value : Json) :
    Entries.Sorted (graph.setInput ref value) ∧ Entries.names (graph.setInput ref value) = Entries.names graph := by
  unfold Graph.setInput
  split
  next fields there =>
      split
      next =>
          have present : ref.node ∈ Entries.names graph := by
            rw [← Entries.contains_iff, Entries.contains, there]
            rfl
          exact ⟨sorted.insert _ _, Entries.names_insert sorted present⟩
      next => exact ⟨sorted, rfl⟩
  next => exact ⟨sorted, rfl⟩

end Graph

namespace WorkflowTemplate

variable {graph : Graph} {bound : List (Slot × Bound × BindingSource)} {path : List String}

/-- Apart from the slots all is as it was. -/
theorem at?_fill_of_apart (settable : ∀ entry ∈ bound, graph.Settable entry.1.node)
    (apart : ∀ entry ∈ bound, Apart path entry.1.ref.path) :
    (Json.object (fill graph bound)).at? path = (Json.object graph).at? path := by
  induction bound generalizing graph with
  | nil => rfl
  | cons first rest ih =>
      obtain ⟨slot, given, source⟩ := first
      obtain ⟨node, nodes⟩ := List.forall_mem_cons.mp settable
      obtain ⟨away, others⟩ := List.forall_mem_cons.mp apart
      have step : fill graph ((slot, given, source) :: rest) = fill (graph.setInput slot.ref given.value) rest := rfl
      rw [step, ih (fun entry member => (nodes entry member).setInput slot.ref given.value) others]
      exact Graph.at?_setInput_of_apart node away

/-- At each slot stands its value: the slots that are filled later are apart. -/
theorem at?_fill (settable : ∀ entry ∈ bound, graph.Settable entry.1.node) (distinct : (bound.map (·.1.ref)).Nodup)
    {entry : Slot × Bound × BindingSource} (member : entry ∈ bound) :
    (Json.object (fill graph bound)).at? entry.1.ref.path = some entry.2.1.value := by
  induction bound generalizing graph with
  | nil => cases member
  | cons first rest ih =>
      obtain ⟨slot, given, source⟩ := first
      obtain ⟨node, nodes⟩ := List.forall_mem_cons.mp settable
      obtain ⟨new, distinct⟩ := List.nodup_cons.mp distinct
      have step : fill graph ((slot, given, source) :: rest) = fill (graph.setInput slot.ref given.value) rest := rfl
      have nodes' : ∀ entry ∈ rest, (graph.setInput slot.ref given.value).Settable entry.1.node :=
        fun entry member => (nodes entry member).setInput slot.ref given.value
      rw [step]
      obtain rfl | member := List.mem_cons.mp member
      · rw [at?_fill_of_apart nodes']
        · exact Graph.at?_setInput_self node
        · intro other later
          refine SlotRef.apart_path fun same => new ?_
          exact List.mem_map.mpr ⟨other, later, same.symm⟩
      · exact ih nodes' distinct member

/-- The nodes stay where they are. -/
theorem names_fill (sorted : Entries.Sorted graph) : Entries.names (fill graph bound) = Entries.names graph := by
  induction bound generalizing graph with
  | nil => rfl
  | cons first rest ih =>
      obtain ⟨slot, given, source⟩ := first
      obtain ⟨sorted', names⟩ := Graph.names_setInput sorted slot.ref given.value
      exact (ih sorted').trans names

end WorkflowTemplate

end ImageBatch
