import ImageBatch.Json.Printer
import ImageBatch.Json.Scan
import ImageBatch.Template.Slot
import ImageBatch.Text.Blank

/-!
Workflow templates: a graph of nodes and the slots that a job may fill in it.

`TemplateDocument` is a template as it is written. `check` looks at everything that a job relies on later and
names the first fault: the graph's nodes in the order of their ids, then the slots in the order they are
declared.
-/

namespace ImageBatch

/-- Why a document is no template. -/
inductive TemplateError where
  | tooLarge
  | notJson
  | notATemplate
  | emptyName
  | graphNotAnObject
  | emptyGraph
  | noClassType (node : String)
  | inputsNotAnObject (node : String)
  | unnamedSlot (slot : SlotRef)
  | unknownNode (slot : SlotRef)
  | repeatedSlot (slot : SlotRef)
  | boundsNotNumeric (slot : SlotRef)
  | boundsReversed (slot : SlotRef) (min max : Double)
  | noIntegerInBounds (slot : SlotRef) (min max : Double)
  | wrongDefault (slot : SlotRef) (default : Json) (kind : SlotKind)
  | noDefault (slot : SlotRef)
deriving Repr

/-- The most bytes that a template's text may have. -/
def maxTemplateSize : Nat := 10000000

namespace TemplateError

/-- The fault in words. -/
def fault : TemplateError → String
  | .tooLarge => "Template JSON exceeds maximum size of " ++ toString maxTemplateSize ++ " bytes"
  | .notJson => "Template is not valid JSON: malformed text"
  | .notATemplate => "Invalid template document: unexpected fields"
  | .emptyName => "Template name must not be empty"
  | .graphNotAnObject => "Template graph must be an object"
  | .emptyGraph => "Template graph must contain at least one node"
  | .noClassType node => "Node '" ++ node ++ "' is missing required 'class_type' field"
  | .inputsNotAnObject node => "Node '" ++ node ++ "' has non-object 'inputs'"
  | .unnamedSlot slot => "Slot '" ++ slot.text ++ "' must name a field and a feature key"
  | .unknownNode slot => "Slot '" ++ slot.text ++ "' references unknown node '" ++ slot.node ++ "'"
  | .repeatedSlot slot => "Slot '" ++ slot.text ++ "' is declared more than once"
  | .boundsNotNumeric slot => "Slot '" ++ slot.text ++ "' declares bounds but is not numeric"
  | .boundsReversed slot min max =>
    "Slot '" ++ slot.text ++ "' has min " ++ min.format Double.plain ++ " greater than max " ++
      max.format Double.plain
  | .noIntegerInBounds slot min max =>
    "Integer slot '" ++ slot.text ++ "' has no integer between min " ++ min.format Double.plain ++
      " and max " ++ max.format Double.plain
  | .wrongDefault slot default kind =>
    "Slot '" ++ slot.text ++ "' default " ++ default.compact ++ " does not match kind " ++ kind.title
  | .noDefault slot =>
    "Optional slot '" ++ slot.text ++ "' has no default and no literal in the graph"

def message (e : TemplateError) : String := "Invalid workflow template: " ++ e.fault

end TemplateError

/-- The nodes of a graph under their ids. -/
abbrev Graph := Entries Json

/-- The value at an input of a node. -/
def Graph.input? (graph : Graph) (ref : SlotRef) : Option Json := do
  let node ← graph.get? ref.node
  let inputs ← node.field? "inputs"
  inputs.field? ref.field

/-- A template as it is written. -/
structure TemplateDocument where
  name : String
  graph : Json
  slots : List Slot
deriving Repr

/-- A template whose graph and slots are sound. -/
structure WorkflowTemplate where
  name : String
  graph : Graph
  slots : List Slot
deriving Repr

namespace TemplateDocument

open Document

def ofDocument? (d : Document) : Option TemplateDocument := do
  let found ← d.asRecord [must "name", must "graph", may "slots"]
  return {
    name := ← found.required "name" asText
    graph := ← found.required "graph" value?
    slots := ← found.withDefault "slots" [] (asList Slot.ofDocument?) }

/-- A node has a class, and its inputs, if it has any, are an object. -/
def checkNode (id : String) (node : Json) : Except TemplateError Unit :=
  if ((node.field? "class_type").bind Json.asText?).isNone then .error (.noClassType id)
  else
    match node.field? "inputs" with
    | some inputs => if inputs.isObject then .ok () else .error (.inputsNotAnObject id)
    | none => .ok ()

/-- The nodes of a graph. -/
def checkGraph : Json → Except TemplateError Graph
  | .object [] => .error .emptyGraph
  | .object nodes => do
    nodes.forM fun (id, node) => checkNode id node
    return nodes
  | _ => .error .graphNotAnObject

/-- A whole number lies between two bounds. -/
def hasInteger (min max : Double) : Bool :=
  match min.ceil?, max.floor? with
  | some low, some high => low ≤ high
  | _, _ => false

/-- The bounds of a slot fit its kind and each other. -/
def checkBounds (slot : Slot) : Except TemplateError Unit :=
  if (slot.lower.isSome || slot.upper.isSome) && !slot.kind.isNumeric then
    .error (.boundsNotNumeric slot.ref)
  else
    match slot.lower, slot.upper with
    | some min, some max =>
      if max.less min then .error (.boundsReversed slot.ref min max)
      else if slot.kind = .integer ∧ !hasInteger min max then
        .error (.noIntegerInBounds slot.ref min max)
      else .ok ()
    | _, _ => .ok ()

/-- What an unbound slot gets is fit for it. An array in the graph is a link to another node, no value. -/
def checkDefault (graph : Graph) (slot : Slot) : Except TemplateError Unit :=
  match slot.default with
  | some default =>
    if slot.kind.accepts default then .ok () else .error (.wrongDefault slot.ref default slot.kind)
  | none =>
    if slot.required then .ok ()
    else
      match graph.input? slot.ref with
      | some literal => if literal.isArray then .error (.noDefault slot.ref) else .ok ()
      | none => .error (.noDefault slot.ref)

/-- A slot is sound after the slots at `seen`. -/
def checkSlot (graph : Graph) (seen : List SlotRef) (slot : Slot) : Except TemplateError Unit := do
  if slot.field = "" ∨ slot.key = "" then throw (.unnamedSlot slot.ref)
  if !graph.contains slot.node then throw (.unknownNode slot.ref)
  if slot.ref ∈ seen then throw (.repeatedSlot slot.ref)
  checkBounds slot
  checkDefault graph slot

/-- All slots after those at `seen`. -/
def checkSlots (graph : Graph) (seen : List SlotRef) : List Slot → Except TemplateError Unit
  | [] => .ok ()
  | slot :: rest =>
    match checkSlot graph seen slot with
    | .ok () => checkSlots graph (slot.ref :: seen) rest
    | .error e => .error e

/-- The template that a document describes. -/
def check (d : TemplateDocument) : Except TemplateError WorkflowTemplate := do
  if Text.trim d.name = "" then throw .emptyName
  let graph ← checkGraph d.graph
  checkSlots graph [] d.slots
  return ⟨d.name, graph, d.slots⟩

end TemplateDocument

namespace WorkflowTemplate

/-- The template that a value describes. -/
def ofJson (value : Json) : Except TemplateError WorkflowTemplate :=
  match TemplateDocument.ofDocument? (Document.ofJson value) with
  | some d => d.check
  | none => .error .notATemplate

/-- Reads a template. -/
def ofText (text : String) : Except TemplateError WorkflowTemplate :=
  if maxTemplateSize < text.utf8ByteSize then .error .tooLarge
  else
    match Json.ofText? text with
    | some value => ofJson value
    | none => .error .notJson

/-- The value that an unbound slot keeps. -/
def defaultFor (template : WorkflowTemplate) (slot : Slot) : Option Json :=
  slot.default.or (template.graph.input? slot.ref)

end WorkflowTemplate

end ImageBatch
