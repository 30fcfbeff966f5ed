import ImageBatch.Feature.Set
import ImageBatch.Template.Basic

/-!
Binding a feature set into a template.

Every slot is looked at on its own: it is bound, or it lacks a feature that it requires, or the feature is of
the wrong kind. A job comes out only if all slots are bound. Numbers outside the bounds of a slot are moved
to the nearest bound, and a warning says so.
-/

namespace ImageBatch

/-- Why a job cannot be built. -/
inductive ConstructionError where
  | missingRequired (slots : List SlotRef)
  | typeMismatch (slot : SlotRef) (key : String) (expected : SlotKind) (found : String)
deriving DecidableEq, Repr

def ConstructionError.message : ConstructionError → String
  | .missingRequired slots =>
    "missing required slot binding(s): " ++ Text.commaJoin (slots.map SlotRef.text)
  | .typeMismatch slot key expected found =>
    "slot " ++ slot.text ++ " expects " ++ expected.title ++ " but feature '" ++ key ++ "' is " ++ found

/-- Where a slot's value comes from. -/
inductive BindingSource where
  | feature
  | default
deriving DecidableEq, Repr

/-- A slot and its value. -/
structure SlotBinding where
  slot : SlotRef
  value : Json
  source : BindingSource
deriving Repr

/-- A number that was moved into the bounds of its slot. -/
structure ResolveWarning where
  slot : SlotRef
  requested : Double
  applied : Double
deriving DecidableEq, Repr

def ResolveWarning.message (w : ResolveWarning) : String :=
  "slot " ++ w.slot.text ++ " clamped from " ++ w.requested.format Double.plain ++ " to " ++
    w.applied.format Double.plain

/-- A graph with every slot bound, ready to be handed to the service. -/
structure ResolvedJob where
  userId : String
  key : String
  /-- The graph in the form in which the service takes it. -/
  graph : Json
  bindings : List SlotBinding
  warnings : List ResolveWarning
  /-- Local files that the service must have first. -/
  uploads : List Path
deriving Repr

/-- What binding a feature gives: a value, a warning if it was moved, a file if it has to be uploaded. -/
structure Bound where
  value : Json
  warning : Option ResolveWarning := none
  upload : Option Path := none
deriving Repr

namespace Slot

/-- A whole number moved into the slot's bounds. -/
def clampInteger (slot : Slot) (requested : Int) : Int :=
  let raised := match slot.lower with
    | some lower => max requested lower.ceilInt64
    | none => requested
  match slot.upper with
  | some upper => min raised upper.floorInt64
  | none => raised

/-- A number moved into the slot's bounds. -/
def clampFloat (slot : Slot) (requested : Double) : Double :=
  let raised := match slot.lower with
    | some lower => requested.max lower
    | none => requested
  match slot.upper with
  | some upper => raised.min upper
  | none => raised

def bindInteger (slot : Slot) (requested : Int) : Bound :=
  let applied := slot.clampInteger requested
  { value := .integer applied
    warning :=
      if applied = requested then none
      else some ⟨slot.ref, Double.ofInt requested, Double.ofInt applied⟩ }

def bindFloat (slot : Slot) (requested : Double) : Bound :=
  let applied := slot.clampFloat requested
  { value := .ofDouble applied
    warning := if applied.same requested then none else some ⟨slot.ref, requested, applied⟩ }

/-- Binds a feature, or says what the feature is instead. -/
def bindFeature (slot : Slot) (feature : FeatureValue) : Except String Bound :=
  match slot.kind, feature with
  | .text, .text text => .ok { value := .text text }
  | .integer, .integer n => .ok (slot.bindInteger n)
  | .integer, .float x =>
    if x.isFinite && x.isWhole then .ok (slot.bindInteger x.toInt64)
    else .error ("non-integral " ++ x.format Double.plain)
  | .float, .float x =>
    if x.isFinite then .ok (slot.bindFloat x)
    else .error ("non-finite " ++ x.format Double.plain)
  | .float, .integer n => .ok (slot.bindFloat (Double.ofInt n))
  | .image, .path path =>
    match path.fileName? with
    | some name => .ok { value := .text name, upload := some path }
    | none => .error ("path without file name " ++ path.text)
  | .image, .text name => .ok { value := .text name }
  | _, other => .error other.description

end Slot

/-- What becomes of a slot. -/
inductive SlotOutcome where
  | bound (binding : Bound) (source : BindingSource)
  | missing
  | mismatched (found : String)
deriving Repr

namespace WorkflowTemplate

/-- What becomes of a slot with these features. -/
def outcome (template : WorkflowTemplate) (features : FeatureSet) (slot : Slot) : SlotOutcome :=
  match features.get? slot.key with
  | some feature =>
    match slot.bindFeature feature with
    | .ok bound => .bound bound .feature
    | .error found => .mismatched found
  | none =>
    if slot.required then .missing
    else
      match template.defaultFor slot with
      | some default => .bound { value := default } .default
      | none => .missing

end WorkflowTemplate

/-- The graph with a value at an input of a node that it has. -/
def Graph.setInput (graph : Graph) (ref : SlotRef) (value : Json) : Graph :=
  match graph.get? ref.node with
  | some (.object fields) =>
    match (Entries.get? "inputs" fields).getD (.object []) with
    | .object inputs =>
      Entries.insert ref.node
        (.object (Entries.insert "inputs" (.object (Entries.insert ref.field value inputs)) fields)) graph
    | _ => graph
  | _ => graph

/-- Paths without those that name the same file as one before. -/
def distinctPaths (paths : List Path) : List Path :=
  paths.foldl (fun kept p => if kept.any (·.sameAs p) then kept else kept ++ [p]) []

namespace WorkflowTemplate

/-- Every slot with what becomes of it. -/
def outcomes (template : WorkflowTemplate) (features : FeatureSet) : List (Slot × SlotOutcome) :=
  template.slots.map fun slot => (slot, template.outcome features slot)

/-- The slots that lack a feature. -/
def missingSlots (outcomes : List (Slot × SlotOutcome)) : List SlotRef :=
  outcomes.filterMap fun (slot, outcome) =>
    match outcome with
    | .missing => some slot.ref
    | _ => none

/-- The first slot whose feature is of the wrong kind. -/
def firstMismatch? (outcomes : List (Slot × SlotOutcome)) : Option ConstructionError :=
  outcomes.findSome? fun (slot, outcome) =>
    match outcome with
    | .mismatched found => some (.typeMismatch slot.ref slot.key slot.kind found)
    | _ => none

/-- The slots that are bound. -/
def boundSlots (outcomes : List (Slot × SlotOutcome)) : List (Slot × Bound × BindingSource) :=
  outcomes.filterMap fun (slot, outcome) =>
    match outcome with
    | .bound bound source => some (slot, bound, source)
    | _ => none

/-- The graph with the values of all bound slots. -/
def fill (graph : Graph) (bound : List (Slot × Bound × BindingSource)) : Graph :=
  bound.foldl (fun g (slot, b, _) => g.setInput slot.ref b.value) graph

/-- Binds every slot. Missing features are reported all together, before the first of a wrong kind. -/
def resolve (template : WorkflowTemplate) (features : FeatureSet) :
    Except ConstructionError ResolvedJob :=
  let outcomes := template.outcomes features
  match missingSlots outcomes, firstMismatch? outcomes with
  | slot :: rest, _ => .error (.missingRequired (slot :: rest))
  | [], some e => .error e
  | [], none =>
    let bound := boundSlots outcomes
    .ok {
      userId := features.userId
      key := features.key
      graph := .object (fill template.graph bound)
      bindings := bound.map fun (slot, b, source) => ⟨slot.ref, b.value, source⟩
      warnings := bound.filterMap fun (_, b, _) => b.warning
      uploads := distinctPaths (bound.filterMap fun (_, b, _) => b.upload) }

end WorkflowTemplate

end ImageBatch
