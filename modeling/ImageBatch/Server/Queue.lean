import ImageBatch.Json.Document

/-!
The queue of the service: which prompts run and which wait.
-/

namespace ImageBatch.Server

/-- The prompts that run and those that wait, each a list of values with its id in second place. -/
structure QueueSnapshot where
  running : List (List Json)
  pending : List (List Json)
deriving Repr

/-- Where a prompt stands in the queue. -/
inductive QueuePosition where
  | running
  | pending
  | absent
deriving DecidableEq, Repr

namespace QueueSnapshot

open Document

/-- The items of one prompt, inside the snapshot, a list and an array. -/
def asItem : Document → Option (List Json) := asList (toJson? (maxDepth - 3))

def ofDocument? (d : Document) : Option QueueSnapshot := do
  let found ← d.asRecord [may "queue_running", may "queue_pending"]
  return {
    running := ← found.withDefault "queue_running" [] (asList asItem)
    pending := ← found.withDefault "queue_pending" [] (asList asItem) }

/-- A prompt is in a list. -/
def holds (items : List (List Json)) (promptId : String) : Bool :=
  items.any fun item => (item[1]?.bind Json.asText?) == some promptId

def position (queue : QueueSnapshot) (promptId : String) : QueuePosition :=
  if holds queue.running promptId then .running
  else if holds queue.pending promptId then .pending
  else .absent

end QueueSnapshot

end ImageBatch.Server
