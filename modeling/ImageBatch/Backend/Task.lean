import ImageBatch.File.Disk

/-!
Tasks: what a backend does, one question to the outside world after another.

A `Task` asks questions and goes on with their answers. Who answers, and how long that takes, is a `Service`
with a state of its own; `Task.perform` runs a task alone. Answers may depend on the files of the world, but
only the questions say what is read.
-/

namespace ImageBatch

/-- A computation that asks questions on its way. -/
inductive Task (Ask : Type) (Answer : Ask → Type) (α : Type) where
  | done (value : α)
  | ask (question : Ask) (next : Answer question → Task Ask Answer α)

namespace Task

variable {Ask : Type} {Answer : Ask → Type} {α β : Type}

/-- Goes on with the value of a task. -/
def bind (task : Task Ask Answer α) (next : α → Task Ask Answer β) : Task Ask Answer β :=
  match task with
  | .done value => next value
  | .ask question rest => .ask question fun answer => bind (rest answer) next

instance : Monad (Task Ask Answer) where
  pure := .done
  bind := bind

/-- Asks one question. -/
def question (q : Ask) : Task Ask Answer (Answer q) := .ask q .done

end Task

/-- An answer, the instant at which it comes, and the state of who gave it. -/
structure Reply (α σ : Type) where
  answer : α
  comesAt : Nat
  state : σ

/-- Answers questions, given the files and the instant of the question. -/
structure Service (Ask : Type) (Answer : Ask → Type) (σ : Type) where
  respond : (question : Ask) → Disk → (now : Nat) → σ → Reply (Answer question) σ

/-- The state of a service, the files, and the instant. -/
structure World (σ : Type) where
  state : σ
  disk : Disk
  now : Nat

namespace Task

variable {Ask : Type} {Answer : Ask → Type} {σ α : Type}

/-- Runs a task to its end. -/
def perform (service : Service Ask Answer σ) : Task Ask Answer α → World σ → α × World σ
  | .done value, world => (value, world)
  | .ask question next, world =>
    let reply := service.respond question world.disk world.now world.state
    perform service (next reply.answer) { world with state := reply.state, now := reply.comesAt }

end Task

/-- A file operation in a world. -/
def OnDisk.inWorld {σ α : Type} (operation : OnDisk α) (world : World σ) : Except IoError α × World σ :=
  let (result, disk) := operation.run.run world.disk
  (result, { world with disk })

end ImageBatch
