import ImageBatch.Json.Document

/-!
The readers of documents.

What was written with an option, a list or a number is read back (`Document.orNull_ofOption`, `Document.asList_ofList`,
`Document.asNat_integer`). And what is read was there: each item of a list that is read has been read on its own
(`Document.exists_of_mem_readAll`), and so has the value of a field that may be missing
(`Document.exists_of_nullable`).
-/

namespace ImageBatch.Document

variable {α β : Type} {read : Document → Option α} {write : α → Json} {found : Found} {name : String} {d : Document}

/-! ### What is written is read back -/

theorem orNull_ofOption (visible : ∀ a, ofJson (write a) ≠ .null) (one : ∀ a, read (ofJson (write a)) = some a)
    (o : Option α) : orNull read (ofJson (.ofOption write o)) = some o := by
  cases o with
  | none => rfl
  | some a =>
      have some_ := visible a
      unfold Json.ofOption orNull
      split
      next null => exact absurd null some_
      next => rw [one, Option.map_some]

theorem asList_ofList (one : ∀ a, read (ofJson (write a)) = some a) (items : List α) :
    asList read (ofJson (.ofList write items)) = some items := by
  show readAll read (ofItems (items.map write)) = some items
  induction items with
  | nil => rfl
  | cons item rest ih => simp only [List.map_cons, ofItems, readAll, one, ih]

theorem asNat_integer {n hi : Nat} (small : n ≤ hi) : asNat hi (ofJson (.integer n)) = some n := by
  simp [asNat, asInteger, ofJson, small]

/-! ### What is read was there -/

theorem ofItems_eq_map (items : List Json) : ofItems items = items.map ofJson := by
  induction items with
  | nil => rfl
  | cons item rest ih => rw [ofItems, ih, List.map_cons]

theorem le_of_asNat {n hi : Nat} (given : asNat hi d = some n) : n ≤ hi := by
  obtain ⟨whole, integer, rfl⟩ := Option.map_eq_some_iff.mp given
  unfold asInteger at integer
  split at integer
  · split at integer
    next bounds =>
        cases integer
        omega
    next => cases integer
  · cases integer

theorem exists_of_mem_readAll {one : α → Option β} {items : List α} {values : List β} {value : β}
    (all : readAll one items = some values) (member : value ∈ values) : ∃ item ∈ items, one item = some value := by
  induction items generalizing values with
  | nil =>
      cases all
      cases member
  | cons first rest ih =>
      rw [readAll] at all
      split at all
      next here there =>
          cases all
          obtain rfl | member := List.mem_cons.mp member
          · exact ⟨first, List.mem_cons_self, here⟩
          · obtain ⟨item, later, given⟩ := ih there member
            exact ⟨item, List.mem_cons_of_mem first later, given⟩
      next => cases all

/-- What is read from a list is read from one of its items. -/
theorem exists_of_mem_asList {values : List α} {value : α} (all : d.asList read = some values)
    (member : value ∈ values) : ∃ items, d = .array items ∧ ∃ item ∈ items, read item = some value := by
  unfold asList at all
  split at all
  next items => exact ⟨items, rfl, exists_of_mem_readAll all member⟩
  next => cases all

/-- A field that may be missing or null is read if it has a value. -/
theorem exists_of_nullable {value : α} (given : found.nullable name read = some (some value)) :
    ∃ d, found name = some d ∧ read d = some value := by
  unfold Found.nullable at given
  split at given
  next => cases given
  next d there =>
      unfold orNull at given
      split at given
      next => cases given
      next =>
          obtain ⟨_, taken, same⟩ := Option.map_eq_some_iff.mp given
          cases same
          exact ⟨d, there, taken⟩

end ImageBatch.Document
