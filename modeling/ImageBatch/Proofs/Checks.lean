/-!
Steps that may fail, taken apart.

What a sequence of steps gives when all go well is said by what each gives: one step after another (`bind_eq_ok`,
`then_eq_ok`), a step that refuses (`guard_eq_ok`), and one step for each item of a list (`forM_eq_ok`).
Where it fails, one of the steps does (`bind_eq_error`).
-/

namespace ImageBatch.Checks

variable {ε α β : Type}

theorem bind_eq_ok {first : Except ε α} {next : α → Except ε β} {result : β} :
    first >>= next = .ok result ↔ ∃ value, first = .ok value ∧ next value = .ok result := by
  cases first with
  | ok value =>
      constructor
      · exact fun went => ⟨value, rfl, went⟩
      · rintro ⟨_, ⟨⟩, went⟩
        exact went
  | error e =>
      constructor
      · intro went
        cases went
      · rintro ⟨_, ⟨⟩, -⟩

theorem bind_eq_error {first : Except ε α} {next : α → Except ε β} {e : ε} :
    first >>= next = .error e ↔ first = .error e ∨ ∃ value, first = .ok value ∧ next value = .error e := by
  cases first with
  | ok value =>
      constructor
      · exact fun failed => .inr ⟨value, rfl, failed⟩
      · rintro (⟨⟨⟩⟩ | ⟨_, ⟨⟩, failed⟩)
        exact failed
  | error e =>
      constructor
      · intro failed
        cases failed
        exact .inl rfl
      · rintro (⟨⟨⟩⟩ | ⟨_, ⟨⟩, -⟩)
        rfl

/-- A check in front of other steps. -/
theorem then_eq_ok {check : Except ε Unit} {next : Unit → Except ε β} {result : β} :
    check >>= next = .ok result ↔ check = .ok () ∧ next () = .ok result := by
  rw [bind_eq_ok]
  constructor
  · rintro ⟨⟨⟩, passed, went⟩
    exact ⟨passed, went⟩
  · exact fun ⟨passed, went⟩ => ⟨(), passed, went⟩

/-- A refusal in front of other steps. -/
theorem guard_eq_ok {refused : Prop} [Decidable refused] {e : ε} {next : Unit → Except ε β} {result : β} :
    (if refused then throw e >>= next else next ()) = .ok result ↔ ¬ refused ∧ next () = .ok result := by
  by_cases holds : refused
  · rw [if_pos holds]
    constructor
    · intro went
      cases went
    · exact fun went => absurd holds went.1
  · rw [if_neg holds]
    exact (and_iff_right holds).symm

/-- Every item passes. -/
theorem forM_eq_ok {step : α → Except ε Unit} {items : List α} :
    items.forM step = .ok () ↔ ∀ item ∈ items, step item = .ok () := by
  induction items with
  | nil => exact ⟨fun _ _ member => absurd member List.not_mem_nil, fun _ => rfl⟩
  | cons first rest ih =>
      have step_ : (first :: rest).forM step = step first >>= fun _ => rest.forM step := rfl
      rw [step_, then_eq_ok, List.forall_mem_cons, ih]

/-- A result of which something is seen went well. -/
theorem exists_of_toOption {result : Except ε α} {view : α → β} {seen : β}
    (shown : result.toOption.map view = some seen) : ∃ value, result = .ok value ∧ view value = seen := by
  cases result with
  | ok value => exact ⟨value, rfl, Option.some.inj shown⟩
  | error e => cases shown

end ImageBatch.Checks
