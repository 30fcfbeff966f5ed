import ImageBatch.Proofs.Backend.Backoff

/-!
How often an operation is tried, and when.

`Outcomes` say what comes of each call of an operation and how long it takes. An operation is called until an outcome
is final, or as often as its policy allows (`Outcomes.IsLast`, `Outcomes.perform_retryFrom`); the result is that
outcome, or the failure of the last call is wrapped up (`Outcomes.attempts_bounded`). Between two calls lie the
duration of the first and a delay, as the clock's timers measure it: they end at whole milliseconds, and none takes
longer than thirty years (`Outcomes.calls_off_schedule`).
-/

namespace ImageBatch

/-- What comes of the calls of an operation, one after another, and how long each of them takes. -/
abbrev Outcomes (α : Type) := Nat → Line (Except BackendError α)

namespace Outcomes

variable {α : Type} (outcomes : Outcomes α) (policy : RetryPolicy) (operation : String) (disk : Disk) (start : Nat)

/-- A success, or a failure that will not pass. -/
def IsFinal : Except BackendError α → Prop
  | .ok _ => True
  | .error e => e.isTransient = false

/-- The call at a place, counted from zero, is the first whose outcome is final. -/
def Settles (k : Nat) : Prop := IsFinal (outcomes k).outcome ∧ ∀ i < k, ¬ IsFinal (outcomes i).outcome

/-- Of the calls from a first place up to a bound one is the last: its outcome is final, or it is the one at the bound,
and the outcomes before it are not final. -/
structure IsLast (first bound last : Nat) : Prop where
  low : first ≤ last
  high : last ≤ bound
  passing : ∀ i, first ≤ i → i < last → ¬ IsFinal (outcomes i).outcome
  ends : IsFinal (outcomes last).outcome ∨ last = bound

/-- Answers the calls with the outcomes, and notes the instants at which they begin. -/
def service : Service Trial.Ask (Trial.Answer α) (List Nat) where
  respond question _ now calls :=
    match question with
    | .attempt =>
      let line := outcomes calls.length
      ⟨line.outcome, now + line.delay, calls ++ [now]⟩
    | .pause length => ⟨(), Instant.afterWait now length, calls⟩

/-- When the call at a place begins, if it comes to that. -/
def beginAt : Nat → Nat
  | 0 => start
  | i + 1 => Instant.afterWait (beginAt i + (outcomes i).delay) (policy.delay i)

/-- The world before the call at a place. -/
def before (n : Nat) : World (List Nat) :=
  ⟨(List.range n).map (outcomes.beginAt policy start), disk, outcomes.beginAt policy start n⟩

/-- The world after the call at a place. -/
def after (n : Nat) : World (List Nat) :=
  ⟨(List.range (n + 1)).map (outcomes.beginAt policy start), disk,
    outcomes.beginAt policy start n + (outcomes n).delay⟩

/-- What the last of so many attempts gives. -/
def verdict (attempts : Nat) : Except BackendError α → Except BackendError α
  | .ok value => .ok value
  | .error e => .error (if e.isTransient then .retriesExhausted operation attempts e else e)

variable {outcomes policy operation disk start}

theorem verdict_of_isFinal {outcome : Except BackendError α} (final : IsFinal outcome) (attempts : Nat) :
    verdict operation attempts outcome = outcome := by
  cases outcome with
  | ok value => rfl
  | error e =>
      have lasting : e.isTransient = false := final
      simp [verdict, lasting]

theorem exists_of_not_isFinal {outcome : Except BackendError α} (passing : ¬ IsFinal outcome) :
    ∃ e, outcome = .error e ∧ e.isTransient = true := by
  cases outcome with
  | ok value => exact absurd trivial passing
  | error e => exact ⟨e, rfl, by simpa [IsFinal] using passing⟩

namespace IsLast

variable {n bound last k : Nat}

theorem at_bound (n : Nat) : outcomes.IsLast n n n :=
  ⟨Nat.le_refl n, Nat.le_refl n, fun _ low high => absurd high (Nat.not_lt.mpr low), .inr rfl⟩

theorem of_isFinal (within : n ≤ bound) (final : IsFinal (outcomes n).outcome) : outcomes.IsLast n bound n :=
  ⟨Nat.le_refl n, within, fun _ low high => absurd high (Nat.not_lt.mpr low), .inl final⟩

theorem of_later (passes : ¬ IsFinal (outcomes n).outcome) (later : outcomes.IsLast (n + 1) bound last) :
    outcomes.IsLast n bound last := by
  refine ⟨Nat.le_of_succ_le later.low, later.high, fun i low high => ?_, later.ends⟩
  rcases Nat.eq_or_lt_of_le low with rfl | after
  · exact passes
  · exact later.passing i after high

/-- The first final outcome ends the calls if it comes by the bound. -/
theorem eq_of_settles (isLast : outcomes.IsLast 0 bound last) (settles : outcomes.Settles k) : last = min k bound := by
  have reached : ¬ k < last := fun sooner => isLast.passing k (Nat.zero_le k) sooner settles.1
  have final : IsFinal (outcomes last).outcome → ¬ last < k := fun final sooner => settles.2 last sooner final
  have high := isLast.high
  rcases isLast.ends with done | exhausted
  · have := final done
    omega
  · omega

/-- Without a final outcome by the bound the calls end there. -/
theorem eq_bound (isLast : outcomes.IsLast 0 bound last) (tooLate : ∀ k, outcomes.Settles k → bound < k) :
    last = bound ∧ ¬ IsFinal (outcomes last).outcome := by
  have passes : ¬ IsFinal (outcomes last).outcome := by
    intro final
    have settles : outcomes.Settles last := ⟨final, fun i sooner => isLast.passing i (Nat.zero_le i) sooner⟩
    exact Nat.not_lt.mpr isLast.high (tooLate last settles)
  exact ⟨isLast.ends.resolve_left passes, passes⟩

end IsLast

theorem eq_beginAt {n i t : Nat} (there : ((List.range n).map (outcomes.beginAt policy start))[i]? = some t) :
    t = outcomes.beginAt policy start i := by
  rw [List.getElem?_map, Option.map_eq_some_iff] at there
  obtain ⟨j, listed, rfl⟩ := there
  obtain ⟨_, rfl⟩ := List.getElem?_eq_some_iff.mp listed
  rw [List.getElem_range]

/-! ### Performing the attempts -/

/-- An attempt takes the world from before the call to after it. -/
theorem perform_attempt (n : Nat)
    (goOn : Except BackendError α → Task Trial.Ask (Trial.Answer α) (Except BackendError α)) :
    Task.perform outcomes.service ((Trial.attempt α).bind goOn) (outcomes.before policy disk start n) =
      Task.perform outcomes.service (goOn (outcomes n).outcome) (outcomes.after policy disk start n) := by
  have counted : ((List.range n).map (outcomes.beginAt policy start)).length = n := by simp
  have noted : (List.range n).map (outcomes.beginAt policy start) ++ [outcomes.beginAt policy start n] =
      (List.range (n + 1)).map (outcomes.beginAt policy start) := by simp [List.range_succ]
  simp only [Trial.attempt, Task.question, Task.bind, Task.perform, service, before, after, counted, noted]

/-- A pause takes the world from after a call to before the next one. -/
theorem perform_pause (n : Nat) (next : Unit → Task Trial.Ask (Trial.Answer α) (Except BackendError α)) :
    Task.perform outcomes.service ((Trial.pause α (policy.delay n)).bind next)
        (outcomes.after policy disk start n) =
      Task.perform outcomes.service (next ()) (outcomes.before policy disk start (n + 1)) := by
  simp only [Trial.pause, Task.question, Task.bind, Task.perform, service, before, after, beginAt]

/-- From any call on, calls follow until an outcome is final or none is left. -/
theorem perform_retryFrom (outcomes : Outcomes α) (policy : RetryPolicy) (operation : String) (disk : Disk)
    (start n left : Nat) :
    ∃ last, outcomes.IsLast n (n + left) last ∧
      Task.perform outcomes.service
          (Task.retryFrom (Trial.pause α) operation policy (Trial.attempt α) (n + 1) (policy.delay n) left)
          (outcomes.before policy disk start n) =
        (verdict operation (last + 1) (outcomes last).outcome, outcomes.after policy disk start last) := by
  induction left generalizing n with
  | zero =>
      refine ⟨n, IsLast.at_bound n, ?_⟩
      rw [Task.retryFrom_eq_bind, perform_attempt]
      cases (outcomes n).outcome <;> rfl
  | succ left ih =>
      rw [Task.retryFrom_eq_bind, perform_attempt]
      by_cases final : IsFinal (outcomes n).outcome
      · refine ⟨n, IsLast.of_isFinal (Nat.le_add_right n _) final, ?_⟩
        rw [verdict_of_isFinal final]
        cases given : (outcomes n).outcome with
        | ok value => rfl
        | error e =>
            rw [given] at final
            have lasting : ¬ e.isTransient = true := by simpa [IsFinal] using final
            rw [Task.afterTry, if_neg lasting]
            rfl
      · obtain ⟨e, failed, transient⟩ := exists_of_not_isFinal final
        obtain ⟨last, later, performed⟩ := ih (n + 1)
        rw [Nat.add_right_comm] at later
        refine ⟨last, later.of_later final, ?_⟩
        rw [failed, Task.afterTry, if_pos transient, perform_pause]
        exact performed

/-- An operation is called until an outcome is final, at least once and at most as often as the policy allows. The first
final outcome is the result if it comes by then; otherwise the last failure is, wrapped up with the number of calls. The
next call begins a delay after a call has ended, where the timer rounds up to whole milliseconds and no delay counts for
more than thirty years. -/
theorem attempts_bounded (outcomes : Outcomes α) (policy : RetryPolicy) (operation : String) (disk : Disk)
    (start : Nat) :
    ∃ result calls finish,
      (Trial.task α operation policy).perform outcomes.service ⟨[], disk, start⟩ = (result, ⟨calls, disk, finish⟩) ∧
      (∀ k, outcomes.Settles k → calls.length = min (k + 1) (max 1 policy.maxAttempts)) ∧
      ((∀ k, ¬ outcomes.Settles k) → calls.length = max 1 policy.maxAttempts) ∧
      (∀ k, outcomes.Settles k → k + 1 ≤ max 1 policy.maxAttempts → result = (outcomes k).outcome) ∧
      ((∀ k, outcomes.Settles k → max 1 policy.maxAttempts < k + 1) →
        ∃ e, (outcomes (max 1 policy.maxAttempts - 1)).outcome = .error e ∧
          result = .error (.retriesExhausted operation (max 1 policy.maxAttempts) e)) ∧
      calls.head? = some start ∧
      ∀ i began next, calls[i]? = some began → calls[i + 1]? = some next →
        next = Instant.afterWait (began + (outcomes i).delay) (policy.delay i) := by
  obtain ⟨last, isLast, performed⟩ := outcomes.perform_retryFrom policy operation disk start 0 (policy.maxAttempts - 1)
  have ceiling : 0 + (policy.maxAttempts - 1) + 1 = max 1 policy.maxAttempts := by omega
  have length : ((List.range (last + 1)).map (outcomes.beginAt policy start)).length = last + 1 := by simp
  refine ⟨_, _, _, performed, ?_, ?_, ?_, ?_, ?_, ?_⟩
  · intro k settles
    have := isLast.eq_of_settles settles
    omega
  · intro never
    have := (isLast.eq_bound fun k settles => absurd settles (never k)).1
    omega
  · intro k settles inTime
    have same : last = k := by
      have := isLast.eq_of_settles settles
      omega
    rw [same, verdict_of_isFinal settles.1]
  · intro tooLate
    obtain ⟨same, passes⟩ := isLast.eq_bound fun k settles => by
      have := tooLate k settles
      omega
    obtain ⟨e, failed, transient⟩ := exists_of_not_isFinal passes
    have attempts : last + 1 = max 1 policy.maxAttempts := by omega
    refine ⟨e, ?_, ?_⟩
    · rw [← attempts, Nat.add_sub_cancel, failed]
    · rw [failed, attempts, verdict, if_pos transient]
  · simp [List.range_succ_eq_map, beginAt]
  · intro i began next here there
    rw [eq_beginAt here, eq_beginAt there, beginAt]

/-- Three attempts, with a delay of more than thirty years and then one of a nanosecond. -/
def longPolicy : RetryPolicy where
  maxAttempts := 3
  initialDelay := Duration.ofSeconds 946080001
  maxDelay := 1

/-- A service that cannot be reached. -/
def unreachable : Outcomes Unit := fun _ => ⟨0, .error (.unavailable "m")⟩

/-- The second call begins sooner than the first delay says, and the third one later than the second delay says. -/
theorem calls_off_schedule :
    ((Trial.task Unit "poll" longPolicy).perform unreachable.service ⟨[], .empty, 0⟩).2.state =
      [0, Duration.ofSeconds 946080000, Duration.ofSeconds 946080000 + Duration.ofMillis 1] ∧
    Duration.ofSeconds 946080000 < 0 + (unreachable 0).delay + longPolicy.delay 0 ∧
    Duration.ofSeconds 946080000 + (unreachable 1).delay + longPolicy.delay 1 <
      Duration.ofSeconds 946080000 + Duration.ofMillis 1 := by
  decide +kernel

end Outcomes

end ImageBatch
