import ImageBatch.Backend.Rehearsal
import ImageBatch.Config
import ImageBatch.Proofs.Backend.Asking
import ImageBatch.Proofs.Checks
import ImageBatch.Proofs.Number.Product
import ImageBatch.Proofs.Number.Reading
import Mathlib.Order.Monotone.Basic

/-!
How long is waited between attempts.

The waits of a run are the delays of its policy, one after another (`Trial.exists_waits`). A configured policy doubles
whole milliseconds of 64 bits (`RunnerConfig.doubles_of_configured`), and rounding the product to a double and cutting
it off again loses nothing. So its delays never shrink once they are within the longest one, and from the second on
they are (`RunnerConfig.waits_capped`). The first delay is taken as it is, also if it is longer
(`RunnerConfig.first_wait_uncapped`).
-/

namespace ImageBatch

namespace RetryPolicy

/-- The delays of a policy, one after another. -/
def delay (policy : RetryPolicy) : Nat → Nat
  | 0 => policy.initialDelay
  | i + 1 => policy.nextDelay (policy.delay i)

/-- Delays of whole milliseconds that 64 bits can count, each twice as long as the one before. -/
structure Doubles (policy : RetryPolicy) : Prop where
  multiplier : policy.multiplier = Double.ofInt 2
  initialDelay : ∃ n ≤ Natural.max64, policy.initialDelay = Duration.ofMillis n
  maxDelay : ∃ n, policy.maxDelay = Duration.ofMillis n

variable {policy : RetryPolicy} {current i j : Nat}

theorem toMillis_ofMillis (n : Nat) : Duration.toMillis (Duration.ofMillis n) = n :=
  Nat.mul_div_cancel n (by decide)

theorem nextDelay_le (policy : RetryPolicy) (current : Nat) : policy.nextDelay current ≤ policy.maxDelay :=
  Nat.min_le_right ..

/-- A next delay of whole milliseconds. -/
theorem nextDelay_ofMillis (doubles : policy.multiplier = Double.ofInt 2) (n : Nat) :
    policy.nextDelay (Duration.ofMillis n) =
      min (Duration.ofMillis ((Double.ofInt n).mul (Double.ofInt 2)).toNat64) policy.maxDelay := by
  unfold nextDelay
  rw [toMillis_ofMillis, doubles]

/-- A delay shrinks only to the longest one. -/
theorem le_nextDelay {n : Nat} (doubles : policy.multiplier = Double.ofInt 2) (bits : n ≤ Natural.max64) :
    min (Duration.ofMillis n) policy.maxDelay ≤ policy.nextDelay (Duration.ofMillis n) := by
  rw [nextDelay_ofMillis doubles]
  refine Nat.le_min.mpr ⟨Nat.le_trans (Nat.min_le_left ..) ?_, Nat.min_le_right ..⟩
  exact Nat.mul_le_mul_right _ (Double.le_toNat64_doubled bits)

theorem exists_millis (doubles : policy.Doubles) (i : Nat) :
    ∃ n ≤ Natural.max64, policy.delay i = Duration.ofMillis n := by
  induction i with
  | zero => exact doubles.initialDelay
  | succ i ih =>
      obtain ⟨n, -, given⟩ := ih
      obtain ⟨longest, cap⟩ := doubles.maxDelay
      have bits : ((Double.ofInt n).mul (Double.ofInt 2)).toNat64 ≤ Natural.max64 := Double.toNat64_le _
      refine ⟨min ((Double.ofInt n).mul (Double.ofInt 2)).toNat64 longest,
        Nat.le_trans (Nat.min_le_left ..) bits, ?_⟩
      rw [delay, given, nextDelay_ofMillis doubles.multiplier, cap]
      exact (Nat.mul_min_mul_right ..)

/-- Once delays are within the longest one they do not shrink. -/
theorem delay_le_succ (doubles : policy.Doubles) (within : policy.delay i ≤ policy.maxDelay) :
    policy.delay i ≤ policy.delay (i + 1) := by
  obtain ⟨n, bits, given⟩ := exists_millis doubles i
  have grows := le_nextDelay doubles.multiplier bits
  rw [← given, Nat.min_eq_left within] at grows
  exact grows

/-- From the second on delays are in order. -/
theorem delay_mono (doubles : policy.Doubles) (le : i ≤ j) : policy.delay (i + 1) ≤ policy.delay (j + 1) :=
  monotone_nat_of_le_succ (f := fun k => policy.delay (k + 1))
    (fun _ => delay_le_succ doubles (nextDelay_le policy _)) le

/-! ### The first delays -/

/-- The first delays of a policy. -/
def delays (policy : RetryPolicy) (count : Nat) : List Nat := (List.range count).map policy.delay

variable {count : Nat}

/-- The delays after the first one. -/
theorem tail_delays : (policy.delays count).tail = (List.range (count - 1)).map fun i => policy.delay (i + 1) := by
  cases count with
  | zero => rfl
  | succ count =>
      rw [delays, List.range_succ_eq_map, List.map_cons, List.tail_cons, List.map_map]
      rfl

theorem mem_tail_delays {wait : Nat} (member : wait ∈ (policy.delays count).tail) :
    ∃ i, policy.delay (i + 1) = wait := by
  rw [tail_delays] at member
  obtain ⟨i, -, same⟩ := List.mem_map.mp member
  exact ⟨i, same⟩

theorem tail_delays_le : ∀ wait ∈ (policy.delays count).tail, wait ≤ policy.maxDelay := by
  intro wait member
  obtain ⟨i, rfl⟩ := mem_tail_delays member
  exact nextDelay_le policy _

theorem pairwise_tail_delays (doubles : policy.Doubles) : (policy.delays count).tail.Pairwise (· ≤ ·) := by
  rw [tail_delays, List.pairwise_map]
  exact List.pairwise_lt_range.imp fun less => delay_mono doubles (Nat.le_of_lt less)

theorem delays_succ : policy.delays (count + 1) = policy.initialDelay :: (policy.delays (count + 1)).tail := by
  rw [delays, List.range_succ_eq_map]
  rfl

/-- All delays are within the longest one if the first is. -/
theorem delays_le_iff : (∀ wait ∈ policy.delays count, wait ≤ policy.maxDelay) ↔
    policy.delays count = [] ∨ policy.initialDelay ≤ policy.maxDelay := by
  cases count with
  | zero => simp [delays]
  | succ count =>
      rw [delays_succ, List.forall_mem_cons, and_iff_left tail_delays_le]
      exact (or_iff_right (List.cons_ne_nil _ _)).symm

/-- All delays are in order if the first is within the longest one, for the second always is. -/
theorem pairwise_delays_iff (doubles : policy.Doubles) : (policy.delays count).Pairwise (· ≤ ·) ↔
    (policy.delays count).length ≤ 1 ∨ policy.initialDelay ≤ policy.maxDelay := by
  cases count with
  | zero => simp [delays]
  | succ count =>
      rw [delays_succ, List.pairwise_cons, and_iff_left (pairwise_tail_delays doubles)]
      constructor
      · intro least
        cases count with
        | zero => exact .inl (Nat.le_refl 1)
        | succ count =>
            have second : policy.delay 1 ∈ (policy.delays (count + 1 + 1)).tail := by
              rw [tail_delays]
              exact List.mem_map.mpr ⟨0, List.mem_range.mpr (Nat.succ_pos count), rfl⟩
            exact .inr (Nat.le_trans (least _ second) (tail_delays_le _ second))
      · rintro (few | initial) wait member
        · have none_ : (policy.delays (count + 1)).tail = [] := List.length_eq_zero_iff.mp (by simpa using few)
          rw [none_] at member
          cases member
        · obtain ⟨j, rfl⟩ := mem_tail_delays member
          exact Nat.le_trans (delay_le_succ (i := 0) doubles initial) (delay_mono doubles (Nat.zero_le j))

end RetryPolicy

/-! ### Waits -/

namespace Trial

variable {α : Type} {operation : String} {policy : RetryPolicy}
  {earlier later exchanges : List (Exchange Ask (Answer α))}
  {rest : Task Ask (Answer α) (Except BackendError α)}

/-- A pause between two calls. -/
def pause (α : Type) (length : Nat) : Task Ask (Answer α) Unit := Task.question (Ask.pause length)

/-- One call. -/
def attempt (α : Type) : Task Ask (Answer α) (Except BackendError α) := Task.question Ask.attempt

/-- How long an exchange has the clock wait, if it does. -/
def pauseOf? : Exchange Ask (Answer α) → Option Nat
  | ⟨.pause length, _, _, _⟩ => some length
  | ⟨.attempt, _, _, _⟩ => none

/-- The waits among exchanges, the latest exchange first, in the order in which they were begun. -/
def waits (exchanges : List (Exchange Ask (Answer α))) : List Nat := exchanges.reverse.filterMap pauseOf?

theorem waits_append : waits (later ++ earlier) = waits earlier ++ waits later := by
  rw [waits, List.reverse_append, List.filterMap_append]
  rfl

theorem waits_attempt (reached : (attempt α).After exchanges rest) : waits exchanges = [] := by
  rcases Task.after_question reached with ⟨rfl, -⟩ | ⟨_, _, _, rfl, -⟩
  · rfl
  · rfl

theorem waits_pause {length : Nat} {rest : Task Ask (Answer α) Unit} (reached : (pause α length).After exchanges rest) :
    waits exchanges = [] ∨ waits exchanges = [length] := by
  rcases Task.after_question reached with ⟨rfl, -⟩ | ⟨_, _, _, rfl, -⟩
  · exact .inl rfl
  · exact .inr rfl

/-- From any call on the waits are the delays from its place on. -/
theorem exists_waits_from {left n i : Nat}
    (reached : (Task.retryFrom (pause α) operation policy (attempt α) n (policy.delay i) left).After exchanges rest) :
    ∃ count, waits exchanges = (List.range' i count).map policy.delay := by
  induction left generalizing n i exchanges with
  | zero =>
      rw [Task.retryFrom_eq_bind] at reached
      refine ⟨0, ?_⟩
      rcases Task.After.of_bind reached with ⟨busy, called, -⟩ | ⟨outcome, earlier, later, rfl, called, going⟩
      · exact waits_attempt called
      · rcases Task.After.of_afterTry going with ⟨rfl, -⟩ | ⟨_, _, -, -, ⟨⟩, -⟩
        exact waits_attempt called
  | succ left ih =>
      rw [Task.retryFrom_eq_bind] at reached
      rcases Task.After.of_bind reached with ⟨busy, called, -⟩ | ⟨outcome, earlier, later, rfl, called, going⟩
      · exact ⟨0, waits_attempt called⟩
      · rw [waits_append, waits_attempt called, List.nil_append]
        rcases Task.After.of_afterTry going with ⟨rfl, -⟩ | ⟨_, _, -, -, ⟨⟩, going⟩
        · exact ⟨0, rfl⟩
        · rcases Task.After.of_bind going with ⟨busy, paused, -⟩ | ⟨_, first, others, rfl, paused, again⟩
          · rcases waits_pause paused with none_ | one
            · exact ⟨0, none_⟩
            · exact ⟨1, one⟩
          · obtain ⟨count, after⟩ := ih (i := i + 1) again
            obtain ⟨_, _, rfl⟩ := Task.yields_question paused
            refine ⟨count + 1, ?_⟩
            rw [waits_append, after]
            rfl

/-- The waits of a run are the first delays of its policy. -/
theorem exists_waits (reached : (task α operation policy).After exchanges rest) :
    ∃ count, waits exchanges = policy.delays count := by
  obtain ⟨count, waits⟩ := exists_waits_from (i := 0) reached
  rw [← List.range_eq_range'] at waits
  exact ⟨count, waits⟩

end Trial

namespace RunnerConfig

open Checks

variable {vars : Variables} {config : RunnerConfig} {α : Type} {operation : String}
  {exchanges : List (Exchange Trial.Ask (Trial.Answer α))}
  {rest : Task Trial.Ask (Trial.Answer α) (Except BackendError α)}

theorem number_le {name : String} {default n : Nat} (small : default ≤ Natural.max64)
    (read : number vars name default = .ok n) : n ≤ Natural.max64 := by
  unfold number readOr at read
  split at read
  · cases read
    exact small
  · split at read
    next found =>
        cases read
        exact Natural.le_of_read? found
    next => cases read

/-- The policy of a configuration doubles its delays. -/
theorem doubles_of_configured (configured : ofVariables vars = .ok config) : config.retry.Doubles := by
  simp only [ofVariables, bind_eq_ok] at configured
  obtain ⟨_, -, _, -, _, -, _, -, _, -, initial, first, longest, -, _, -, _, -, _, -, ⟨⟩⟩ := configured
  exact ⟨by dsimp only, ⟨initial, number_le (by decide) first, rfl⟩, ⟨longest, rfl⟩⟩

/-- From the second wait on, the waits of a run are within the longest delay, and none is shorter than one before. All
of them are so exactly if the first one is within the longest delay as well, or if there are too few to tell. -/
theorem waits_capped (configured : ofVariables vars = .ok config)
    (reached : (Trial.task α operation config.retry).After exchanges rest) :
    (∀ wait ∈ (Trial.waits exchanges).tail, wait ≤ config.retry.maxDelay) ∧
    (Trial.waits exchanges).tail.Pairwise (· ≤ ·) ∧
    ((∀ wait ∈ Trial.waits exchanges, wait ≤ config.retry.maxDelay) ↔
      Trial.waits exchanges = [] ∨ config.retry.initialDelay ≤ config.retry.maxDelay) ∧
    ((Trial.waits exchanges).Pairwise (· ≤ ·) ↔
      (Trial.waits exchanges).length ≤ 1 ∨ config.retry.initialDelay ≤ config.retry.maxDelay) := by
  have doubles := doubles_of_configured configured
  obtain ⟨count, waits⟩ := Trial.exists_waits reached
  rw [waits]
  exact ⟨RetryPolicy.tail_delays_le, RetryPolicy.pairwise_tail_delays doubles, RetryPolicy.delays_le_iff,
    RetryPolicy.pairwise_delays_iff doubles⟩

/-! ### Two configurations -/

/-- Three attempts, with delays up to a second. -/
def threeAttempts (initialDelay : String) : Variables
  | "RETRY_MAX_ATTEMPTS" => some "3"
  | "RETRY_INITIAL_DELAY_MS" => some initialDelay
  | "RETRY_MAX_DELAY_MS" => some "1000"
  | _ => none

/-- The policy of three attempts after an initial delay. -/
theorem exists_threeAttempts (initialDelay : String) (n : Nat)
    (shown : (ofVariables (threeAttempts initialDelay)).toOption.map (fun config => (config.retry.maxAttempts,
      config.retry.initialDelay, config.retry.maxDelay)) = some (3, n, Duration.ofMillis 1000)) :
    ∃ config, ofVariables (threeAttempts initialDelay) = .ok config ∧ config.retry.maxAttempts = 3 ∧
      config.retry.initialDelay = n ∧ config.retry.maxDelay = Duration.ofMillis 1000 := by
  obtain ⟨config, configured, policy⟩ := exists_of_toOption shown
  simp only [Prod.mk.injEq] at policy
  exact ⟨config, configured, policy⟩

/-- Without an outcome that is written down, every attempt fails for now. -/
theorem exists_failing_run {policy : RetryPolicy} (three : policy.maxAttempts = 3) :
    ∃ exchanges result, (Trial.task Unit "poll" policy).Yields exchanges result ∧
      Trial.waits exchanges = [policy.delay 0, policy.delay 1] := by
  refine ⟨_, _, Task.yields_transcript (Trial.service Unit) _ ⟨⟨[], []⟩, .empty, 0⟩, ?_⟩
  cases policy
  subst three
  rfl

/-- A first wait of five seconds is longer than the longest delay of one, and than the second wait. -/
theorem first_wait_uncapped :
    ∃ config, ofVariables (threeAttempts "5000") = .ok config ∧
      ∃ exchanges result, (Trial.task Unit "poll" config.retry).Yields exchanges result ∧
        ¬ (∀ wait ∈ Trial.waits exchanges, wait ≤ config.retry.maxDelay) ∧
        ¬ (Trial.waits exchanges).Pairwise (· ≤ ·) := by
  obtain ⟨config, configured, three, initial, longest⟩ :=
    exists_threeAttempts "5000" (Duration.ofMillis 5000) (by decide +kernel)
  obtain ⟨exchanges, result, yields, waits⟩ := exists_failing_run three
  have first : config.retry.maxDelay < config.retry.delay 0 := by
    rw [longest, RetryPolicy.delay, initial]
    decide
  have second : config.retry.delay 1 ≤ config.retry.maxDelay := RetryPolicy.nextDelay_le ..
  refine ⟨config, configured, exchanges, result, yields, ?_, ?_⟩
  · intro all
    have := all (config.retry.delay 0) (by rw [waits]; exact List.mem_cons_self)
    omega
  · intro ordered
    rw [waits] at ordered
    have := List.rel_of_pairwise_cons ordered (List.mem_singleton_self _)
    omega

theorem waits_capped_patient :
    ∃ config, ofVariables (threeAttempts "500") = .ok config ∧
      ∃ exchanges result, (Trial.task Unit "poll" config.retry).Yields exchanges result ∧
        (Trial.waits exchanges).length = 2 ∧ (∀ wait ∈ Trial.waits exchanges, wait ≤ Duration.ofMillis 1000) ∧
        (Trial.waits exchanges).Pairwise (· ≤ ·) := by
  obtain ⟨config, configured, three, initial, longest⟩ :=
    exists_threeAttempts "500" (Duration.ofMillis 500) (by decide +kernel)
  obtain ⟨exchanges, result, yields, waits⟩ := exists_failing_run three
  obtain ⟨-, -, capped, ordered⟩ := waits_capped configured yields
  have first : config.retry.initialDelay ≤ config.retry.maxDelay := by
    rw [initial, longest]
    decide
  refine ⟨config, configured, exchanges, result, yields, by rw [waits]; rfl, ?_, ordered.mpr (.inr first)⟩
  rw [← longest]
  exact capped.mpr (.inr first)

end RunnerConfig

end ImageBatch
