import ImageBatch.Time.Basic

/-!
Moments as numbers.

A moment outside of leap seconds is told by the nanoseconds since 1970 (`Timestamp.elapsed`): adding, subtracting and
comparing such moments is adding, subtracting and comparing these numbers. So what is left at some instant of a clock
until a moment is over when the clock shows that moment (`Clock.over_iff`).
-/

namespace ImageBatch

namespace Timestamp

variable {t a b : Timestamp}

/-- The moment is in no leap second. -/
def Ordinary (t : Timestamp) : Prop := t.nanos < 1000000000

/-- Nanoseconds since 1970, leap seconds not counted. -/
def elapsed (t : Timestamp) : Int := t.seconds * 1000000000 + t.nanos

theorem Ordinary.plus (ordinary : t.Ordinary) (d : Nat) : (t.plus d).Ordinary := by
  unfold Ordinary at *
  simp only [Timestamp.plus, Nat.not_le.mpr ordinary, if_false]
  omega

theorem Ordinary.elapsed_plus (ordinary : t.Ordinary) (d : Nat) : (t.plus d).elapsed = t.elapsed + d := by
  unfold Ordinary at ordinary
  simp only [Timestamp.plus, Nat.not_le.mpr ordinary, if_false, elapsed]
  omega

theorem Ordinary.eq_of_elapsed (ordinary : a.Ordinary) (other : b.Ordinary) (same : a.elapsed = b.elapsed) : a = b := by
  obtain ⟨seconds, nanos⟩ := a
  obtain ⟨seconds', nanos'⟩ := b
  simp only [Ordinary, elapsed] at ordinary other same
  obtain rfl : seconds = seconds' := by omega
  obtain rfl : nanos = nanos' := by omega
  rfl

theorem Ordinary.plus_plus (ordinary : t.Ordinary) (d e : Nat) : (t.plus d).plus e = t.plus (d + e) := by
  refine eq_of_elapsed ((ordinary.plus d).plus e) (ordinary.plus (d + e)) ?_
  rw [(ordinary.plus d).elapsed_plus, ordinary.elapsed_plus, ordinary.elapsed_plus, Int.natCast_add, Int.add_assoc]

theorem Ordinary.since_eq (ordinary : a.Ordinary) (other : b.Ordinary) : a.since b = a.elapsed - b.elapsed := by
  unfold Ordinary at ordinary other
  simp only [since, Nat.not_le.mpr ordinary, Nat.not_le.mpr other, if_false, ite_self, elapsed]
  omega

theorem Ordinary.le_iff (ordinary : a.Ordinary) (other : b.Ordinary) : a.le b = true ↔ a.elapsed ≤ b.elapsed := by
  unfold Ordinary at ordinary other
  simp only [le, elapsed, Bool.or_eq_true, Bool.and_eq_true, decide_eq_true_eq, beq_iff_eq]
  omega

end Timestamp

namespace Clock

variable {clock : Clock} {due : Timestamp}

/-- A clock that was not started in a leap second shows none. -/
theorem ordinary_at (ordinary : clock.origin.Ordinary) (t : Nat) : (clock.at t).Ordinary := ordinary.plus t

theorem elapsed_at (ordinary : clock.origin.Ordinary) (t : Nat) :
    (clock.at t).elapsed = clock.origin.elapsed + t := ordinary.elapsed_plus t

/-- What is left until a moment is over at an instant exactly if the moment is not later than the clock shows then. -/
theorem over_iff (ordinary : clock.origin.Ordinary) (other : due.Ordinary) {now t : Nat} (later : now ≤ t) :
    now + due.remaining (clock.at now) ≤ t ↔ due.le (clock.at t) = true := by
  have since := other.since_eq (ordinary_at ordinary now)
  rw [other.le_iff (ordinary_at ordinary t), Timestamp.remaining, since, elapsed_at ordinary, elapsed_at ordinary]
  omega

/-- A moment that is not past comes when what is left until then is over. -/
theorem at_remaining (ordinary : clock.origin.Ordinary) (other : due.Ordinary) {now : Nat}
    (ahead : due.le (clock.at now) = false) : clock.at (now + due.remaining (clock.at now)) = due := by
  have since := other.since_eq (ordinary_at ordinary now)
  have less := mt (other.le_iff (ordinary_at ordinary now)).mpr (Bool.eq_false_iff.mp ahead)
  refine (ordinary_at ordinary _).eq_of_elapsed other ?_
  rw [elapsed_at ordinary] at since less ⊢
  rw [Timestamp.remaining, since]
  omega

end Clock

end ImageBatch
