/-!
Time: lengths of time, instants of a running process, and moments of the calendar.

Durations and instants are natural numbers of nanoseconds; an instant counts from the start of the process's
clock. A `Timestamp` is a moment in UTC. Its nanoseconds reach two seconds, because a leap second is the
second second of its predecessor.
-/

namespace ImageBatch

namespace Duration

/-- Nanoseconds in seconds. -/
def ofSeconds (n : Nat) : Nat := n * 1000000000

/-- Nanoseconds in milliseconds. -/
def ofMillis (n : Nat) : Nat := n * 1000000

/-- Whole milliseconds. -/
def toMillis (d : Nat) : Nat := d / 1000000

/-- The longest duration that can be added to a timestamp. -/
def maxSpan : Nat := ofMillis 0x7fffffffffffffff

end Duration

namespace Instant

/-- The first whole millisecond at or after an instant: timers tick in milliseconds. -/
def nextTick (t : Nat) : Nat := (t + 999999) / 1000000 * 1000000

/-- The instants that a clock can name end here. -/
def limit : Nat := Duration.ofSeconds 0x8000000000000000

/-- The longest wait, thirty years; a wait for more ends there too. -/
def longestWait : Nat := Duration.ofSeconds (30 * 365 * 86400)

/-- The instant after a wait. -/
def afterWait (now length : Nat) : Nat := nextTick (now + min length longestWait)

theorem le_nextTick (t : Nat) : t ≤ nextTick t := by unfold nextTick; omega

theorem nextTick_mono {t u : Nat} (le : t ≤ u) : nextTick t ≤ nextTick u := by unfold nextTick; omega

/-- A whole millisecond is its own tick. -/
theorem nextTick_ofMillis (n : Nat) : nextTick (Duration.ofMillis n) = Duration.ofMillis n := by
  unfold nextTick Duration.ofMillis; omega

end Instant

/-- A moment in UTC: seconds since 1970, and nanoseconds after that second. -/
structure Timestamp where
  seconds : Int
  nanos : Nat
deriving DecidableEq, Repr

/-- A moment past the last one that the calendar has, or an instant past the last one of the clock. -/
inductive TimeError where
  | overflow
deriving DecidableEq, Repr

namespace Timestamp

/-- The first second of the calendar, in the year -262143. -/
def firstSecond : Int := -8334601228800

/-- The last second of the calendar, in the year 262142. -/
def lastSecond : Int := 8210266876799

def inRange (t : Timestamp) : Bool := firstSecond ≤ t.seconds && t.seconds ≤ lastSecond

/-- Not later than. -/
def le (a b : Timestamp) : Bool := a.seconds < b.seconds || (a.seconds == b.seconds && a.nanos ≤ b.nanos)

/-- The moment `d` later. A leap second is left as soon as its second is over. -/
def plus (t : Timestamp) (d : Nat) : Timestamp :=
  let seconds := d / 1000000000
  let nanos := t.nanos + d % 1000000000
  if 1000000000 ≤ t.nanos then
    if seconds = 0 ∧ nanos < 2000000000 then ⟨t.seconds, nanos⟩
    else
      let nanos := nanos - 1000000000
      ⟨t.seconds + seconds + (nanos / 1000000000 : Nat), nanos % 1000000000⟩
  else ⟨t.seconds + seconds + (nanos / 1000000000 : Nat), nanos % 1000000000⟩

/-- The moment `d` later, if the calendar has it. -/
def add (t : Timestamp) (d : Nat) : Except TimeError Timestamp :=
  let later := t.plus d
  if later.inRange then .ok later else .error .overflow

/-- The second of the day. -/
def secondOfDay (t : Timestamp) : Int := t.seconds % 86400

/-- Nanoseconds from `earlier` to `t`. A leap second counts once the clock time is past it. -/
def since (t earlier : Timestamp) : Int :=
  let leap : Int :=
    if earlier.secondOfDay < t.secondOfDay then if 1000000000 ≤ earlier.nanos then 1 else 0
    else if t.secondOfDay < earlier.secondOfDay then if 1000000000 ≤ t.nanos then -1 else 0
    else 0
  (t.seconds - earlier.seconds + leap) * 1000000000 + (t.nanos - earlier.nanos : Int)

/-- The time left at `now` until `t`, or none. -/
def remaining (t now : Timestamp) : Nat := (t.since now).toNat

end Timestamp

/-- A clock that was started at a moment. -/
structure Clock where
  origin : Timestamp
deriving DecidableEq, Repr

/-- The moment at an instant of the clock. -/
def Clock.at (clock : Clock) (t : Nat) : Timestamp := clock.origin.plus t

end ImageBatch
