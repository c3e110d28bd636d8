import LiveFlags.Duration
import LiveFlags.Number.Binary64

/-!
# Reconnect delays

After each failure in a row the ceiling of the delay doubles, from the initial delay up to the
maximum; the delay itself lies between half the ceiling and the ceiling, so that many clients that
lose the same server do not come back at once. All of this is counted in milliseconds held as
doubles: a duration is rounded to 53 significant bits, and doubling a number does not round again.
A random number between 0 and 1 is a `draw`, counted in parts of `2^-53`.
-/

namespace LiveFlags

/-- The state of the reconnect delays of one source. -/
structure Backoff where
  initial : Duration
  max : Duration
  attempts : Nat := 0
deriving DecidableEq, Repr, Inhabited

namespace Backoff

/-- The number of doublings after which the ceiling stays as it is. -/
def mostDoublings : Nat := 32

/-- The largest count of attempts. -/
def mostAttempts : Nat := 2 ^ 32 - 1

/-- The largest number of milliseconds that a duration is made from. -/
def mostMillis : Nat := 2 ^ 64 - 1

/-- Fresh delays; a maximum below the initial delay is raised to it. -/
def new (initial max : Duration) : Backoff :=
  { initial, max := if initial ≤ max then max else initial }

/-- The longest delay before the next attempt, in milliseconds as a double. -/
def ceilingMillis (b : Backoff) : Nat :=
  min (nearest53 b.initial.millis * 2 ^ min b.attempts mostDoublings) (nearest53 b.max.millis)

/-- The longest delay before the next attempt. -/
def ceiling (b : Backoff) : Duration :=
  .ofMillis (min b.ceilingMillis mostMillis)

/-- Draws are below this number. -/
def drawRange : Nat := 2 ^ 53

/-- A ceiling less half of the drawn part of it, cut to whole milliseconds. Product and difference
are rounded to 53 significant bits. -/
def jittered (ceiling draw : Nat) : Nat :=
  nearest53 (2 * drawRange * ceiling - nearest53 (draw * ceiling)) / (2 * drawRange)

/-- The delay before the next attempt, which counts the attempt. -/
def next (b : Backoff) (draw : Nat) : Duration × Backoff :=
  let ceiling := nearest53 b.ceiling.millis
  (.ofMillis (min (jittered ceiling draw) mostMillis),
    { b with attempts := min (b.attempts + 1) mostAttempts })

/-- The delays that may come next: from half of the ceiling, in whole milliseconds, up to all of
it. -/
def admits (b : Backoff) (delay : Duration) : Bool :=
  b.ceiling.millis / 2 ≤ delay.millis && delay ≤ b.ceiling

/-- Forgets the failures. -/
def reset (b : Backoff) : Backoff :=
  { b with attempts := 0 }

end Backoff

end LiveFlags
