/-!
# Durations

A duration is a whole number of nanoseconds.
-/

namespace LiveFlags

/-- A span of time. -/
structure Duration where
  nanos : Nat
deriving DecidableEq, Repr, Inhabited

namespace Duration

def nanosPerSecond : Nat := 1000000000

def nanosPerMilli : Nat := 1000000

def zero : Duration := ⟨0⟩

def ofSeconds (s : Nat) : Duration := ⟨s * nanosPerSecond⟩

def ofMillis (ms : Nat) : Duration := ⟨ms * nanosPerMilli⟩

def ofParts (seconds nanos : Nat) : Duration := ⟨seconds * nanosPerSecond + nanos⟩

/-- Whole seconds, and the nanoseconds beyond them. -/
def parts (d : Duration) : Nat × Nat :=
  (d.nanos / nanosPerSecond, d.nanos % nanosPerSecond)

/-- Whole milliseconds; a fraction is dropped. -/
def millis (d : Duration) : Nat :=
  d.nanos / nanosPerMilli

/-- Whole milliseconds that cover the duration. -/
def millisUp (d : Duration) : Nat :=
  (d.nanos + (nanosPerMilli - 1)) / nanosPerMilli

instance : LE Duration := ⟨fun a b => a.nanos ≤ b.nanos⟩
instance : LT Duration := ⟨fun a b => a.nanos < b.nanos⟩
instance (a b : Duration) : Decidable (a ≤ b) := inferInstanceAs (Decidable (a.nanos ≤ b.nanos))
instance (a b : Duration) : Decidable (a < b) := inferInstanceAs (Decidable (a.nanos < b.nanos))

end Duration

end LiveFlags
