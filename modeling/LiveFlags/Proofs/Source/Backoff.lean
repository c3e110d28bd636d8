import LiveFlags.Proofs.Number.Nearest
import LiveFlags.Source.Backoff

/-!
# Bounds of reconnect delays

A delay is computed with doubles, and rounded twice on the way. It stays below the ceiling
nevertheless, and above half of it, since the ceiling is a significant number, or the largest number
of milliseconds that there is. The count of failures enters the ceiling only as far as the ceiling
still grows.

Main statements: `next_le_ceiling` and `half_le_next`.
-/

namespace LiveFlags

@[simp]
theorem Duration.millis_ofMillis (ms : Nat) : (Duration.ofMillis ms).millis = ms :=
  Nat.mul_div_cancel ms (by decide)

/-- Parts of a millisecond are dropped, so longer durations have no fewer of them. -/
theorem Duration.millis_mono {a b : Duration} (h : a ≤ b) : a.millis ≤ b.millis :=
  Nat.div_le_div_right h

theorem Duration.ofMillis_le {a b : Nat} (h : a ≤ b) : Duration.ofMillis a ≤ .ofMillis b :=
  Nat.mul_le_mul_right _ h

namespace Backoff

/-- The ceiling after this many failures in a row. -/
def ceilingAfter (b : Backoff) (failures : Nat) : Duration :=
  { b with attempts := failures }.ceiling

/-- A ceiling was rounded, and has no more digits than a double holds. -/
theorem isSignificant_ceilingMillis (b : Backoff) : IsSignificant b.ceilingMillis :=
  ((isSignificant_nearest53 _).mul_two_pow _).min (isSignificant_nearest53 _)

/-- Whatever is drawn, a significant ceiling is kept. -/
theorem jittered_le {ceiling : Nat} (h : IsSignificant ceiling) (draw : Nat) :
    jittered ceiling draw ≤ ceiling := by
  have hrange : 2 * drawRange * ceiling = ceiling * 2 ^ 54 := by
    rw [Nat.mul_comm]
    rfl
  have hle : nearest53 (2 * drawRange * ceiling - nearest53 (draw * ceiling)) ≤
      2 * drawRange * ceiling := by
    refine IsSignificant.nearest53_le ?_ (Nat.sub_le _ _)
    rw [hrange]
    exact h.mul_two_pow 54
  calc jittered ceiling draw ≤ 2 * drawRange * ceiling / (2 * drawRange) :=
      Nat.div_le_div_right hle
    _ = ceiling := Nat.mul_div_cancel_left ceiling (by decide)

/-- Whatever is drawn, at least half of a significant ceiling is kept. -/
theorem half_le_jittered {ceiling draw : Nat} (h : IsSignificant ceiling)
    (hdraw : draw < drawRange) : ceiling / 2 ≤ jittered ceiling draw := by
  have hdrawn : nearest53 (draw * ceiling) ≤ ceiling * 2 ^ 53 := by
    refine (h.mul_two_pow 53).nearest53_le ?_
    rw [Nat.mul_comm]
    exact Nat.mul_le_mul_left _ (Nat.le_of_lt hdraw)
  have hleft : ceiling * 2 ^ 53 ≤
      nearest53 (2 * drawRange * ceiling - nearest53 (draw * ceiling)) := by
    refine (h.mul_two_pow 53).le_nearest53 ?_
    simp only [drawRange]
    omega
  calc ceiling / 2 = ceiling * 2 ^ 53 / (2 * drawRange) :=
      (Nat.mul_div_mul_right ceiling 2 (Nat.two_pow_pos 53)).symm
    _ ≤ jittered ceiling draw := Nat.div_le_div_right hleft

/-- **No delay is longer than its ceiling.** -/
theorem next_le_ceiling (b : Backoff) (draw : Nat) : (b.next draw).1 ≤ b.ceiling := by
  refine Duration.ofMillis_le ?_
  simp only [ceiling, Duration.millis_ofMillis]
  rcases Nat.le_total b.ceilingMillis mostMillis with h | h
  · rw [Nat.min_eq_left h, b.isSignificant_ceilingMillis.nearest53_eq]
    exact Nat.le_trans (Nat.min_le_left _ _) (jittered_le b.isSignificant_ceilingMillis draw)
  · rw [Nat.min_eq_right h]
    exact Nat.min_le_right _ _

/-- **No delay is shorter than half of its ceiling.** -/
theorem half_le_next (b : Backoff) {draw : Nat} (hdraw : draw < drawRange) :
    b.ceiling.millis / 2 ≤ (b.next draw).1.millis := by
  simp only [next, ceiling, Duration.millis_ofMillis]
  rcases Nat.le_total b.ceilingMillis mostMillis with h | h
  · rw [Nat.min_eq_left h, b.isSignificant_ceilingMillis.nearest53_eq]
    refine Nat.le_min.2 ⟨half_le_jittered b.isSignificant_ceilingMillis hdraw, ?_⟩
    exact Nat.le_trans (Nat.div_le_self _ _) h
  · -- The largest number of milliseconds is rounded up.
    rw [Nat.min_eq_right h]
    have hrounded : mostMillis ≤ nearest53 mostMillis := by decide +kernel
    have hhalf := half_le_jittered (isSignificant_nearest53 mostMillis) hdraw
    exact Nat.le_min.2 ⟨Nat.le_trans (Nat.div_le_div_right hrounded) hhalf,
      Nat.div_le_self _ _⟩

/-- The delays have counted this many failures since they were fresh, or since the last reset, as
far as the ceiling can tell. -/
structure Counts (fresh : Backoff) (failures : Nat) (b : Backoff) : Prop where
  initial : b.initial = fresh.initial
  max : b.max = fresh.max
  attempts : min b.attempts mostDoublings = min failures mostDoublings

/-- The ceiling depends on the failures in a row alone. -/
theorem Counts.ceiling_eq {fresh b : Backoff} {failures : Nat} (h : fresh.Counts failures b) :
    b.ceiling = fresh.ceilingAfter failures := by
  simp only [ceilingAfter, ceiling, ceilingMillis, h.initial, h.max, h.attempts]

theorem Counts.next {fresh b : Backoff} {failures : Nat} (h : fresh.Counts failures b)
    (draw : Nat) : fresh.Counts (failures + 1) (b.next draw).2 where
  initial := h.initial
  max := h.max
  attempts := by
    -- The count stops far beyond the last doubling.
    have hattempts := h.attempts
    have hmost : mostDoublings ≤ mostAttempts := by decide
    simp only [Backoff.next]
    omega

theorem Counts.reset {fresh b : Backoff} {failures : Nat} (h : fresh.Counts failures b) :
    fresh.Counts 0 b.reset :=
  ⟨h.initial, h.max, rfl⟩

end Backoff

end LiveFlags
