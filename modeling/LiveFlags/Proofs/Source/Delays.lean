import LiveFlags.Proofs.Source.Backoff
import Mathlib.Data.List.Induction
import Mathlib.Logic.Function.Basic

/-!
# The law of reconnect delays

A double holds all whole numbers up to `2^53`, and twice a number if it holds that number. As long
as no more milliseconds than these are asked for, nothing of a ceiling is lost to rounding: it is
the initial delay, doubled for each failure in a row and 32 times at most, up to the maximum.

Backoffs are copied, and the copies go their own ways. A `BackoffCall` is a call of one of several
backoffs, which are numbered. Each of them is known from the number of failures in a row
(`pool_eq`), where a copy takes over the number of its original.

Main statement: `lawful_of_run`.
-/

namespace LiveFlags

/-- A call of one of several backoffs. -/
inductive BackoffCall where
  /-- The next delay, with what is drawn for it. -/
  | next (handle draw : Nat)
  | reset (handle : Nat)
  /-- Makes `copy` a clone of the backoff `handle`. -/
  | clone (handle copy : Nat)

namespace BackoffCall

/-- The one backoff that is changed. -/
def target : BackoffCall → Nat
  | next handle _ | reset handle => handle
  | clone _ copy => copy

/-- What becomes of it. -/
def result (pool : Nat → Backoff) : BackoffCall → Backoff
  | next handle draw => ((pool handle).next draw).2
  | reset handle => (pool handle).reset
  | clone handle _ => pool handle

/-- The backoffs after a call. -/
def perform (pool : Nat → Backoff) (call : BackoffCall) : Nat → Backoff :=
  Function.update pool call.target (call.result pool)

/-- How many failures in a row it has then: one more after a delay, none after a reset, and as a
copy as many as the original. -/
def tally (failures : Nat → Nat) : BackoffCall → Nat
  | next handle _ => failures handle + 1
  | reset _ => 0
  | clone handle _ => failures handle

/-- The numbers of failures in a row after a call. -/
def count (failures : Nat → Nat) (call : BackoffCall) : Nat → Nat :=
  Function.update failures call.target (call.tally failures)

end BackoffCall

namespace Backoff

/-- The backoffs after some calls. All of them are fresh at first. -/
def pool (initial max : Duration) (calls : List BackoffCall) : Nat → Backoff :=
  calls.foldl BackoffCall.perform fun _ => new initial max

/-- How many delays each backoff was asked for since it was reset. -/
def failures (calls : List BackoffCall) : Nat → Nat :=
  calls.foldl BackoffCall.count fun _ => 0

/-- What is to be expected of a backoff for these delays, in milliseconds, after this many failures
in a row. -/
structure Obeys (initial max failures : Nat) (b : Backoff) : Prop where
  attempts : b.attempts = min failures (2 ^ 32 - 1)
  ceiling : b.ceiling = .ofMillis (min (initial * 2 ^ min failures 32) max)
  initial_le : initial ≤ b.ceiling.millis
  le_max : b.ceiling.millis ≤ max
  /-- A delay is a whole number of milliseconds from half of the ceiling, rounded down, to all of
  it. -/
  delay : ∀ draw < drawRange, ∃ ms, (b.next draw).1 = .ofMillis ms ∧
    b.ceiling.millis / 2 ≤ ms ∧ ms ≤ b.ceiling.millis

/-! ### Single backoffs -/

theorem millis_le {d : Duration} {ms : Nat} (h : d ≤ .ofMillis ms) : d.millis ≤ ms := by
  simpa using Duration.millis_mono h

/-- The larger of the two delays counts as the maximum. -/
theorem millis_max_new (initial max : Duration) :
    (new initial max).max.millis = Nat.max initial.millis max.millis := by
  simp only [new]
  split
  · next h => exact (Nat.max_eq_right (Duration.millis_mono h)).symm
  · next h => exact (Nat.max_eq_left (Duration.millis_mono (Nat.le_of_not_le h))).symm

/-- **Nothing of a ceiling is lost to rounding** if the delays have no more than `2^53`
milliseconds. -/
theorem ceiling_of_le {b : Backoff} (hinitial : b.initial.millis ≤ 2 ^ 53)
    (hmax : b.max.millis ≤ 2 ^ 53) :
    b.ceiling = .ofMillis (min (b.initial.millis * 2 ^ min b.attempts 32) b.max.millis) := by
  have hmillis : b.ceilingMillis =
      min (b.initial.millis * 2 ^ min b.attempts 32) b.max.millis := by
    rw [ceilingMillis, (isSignificant_of_le hinitial).nearest53_eq,
      (isSignificant_of_le hmax).nearest53_eq, mostDoublings]
  have hmost : b.ceilingMillis ≤ mostMillis :=
    calc b.ceilingMillis ≤ b.max.millis := hmillis ▸ Nat.min_le_right _ _
      _ ≤ 2 ^ 53 := hmax
      _ ≤ mostMillis := by decide
  rw [ceiling, Nat.min_eq_left hmost, hmillis]

/-- A delay is known by its milliseconds. -/
theorem next_eq_ofMillis (b : Backoff) (draw : Nat) :
    (b.next draw).1 = .ofMillis (b.next draw).1.millis := by
  simp [next]

/-- Below 2^53 milliseconds the doubles are exact, and the ceiling obeys the formula. -/
theorem obeys_of_attempts {initial max : Duration} (hinitial : initial ≤ .ofMillis (2 ^ 53))
    (hmax : max ≤ .ofMillis (2 ^ 53)) (failures : Nat) :
    Obeys initial.millis (Nat.max initial.millis max.millis) failures
      { new initial max with attempts := min failures mostAttempts } := by
  generalize hb : { new initial max with attempts := min failures mostAttempts } = b
  have hbmax : b.max.millis = Nat.max initial.millis max.millis := by
    rw [← hb, ← millis_max_new]
  have hceiling : b.ceiling =
      .ofMillis (min (initial.millis * 2 ^ min failures 32)
        (Nat.max initial.millis max.millis)) := by
    have hattempts : min b.attempts 32 = min failures 32 := by
      simp only [← hb, mostAttempts]
      omega
    have hbinitial : b.initial.millis = initial.millis := by rw [← hb, new]
    have hmillis := ceiling_of_le (b := b) (by rw [hbinitial]; exact millis_le hinitial)
      (by rw [hbmax]; exact Nat.max_le.2 ⟨millis_le hinitial, millis_le hmax⟩)
    rw [hmillis, hattempts, hbinitial, hbmax]
  refine ⟨by rw [← hb, mostAttempts], hceiling, ?_, ?_, fun draw hdraw => ?_⟩
  · rw [hceiling, Duration.millis_ofMillis]
    exact Nat.le_min.2 ⟨Nat.le_mul_of_pos_right _ (Nat.two_pow_pos _), Nat.le_max_left _ _⟩
  · rw [hceiling, Duration.millis_ofMillis]
    exact Nat.min_le_right _ _
  · exact ⟨_, b.next_eq_ofMillis draw, b.half_le_next hdraw,
      Duration.millis_mono (b.next_le_ceiling draw)⟩

/-- The ceiling grows with the failures. -/
theorem Obeys.ceiling_le {initial max failures failures' : Nat} {b b' : Backoff}
    (h : Obeys initial max failures b) (h' : Obeys initial max failures' b')
    (hle : failures ≤ failures') : b.ceiling ≤ b'.ceiling := by
  rw [h.ceiling, h'.ceiling]
  refine Duration.ofMillis_le (Nat.le_min.2 ⟨Nat.le_trans (Nat.min_le_left _ _) ?_,
    Nat.min_le_right _ _⟩)
  exact Nat.mul_le_mul_left _ (Nat.pow_le_pow_right (by decide) (by omega))

/-! ### Runs -/

theorem pool_concat (initial max : Duration) (calls : List BackoffCall) (call : BackoffCall) :
    pool initial max (calls ++ [call]) = call.perform (pool initial max calls) := by
  simp [pool]

theorem failures_concat (calls : List BackoffCall) (call : BackoffCall) :
    failures (calls ++ [call]) = call.count (failures calls) := by
  simp [failures]

/-- **A backoff is known from its failures in a row.** -/
theorem pool_eq (initial max : Duration) (calls : List BackoffCall) (handle : Nat) :
    pool initial max calls handle =
      { new initial max with attempts := min (failures calls handle) mostAttempts } := by
  induction calls using List.reverseRecOn generalizing handle with
  | nil => rfl
  | append_singleton calls call ih =>
    rw [pool_concat, failures_concat, BackoffCall.perform, BackoffCall.count]
    by_cases htarget : handle = call.target
    · subst htarget
      rw [Function.update_self, Function.update_self]
      cases call with
      | next handle draw =>
        simp only [BackoffCall.result, BackoffCall.tally, next, ih]
        congr 1
        omega
      | reset handle => simp [BackoffCall.result, BackoffCall.tally, reset, ih]
      | clone handle copy => exact ih handle
    · rw [Function.update_of_ne htarget, Function.update_of_ne htarget]
      exact ih handle

/-- Without a reset, and unless another backoff is copied onto it, a backoff has not less failures
than before. -/
theorem failures_le_append (calls : List BackoffCall) {further : List BackoffCall} {handle : Nat}
    (h : ∀ call ∈ further, call.target = handle → ∃ draw, call = .next handle draw) :
    failures calls handle ≤ failures (calls ++ further) handle := by
  induction further using List.reverseRecOn with
  | nil => simp
  | append_singleton further call ih =>
    refine Nat.le_trans (ih fun c hc => h c (List.mem_append_left _ hc)) ?_
    rw [← List.append_assoc, failures_concat, BackoffCall.count]
    by_cases htarget : call.target = handle
    · obtain ⟨draw, rfl⟩ := h call (by simp) htarget
      simp [BackoffCall.target, BackoffCall.tally]
    · exact Nat.le_of_eq (Function.update_of_ne (Ne.symm htarget) ..).symm

/-- Calls of other backoffs do not change a backoff. -/
theorem pool_append_of_ne (initial max : Duration) (calls : List BackoffCall)
    {further : List BackoffCall} {handle : Nat} (h : ∀ call ∈ further, call.target ≠ handle) :
    pool initial max (calls ++ further) handle = pool initial max calls handle := by
  induction further using List.reverseRecOn with
  | nil => simp
  | append_singleton further call ih =>
    rw [← List.append_assoc, pool_concat, BackoffCall.perform,
      Function.update_of_ne (Ne.symm (h call (by simp)))]
    exact ih fun c hc => h c (List.mem_append_left _ hc)

/-- **The law of reconnect delays.** Let initial and maximal delay have at most `2^53` milliseconds.
After any calls each backoff has the ceiling that its failures in a row ask for, and delays between
half of that and all of it. Between two resets the ceiling never gets lower, a reset brings back the
first ceiling, and whatever is done with other backoffs, copies of this one or not, changes nothing
here. -/
theorem lawful_of_run {initial max : Duration} (hinitial : initial ≤ .ofMillis (2 ^ 53))
    (hmax : max ≤ .ofMillis (2 ^ 53)) (calls : List BackoffCall) (handle : Nat) :
    Obeys initial.millis (Nat.max initial.millis max.millis) (failures calls handle)
        (pool initial max calls handle) ∧
      (∀ further, (∀ call ∈ further, call.target = handle → ∃ draw, call = .next handle draw) →
        (pool initial max calls handle).ceiling ≤
          (pool initial max (calls ++ further) handle).ceiling) ∧
      (pool initial max (calls ++ [.reset handle]) handle).ceiling = (new initial max).ceiling ∧
      ∀ further, (∀ call ∈ further, call.target ≠ handle) →
        pool initial max (calls ++ further) handle = pool initial max calls handle := by
  have hobeys (calls : List BackoffCall) :
      Obeys initial.millis (Nat.max initial.millis max.millis) (failures calls handle)
        (pool initial max calls handle) := by
    rw [pool_eq]
    exact obeys_of_attempts hinitial hmax _
  refine ⟨hobeys calls, fun further h => ?_, ?_, fun further h => ?_⟩
  · exact (hobeys calls).ceiling_le (hobeys _) (failures_le_append calls h)
  · have hfailures : failures (calls ++ [.reset handle]) handle = 0 := by
      rw [failures_concat, BackoffCall.count]
      exact Function.update_self ..
    rw [pool_eq, hfailures]
    rfl
  · exact pool_append_of_ne initial max calls h

/-- One second and at most ten, with a copy that fails on its own after two failures: the original
has a ceiling of four seconds, and the copy one of eight. -/
theorem lawful_copy :
    Duration.ofSeconds 1 ≤ .ofMillis (2 ^ 53) ∧ Duration.ofSeconds 10 ≤ .ofMillis (2 ^ 53) ∧
      Obeys 1000 10000 2 (pool (.ofSeconds 1) (.ofSeconds 10)
        [.next 0 5, .next 0 (2 ^ 52), .clone 0 1, .next 1 0] 0) ∧
      Obeys 1000 10000 3 (pool (.ofSeconds 1) (.ofSeconds 10)
        [.next 0 5, .next 0 (2 ^ 52), .clone 0 1, .next 1 0] 1) := by
  have hinitial : Duration.ofSeconds 1 ≤ .ofMillis (2 ^ 53) := by decide
  have hmax : Duration.ofSeconds 10 ≤ .ofMillis (2 ^ 53) := by decide
  have hlaw := lawful_of_run hinitial hmax
    [.next 0 5, .next 0 (2 ^ 52), .clone 0 1, .next 1 0]
  exact ⟨hinitial, hmax, (hlaw 0).1, (hlaw 1).1⟩

end Backoff

end LiveFlags
