import LiveFlags.Proofs.Source.Streaming
import Mathlib.Data.List.Chain

/-!
# Waiting before the next subscription

A source that has lost its stream is to wait before it asks for another one, however often it has
failed. The check of the options asks for delays above zero. But they are counted in whole
milliseconds: an initial delay below one millisecond counts as none, and is doubled in vain, and a
delay of one millisecond is below one if anything is drawn for it. So two milliseconds are what it
takes (`le_ceiling` and `half_le_next` from there on, `next_eq_zero` below).

The initial delay is a lower bound of the ceiling as far as it is one of its own double. Above
`2^53` milliseconds it may be rounded down, and no duration is made of more than `2^64 - 1`.

What a source does is `Paced` if there is a delay before each subscription but the first. A `Course`
keeps to that in each turn (`Unhurried.take`), as the turn after a failure leads to a delay of its
backoff, and only the end of a delay leads to a subscription.

Main statement: `unhurried_iff`.
-/

namespace LiveFlags

/-! ### Delays -/

namespace Backoff

/-- The backoff after some failures in a row, with what was drawn for each of them. -/
def afterFailures (b : Backoff) (draws : List Nat) : Backoff :=
  draws.foldl (fun b draw => (b.next draw).2) b

/-- However often it has failed, the ceiling is not below the initial delay in whole milliseconds,
and neither the ceiling nor any delay is zero. -/
def Waits (b : Backoff) : Prop :=
  ∀ draws, b.initial.millis ≤ (b.afterFailures draws).ceiling.millis ∧
    .zero < (b.afterFailures draws).ceiling ∧
    ∀ draw < drawRange, .zero < ((b.afterFailures draws).next draw).1

theorem initial_le_max_new (initial max : Duration) : initial ≤ (new initial max).max := by
  simp only [new]
  split
  · next h => exact h
  · exact Nat.le_refl _

theorem exists_afterFailures (b : Backoff) (draws : List Nat) :
    ∃ attempts, b.afterFailures draws = { b with attempts } := by
  induction draws generalizing b with
  | nil => exact ⟨b.attempts, rfl⟩
  | cons draw draws ih => exact ih (b.next draw).2

theorem pos_of_millis {d : Duration} (h : 0 < d.millis) : .zero < d :=
  Nat.pos_of_ne_zero fun hzero => by simp [Duration.millis, hzero] at h

/-- The ceiling is at least the initial delay as a double. -/
theorem le_ceiling {b : Backoff} (h : b.initial ≤ b.max) :
    min (nearest53 b.initial.millis) mostMillis ≤ b.ceiling.millis := by
  have hmillis : nearest53 b.initial.millis ≤ b.ceilingMillis :=
    Nat.le_min.2 ⟨Nat.le_mul_of_pos_right _ (Nat.two_pow_pos _),
      nearest53_mono (Duration.millis_mono h)⟩
  rw [ceiling, Duration.millis_ofMillis]
  omega

/-- With no failure before, the ceiling is just that. -/
theorem ceiling_of_fresh {b : Backoff} (h : b.initial ≤ b.max) (hfresh : b.attempts = 0) :
    b.ceiling.millis = min (nearest53 b.initial.millis) mostMillis := by
  rw [ceiling, ceilingMillis, hfresh, Nat.zero_min, Nat.pow_zero, Nat.mul_one,
    Nat.min_eq_left (nearest53_mono (Duration.millis_mono h)), Duration.millis_ofMillis]

/-- From an initial delay of two milliseconds on every delay is one. -/
theorem next_pos {b : Backoff} (h : b.initial ≤ b.max) (htwo : 2 ≤ b.initial.millis) :
    .zero < b.ceiling ∧ ∀ draw < drawRange, .zero < (b.next draw).1 := by
  have hrounded : 2 ≤ nearest53 b.initial.millis :=
    (isSignificant_of_le (by decide)).le_nearest53 htwo
  have hmost : 2 ≤ mostMillis := by decide
  have hceiling := le_ceiling h
  refine ⟨pos_of_millis (by omega), fun draw hdraw => pos_of_millis ?_⟩
  have hhalf := b.half_le_next hdraw
  omega

/-- With a shorter initial delay there may be none after the first failure. -/
theorem next_eq_zero {b : Backoff} (h : b.initial ≤ b.max) (hfresh : b.attempts = 0)
    (htwo : b.initial.millis < 2) : (b.next 2).1 = .zero := by
  have hnone : ∀ ms < 2, Duration.ofMillis
      (min (jittered (nearest53 (min (nearest53 ms) mostMillis)) 2) mostMillis) = .zero := by
    decide +kernel
  rw [next, ceiling_of_fresh h hfresh]
  exact hnone _ htwo

/-- **When delays are kept up**: with an initial delay of at least two milliseconds that is not more
than its own double, nor than any duration can have. -/
theorem waits_iff {b : Backoff} (h : b.initial ≤ b.max) (hfresh : b.attempts = 0) :
    b.Waits ↔ 2 ≤ b.initial.millis ∧ b.initial.millis ≤ nearest53 b.initial.millis ∧
      b.initial.millis ≤ mostMillis := by
  constructor
  · intro hwaits
    obtain ⟨hceiling, -, hdelay⟩ := hwaits []
    have hceiling : b.initial.millis ≤ b.ceiling.millis := hceiling
    rw [ceiling_of_fresh h hfresh] at hceiling
    refine ⟨?_, by omega, by omega⟩
    by_contra htwo
    have hzero := next_eq_zero h hfresh (Nat.lt_of_not_le htwo)
    have hpos : .zero < (b.next 2).1 := hdelay 2 (by decide)
    rw [hzero] at hpos
    exact Nat.lt_irrefl _ hpos
  · rintro ⟨htwo, hdouble, hmost⟩ draws
    obtain ⟨attempts, heq⟩ := b.exists_afterFailures draws
    rw [heq]
    refine ⟨?_, next_pos (b := { b with attempts }) h htwo⟩
    have hceiling := le_ceiling (b := { b with attempts }) h
    simp only at hceiling
    omega

end Backoff

/-! ### Sources -/

/-- A subscription that comes right after another act comes after a delay. -/
def Act.Leads (before after : Act) : Prop :=
  after = .subscribe → ∃ delay, before = .wait delay ∧ .zero < delay

/-- There is a delay right before each subscription but the very first act. -/
def Paced (acts : List Act) : Prop :=
  acts.IsChain Act.Leads

theorem paced_of_notMem {acts : List Act} (h : .subscribe ∉ acts) : Paced acts := by
  induction acts with
  | nil => exact .nil
  | cons act acts ih =>
    rw [List.mem_cons, not_or] at h
    refine List.isChain_cons.2 ⟨fun next hnext hsubscribe => ?_, ih h.2⟩
    exact absurd (hsubscribe ▸ List.mem_of_mem_head? hnext) h.2

/-- A turn that does not wait for a stream does not ask for one. -/
theorem Turn.subscribe_notMem_acts {t : Turn} (h : t.await ≠ .subscription) :
    .subscribe ∉ t.acts := by
  have hawait : .subscribe ∉ t.await.acts := by
    cases hawait : t.await with
    | subscription => exact absurd hawait h
    | timer | fetch | event | nothing => simp [Await.acts]
  have houtcome : .subscribe ∉ (t.outcome.map Act.resolve).toList := by
    cases t.outcome <;> simp
  simp [Turn.acts, hawait, houtcome]

theorem Subscription.elapsed_notMem_arrivals (s : Subscription) :
    .elapsed ∉ s.arrivals := by
  cases s with
  | refused error => simp [Subscription.arrivals]
  | opened events =>
    have hevent (e : Occurrence) : .elapsed ∉ e.arrivals := by
      cases e <;> simp [Occurrence.arrivals]
    simp [Subscription.arrivals, hevent]

namespace Streaming

/-- Only the end of a delay leads to a subscription, and the delays are those of the backoff. -/
theorem follow_paces (s : Streaming) {arrival : Arrival} (h : arrival ≠ .elapsed) (draw : Nat) :
    (∃ attempts, (s.follow arrival draw).2.backoff = { s.backoff with attempts }) ∧
      (s.follow arrival draw).1.await ≠ .subscription ∧
      ∀ delay, (s.follow arrival draw).1.await = .timer delay →
        delay = (s.backoff.next draw).1 := by
  have hfailure (error : SourceError) :
      (∃ attempts, (s.onFailure error draw).2.backoff = { s.backoff with attempts }) ∧
        (s.onFailure error draw).1.await ≠ .subscription ∧
        ∀ delay, (s.onFailure error draw).1.await = .timer delay →
          delay = (s.backoff.next draw).1 := by
    rw [onFailure]
    split
    · exact ⟨⟨_, rfl⟩, by simp, by simp⟩
    · exact ⟨⟨_, rfl⟩, by simp [Turn.stop], by simp [Turn.stop]⟩
  have hsuccess {t : Turn} (hawait : t.await = .event ∨ t.await = .fetch) :
      t.await ≠ .subscription ∧ ∀ delay, t.await = .timer delay →
        delay = (s.backoff.next draw).1 := by
    rcases hawait with hawait | hawait <;> simp [hawait]
  -- Every arrival is a success or a failure.
  cases arrival with
  | elapsed => exact absurd rfl h
  | ended => exact hfailure _
  | subscribed answer =>
    cases answer with
    | ok => exact ⟨⟨_, rfl⟩, hsuccess (.inl rfl)⟩
    | error error => exact hfailure error
  | fetched answer =>
    cases answer with
    | ok snapshot => exact ⟨⟨_, rfl⟩, hsuccess (.inl rfl)⟩
    | error error => exact hfailure error
  | event event =>
    cases event with
    | error error => exact hfailure error
    | ok event =>
      cases event with
      | ping => exact ⟨⟨_, rfl⟩, hsuccess (.inr rfl)⟩
      | put | patch | delete => exact ⟨⟨_, rfl⟩, hsuccess (.inl rfl)⟩

namespace Course

/-- The source has not asked for a stream without a delay, and goes by these delays. -/
structure Unhurried (fresh : Backoff) (c : Course) : Prop where
  backoff : ∃ attempts, c.source.backoff = { fresh with attempts }
  draws : ∀ i, c.draws i < Backoff.drawRange
  /-- A stream does not tell of the end of a delay. -/
  incoming : .elapsed ∉ c.incoming
  paced : Paced c.acts
  /-- Who waits has just begun to. -/
  waited : ∀ delay, c.await = .timer delay →
    c.acts.getLast? = some (.wait delay) ∧ .zero < delay

/-- The end of a delay comes to those who wait for it. -/
theorem next?_cases {c : Course} {next : Arrival × List Arrival × List Subscription}
    (h : c.next? = some next) (hincoming : .elapsed ∉ c.incoming) : .elapsed ∉ next.2.1 ∧
      ((∃ delay, c.await = .timer delay) ∧ next.1 = .elapsed ∨ next.1 ≠ .elapsed) := by
  unfold next? at h
  split at h
  · next delay hawait =>
    cases h
    exact ⟨by simp, .inl ⟨⟨delay, hawait⟩, rfl⟩⟩
  · split at h
    · next s rest _ =>
      cases h
      exact ⟨s.elapsed_notMem_arrivals, .inr (by simp)⟩
    · cases h
  · split at h
    · next arrival rest heq =>
      cases h
      rw [heq, List.mem_cons, not_or] at hincoming
      exact ⟨hincoming.2, .inr (Ne.symm hincoming.1)⟩
    · cases h
  · split at h
    · next arrival rest heq =>
      cases h
      rw [heq, List.mem_cons, not_or] at hincoming
      exact ⟨hincoming.2, .inr (Ne.symm hincoming.1)⟩
    · cases h
  · cases h

/-- **Nobody hurries in a turn.** -/
theorem Unhurried.take {fresh : Backoff} (hle : fresh.initial ≤ fresh.max)
    (htwo : 2 ≤ fresh.initial.millis) {c : Course} (h : c.Unhurried fresh)
    {next : Arrival × List Arrival × List Subscription} (hnext : c.next? = some next) :
    (c.take next).Unhurried fresh := by
  obtain ⟨attempts, hbackoff⟩ := h.backoff
  obtain ⟨hincoming, ⟨⟨delay, hawait⟩, helapsed⟩ | hne⟩ := next?_cases hnext h.incoming
  · -- The delay is over, and the source asks for the next stream.
    obtain ⟨hlast, hpos⟩ := h.waited delay hawait
    have hfollow : c.source.follow next.1 (c.draws 0) = (start, c.source) := by
      rw [helapsed]
      rfl
    refine ⟨⟨attempts, ?_⟩, fun i => h.draws (i + 1), hincoming, ?_, ?_⟩
    · simp only [Course.take, hfollow, hbackoff]
    · simp only [Course.take, hfollow]
      refine List.isChain_append.2 ⟨h.paced, .singleton _, ?_⟩
      intro act hact act' _ _
      cases Option.some.inj (hlast.symm.trans hact)
      exact ⟨delay, rfl, hpos⟩
    · simp only [Course.take, hfollow]
      simp [start]
  · obtain ⟨⟨attempts', hbackoff'⟩, hawait, hdelay⟩ := c.source.follow_paces hne (c.draws 0)
    refine ⟨⟨attempts', by simp only [Course.take, hbackoff', hbackoff]⟩,
      fun i => h.draws (i + 1), hincoming, ?_, ?_⟩
    · refine List.isChain_append.2 ⟨h.paced,
        paced_of_notMem (Turn.subscribe_notMem_acts hawait), ?_⟩
      rintro act - act' hact' rfl
      exact absurd (List.mem_of_mem_head? hact') (Turn.subscribe_notMem_acts hawait)
    · intro delay htimer
      have htimer : (c.source.follow next.1 (c.draws 0)).1.await = .timer delay := htimer
      refine ⟨?_, ?_⟩
      · simp [Course.take, Turn.acts, htimer, Await.acts]
      · rw [hdelay delay htimer, hbackoff]
        exact (Backoff.next_pos (b := { fresh with attempts }) hle htwo).2 _ (h.draws 0)

/-- No turn makes a source hurry. -/
theorem Unhurried.of_reaches {fresh : Backoff} (hle : fresh.initial ≤ fresh.max)
    (htwo : 2 ≤ fresh.initial.millis) {c c' : Course} (h : c.Unhurried fresh)
    (hreaches : c.Reaches c') : c'.Unhurried fresh := by
  induction hreaches with
  | refl => exact h
  | tail _ hstep ih =>
    obtain ⟨next, hnext, rfl⟩ := Option.map_eq_some_iff.1 hstep
    exact ih.take hle htwo hnext

end Course

/-- Whatever the service does and whatever is drawn, the source waits before each subscription but
the first. -/
def IsPaced (s : Streaming) : Prop :=
  ∀ subscriptions draws, (∀ i, draws i < Backoff.drawRange) →
    ∀ c, (s.begin subscriptions draws).Reaches c → Paced c.acts

/-- With delays of two milliseconds or more there is a pause before every subscription but the
first. -/
theorem isPaced_of_le {s : Streaming} (hle : s.backoff.initial ≤ s.backoff.max)
    (htwo : 2 ≤ s.backoff.initial.millis) : s.IsPaced := by
  intro subscriptions draws hdraws c hreaches
  have hbegin : (s.begin subscriptions draws).Unhurried s.backoff :=
    ⟨⟨_, rfl⟩, hdraws, List.not_mem_nil, .singleton _, by simp [begin, start]⟩
  exact (hbegin.of_reaches hle htwo hreaches).paced

/-- With a shorter initial delay a source that is refused may ask again at once. -/
theorem not_isPaced_of_lt {s : Streaming} (hle : s.backoff.initial ≤ s.backoff.max)
    (hfresh : s.backoff.attempts = 0) (htwo : s.backoff.initial.millis < 2) : ¬ s.IsPaced := by
  intro hpaced
  let error : SourceError := ⟨.network, none, "refused"⟩
  let c := (s.begin [.refused error] fun _ => 2).take
    (.subscribed (.error error), [], [])
  have hreaches : (s.begin [.refused error] fun _ => 2).Reaches (c.take (.elapsed, [], [])) :=
    (Course.Reaches.of_next? rfl).trans (Course.Reaches.of_next? rfl)
  have hacts : (c.take (.elapsed, [], [])).acts =
      [.subscribe, .deliver (.interrupted error), .wait (s.backoff.next 2).1, .subscribe] := rfl
  have hchain := hpaced _ _ (fun _ => by decide) _ hreaches
  rw [hacts, Backoff.next_eq_zero hle hfresh htwo] at hchain
  simp only [Paced, List.isChain_cons_cons] at hchain
  obtain ⟨delay, heq, hpos⟩ := hchain.2.2.1 rfl
  cases heq
  exact Nat.lt_irrefl _ hpos

end Streaming

/-! ### Options -/

/-- **When nobody hurries.** Whatever the options are, the reconnect delays that they ask for are
kept up exactly from two milliseconds on, as long as the initial delay is not more than its own
double, nor than any duration can have. A source that follows a stream waits before each
subscription but the first exactly from two milliseconds on. -/
theorem unhurried_iff (o : Options) :
    ((Backoff.new o.initialReconnectDelay o.maxReconnectDelay).Waits ↔
      2 ≤ o.initialReconnectDelay.millis ∧
        o.initialReconnectDelay.millis ≤ nearest53 o.initialReconnectDelay.millis ∧
        o.initialReconnectDelay.millis ≤ Backoff.mostMillis) ∧
    ∀ context, (Streaming.ofOptions o context).IsPaced ↔ 2 ≤ o.initialReconnectDelay.millis := by
  have hle := Backoff.initial_le_max_new o.initialReconnectDelay o.maxReconnectDelay
  refine ⟨Backoff.waits_iff hle rfl, fun context => ⟨fun hpaced => ?_, fun htwo => ?_⟩⟩
  · by_contra htwo
    exact Streaming.not_isPaced_of_lt hle rfl (Nat.lt_of_not_le htwo) hpaced
  · exact Streaming.isPaced_of_le hle htwo

/-- Options with a reconnect delay that stays the same. -/
def Options.steady (delay : Duration) : Options :=
  { mobileKey := "mob", initialReconnectDelay := delay, maxReconnectDelay := delay }

/-- Any delay but none passes the check. -/
theorem Options.check_steady {delay : Duration} (h : delay ≠ .zero) :
    (steady delay).check = .ok () := by
  have hok {outcome : Except OptionsFault Unit} (h : outcome.toOption = some ()) :
      outcome = .ok () := by
    cases outcome with
    | error fault => cases h
    | ok => rfl
  have hbase : checkUrl .base "https://clientsdk.flagsync.dev" = .ok () :=
    hok (by decide +kernel)
  have hstream : checkUrl .stream "https://clientstream.flagsync.dev" = .ok () :=
    hok (by decide +kernel)
  have hpolling : ¬ Duration.ofSeconds 300 < minPollingInterval := by decide
  have hbackground : ¬ Duration.ofSeconds 3600 < .ofSeconds 300 := by decide
  have hdelays : ¬ (delay = .zero ∨ delay < delay) := not_or.2 ⟨h, Nat.lt_irrefl _⟩
  have htimeout : Duration.ofSeconds 10 ≠ .zero := by decide
  simp only [check, steady, hbase, hstream, hpolling, hbackground, hdelays, htimeout, if_false]
  rfl

/-- A delay of one nanosecond passes the check, and no delay is ever made of it. One millisecond
passes as well, and there may be none. With one millisecond more than `2^53` the ceiling is below
the initial delay. -/
theorem steady_hurried :
    ((Options.steady ⟨1⟩).check = .ok () ∧ (Backoff.new ⟨1⟩ ⟨1⟩).ceiling = .zero ∧
      ∀ context, ¬ (Streaming.ofOptions (.steady ⟨1⟩) context).IsPaced) ∧
    ((Options.steady (.ofMillis 1)).check = .ok () ∧
      ∀ context, ¬ (Streaming.ofOptions (.steady (.ofMillis 1)) context).IsPaced) ∧
    (Options.steady (.ofMillis (2 ^ 53 + 1))).check = .ok () ∧
      (Backoff.new (.ofMillis (2 ^ 53 + 1)) (.ofMillis (2 ^ 53 + 1))).ceiling <
        .ofMillis (2 ^ 53 + 1) := by
  have hpaced (delay : Duration) (h : delay.millis < 2) (context : SourceContext) :
      ¬ (Streaming.ofOptions (.steady delay) context).IsPaced :=
    Streaming.not_isPaced_of_lt (Backoff.initial_le_max_new _ _) rfl h
  refine ⟨⟨Options.check_steady (by decide), by decide +kernel, hpaced _ (by decide +kernel)⟩,
    ⟨Options.check_steady (by decide +kernel), hpaced _ (by decide +kernel)⟩,
    Options.check_steady (by decide +kernel), by decide +kernel⟩

end LiveFlags
