import LiveFlags.Proofs.Source.Backoff
import LiveFlags.Proofs.Source.Worker

/-!
# What a streaming source does

A service is described by its answers to the subscriptions of a source: each is refused, or opens a
stream that brings some events and ends. A `Course` is a source at work together with the answers to
come, and takes one turn after the other until it has stopped or asks for an answer that there is
none to any more.

`Performs` says what may be seen of all that. It follows the answers one by one: what was heard of
the stream, up to the first failure, and then a delay or the end.
-/

namespace LiveFlags

/-! ### What a service does -/

/-- An event of a stream. That of a `ping` comes with the answer to the fetch that it leads to. -/
inductive Occurrence where
  | put (snapshot : Snapshot)
  | patch (item : Item)
  | delete (key : String) (version : Nat)
  | ping (answer : Except SourceError Snapshot)
  | failure (error : SourceError)

/-- The answer to a subscription. -/
inductive Subscription where
  | refused (error : SourceError)
  /-- A stream that brings these events and ends. -/
  | opened (events : List Occurrence)

namespace Occurrence

/-- What comes to the worker that reads the stream. -/
def arrivals : Occurrence → List Arrival
  | put snapshot => [.event (.ok (.put snapshot))]
  | patch item => [.event (.ok (.patch item))]
  | delete key version => [.event (.ok (.delete key version))]
  | ping answer => [.event (.ok .ping), .fetched answer]
  | failure error => [.event (.error error)]

/-- Why the worker leaves the stream. -/
def error? : Occurrence → Option SourceError
  | ping (.error error) => some error
  | failure error => some error
  | _ => none

def isPut : Occurrence → Bool
  | put _ => true
  | _ => false

end Occurrence

namespace Subscription

def answer : Subscription → Except SourceError Unit
  | refused error => .error error
  | opened _ => .ok ()

/-- What the stream brings. -/
def arrivals : Subscription → List Arrival
  | refused _ => []
  | opened events => events.flatMap Occurrence.arrivals ++ [.ended]

/-- The events up to the first one that fails. -/
def upToFailure : List Occurrence → List Occurrence
  | [] => []
  | e :: events => if e.error?.isSome then [e] else e :: upToFailure events

/-- The events that a source hears of. -/
def heard : Subscription → List Occurrence
  | refused _ => []
  | opened events => upToFailure events

/-- The end of a stream of which nothing has failed. -/
def closedByServer : SourceError :=
  .network "stream closed by server"

/-- Why it is over: the stream was refused, it failed, or it has ended. -/
def failure : Subscription → SourceError
  | refused error => error
  | opened events => (events.findSome? Occurrence.error?).getD closedByServer

/-- The failures in a row before this one, if there were `failures` before the subscription. A `put`
ends the row. -/
def failuresBefore (s : Subscription) (failures : Nat) : Nat :=
  if s.heard.any Occurrence.isPut then 0 else failures

end Subscription

/-! ### What a source is to do about it -/

/-- The whole set of flags is delivered, and the start of the source has succeeded. -/
def fullDelivery (identity : Identity) (snapshot : Snapshot) : List Act :=
  [.deliver (.snapshot identity snapshot), .deliver .valid, .resolve true]

def Occurrence.acts (identity : Identity) : Occurrence → List Act
  | put snapshot => fullDelivery identity snapshot
  | patch item => [.deliver (.item identity item)]
  | delete key version => [.deliver (.item identity (.tombstone key version))]
  | ping (.ok snapshot) => .fetch :: fullDelivery identity snapshot
  | ping (.error _) => [.fetch]
  | failure _ => []

def Subscription.acts (identity : Identity) (s : Subscription) : List Act :=
  s.heard.flatMap (Occurrence.acts identity)

/-- What is seen of a source that asks for streams and gets these answers, with `failures` in a row
before that. -/
inductive Performs (identity : Identity) (backoff : Backoff) :
    Nat → List Subscription → List Act → Prop
  /-- Nobody answers any more. -/
  | waits (failures : Nat) : Performs identity backoff failures [] [.subscribe]
  /-- A failure that may pass is reported, and after a delay the source asks again. -/
  | again {failures : Nat} {s : Subscription} {rest : List Subscription} {delay : Duration}
    {acts : List Act} (recoverable : s.failure.isRecoverable = true)
    (bounded : delay ≤ backoff.ceilingAfter (s.failuresBefore failures))
    (next : Performs identity backoff (s.failuresBefore failures + 1) rest acts) :
    Performs identity backoff failures (s :: rest) (.subscribe :: s.acts identity ++
      [.deliver (.interrupted s.failure), .wait delay] ++ acts)
  /-- Any other failure is the last thing that is heard of the source. -/
  | stops {failures : Nat} {s : Subscription} {rest : List Subscription}
    (fatal : s.failure.isRecoverable = false) :
    Performs identity backoff failures (s :: rest) (.subscribe :: s.acts identity ++
      [.deliver (.failure s.failure), .resolve false])

/-! ### Streams event by event -/

/-- An event that cannot be used is no `put`. -/
theorem Occurrence.not_isPut_of_error? {e : Occurrence} {error : SourceError}
    (h : e.error? = some error) : e.isPut = false := by
  cases e with
  | put snapshot => cases h
  | patch | delete | ping | failure => rfl

namespace Subscription

variable {e : Occurrence} {events : List Occurrence}

section Goes

variable (he : e.error? = none)
include he

theorem heard_cons : (opened (e :: events)).heard = e :: (opened events).heard := by
  simp [heard, upToFailure, he]

/-- A `put` that is heard of first ends the row of failures before the rest of the stream. -/
theorem failuresBefore_cons (failures : Nat) : (opened (e :: events)).failuresBefore failures =
    (opened events).failuresBefore (if e.isPut then 0 else failures) := by
  simp only [failuresBefore, heard_cons he, List.any_cons]
  cases e.isPut <;> simp

theorem failure_cons : (opened (e :: events)).failure = (opened events).failure := by
  simp [failure, he]

theorem acts_cons (identity : Identity) :
    (opened (e :: events)).acts identity = e.acts identity ++ (opened events).acts identity := by
  simp only [acts, heard_cons he, List.flatMap_cons]

end Goes

section Fails

variable {error : SourceError} (he : e.error? = some error)
include he

/-- What comes after a failure is never heard of. -/
theorem heard_of_error? : (opened (e :: events)).heard = [e] := by
  simp [heard, upToFailure, he]

/-- An error ends the subscription: what comes after it does not count. -/
theorem failuresBefore_of_error? (failures : Nat) :
    (opened (e :: events)).failuresBefore failures = failures := by
  simp [failuresBefore, heard_of_error? he, Occurrence.not_isPut_of_error? he]

theorem failure_of_error? : (opened (e :: events)).failure = error := by
  simp [failure, he]

theorem acts_of_error? (identity : Identity) :
    (opened (e :: events)).acts identity = e.acts identity := by
  simp [acts, heard_of_error? he]

end Fails

end Subscription

/-! ### A source at work -/

namespace Streaming

/-- A source at work, and what is to come. -/
structure Course where
  source : Streaming
  await : Await
  /-- What the open stream brings. -/
  incoming : List Arrival := []
  /-- The answers to further subscriptions. -/
  subscriptions : List Subscription
  /-- What is drawn for delays, in each turn. -/
  draws : Nat → Nat
  acts : List Act := []
  /-- The outcome of the start. -/
  outcome : Option Bool := none

namespace Course

/-- What the worker gets next, with what is left then of the stream and of the answers. -/
def next? (c : Course) : Option (Arrival × List Arrival × List Subscription) :=
  match c.await with
  | .timer _ => some (.elapsed, [], c.subscriptions)
  | .subscription =>
    match c.subscriptions with
    | s :: rest => some (.subscribed s.answer, s.arrivals, rest)
    | [] => none
  | .event | .fetch =>
    match c.incoming with
    | arrival :: rest => some (arrival, rest, c.subscriptions)
    | [] => none
  | .nothing => none

/-- The worker takes a turn. -/
def take (c : Course) (next : Arrival × List Arrival × List Subscription) : Course :=
  let (turn, source) := c.source.follow next.1 (c.draws 0)
  { source, await := turn.await, incoming := next.2.1, subscriptions := next.2.2
    draws := fun i => c.draws (i + 1), acts := c.acts ++ turn.acts
    outcome := c.outcome.or turn.outcome }

/-- What becomes of a course if something is to come. -/
def step (c : Course) : Option Course :=
  c.next?.map c.take

/-- One course leads to another. -/
def Reaches : Course → Course → Prop :=
  Relation.ReflTransGen fun c c' => c.step = some c'

end Course

/-- A source that begins its work. -/
def begin (s : Streaming) (subscriptions : List Subscription) (draws : Nat → Nat) : Course :=
  { source := s, await := start.await, subscriptions, draws, acts := start.acts
    outcome := start.outcome }

namespace Course

/-! ### Courses go one way -/

theorem Reaches.of_next? {c : Course} {next : Arrival × List Arrival × List Subscription}
    (h : c.next? = some next) : c.Reaches (c.take next) :=
  Relation.ReflTransGen.single (by rw [step, h, Option.map_some])

/-- A course that others are reached from leads to the last one, too. -/
theorem Reaches.to_last {c c₁ c₂ : Course} (h₁ : c.Reaches c₁) (h₂ : c.Reaches c₂)
    (hlast : c₂.step = none) : c₁.Reaches c₂ :=
  reaches_last h₁ h₂ hlast

/-- What has been done stays done, and a decision is never taken back. -/
theorem Reaches.mono {c c' : Course} (h : c.Reaches c') :
    c.acts <+: c'.acts ∧ ∀ b, c.outcome = some b → c'.outcome = some b := by
  induction h with
  | refl => exact ⟨List.prefix_refl _, fun _ => id⟩
  | tail _ hstep ih =>
    obtain ⟨next, -, rfl⟩ := Option.map_eq_some_iff.1 hstep
    refine ⟨ih.1.trans (List.prefix_append _ _), fun b hb => ?_⟩
    simp only [take, ih.2 b hb, Option.some_or]

/-! ### From an answer to the failure -/

/-- `c'` comes right after this failure, and `acts` were seen between `c` and the failure. -/
structure Fails (backoff : Backoff) (failures : Nat) (error : SourceError)
    (subscriptions : List Subscription) (acts : List Act) (c c' : Course) : Prop where
  subscriptions : c'.subscriptions = subscriptions
  context : c'.source.context = c.source.context
  result : (error.isRecoverable = true ∧ ∃ delay ≤ backoff.ceilingAfter failures,
      c'.await = .timer delay ∧ backoff.Counts (failures + 1) c'.source.backoff ∧
      c'.acts = c.acts ++ acts ++ [.deliver (.interrupted error), .wait delay]) ∨
    (error.isRecoverable = false ∧ c'.await = .nothing ∧
      c'.acts = c.acts ++ acts ++ [.deliver (.failure error), .resolve false])

/-- What is seen before comes in front. -/
theorem Fails.append {backoff : Backoff} {failures : Nat} {error : SourceError}
    {subscriptions : List Subscription} {before acts : List Act} {c c₁ c' : Course}
    (h : Fails backoff failures error subscriptions acts c₁ c')
    (hacts : c₁.acts = c.acts ++ before) (hcontext : c₁.source.context = c.source.context) :
    Fails backoff failures error subscriptions (before ++ acts) c c' where
  subscriptions := h.subscriptions
  context := h.context.trans hcontext
  result := by
    rw [← List.append_assoc, ← hacts]
    exact h.result

/-- A failure is reported, and the source waits or stops. -/
theorem fails_of_follow {backoff : Backoff} {failures : Nat} {error : SourceError} {c : Course}
    {next : Arrival × List Arrival × List Subscription} (hnext : c.next? = some next)
    (hfollow : c.source.follow next.1 (c.draws 0) = c.source.onFailure error (c.draws 0))
    (hcounts : backoff.Counts failures c.source.backoff) :
    ∃ c', c.Reaches c' ∧ Fails backoff failures error next.2.2 [] c c' := by
  refine ⟨c.take next, .of_next? hnext, ?_⟩
  cases hrecoverable : error.isRecoverable with
  | true =>
    -- The delay is that of the backoff, which has counted the failures so far.
    have hdelay : (c.source.backoff.next (c.draws 0)).1 ≤ backoff.ceilingAfter failures := by
      rw [← hcounts.ceiling_eq]
      exact c.source.backoff.next_le_ceiling _
    refine ⟨?_, ?_, .inl ⟨hrecoverable, _, hdelay, ?_, ?_, ?_⟩⟩ <;>
      simp only [take, hfollow, onFailure, hrecoverable, if_true, List.append_nil]
    · exact hcounts.next _
    · rfl
  | false =>
    refine ⟨?_, ?_, .inr ⟨hrecoverable, ?_, ?_⟩⟩ <;>
      simp [take, hfollow, onFailure, hrecoverable, Turn.stop, Turn.acts, Await.acts]

/-- The source hears of an event that does not fail, and goes on reading. -/
structure Hears (backoff : Backoff) (failures : Nat) (acts : List Act) (incoming : List Arrival)
    (c c' : Course) : Prop where
  reaches : c.Reaches c'
  await : c'.await = .event
  incoming : c'.incoming = incoming
  subscriptions : c'.subscriptions = c.subscriptions
  context : c'.source.context = c.source.context
  acts : c'.acts = c.acts ++ acts
  counts : backoff.Counts failures c'.source.backoff

/-- A source that reads a stream gets what is next there. -/
theorem next?_of_event {c : Course} {arrival : Arrival} {rest : List Arrival}
    (hawait : c.await = .event) (hincoming : c.incoming = arrival :: rest) :
    c.next? = some (arrival, rest, c.subscriptions) := by
  simp [next?, hawait, hincoming]

/-- After a `ping` it asks for the whole set, and gets the answer next. -/
theorem next?_of_ping {c : Course} {answer : Except SourceError Snapshot} {rest : List Arrival}
    (hawait : c.await = .event)
    (hincoming : c.incoming = .event (.ok .ping) :: .fetched answer :: rest) :
    ∃ c₁, c.Reaches c₁ ∧ c₁.next? = some (.fetched answer, rest, c.subscriptions) ∧
      c₁.source = c.source ∧ c₁.acts = c.acts ++ [.fetch] :=
  ⟨_, Reaches.of_next? (next?_of_event hawait hincoming), rfl, rfl, rfl⟩

/-- A worker hears an event, does what it is about, and listens again. -/
theorem hears {backoff : Backoff} {failures : Nat} {e : Occurrence} {rest : List Arrival}
    {c : Course} (hawait : c.await = .event) (hincoming : c.incoming = e.arrivals ++ rest)
    (hcounts : backoff.Counts failures c.source.backoff) (he : e.error? = none) :
    ∃ c', Hears backoff (if e.isPut then 0 else failures)
      (e.acts c.source.context.identity) rest c c' := by
  cases e with
  | put snapshot =>
    exact ⟨_, .of_next? (next?_of_event hawait hincoming), rfl, rfl, rfl, rfl, rfl, hcounts.reset⟩
  | patch item | delete key version =>
    exact ⟨_, .of_next? (next?_of_event hawait hincoming), rfl, rfl, rfl, rfl, rfl, hcounts⟩
  | failure error => cases he
  | ping answer =>
    cases answer with
    | error error => cases he
    | ok snapshot =>
      obtain ⟨c₁, hreaches, hnext, hsource, hacts⟩ := next?_of_ping hawait hincoming
      refine ⟨_, hreaches.trans (Reaches.of_next? hnext), rfl, rfl, rfl, ?_, ?_, ?_⟩ <;>
        simp only [take, follow, onFetch, hsource, hacts]
      · exact List.append_assoc ..
      · exact hcounts

/-- The source hears of an event that fails. A fetch that fails was asked for first. -/
theorem fails_of_error? {backoff : Backoff} {failures : Nat} {e : Occurrence} {rest : List Arrival}
    {error : SourceError} {c : Course} (hawait : c.await = .event)
    (hincoming : c.incoming = e.arrivals ++ rest)
    (hcounts : backoff.Counts failures c.source.backoff) (he : e.error? = some error) :
    ∃ c', c.Reaches c' ∧ Fails backoff failures error c.subscriptions
      (e.acts c.source.context.identity) c c' := by
  cases e with
  | put snapshot | patch item | delete key version => cases he
  | failure failure =>
    cases he
    exact fails_of_follow (next?_of_event hawait hincoming) rfl hcounts
  | ping answer =>
    cases answer with
    | ok snapshot => cases he
    | error failure =>
      cases he
      obtain ⟨c₁, hreaches, hnext, hsource, hacts⟩ := next?_of_ping hawait hincoming
      have hcounts₁ : backoff.Counts failures c₁.source.backoff := by rwa [hsource]
      obtain ⟨c', hreaches', hfails⟩ := fails_of_follow hnext rfl hcounts₁
      exact ⟨c', hreaches.trans hreaches', hfails.append hacts (by rw [hsource])⟩

/-- A source that reads a stream gets to the failure that ends it. -/
theorem listens {backoff : Backoff} (events : List Occurrence) {failures : Nat} {c : Course}
    (hawait : c.await = .event)
    (hincoming : c.incoming = events.flatMap Occurrence.arrivals ++ [.ended])
    (hcounts : backoff.Counts failures c.source.backoff) : ∃ c', c.Reaches c' ∧
      Fails backoff ((Subscription.opened events).failuresBefore failures)
        (Subscription.opened events).failure c.subscriptions
        ((Subscription.opened events).acts c.source.context.identity) c c' := by
  induction events generalizing failures c with
  | nil =>
    have hnext : c.next? = some (.ended, [], c.subscriptions) := by
      simp [next?, hawait, hincoming]
    exact fails_of_follow hnext rfl hcounts
  | cons e events ih =>
    rw [List.flatMap_cons, List.append_assoc] at hincoming
    -- An event that can be used leaves the subscription open.
    cases he : e.error? with
    | none =>
      obtain ⟨c₁, h₁⟩ := hears hawait hincoming hcounts he
      obtain ⟨c', hreaches, hfails⟩ := ih h₁.await h₁.incoming h₁.counts
      refine ⟨c', h₁.reaches.trans hreaches, ?_⟩
      rw [Subscription.failuresBefore_cons he, Subscription.failure_cons he,
        Subscription.acts_cons he, ← h₁.subscriptions]
      rw [h₁.context] at hfails
      exact hfails.append h₁.acts h₁.context
    | some error =>
      rw [Subscription.failuresBefore_of_error? he, Subscription.failure_of_error? he,
        Subscription.acts_of_error? he]
      exact fails_of_error? hawait hincoming hcounts he

/-- An answer leads to a failure, after all that is heard of the stream. -/
theorem fails_of_answer {backoff : Backoff} {failures : Nat} {s : Subscription}
    {rest : List Subscription} {c : Course} (hawait : c.await = .subscription)
    (hsubscriptions : c.subscriptions = s :: rest)
    (hcounts : backoff.Counts failures c.source.backoff) : ∃ c', c.Reaches c' ∧
      Fails backoff (s.failuresBefore failures) s.failure rest
        (s.acts c.source.context.identity) c c' := by
  have hnext : c.next? = some (.subscribed s.answer, s.arrivals, rest) := by
    simp [next?, hawait, hsubscriptions]
  cases s with
  | refused error => exact fails_of_follow hnext rfl hcounts
  | opened events =>
    let c₁ := c.take (.subscribed (.ok ()), (Subscription.opened events).arrivals, rest)
    have hacts : c₁.acts = c.acts ++ [] := rfl
    obtain ⟨c', hreaches, hfails⟩ := listens events (c := c₁) rfl rfl hcounts
    exact ⟨c', (Reaches.of_next? hnext).trans hreaches, hfails.append hacts rfl⟩

/-- A source that asks for a stream works its way through all answers, or stops at one of them. -/
theorem exists_performs {backoff : Backoff} (subscriptions : List Subscription) {failures : Nat}
    {c : Course} {before : List Act} (hawait : c.await = .subscription)
    (hsubscriptions : c.subscriptions = subscriptions) (hacts : c.acts = before ++ [.subscribe])
    (hcounts : backoff.Counts failures c.source.backoff) :
    ∃ c' acts, c.Reaches c' ∧ c'.step = none ∧ c'.acts = before ++ acts ∧
      Performs c.source.context.identity backoff failures subscriptions acts := by
  induction subscriptions generalizing failures c before with
  | nil =>
    have hnext : c.next? = none := by simp [next?, hawait, hsubscriptions]
    refine ⟨c, [.subscribe], .refl, ?_, hacts, .waits failures⟩
    rw [step, hnext, Option.map_none]
  | cons s rest ih =>
    obtain ⟨c₁, hreaches, hrest, hcontext, hresult⟩ :=
      fails_of_answer hawait hsubscriptions hcounts
    rcases hresult with ⟨hrecoverable, delay, hdelay, hawait₁, hcounts₁, hacts₁⟩ |
      ⟨hfatal, hawait₁, hacts₁⟩
    · -- The delay passes, and the source asks for the next stream.
      have hnext : c₁.next? = some (.elapsed, [], rest) := by
        simp [next?, hawait₁, hrest]
      have hacts₂ : (c₁.take (.elapsed, [], rest)).acts = (c.acts ++
          s.acts c.source.context.identity ++
            [.deliver (.interrupted s.failure), .wait delay]) ++ [.subscribe] := by
        rw [← hacts₁]
        rfl
      obtain ⟨c', acts, hreaches', hlast, hacts', hperforms⟩ := ih rfl rfl hacts₂ hcounts₁
      refine ⟨c', _, hreaches.trans ((Reaches.of_next? hnext).trans hreaches'), hlast, ?_,
        .again hrecoverable hdelay (hcontext ▸ hperforms)⟩
      rw [hacts', hacts]
      simp only [List.append_assoc, List.cons_append, List.nil_append]
    · have hnext : c₁.next? = none := by simp [next?, hawait₁]
      refine ⟨c₁, _, hreaches, ?_, ?_, .stops hfatal⟩
      · rw [step, hnext, Option.map_none]
      · rw [hacts₁, hacts]
        simp only [List.append_assoc, List.cons_append, List.nil_append]

end Course

/-- A source that begins its work gets to its end. -/
theorem exists_last (s : Streaming) (subscriptions : List Subscription) (draws : Nat → Nat) :
    ∃ last : Course, (s.begin subscriptions draws).Reaches last ∧ last.step = none ∧
      Performs s.context.identity s.backoff s.backoff.attempts subscriptions last.acts := by
  have hcounts : s.backoff.Counts s.backoff.attempts s.backoff := ⟨rfl, rfl, rfl⟩
  have hacts : (s.begin subscriptions draws).acts = [] ++ [.subscribe] := rfl
  obtain ⟨last, acts, hreaches, hlast, hacts', hperforms⟩ :=
    Course.exists_performs subscriptions rfl rfl hacts hcounts
  rw [List.nil_append] at hacts'
  exact ⟨last, hreaches, hlast, hacts' ▸ hperforms⟩

end Streaming

end LiveFlags
