import LiveFlags.Source.Polling
import LiveFlags.Source.Streaming
import Mathlib.Logic.Relation

/-!
# What a worker does and what comes to it

A worker waits for one thing at a time, and takes a turn when that arrives. An `Arrival` is what may
come, an `Act` what others see of a turn: deliveries, the outcome of the start, and calls of the
service or the clock. A turn is the list of its acts, in order.
-/

namespace LiveFlags

/-- What comes to a worker that waits. -/
inductive Arrival where
  /-- The end of a delay. -/
  | elapsed
  | subscribed (answer : Except SourceError Unit)
  | event (event : Except SourceError StreamEvent)
  /-- The end of the stream. -/
  | ended
  | fetched (answer : Except SourceError Snapshot)

/-- What a worker does. -/
inductive Act where
  | deliver (delivery : Delivery)
  /-- Decides the start of its source, unless it is decided. -/
  | resolve (succeeded : Bool)
  | wait (delay : Duration)
  /-- Asks for the whole set of flags. -/
  | fetch
  /-- Asks for a stream. -/
  | subscribe

/-- What a worker does before it waits for something. -/
def Await.acts : Await → List Act
  | .timer delay => [.wait delay]
  | .fetch => [.fetch]
  | .subscription => [.subscribe]
  | .event | .nothing => []

/-- What a worker does in a turn. -/
def Turn.acts (t : Turn) : List Act :=
  t.deliveries.map .deliver ++ (t.outcome.map .resolve).toList ++ t.await.acts

/-- What becomes of the start of a source. -/
def Act.outcome? : Act → Option Bool
  | .resolve succeeded => some succeeded
  | _ => none

theorem Turn.findSome?_outcome?_acts (t : Turn) : t.acts.findSome? Act.outcome? = t.outcome := by
  have hdeliveries : (t.deliveries.map Act.deliver).findSome? Act.outcome? = none := by
    simp [List.findSome?_eq_none_iff, Act.outcome?]
  have hawait : t.await.acts.findSome? Act.outcome? = none := by
    cases t.await <;> rfl
  simp only [acts, List.findSome?_append, hdeliveries, hawait, Option.or_none, Option.none_or]
  cases t.outcome <;> rfl

/-- A turn delivers what it delivers. -/
theorem Turn.deliver_mem_acts (t : Turn) (delivery : Delivery) :
    .deliver delivery ∈ t.acts ↔ delivery ∈ t.deliveries := by
  have hawait : .deliver delivery ∉ t.await.acts := by
    cases t.await <;> simp [Await.acts]
  have houtcome : .deliver delivery ∉ (t.outcome.map Act.resolve).toList := by
    cases t.outcome <;> simp
  simp [acts, hawait, houtcome]

/-! ### Work goes one way -/

/-- Whatever is reached leads to the last state, too. -/
theorem reaches_last {σ : Type} {step : σ → Option σ} {s₁ s₂ last : σ}
    (h : Relation.ReflTransGen (fun s s' => step s = some s') s₁ s₂)
    (hreaches : Relation.ReflTransGen (fun s s' => step s = some s') s₁ last)
    (hlast : step last = none) :
    Relation.ReflTransGen (fun s s' => step s = some s') s₂ last := by
  induction h using Relation.ReflTransGen.head_induction_on with
  | refl => exact hreaches
  | head hstep _ ih =>
    rcases Relation.ReflTransGen.cases_head hreaches with rfl | ⟨s', hstep', hrest⟩
    · cases hlast.symm.trans hstep
    · cases hstep.symm.trans hstep'
      exact ih hrest

/-! ### Successful starts -/

/-- A success of the start never comes before an act of the given kind. -/
def Announced (p : Act → Prop) (acts : List Act) : Prop :=
  ∀ seen, seen <+: acts → seen.findSome? Act.outcome? = some true → ∃ act ∈ seen, p act

theorem Announced.append {p : Act → Prop} {acts acts' : List Act} (h : Announced p acts)
    (h' : Announced p acts') : Announced p (acts ++ acts') := by
  intro seen hseen houtcome
  rcases List.prefix_or_prefix_of_prefix hseen (List.prefix_append acts acts') with
    hseen | ⟨seen', rfl⟩
  · exact h seen hseen houtcome
  · have hseen' : seen' <+: acts' := (List.prefix_append_right_inj acts).1 hseen
    rw [List.findSome?_append] at houtcome
    rcases Option.or_eq_some_iff.1 houtcome with hfirst | ⟨-, hsecond⟩
    · obtain ⟨act, hact, hp⟩ := h acts (List.prefix_refl _) hfirst
      exact ⟨act, List.mem_append_left _ hact, hp⟩
    · obtain ⟨act, hact, hp⟩ := h' seen' hseen' hsecond
      exact ⟨act, List.mem_append_right _ hact, hp⟩

/-- Where the start does not succeed, nothing has to come before that. -/
theorem Announced.of_ne {p : Act → Prop} {acts : List Act}
    (h : acts.findSome? Act.outcome? ≠ some true) : Announced p acts :=
  fun _ hseen houtcome => absurd (hseen.findSome?_eq_some houtcome) h

/-- An act of the given kind opens the way. -/
theorem Announced.cons {p : Act → Prop} {act : Act} (h : p act) (acts : List Act) :
    Announced p (act :: acts) := by
  intro seen hseen houtcome
  cases seen with
  | nil => cases houtcome
  | cons first seen =>
    obtain ⟨rfl, -⟩ := List.cons_prefix_cons.1 hseen
    exact ⟨first, List.mem_cons_self, h⟩

/-! ### Turns after an arrival -/

/-- What a turn after an arrival can bring. -/
inductive Turn.Brings (context : SourceContext) : Turn → Prop
  /-- Nothing that would decide the start. -/
  | part {deliveries : List Delivery} {await : Await}
    (partly : ∀ delivery ∈ deliveries, (∃ item, delivery = .item context.identity item) ∨
      ∃ error, delivery = .interrupted error) : Brings context { deliveries, await }
  | all (snapshot : Snapshot) (await : Await) : Brings context (.ofSnapshot context snapshot await)
  | theEnd (error : SourceError) : Brings context (.stop error)

namespace Streaming

/-- The turn of a streaming source after an arrival. -/
def follow (s : Streaming) (arrival : Arrival) (draw : Nat) : Turn × Streaming :=
  match arrival with
  | .elapsed => (start, s)
  | .subscribed answer => s.onSubscribed answer draw
  | .event event => s.onEvent event draw
  | .ended => s.onEnd draw
  | .fetched answer => s.onFetch answer draw

/-- A failure brings an interruption, or the end. -/
theorem onFailure_brings (s : Streaming) (error : SourceError) (draw : Nat) :
    (s.onFailure error draw).2.context = s.context ∧
      (s.onFailure error draw).1.Brings s.context := by
  rw [onFailure]
  split
  · exact ⟨rfl, .part (List.forall_mem_singleton.2 (.inr ⟨error, rfl⟩))⟩
  · exact ⟨rfl, .theEnd error⟩

/-- A source always works for the same identity. -/
theorem follow_brings (s : Streaming) (arrival : Arrival) (draw : Nat) :
    (s.follow arrival draw).2.context = s.context ∧
      (s.follow arrival draw).1.Brings s.context := by
  cases arrival with
  | elapsed => exact ⟨rfl, .part (List.forall_mem_nil _)⟩
  | ended => exact s.onFailure_brings _ draw
  | subscribed answer =>
    cases answer with
    | ok => exact ⟨rfl, .part (List.forall_mem_nil _)⟩
    | error error => exact s.onFailure_brings error draw
  | fetched answer =>
    cases answer with
    | ok snapshot => exact ⟨rfl, .all snapshot .event⟩
    | error error => exact s.onFailure_brings error draw
  | event event =>
    cases event with
    | error error => exact s.onFailure_brings error draw
    | ok event =>
      cases event with
      | put snapshot => exact ⟨rfl, .all snapshot .event⟩
      | patch item | delete key version => exact ⟨rfl, .part (by simp)⟩
      | ping => exact ⟨rfl, .part (List.forall_mem_nil _)⟩

end Streaming

namespace Polling

/-- The turn of a polling source after an arrival. Only delays and fetches lead to one. -/
def follow (p : Polling) (arrival : Arrival) : Turn :=
  match arrival with
  | .elapsed => onTimer
  | .fetched answer => p.onFetch answer
  | .subscribed _ | .event _ | .ended => { await := .nothing }

/-- Whatever arrives, a polling source brings a whole set, an interruption or the end. -/
theorem follow_brings (p : Polling) (arrival : Arrival) :
    (p.follow arrival).Brings p.context := by
  cases arrival with
  | elapsed | subscribed | event | ended => exact .part (List.forall_mem_nil _)
  | fetched answer =>
    cases answer with
    | ok snapshot => exact .all snapshot _
    | error error =>
      simp only [follow, onFetch]
      split
      · exact .part (List.forall_mem_singleton.2 (.inr ⟨error, rfl⟩))
      · exact .theEnd error

end Polling

end LiveFlags
