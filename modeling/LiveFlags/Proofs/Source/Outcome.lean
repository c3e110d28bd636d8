import LiveFlags.Proofs.Source.Streaming

/-!
# The start of a streaming source

A start succeeds with the first whole set of flags, and fails when the source stops before that. It
is decided once.

Main statement: `performs_of_begin`, on all that is seen of a streaming source.
-/

namespace LiveFlags

/-- The act delivers a whole set of flags for the identity. -/
def Act.IsFull (identity : Identity) (act : Act) : Prop :=
  ∃ snapshot, act = .deliver (.snapshot identity snapshot)

namespace Turn

/-! ### Turns -/

variable {context : SourceContext} {turn : Turn}

/-- In no turn does the start succeed before a whole set is delivered. -/
theorem Brings.announced (h : turn.Brings context) :
    Announced (Act.IsFull context.identity) turn.acts := by
  cases h with
  | all snapshot await => exact .cons ⟨snapshot, rfl⟩ _
  | part | theEnd => exact .of_ne (by simp [findSome?_outcome?_acts, stop])

/-- A turn that delivers a whole set lets the start succeed. -/
theorem Brings.succeeds (h : turn.Brings context)
    (hfull : ∃ act ∈ turn.acts, act.IsFull context.identity) : turn.outcome = some true := by
  obtain ⟨act, hact, snapshot, rfl⟩ := hfull
  have hmem := (turn.deliver_mem_acts _).1 hact
  cases h with
  | all => rfl
  | theEnd error => simp [stop] at hmem
  | part partly => rcases partly _ hmem with ⟨item, heq⟩ | ⟨error, heq⟩ <;> cases heq

/-- A turn that lets the start fail is the last one. -/
theorem Brings.stops (h : turn.Brings context) (houtcome : turn.outcome = some false) :
    turn.await = .nothing := by
  cases h with
  | part | all => cases houtcome
  | theEnd error => rfl

end Turn

namespace Streaming

/-! ### Courses -/

namespace Course

/-- At a point of its work the outcome of the start is that of what was done. -/
structure Settles (identity : Identity) (c : Course) : Prop where
  context : c.source.context.identity = identity
  outcome : c.outcome = c.acts.findSome? Act.outcome?
  announced : Announced (Act.IsFull identity) c.acts
  full : (∃ act ∈ c.acts, act.IsFull identity) → c.outcome = some true
  /-- A source whose start has failed does nothing more. -/
  stopped : c.outcome = some false → c.await = .nothing

theorem Settles.begin (s : Streaming) (subscriptions : List Subscription) (draws : Nat → Nat) :
    Settles s.context.identity (s.begin subscriptions draws) where
  context := rfl
  outcome := rfl
  announced := .of_ne (by simp [Streaming.begin, start, Turn.acts, Await.acts, Act.outcome?])
  full h := by simp [Act.IsFull, Streaming.begin, start, Turn.acts, Await.acts] at h
  stopped h := by cases h

/-- Each turn keeps the outcome of the start in line with what was delivered. -/
theorem Settles.take {identity : Identity} {c : Course} (h : Settles identity c)
    (hawait : c.await ≠ .nothing) (next : Arrival × List Arrival × List Subscription) :
    Settles identity (c.take next) := by
  obtain ⟨rfl, houtcome, hannounced, hfull, hstopped⟩ := h
  obtain ⟨hcontext, hbrings⟩ := c.source.follow_brings next.1 (c.draws 0)
  have hworks : c.outcome ≠ some false := fun hfalse => hawait (hstopped hfalse)
  refine ⟨congrArg _ hcontext, ?_, hannounced.append hbrings.announced, fun hfull' => ?_,
    fun hfalse => ?_⟩
  · simp only [Course.take, List.findSome?_append, ← houtcome, Turn.findSome?_outcome?_acts]
  · obtain ⟨act, hact, hisFull⟩ := hfull'
    rcases List.mem_append.1 hact with hold | hnew
    · exact Option.or_eq_some_iff.2 (.inl (hfull ⟨act, hold, hisFull⟩))
    · have hturn := hbrings.succeeds ⟨act, hnew, hisFull⟩
      -- A start that is decided by now has succeeded.
      cases hdecided : c.outcome with
      | none => simp only [Course.take, hdecided, Option.none_or, hturn]
      | some b =>
        cases b with
        | true => simp only [Course.take, hdecided, Option.some_or]
        | false => exact absurd hdecided hworks
  · rcases Option.or_eq_some_iff.1 hfalse with hold | ⟨-, hnew⟩
    · exact absurd hold hworks
    · exact hbrings.stops hnew

theorem Settles.of_reaches {identity : Identity} {c c' : Course} (h : Settles identity c)
    (hreaches : c.Reaches c') : Settles identity c' := by
  induction hreaches with
  | refl => exact h
  | tail _ hstep ih =>
    obtain ⟨next, hnext, rfl⟩ := Option.map_eq_some_iff.1 hstep
    refine ih.take (fun hawait => ?_) next
    simp [next?, hawait] at hnext

/-- A start succeeds if and only if a whole set of flags was delivered. -/
theorem Settles.succeeded_iff {identity : Identity} {c : Course} (h : Settles identity c) :
    c.outcome = some true ↔ ∃ act ∈ c.acts, act.IsFull identity :=
  ⟨fun htrue => h.announced _ (List.prefix_refl _) (h.outcome.symm.trans htrue), h.full⟩

end Course

/-- **What a streaming source does, whatever the service does.** It works its way through all answers
or stops at one of them, and is seen to do what `Performs` says and nothing else. At every point of
this way its start has succeeded if and only if it has delivered a whole set of flags by then, which
comes before the success; and what is decided stays. -/
theorem performs_of_begin (s : Streaming) (subscriptions : List Subscription)
    (draws : Nat → Nat) : ∃ last : Course, (s.begin subscriptions draws).Reaches last ∧
      last.step = none ∧
      Performs s.context.identity s.backoff s.backoff.attempts subscriptions last.acts ∧
      ∀ c, (s.begin subscriptions draws).Reaches c → c.Reaches last ∧
        c.outcome = c.acts.findSome? Act.outcome? ∧
        (c.outcome = some true ↔ ∃ act ∈ c.acts, act.IsFull s.context.identity) ∧
        Announced (Act.IsFull s.context.identity) c.acts ∧
        ∀ c', c.Reaches c' → c.acts <+: c'.acts ∧ ∀ b, c.outcome = some b → c'.outcome = some b := by
  obtain ⟨last, hreaches, hlast, hperforms⟩ := s.exists_last subscriptions draws
  refine ⟨last, hreaches, hlast, hperforms, fun c hc => ?_⟩
  have hsettles := (Course.Settles.begin s subscriptions draws).of_reaches hc
  exact ⟨hc.to_last hreaches hlast, hsettles.outcome, hsettles.succeeded_iff, hsettles.announced,
    fun _ hc' => hc'.mono⟩

end Streaming

end LiveFlags
