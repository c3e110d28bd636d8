import LiveFlags.Proofs.Connection.Frame
import LiveFlags.Proofs.History

/-!
# A connection among concurrent calls

Calls of a connection run side by side, and so do its sources. `Traffic` puts a connection together
with the calls that are on their way and with every source that was ever built, and `Traffic.step`
says what each of them may do next. A call takes these steps, and anything else may happen between
two of them:

* `call` changes the flags, and the call either ends or begins to wait for the critical section;
* `enter` takes the critical section, which has to be free, and decides on a plan;
* `cutOff` ends the active source, if there is one;
* `dispose` is the end of that source's disposal, for which the call waits inside;
* `settle` does the rest, which may build a source, and leaves the critical section.

A source may deliver at any time after it was built, however long ago it was disposed of. Its start
is noted in two steps, since the generation is looked at before the flags are changed.

`Traffic.run` follows a list of events, and is undefined if one of them cannot happen.
-/

namespace LiveFlags

/-- How far the life of a source has come. -/
inductive SourceStage where
  | live
  /-- The source is cut off, and its disposal goes on. -/
  | ending
  | gone
deriving DecidableEq, Repr

/-- A source that was built. -/
structure BuiltSource where
  generation : Nat
  context : SourceContext
  stage : SourceStage := .live

/-- The source of an order that was carried out. -/
def BuiltSource.ofOrder {φ : Type} (order : BuildOrder φ) : BuiltSource :=
  { generation := order.generation, context := order.context }

/-- How far a call has come in the critical section. -/
inductive Progress where
  /-- It has decided on a plan. -/
  | decided
  /-- It waits for the end of the source that it has cut off. -/
  | disposing (source : Nat)
  /-- No source is left in its way. -/
  | cleared
deriving DecidableEq, Repr

/-- A call in the critical section. -/
structure Occupant where
  call : Nat
  plan : Plan
  progress : Progress := .decided
deriving DecidableEq, Repr

/-- What happens around a connection. -/
inductive TrafficEvent (φ : Type) where
  | call (call : ConnectionCall φ)
  | enter (call : Nat)
  | cutOff
  | dispose
  | settle
  /-- Another identity becomes the current one; the source is not touched. -/
  | switch (identity : Identity)
  | deliver (source : Nat) (delivery : Delivery)
  /-- The start of a source is decided, and its generation is looked at. -/
  | checkStart (source : Nat) (succeeded : Bool)
  /-- A start that was found to be the current one is noted. -/
  | noteStart (source : Nat) (succeeded : Bool)

/-- The event is no step of a call. -/
def TrafficEvent.isAside {φ : Type} : TrafficEvent φ → Bool
  | .call _ | .enter _ | .cutOff | .dispose | .settle => false
  | .switch _ | .deliver .. | .checkStart .. | .noteStart .. => true

/-- A connection, the calls on their way and the sources that were built. -/
structure Traffic (σ φ : Type) where
  connection : Connection σ φ
  /-- How many calls have been made; the next one gets this number. -/
  calls : Nat := 0
  /-- The calls that wait for the critical section. -/
  waiting : List (Nat × Critical) := []
  occupant : Option Occupant := none
  /-- All sources, oldest first. -/
  sources : List BuiltSource := []
  /-- The starts that are about to be noted. -/
  starts : List (Nat × Bool) := []

namespace Traffic

variable {σ φ : Type}

/-- The traffic around a connection before the first call. -/
def around (c : Connection σ φ) : Traffic σ φ :=
  { connection := c }

/-- The generations of all sources. -/
def generations (s : Traffic σ φ) : List Nat :=
  s.sources.map (·.generation)

/-- No call is on its way. -/
def AtRest (s : Traffic σ φ) : Prop :=
  s.waiting = [] ∧ s.occupant = none

/-- A call is on its way. -/
def InProgress (s : Traffic σ φ) (call : Nat) : Prop :=
  (∃ critical, (call, critical) ∈ s.waiting) ∨ ∃ o, s.occupant = some o ∧ o.call = call

/-- When all is at rest, every call has returned. -/
theorem AtRest.not_inProgress {s : Traffic σ φ} (h : s.AtRest) (call : Nat) :
    ¬ s.InProgress call := by
  obtain ⟨hwaiting, hfree⟩ := h
  simp [InProgress, hwaiting, hfree]

/-! ### Steps -/

/-- A call changes the flags. -/
def announce (s : Traffic σ φ) (call : ConnectionCall φ) : Traffic σ φ :=
  { s with
    connection := (s.connection.announce call).2
    calls := s.calls + 1
    waiting := s.waiting ++ ((s.connection.announce call).1.map fun critical =>
      (s.calls, critical)).toList }

/-- A call takes the critical section, unless there is nothing to do. -/
def grant (s : Traffic σ φ) (call : Nat) (critical : Critical) : Traffic σ φ :=
  { s with
    waiting := s.waiting.erase (call, critical)
    occupant :=
      match s.connection.plan critical with
      | .stay => none
      | plan => some { call, plan } }

/-- The sources with one of them in another stage. -/
def withStage (s : Traffic σ φ) (generation : Nat) (stage : SourceStage) : List BuiltSource :=
  s.sources.map fun b => if b.generation = generation then { b with stage } else b

/-- The call in the critical section ends the active source. -/
def cutOff (s : Traffic σ φ) (call : Nat) (plan : Plan) : Traffic σ φ :=
  match s.connection.active with
  | some source => { s with
      connection := s.connection.cutOff.2
      occupant := some ⟨call, plan, .disposing source⟩
      sources := s.withStage source .ending }
  | none => { s with occupant := some ⟨call, plan, .cleared⟩ }

/-- The call in the critical section does the rest of its plan and leaves. -/
def settle (s : Traffic σ φ) (plan : Plan) : Traffic σ φ :=
  { s with
    connection := (s.connection.settle plan).2
    occupant := none
    sources := s.sources ++ ((s.connection.settle plan).1.map BuiltSource.ofOrder).toList }

/-- The start of a source is looked at. -/
def checkStart (s : Traffic σ φ) (source : Nat) (succeeded : Bool) : Traffic σ φ :=
  if s.connection.isCurrent source then { s with starts := s.starts ++ [(source, succeeded)] }
  else s

variable [Storage σ]

/-- What an event leads to, if it can happen. -/
def step (s : Traffic σ φ) : TrafficEvent φ → Option (Traffic σ φ)
  | .call call => some (s.announce call)
  | .enter call =>
    match s.occupant, s.waiting.lookup call with
    | none, some critical => some (s.grant call critical)
    | _, _ => none
  | .cutOff =>
    match s.occupant with
    | some ⟨call, plan, .decided⟩ => some (s.cutOff call plan)
    | _ => none
  | .dispose =>
    match s.occupant with
    | some ⟨call, plan, .disposing source⟩ =>
      some { s with occupant := some ⟨call, plan, .cleared⟩, sources := s.withStage source .gone }
    | _ => none
  | .settle =>
    match s.occupant with
    | some ⟨_, plan, .cleared⟩ => some (s.settle plan)
    | _ => none
  | .switch identity => some { s with connection := (s.connection.switchData identity).2 }
  | .deliver source delivery =>
    if source ∈ s.generations then
      some { s with connection := s.connection.deliver source delivery }
    else none
  | .checkStart source succeeded =>
    if source ∈ s.generations then some (s.checkStart source succeeded) else none
  | .noteStart source succeeded =>
    if (source, succeeded) ∈ s.starts then
      some { s with
        connection := s.connection.acceptStart succeeded
        starts := s.starts.erase (source, succeeded) }
    else none

/-- Follows events in order. -/
def run (s : Traffic σ φ) (events : List (TrafficEvent φ)) : Option (Traffic σ φ) :=
  events.foldlM step s

/-! ### What the steps of a call need -/

omit [Storage σ] in
/-- A call that has to do something stays in the critical section. -/
theorem grant_cases (s : Traffic σ φ) (call : Nat) (critical : Critical) :
    (s.connection.plan critical = .stay ∧ (s.grant call critical).occupant = none) ∨
      (s.connection.plan critical ≠ .stay ∧
        (s.grant call critical).occupant = some { call, plan := s.connection.plan critical }) := by
  simp only [grant]
  split
  · next hplan => exact .inl ⟨hplan, rfl⟩
  · next hplan => exact .inr ⟨hplan, rfl⟩

variable {s s' : Traffic σ φ}

/-- A call that waits gets the critical section when nobody has it. -/
theorem step_enter {call : Nat} (h : s.step (.enter call) = some s') :
    s.occupant = none ∧ ∃ critical, (call, critical) ∈ s.waiting ∧ s' = s.grant call critical := by
  simp only [step] at h
  split at h
  · next critical hfree hlookup =>
    obtain ⟨before, after, hwaiting, -⟩ := List.lookup_eq_some_iff.1 hlookup
    refine ⟨hfree, critical, ?_, (Option.some.inj h).symm⟩
    rw [hwaiting]
    exact List.mem_append_right _ List.mem_cons_self
  · cases h

/-- Who has decided cuts the source off first. -/
theorem step_cutOff (h : s.step .cutOff = some s') :
    ∃ call plan, s.occupant = some ⟨call, plan, .decided⟩ ∧ s' = s.cutOff call plan := by
  simp only [step] at h
  split at h
  · next call plan hoccupant => exact ⟨call, plan, hoccupant, (Option.some.inj h).symm⟩
  · cases h

omit [Storage σ] in
/-- Whether there was an active source or not, there is none afterwards, and the call stays with its
plan. -/
theorem cutOff_eq (s : Traffic σ φ) (call : Nat) (plan : Plan) :
    ∃ generation progress sources, s.cutOff call plan = { s with
      connection := { s.connection with active := none, generation }
      occupant := some ⟨call, plan, progress⟩
      sources } ∧ sources.length = s.sources.length := by
  unfold cutOff
  split
  · next source hactive =>
    rw [Connection.cutOff_eq _ hactive]
    exact ⟨_, _, _, rfl, List.length_map ..⟩
  · next hactive =>
    refine ⟨s.connection.generation, .cleared, s.sources, ?_, rfl⟩
    rw [← hactive]

/-- A source that was cut off is disposed of. -/
theorem step_dispose (h : s.step .dispose = some s') :
    ∃ call plan source, s.occupant = some ⟨call, plan, .disposing source⟩ ∧
      s' = { s with
        occupant := some ⟨call, plan, .cleared⟩, sources := s.withStage source .gone } := by
  simp only [step] at h
  split at h
  · next call plan source hoccupant =>
    exact ⟨call, plan, source, hoccupant, (Option.some.inj h).symm⟩
  · cases h

/-- With no source left the plan is carried out. -/
theorem step_settle (h : s.step .settle = some s') :
    ∃ call plan, s.occupant = some ⟨call, plan, .cleared⟩ ∧ s' = s.settle plan := by
  simp only [step] at h
  split at h
  · next call plan hoccupant => exact ⟨call, plan, hoccupant, (Option.some.inj h).symm⟩
  · cases h

omit [Storage σ] in
/-- A plan to replace the source builds one, and nothing else does. Either way the critical section
is free afterwards. -/
theorem settle_cases (s : Traffic σ φ) (plan : Plan) :
    (plan = .replace ∧ ∃ status clock startOutcome, s.settle plan = { s with
      connection := { s.connection with
        flags := { s.connection.flags with
          previouslyInBackground := s.connection.flags.inBackground }
        generation := s.connection.generation + 1
        active := some (s.connection.generation + 1)
        startOutcome, status, clock }
      occupant := none
      sources := s.sources ++
        [{ generation := s.connection.generation + 1, context := s.connection.sourceContext }] } ∧
      status.state.isOffline = false) ∨
    (plan ≠ .replace ∧ ∃ status clock startOutcome, s.settle plan = { s with
      connection := { s.connection with status, clock, startOutcome }
      occupant := none } ∧
      ∀ state, plan = .goOffline state → state ≠ .interrupted → status.state = state) := by
  rcases s.connection.settle_cases plan with
    ⟨hplan, heq⟩ | ⟨hplan, status, clock, startOutcome, heq, hstate⟩
  · obtain ⟨horder, status, clock, startOutcome, hbuild, hstatus⟩ := s.connection.build_eq
    refine .inl ⟨hplan, status, clock, startOutcome, ?_, hstatus⟩
    simp only [settle, heq, horder, hbuild, Option.map_some, Option.toList_some,
      BuiltSource.ofOrder]
  · refine .inr ⟨hplan, status, clock, startOutcome, ?_, hstate⟩
    simp only [settle, heq, Option.map_none, Option.toList_none, List.append_nil]

/-! ### What the other steps need -/

/-- A switch of the identity concerns data and status alone. -/
theorem step_switch {identity : Identity} (h : s.step (.switch identity) = some s') :
    ∃ status clock, s' = { s with connection := { s.connection with
        data := s.connection.data.take (.switch identity, s.connection.nextReading)
        status, clock } } ∧ status.state = s.connection.status.state := by
  obtain ⟨status, clock, heq, hstate⟩ := s.connection.switchData_eq identity
  cases h
  exact ⟨status, clock, by rw [heq], hstate⟩

theorem step_deliver {source : Nat} {delivery : Delivery}
    (h : s.step (.deliver source delivery) = some s') :
    source ∈ s.generations ∧
      s' = { s with connection := s.connection.deliver source delivery } := by
  simp only [step] at h
  split at h
  · next hmem => exact ⟨hmem, (Option.some.inj h).symm⟩
  · cases h

theorem step_checkStart {source : Nat} {succeeded : Bool}
    (h : s.step (.checkStart source succeeded) = some s') : ∃ starts, s' = { s with starts } := by
  simp only [step] at h
  split at h
  · rw [← Option.some.inj h]
    unfold checkStart
    split <;> exact ⟨_, rfl⟩
  · cases h

theorem step_noteStart {source : Nat} {succeeded : Bool}
    (h : s.step (.noteStart source succeeded) = some s') :
    ∃ initialized startOutcome starts, s' = { s with
      connection := { s.connection with
        flags := { s.connection.flags with initialized }
        startOutcome }
      starts } := by
  simp only [step, Connection.acceptStart_eq] at h
  split at h
  · exact ⟨_, _, _, (Option.some.inj h).symm⟩
  · cases h

/-- What is no step of a call leaves the calls and the sources alone. Of the flags it writes only
`initialized` and `shutDown`, and it never takes the latter back. -/
theorem step_aside {e : TrafficEvent φ} (h : s.step e = some s') (he : e.isAside = true) :
    ∃ connection starts initialized shutDown, s' = { s with connection, starts } ∧
      connection.active = s.connection.active ∧
      connection.generation = s.connection.generation ∧
      connection.disableBackgroundUpdating = s.connection.disableBackgroundUpdating ∧
      connection.flags = { s.connection.flags with initialized, shutDown } ∧
      (s.connection.flags.shutDown = true → shutDown = true) := by
  cases e with
  | call | enter | cutOff | dispose | settle => cases he
  | switch identity =>
    obtain ⟨status, clock, rfl, -⟩ := step_switch h
    exact ⟨_, _, _, _, rfl, rfl, rfl, rfl, rfl, id⟩
  | deliver source delivery =>
    obtain ⟨-, rfl⟩ := step_deliver h
    unfold Connection.deliver
    split
    · obtain ⟨hactive, hgeneration, hdisable, -, shutDown, hflags, hkeep⟩ :=
        s.connection.accept_control delivery
      exact ⟨_, _, _, shutDown, rfl, hactive, hgeneration, hdisable, hflags, hkeep⟩
    · exact ⟨_, _, _, _, rfl, rfl, rfl, rfl, rfl, id⟩
  | checkStart source succeeded =>
    obtain ⟨starts, rfl⟩ := step_checkStart h
    exact ⟨_, _, _, _, rfl, rfl, rfl, rfl, rfl, id⟩
  | noteStart source succeeded =>
    obtain ⟨initialized, outcome, starts, rfl⟩ := step_noteStart h
    exact ⟨_, _, _, _, rfl, rfl, rfl, rfl, rfl, id⟩

/-! ### Runs -/

theorem run_cons (s : Traffic σ φ) (e : TrafficEvent φ) (es : List (TrafficEvent φ)) :
    s.run (e :: es) = (s.step e).bind (·.run es) :=
  List.foldlM_cons

theorem run_concat {s₁ : Traffic σ φ} {es : List (TrafficEvent φ)} {e : TrafficEvent φ}
    (h : s.run es = some s₁) (hstep : s₁.step e = some s') : s.run (es ++ [e]) = some s' :=
  History.foldlM_concat_eq_some.2 ⟨s₁, h, hstep⟩

theorem run_trans {s₁ : Traffic σ φ} {es es' : List (TrafficEvent φ)} (h : s.run es = some s₁)
    (h' : s₁.run es' = some s') : s.run (es ++ es') = some s' :=
  History.foldlM_append_eq_some.2 ⟨s₁, h, h'⟩

/-- A run comes through each of its events. -/
theorem run_append_cons {es es' : List (TrafficEvent φ)} {e : TrafficEvent φ}
    (h : s.run (es ++ e :: es') = some s') :
    ∃ s₁ s₂, s.run es = some s₁ ∧ s₁.step e = some s₂ ∧ s₂.run es' = some s' :=
  History.foldlM_append_cons_eq_some.1 h

/-- What holds at the beginning and is kept by each event holds after every run. The events so far
may take part. -/
theorem run_induction {motive : List (TrafficEvent φ) → Traffic σ φ → Prop}
    (start : motive [] s)
    (next : ∀ es e s₁ s₂, motive es s₁ → s₁.step e = some s₂ → motive (es ++ [e]) s₂)
    {es : List (TrafficEvent φ)} (h : s.run es = some s') : motive es s' :=
  History.foldlM_induction start (fun es e s₁ s₂ _ => next es e s₁ s₂) h

end Traffic

end LiveFlags
