import LiveFlags.Proofs.Connection.Outcome
import LiveFlags.Proofs.Connection.Offline

/-!
# What a yes means

A client that starts, goes online or switches the identity waits for the outcome of the attempt to
start, and answers with it. Somebody who is told yes takes it that the client is forced offline or
has data, after a switch data from a source that was built for the new identity (`Truthful`).

While the connection is open that is so, with one exception: a source that is replaced by a switch
may get through with its start at the last moment, if its generation was looked at before. After the
end of the connection it need not be so. No source is built any more, the outcome stays as it was at
the end, and a switch forgets that data have arrived, but not the outcome. `Sound` says in terms of
the events when neither of the two happens.

The calls are made one after the other here, but those before may have overlapped; sources may do
anything at any time.

Main statement: `truthful_iff`.
-/

namespace LiveFlags

/-- Nobody calls the client. -/
def TrafficEvent.IsQuiet {φ : Type} : TrafficEvent φ → Prop
  | .call _ | .switch _ => False
  | _ => True

/-- What a call does before it comes to the connection. -/
def ClientCall.opening {φ : Type} : ClientCall → List (TrafficEvent φ)
  | .switchIdentity identity => [.switch identity]
  | _ => []

/-- The call says yes, the connection being `c₀` before it and `c` when it answers. A start that
finds the connection closed says no at once. -/
def ClientCall.SaysYes {σ φ : Type} (call : ClientCall) (c₀ c : Connection σ φ) : Prop :=
  call.reply = .outcome ∧ (call = .start → c₀.flags.closed = false) ∧ c.outcome = true

namespace Traffic

variable {σ φ : Type} [Storage σ]

/-! ### Whether data have arrived -/

/-- A start has succeeded, and no call has asked for fresh data since. -/
def Arrived (es : List (TrafficEvent φ)) : Prop :=
  ∃ before source after, es = before ++ .noteStart source true :: after ∧
    ∀ call, .call call ∈ after → call.resets = false

omit [Storage σ] in
theorem not_arrived_nil : ¬ Arrived ([] : List (TrafficEvent φ)) := by
  rintro ⟨before, source, after, heq, -⟩
  simp at heq

omit [Storage σ] in
/-- Data have arrived with the start that succeeded last, unless fresh data were asked for after it.
-/
theorem arrived_concat {es : List (TrafficEvent φ)} {e : TrafficEvent φ} :
    Arrived (es ++ [e]) ↔ (∃ source, e = .noteStart source true) ∨
      (Arrived es ∧ ∀ call, e = .call call → call.resets = false) := by
  constructor
  · rintro ⟨before, source, after, heq, hafter⟩
    rcases History.split_concat heq with ⟨-, -, he⟩ | ⟨after', rfl, hes⟩
    · exact .inl ⟨source, he⟩
    · refine .inr ⟨⟨before, source, after', hes, fun call hmem => ?_⟩, fun call he => ?_⟩
      · exact hafter call (List.mem_append_left _ hmem)
      · exact hafter call (he ▸ List.mem_append_right _ List.mem_cons_self)
  · rintro (⟨source, rfl⟩ | ⟨⟨before, source, after, rfl, hafter⟩, he⟩)
    · exact ⟨es, source, [], rfl, nofun⟩
    · refine ⟨before, source, after ++ [e], by simp, fun call hmem => ?_⟩
      rcases List.mem_append.1 hmem with hmem | hmem
      · exact hafter call hmem
      · exact he call (List.mem_singleton.1 hmem).symm

/-- Only a start that succeeds marks the data as there, and only a call that asks for fresh data
takes the mark away. -/
theorem step_initialized {s s' : Traffic σ φ} {e : TrafficEvent φ} (h : s.step e = some s') :
    s'.connection.flags.initialized = true ↔ (∃ source, e = .noteStart source true) ∨
      (s.connection.flags.initialized = true ∧ ∀ call, e = .call call → call.resets = false) := by
  -- Apart from calls and starts that are noted, no event writes the flag.
  have hsame (heq : s'.connection.flags.initialized = s.connection.flags.initialized)
      (hcall : ∀ call, e ≠ .call call) (hnote : ∀ source, e ≠ .noteStart source true) :
      s'.connection.flags.initialized = true ↔ (∃ source, e = .noteStart source true) ∨
        (s.connection.flags.initialized = true ∧ ∀ call, e = .call call → call.resets = false) := by
    rw [heq]
    exact ⟨fun h => .inr ⟨h, fun call he => absurd he (hcall call)⟩,
      fun h => h.elim (fun ⟨source, he⟩ => absurd he (hnote source)) And.left⟩
  cases e with
  | call call =>
    cases h
    have hflag : (s.announce call).connection.flags.initialized =
        (s.connection.flags.initialized && !call.resets) := s.connection.announce_initialized call
    simp [hflag]
  | enter | cutOff | dispose | settle =>
    obtain ⟨connection, waiting, occupant, sources, rfl, -, heq⟩ := step_inside h rfl
    exact hsame heq nofun nofun
  | switch identity =>
    obtain ⟨status, clock, rfl, -⟩ := step_switch h
    exact hsame rfl nofun nofun
  | deliver source delivery =>
    obtain ⟨-, rfl⟩ := step_deliver h
    refine hsame ?_ nofun nofun
    unfold Connection.deliver
    split
    · obtain ⟨-, -, -, -, shutDown, hflags, -⟩ := s.connection.accept_control delivery
      simp only [hflags]
    · rfl
  | checkStart source succeeded =>
    obtain ⟨starts, rfl⟩ := step_checkStart h
    exact hsame rfl nofun nofun
  | noteStart source succeeded =>
    obtain ⟨-, rfl⟩ := noteStart_of_step h
    simp [Connection.acceptStart_eq, or_comm]

/-- The flag says whether data have arrived, wherever a run begins without them. -/
theorem initialized_iff_arrived {s s' : Traffic σ φ}
    (hs : s.connection.flags.initialized = false) {es : List (TrafficEvent φ)}
    (h : s.run es = some s') : s'.connection.flags.initialized = true ↔ Arrived es := by
  refine run_induction (motive := fun es s => s.connection.flags.initialized = true ↔ Arrived es)
    ?_ (fun es e s₁ s₂ hm hstep => ?_) h
  · rw [hs]
    exact ⟨nofun, fun h => absurd h not_arrived_nil⟩
  · rw [step_initialized hstep, arrived_concat, hm]

/-! ### What is known of a source -/

/-- The start of a source is noted only after it was looked at. -/
theorem mem_generations_of_noteStart {c : Connection σ φ} {es : List (TrafficEvent φ)}
    {s : Traffic σ φ} (h : (around c).run es = some s) {source : Nat} {succeeded : Bool}
    (hmem : .noteStart source succeeded ∈ es) :
    .checkStart source succeeded ∈ es ∧ source ∈ s.generations := by
  suffices (around c).run es = some s ∧ (.noteStart source succeeded ∈ es →
      .checkStart source succeeded ∈ es ∧ source ∈ s.generations) from this.2 hmem
  refine run_induction (motive := fun es s => (around c).run es = some s ∧
    (.noteStart source succeeded ∈ es →
      .checkStart source succeeded ∈ es ∧ source ∈ s.generations)) ⟨rfl, nofun⟩ ?_ h
  rintro es e s₁ s₂ ⟨hrun, hm⟩ hstep
  have hsubset := generations_subset_of_step hstep
  refine ⟨run_concat hrun hstep, fun hmem => ?_⟩
  rcases List.mem_append.1 hmem with hmem | hmem
  · obtain ⟨hchecked, hbuilt⟩ := hm hmem
    exact ⟨List.mem_append_left _ hchecked, hsubset hbuilt⟩
  · cases List.mem_singleton.1 hmem
    obtain ⟨hchecked, hbuilt⟩ := mem_starts_of_run hrun (noteStart_of_step hstep).1
    exact ⟨List.mem_append_left _ hchecked, hsubset hbuilt⟩

/-- Nobody delivers before it is built. -/
theorem mem_generations_of_deliver {s s' : Traffic σ φ} {es : List (TrafficEvent φ)}
    (h : s.run es = some s') {source : Nat} {delivery : Delivery}
    (hmem : .deliver source delivery ∈ es) : source ∈ s'.generations := by
  refine run_induction (motive := fun es s => .deliver source delivery ∈ es →
    source ∈ s.generations) nofun (fun es e s₁ s₂ hm hstep hmem => ?_) h hmem
  refine generations_subset_of_step hstep ?_
  rcases List.mem_append.1 hmem with hmem | hmem
  · exact hm hmem
  · cases List.mem_singleton.1 hmem
    exact (step_deliver hstep).1

/-- Only a switch changes the identity. -/
theorem step_identity {s s' : Traffic σ φ} {e : TrafficEvent φ} (h : s.step e = some s')
    (he : ∀ identity, e ≠ .switch identity) :
    s'.connection.data.identity = s.connection.data.identity := by
  cases e with
  | switch identity => exact absurd rfl (he identity)
  | call call =>
    cases h
    obtain ⟨flags, factory, heq⟩ := s.connection.announce_control call
    simp only [announce, heq]
  | enter | cutOff | dispose | settle =>
    obtain ⟨connection, waiting, occupant, sources, rfl, heq, -⟩ := step_inside h rfl
    exact congrArg FlagData.identity heq
  | deliver source delivery =>
    obtain ⟨-, rfl⟩ := step_deliver h
    simp only [Connection.deliver]
    split
    · exact (s.connection.accept_control delivery).2.2.2.1
    · rfl
  | checkStart source succeeded =>
    obtain ⟨starts, rfl⟩ := step_checkStart h
    rfl
  | noteStart source succeeded =>
    obtain ⟨initialized, outcome, starts, rfl⟩ := step_noteStart h
    rfl

/-- A source that is built while nobody switches the identity is built for the one of now. -/
theorem context_identity_of_run {s s' : Traffic σ φ} {es : List (TrafficEvent φ)}
    (h : s.run es = some s') (hes : ∀ identity, .switch identity ∉ es) :
    s'.connection.data.identity = s.connection.data.identity ∧
      ∀ b ∈ s'.sources, b.generation ∉ s.generations →
        b.context.identity = s.connection.data.identity := by
  refine run_induction (motive := fun es s' => (∀ identity, .switch identity ∉ es) →
    s'.connection.data.identity = s.connection.data.identity ∧
      ∀ b ∈ s'.sources, b.generation ∉ s.generations →
        b.context.identity = s.connection.data.identity) ?_
    (fun es e s₁ s₂ hm hstep hes => ?_) h hes
  · exact fun _ => ⟨rfl, fun b hb hnew => absurd (List.mem_map_of_mem hb) hnew⟩
  · simp only [List.mem_append, List.mem_singleton, not_or] at hes
    obtain ⟨hidentity, hbuilt⟩ := hm fun identity => (hes identity).1
    refine ⟨(step_identity hstep fun identity => Ne.symm (hes identity).2).trans hidentity,
      fun b hb hnew => ?_⟩
    have hmem : (b.generation, b.context) ∈
        s₂.sources.map fun b => (b.generation, b.context) := List.mem_map_of_mem hb
    have hold (hmem : (b.generation, b.context) ∈
        s₁.sources.map fun b => (b.generation, b.context)) :
        b.context.identity = s.connection.data.identity := by
      obtain ⟨a, ha, heq⟩ := List.mem_map.1 hmem
      obtain ⟨hgeneration, hcontext⟩ := Prod.mk.inj heq
      rw [← hcontext]
      exact hbuilt a ha (hgeneration ▸ hnew)
    -- No source is new, or one that was built for the identity of the moment.
    rcases step_sources hstep with heq | heq
    · exact hold (heq ▸ hmem)
    · rw [heq] at hmem
      rcases List.mem_append.1 hmem with hmem | hmem
      · exact hold hmem
      · obtain ⟨-, hcontext⟩ := Prod.mk.inj (List.mem_singleton.1 hmem)
        rw [hcontext]
        exact hidentity

/-! ### Calls one after the other -/

/-- The call is made with no other one on its way, and is through at the end. Sources may do
anything in the meantime. -/
structure Alone (call : ClientCall) (s₀ : Traffic σ φ) (during : List (TrafficEvent φ))
    (s : Traffic σ φ) : Prop where
  before : s₀.AtRest
  run : s₀.run during = some s
  events : ∃ gap after, during = call.opening ++ gap ++ .call call.toConnectionCall :: after ∧
    ∀ e ∈ gap ++ after, e.IsQuiet
  after : s.AtRest

/-- A source whose start succeeds delivers a snapshot for the identity that it was built for. -/
def StartsDeliver (es : List (TrafficEvent φ)) (s : Traffic σ φ) : Prop :=
  ∀ b ∈ s.sources, .checkStart b.generation true ∈ es →
    ∃ snapshot, .deliver b.generation (.snapshot b.context.identity snapshot) ∈ es

/-- What somebody who is told yes may expect. -/
structure Truthful (call : ClientCall) (s₀ : Traffic σ φ) (during : List (TrafficEvent φ))
    (s : Traffic σ φ) : Prop where
  ready : s.connection.flags.forceOffline = true ∨ s.connection.flags.initialized = true
  /-- After a switch, a source that was built for the new identity has delivered and started. -/
  fresh : ∀ identity, call = .switchIdentity identity → s.connection.flags.forceOffline = false →
    ∃ b ∈ s.sources, b.generation ∉ s₀.generations ∧ b.context.identity = identity ∧
      .noteStart b.generation true ∈ during ∧
      ∃ snapshot, .deliver b.generation (.snapshot identity snapshot) ∈ during

/-- When a yes can be relied on. -/
structure Sound (call : ClientCall) (s₀ : Traffic σ φ) (before during : List (TrafficEvent φ))
    (s : Traffic σ φ) : Prop where
  /-- If the connection has come to its end, data have arrived since fresh data were asked for. -/
  ended : s.connection.flags.closed = true ∨ s.connection.flags.shutDown = true →
    s.connection.flags.forceOffline = false → Arrived (before ++ during)
  /-- No source gets through with its start when it is replaced by a switch, unless another one does
  as well. -/
  replaced : ∀ identity, call = .switchIdentity identity →
    s.connection.flags.forceOffline = false → ∀ source ∈ s₀.generations,
      .noteStart source true ∈ during → ∃ new ∉ s₀.generations, .noteStart new true ∈ during

/-- A yes is a good one but after the end of the connection, unless data are there. -/
theorem ready_of_outcome {c : Connection σ φ} (hc : c.IsNew) {es : List (TrafficEvent φ)}
    {s : Traffic σ φ} (h : (around c).run es = some s) (hrest : s.AtRest)
    (htrue : s.connection.outcome = true)
    (hended : s.connection.flags.closed = true ∨ s.connection.flags.shutDown = true →
      s.connection.flags.forceOffline = false → s.connection.flags.initialized = true) :
    s.connection.flags.forceOffline = true ∨ s.connection.flags.initialized = true := by
  have htrue : s.connection.startOutcome = some true := by
    unfold Connection.outcome at htrue
    cases houtcome : s.connection.startOutcome with
    | none => simp [houtcome] at htrue
    | some outcome => simpa [houtcome] using htrue
  by_cases hend : s.connection.flags.closed = true ∨ s.connection.flags.shutDown = true
  · cases hforced : s.connection.flags.forceOffline with
    | true => exact .inl rfl
    | false => exact .inr (hended hend hforced)
  · -- A connection that was never started has no outcome, so this one is open.
    simp only [not_or, Bool.not_eq_true] at hend
    cases hstarted : s.connection.flags.started with
    | true => exact ready_of_atRest hc h hrest ⟨hstarted, hend⟩ htrue
    | false => cases ((decided_of_run hc h).untouched hstarted hend.1).symm.trans htrue

section Switch

variable {identity : Identity} {s₀ s : Traffic σ φ} {during : List (TrafficEvent φ)}

/-- A switch asks for fresh data, so that data are there only if a start has succeeded since. -/
theorem Alone.exists_noteStart (h : Alone (.switchIdentity identity) s₀ during s)
    (hs : s.connection.flags.initialized = true) : ∃ source, .noteStart source true ∈ during := by
  obtain ⟨gap, after, heq, -⟩ := h.events
  have hrun := h.run
  rw [heq] at hrun
  obtain ⟨s₁, s₂, -, hstep, hafter⟩ := run_append_cons hrun
  have hreset : s₂.connection.flags.initialized = false := by
    cases hstep
    exact (s₁.connection.announce_initialized _).trans (Bool.and_false _)
  obtain ⟨_, source, _, hmem, -⟩ := (initialized_iff_arrived hreset hafter).1 hs
  refine ⟨source, ?_⟩
  rw [heq, hmem]
  simp

/-- All sources that are built since are for the new identity. -/
theorem Alone.context_identity (h : Alone (.switchIdentity identity) s₀ during s) :
    ∀ b ∈ s.sources, b.generation ∉ s₀.generations → b.context.identity = identity := by
  obtain ⟨gap, after, heq, hquiet⟩ := h.events
  have hrun := h.run
  rw [heq, ClientCall.opening, List.append_assoc, List.singleton_append, run_cons] at hrun
  obtain ⟨s₁, hstep, hrest⟩ := Option.bind_eq_some_iff.1 hrun
  obtain ⟨status, clock, rfl, -⟩ := step_switch hstep
  refine (context_identity_of_run hrest fun other hmem => ?_).2
  rcases List.mem_append.1 hmem with hmem | hmem
  · exact hquiet _ (List.mem_append_left _ hmem)
  · rcases List.mem_cons.1 hmem with hmem | hmem
    · cases hmem
    · exact hquiet _ (List.mem_append_right _ hmem)

end Switch

/-! ### The main statement -/

/-- **A yes is true**, in a run of calls that come one after the other, just if it is sound. -/
theorem truthful_iff {c : Connection σ φ} (hc : c.IsNew) {before : List (TrafficEvent φ)}
    {s₀ : Traffic σ φ} (hbefore : (around c).run before = some s₀) {call : ClientCall}
    {during : List (TrafficEvent φ)} {s : Traffic σ φ} (h : Alone call s₀ during s)
    (hyes : call.SaysYes s₀.connection s.connection)
    (hstarts : StartsDeliver (before ++ during) s) :
    Truthful call s₀ during s ↔ Sound call s₀ before during s := by
  have hrun : (around c).run (before ++ during) = some s := run_trans hbefore h.run
  have hnew : c.flags.initialized = false := by
    rw [hc.flags]
  have harrived : s.connection.flags.initialized = true ↔ Arrived (before ++ during) :=
    initialized_iff_arrived hnew hrun
  constructor
  · intro ht
    refine ⟨fun _ hforced => ?_, fun identity hcall hforced source _ _ => ?_⟩
    · rcases ht.ready with hready | hready
      · cases hforced.symm.trans hready
      · exact harrived.1 hready
    · obtain ⟨b, -, hgeneration, -, hnote, -⟩ := ht.fresh identity hcall hforced
      exact ⟨b.generation, hgeneration, hnote⟩
  · intro hs
    -- The outcome vouches for the data, and the data for a start since the switch.
    have hready := ready_of_outcome hc hrun h.after hyes.2.2 fun hend hforced =>
      harrived.2 (hs.ended hend hforced)
    refine ⟨hready, fun identity hcall hforced => ?_⟩
    subst hcall
    have hinitialized : s.connection.flags.initialized = true := by
      rcases hready with hready | hready
      · cases hforced.symm.trans hready
      · exact hready
    obtain ⟨new, hgeneration, hnote⟩ :
        ∃ new ∉ s₀.generations, .noteStart new true ∈ during := by
      obtain ⟨source, hnote⟩ := h.exists_noteStart hinitialized
      by_cases hold : source ∈ s₀.generations
      · exact hs.replaced identity rfl hforced source hold hnote
      · exact ⟨source, hold, hnote⟩
    -- Nobody knew of that source before the switch, so it cannot have delivered then.
    obtain ⟨hchecked, hbuilt⟩ :=
      mem_generations_of_noteStart hrun (List.mem_append_right before hnote)
    obtain ⟨b, hb, rfl⟩ := List.mem_map.1 hbuilt
    have hidentity := h.context_identity b hb hgeneration
    obtain ⟨snapshot, hdelivered⟩ := hstarts b hb hchecked
    refine ⟨b, hb, hgeneration, hidentity, hnote, snapshot, ?_⟩
    rw [hidentity] at hdelivered
    rcases List.mem_append.1 hdelivered with hdelivered | hdelivered
    · exact absurd (mem_generations_of_deliver hbefore hdelivered) hgeneration
    · exact hdelivered

/-- A source delivers for this identity, and its start succeeds. -/
def success (source : Nat) (identity : Identity) : List (TrafficEvent Unit) :=
  [.deliver source (.snapshot identity ∅), .checkStart source true, .noteStart source true]

/-- The first source of a connection brings data. -/
def arrival : List (TrafficEvent Unit) :=
  [.call .start, .enter 0, .cutOff, .settle] ++ success 1 { key := "user" }

/-- Somebody else takes over, and the next source brings data for them. -/
def takeover : List (TrafficEvent Unit) :=
  [.switch { key := "other" }, .call (.reconfigure none true), .enter 1, .cutOff, .dispose,
    .settle] ++ success 3 { key := "other" }

theorem truthful_takeover : ∃ s₀ s, (around Connection.plain).run arrival = some s₀ ∧
    Alone (.switchIdentity { key := "other" }) s₀ takeover s ∧
    Truthful (.switchIdentity { key := "other" }) s₀ takeover s := by
  obtain ⟨s₀, h₀, hold, s, h, hyes, hend, hsources⟩ : ∃ s₀,
      (around Connection.plain).run arrival = some s₀ ∧ s₀.generations = [1] ∧
      ∃ s, Alone (.switchIdentity { key := "other" }) s₀ takeover s ∧
        ClientCall.SaysYes (.switchIdentity { key := "other" }) s₀.connection s.connection ∧
        (s.connection.flags.closed = false ∧ s.connection.flags.shutDown = false) ∧
        s.sources.map (fun b => (b.generation, b.context.identity)) =
          [(1, { key := "user" }), (3, { key := "other" })] := by
    refine ⟨_, rfl, rfl, _, ⟨⟨rfl, rfl⟩, rfl, ⟨[], _, rfl, ?_⟩, ⟨rfl, rfl⟩⟩, ⟨rfl, nofun, rfl⟩,
      ⟨rfl, rfl⟩, rfl⟩
    simp [success, TrafficEvent.IsQuiet]
  have hstarts : StartsDeliver (arrival ++ takeover) s := by
    intro b hb _
    have hmem : (b.generation, b.context.identity) ∈
        [(1, ({ key := "user" } : Identity)), (3, { key := "other" })] :=
      hsources ▸ List.mem_map_of_mem hb
    refine ⟨∅, ?_⟩
    rcases List.mem_cons.1 hmem with heq | hmem
    · obtain ⟨hgeneration, hidentity⟩ := Prod.mk.inj heq
      rw [hgeneration, hidentity]
      simp [arrival, success]
    · obtain ⟨hgeneration, hidentity⟩ := Prod.mk.inj (List.mem_singleton.1 hmem)
      rw [hgeneration, hidentity]
      simp [takeover, success]
  refine ⟨s₀, s, h₀, h, (truthful_iff Connection.isNew_plain h₀ h hyes hstarts).2 ⟨?_, ?_⟩⟩
  · rintro (hclosed | hshut)
    · cases hend.1.symm.trans hclosed
    · cases hend.2.symm.trans hshut
  · refine fun _ _ _ _ _ _ => ⟨3, ?_, ?_⟩
    · rw [hold]
      decide
    · simp [takeover, success]

/-- The source has failed before the switch, so nobody brings data for the new identity; the client
says yes at once because there were data for the one before. -/
theorem exists_not_truthful : ∃ s₀ s,
    (around Connection.plain).run (arrival ++ [.deliver 1 (.failure (.response 401))]) = some s₀ ∧
    Alone (.switchIdentity { key := "other" }) s₀
      [.switch { key := "other" }, .call (.reconfigure none true), .enter 1] s ∧
    ClientCall.SaysYes (.switchIdentity { key := "other" }) s₀.connection s.connection ∧
    ¬ (s.connection.flags.forceOffline = true ∨ s.connection.flags.initialized = true) := by
  refine ⟨_, _, rfl, ⟨⟨rfl, rfl⟩, rfl, ⟨[], _, rfl, ?_⟩, ⟨rfl, rfl⟩⟩, ⟨rfl, nofun, rfl⟩, ?_⟩
  · simp [TrafficEvent.IsQuiet]
  · rintro (hforced | hinitialized)
    · cases hforced
    · cases hinitialized

end Traffic

end LiveFlags
