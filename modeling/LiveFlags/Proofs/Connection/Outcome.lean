import LiveFlags.Proofs.Connection.Settled

/-!
# The outcome of an attempt to start

Whoever waits for data waits for the outcome of the current attempt to start. It is opened again
when a source is built for which there are no data yet, it is decided once by the source, and it is
replaced when the connection goes offline. In between it stays as it is, although the flags go on to
change.

`Decided` is the invariant: while the critical section is free and nobody is waiting to bring the
source in line with the flags, the outcome of an open connection says what the flags say. An outcome
that is true then means that the connection is forced offline or that data have arrived.

A connection that is not open does not come to the critical section any more, and its outcome is
whatever it was before.

Main statement: `ready_of_atRest`.
-/

namespace LiveFlags

/-- The event is a step of a call in the critical section. -/
def TrafficEvent.isInside {φ : Type} : TrafficEvent φ → Bool
  | .enter _ | .cutOff | .dispose | .settle => true
  | .call _ | .switch _ | .deliver .. | .checkStart .. | .noteStart .. => false

/-- The call asks for fresh data. -/
def ConnectionCall.resets {φ : Type} : ConnectionCall φ → Bool
  | .reconfigure _ reset => reset
  | _ => false

namespace Connection

variable {σ φ : Type}

/-! ### Who writes the outcome -/

/-- A new source leaves the attempt open, unless data have arrived before. -/
theorem settle_replace_startOutcome (c : Connection σ φ) :
    (c.settle .replace).2.startOutcome = if c.flags.initialized then some true else none := by
  simp only [settle, build]
  split <;> rfl

theorem settle_goOffline_startOutcome (c : Connection σ φ) (state : ConnectionState) :
    (c.settle (.goOffline state)).2.startOutcome = some (decide (state = .setOffline)) :=
  rfl

/-- Only a connection that is forced offline goes to this state. -/
theorem forceOffline_of_setOffline {c : Connection σ φ} (h : c.offlineState? = some .setOffline) :
    c.flags.forceOffline = true := by
  have hstate := offlineState?_eq_some h
  split at hstate
  · next hforced => exact hforced
  · split at hstate <;> cases hstate

/-- A delivery leaves the outcome alone, unless the source has failed. -/
theorem accept_startOutcome [Storage σ] (c : Connection σ φ) (delivery : Delivery) :
    (c.accept delivery).flags.shutDown = true ∨
      (c.accept delivery).startOutcome = c.startOutcome := by
  cases hstep : delivery.dataStep? with
  | some step =>
    obtain ⟨status, clock, h, -⟩ := c.accept_data_eq hstep
    rw [h]
    exact .inr rfl
  | none =>
    cases delivery with
    | snapshot | item => cases hstep
    | status => exact .inr rfl
    | failure => exact .inl rfl

/-- Of all calls, only one that asks for fresh data forgets that data have arrived. -/
theorem announce_initialized (c : Connection σ φ) (call : ConnectionCall φ) :
    (c.announce call).2.flags.initialized = (c.flags.initialized && !call.resets) := by
  cases call with
  | reconfigure factory reset => rfl
  | start | setForceOffline | setNetworkEnabled | setInBackground | close =>
    simp only [announce, ConnectionCall.resets, Bool.not_false, Bool.and_true]
    split <;> rfl

end Connection

namespace Traffic

variable {σ φ : Type}

/-! ### Sources and their starts -/

section Sources

variable [Storage σ] {s s' : Traffic σ φ} {e : TrafficEvent φ}

/-- The steps of a call in the critical section do not touch the data, nor the starts that are about
to be noted, and they do not forget that data have arrived. -/
theorem step_inside (h : s.step e = some s') (he : e.isInside = true) :
    ∃ connection waiting occupant sources, s' = { s with connection, waiting, occupant, sources } ∧
      connection.data = s.connection.data ∧
      connection.flags.initialized = s.connection.flags.initialized := by
  cases e with
  | call | switch | deliver | checkStart | noteStart => cases he
  | enter call =>
    obtain ⟨-, critical, -, rfl⟩ := step_enter h
    exact ⟨_, _, _, _, rfl, rfl, rfl⟩
  | cutOff =>
    obtain ⟨call, plan, -, rfl⟩ := step_cutOff h
    obtain ⟨generation, progress, sources, heq, -⟩ := s.cutOff_eq call plan
    exact ⟨_, _, _, _, heq, rfl, rfl⟩
  | dispose =>
    obtain ⟨call, plan, source, -, rfl⟩ := step_dispose h
    exact ⟨_, _, _, _, rfl, rfl, rfl⟩
  | settle =>
    obtain ⟨call, plan, -, rfl⟩ := step_settle h
    rcases s.settle_cases plan with
      ⟨-, status, clock, outcome, heq, -⟩ | ⟨-, status, clock, outcome, heq, -⟩
    · exact ⟨_, _, _, _, heq, rfl, rfl⟩
    · exact ⟨_, _, _, _, heq, rfl, rfl⟩

/-- Sources are added one by one, for the identity and the flags of that moment; those that are
there go through their stages and change nothing else. -/
theorem step_sources (h : s.step e = some s') :
    (s'.sources.map fun b => (b.generation, b.context)) =
        (s.sources.map fun b => (b.generation, b.context)) ∨
      (s'.sources.map fun b => (b.generation, b.context)) =
        (s.sources.map fun b => (b.generation, b.context)) ++
          [(s.connection.generation + 1, s.connection.sourceContext)] := by
  have hstage (generation : Nat) (stage : SourceStage) :
      ((s.withStage generation stage).map fun b => (b.generation, b.context)) =
        s.sources.map fun b => (b.generation, b.context) := by
    simp only [withStage, List.map_map]
    refine List.map_congr_left fun b _ => ?_
    simp only [Function.comp]
    split <;> rfl
  cases e with
  | call call =>
    cases h
    exact .inl rfl
  | enter call =>
    obtain ⟨-, critical, -, rfl⟩ := step_enter h
    exact .inl rfl
  | cutOff =>
    obtain ⟨call, plan, -, rfl⟩ := step_cutOff h
    unfold cutOff
    split
    · exact .inl (hstage _ _)
    · exact .inl rfl
  | dispose =>
    obtain ⟨call, plan, source, -, rfl⟩ := step_dispose h
    exact .inl (hstage _ _)
  | settle =>
    obtain ⟨call, plan, -, rfl⟩ := step_settle h
    rcases s.settle_cases plan with
      ⟨-, status, clock, outcome, heq, -⟩ | ⟨-, status, clock, outcome, heq, -⟩
    · rw [heq]
      exact .inr List.map_append
    · rw [heq]
      exact .inl rfl
  | switch | deliver | checkStart | noteStart =>
    obtain ⟨connection, starts, _, _, rfl, -⟩ := step_aside h rfl
    exact .inl rfl

/-- A source is never forgotten. -/
theorem generations_subset_of_step (h : s.step e = some s') : s.generations ⊆ s'.generations := by
  have hmap (t : Traffic σ φ) :
      t.generations = (t.sources.map fun b => (b.generation, b.context)).map Prod.fst := by
    simp [generations]
  rw [hmap, hmap]
  rcases step_sources h with heq | heq
  · rw [heq]
    exact List.Subset.refl _
  · rw [heq, List.map_append]
    exact List.subset_append_left ..

/-- A start is noted once for each time that it was found to be the current one. -/
theorem noteStart_of_step {source : Nat} {succeeded : Bool}
    (h : s.step (.noteStart source succeeded) = some s') :
    (source, succeeded) ∈ s.starts ∧ s' = { s with
      connection := s.connection.acceptStart succeeded
      starts := s.starts.erase (source, succeeded) } := by
  simp only [step] at h
  split at h
  · next hmem => exact ⟨hmem, (Option.some.inj h).symm⟩
  · cases h

/-- A start is about to be noted only after it was looked at, for a source that was built. -/
theorem mem_starts_of_step (h : s.step e = some s') {entry : Nat × Bool}
    (hentry : entry ∈ s'.starts) :
    entry ∈ s.starts ∨ (e = .checkStart entry.1 entry.2 ∧ entry.1 ∈ s.generations) := by
  cases e with
  | call call =>
    cases h
    exact .inl hentry
  | enter | cutOff | dispose | settle =>
    obtain ⟨connection, waiting, occupant, sources, rfl, -⟩ := step_inside h rfl
    exact .inl hentry
  | switch identity =>
    obtain ⟨status, clock, rfl, -⟩ := step_switch h
    exact .inl hentry
  | deliver source delivery =>
    obtain ⟨-, rfl⟩ := step_deliver h
    exact .inl hentry
  | checkStart source succeeded =>
    simp only [step] at h
    split at h
    · next hmem =>
      cases h
      unfold checkStart at hentry
      split at hentry
      · rcases List.mem_append.1 hentry with hentry | hentry
        · exact .inl hentry
        · cases List.mem_singleton.1 hentry
          exact .inr ⟨rfl, hmem⟩
      · exact .inl hentry
    · cases h
  | noteStart source succeeded =>
    obtain ⟨-, rfl⟩ := noteStart_of_step h
    exact .inl (List.mem_of_mem_erase hentry)

/-- What is noted late of a start was looked at before, and its source was built. -/
theorem mem_starts_of_run {c : Connection σ φ} {es : List (TrafficEvent φ)}
    (h : (around c).run es = some s) {entry : Nat × Bool} (hentry : entry ∈ s.starts) :
    .checkStart entry.1 entry.2 ∈ es ∧ entry.1 ∈ s.generations := by
  refine run_induction (motive := fun es s => ∀ entry ∈ s.starts,
    .checkStart entry.1 entry.2 ∈ es ∧ entry.1 ∈ s.generations)
    (fun _ h => absurd h List.not_mem_nil) ?_ h entry hentry
  intro es e s₁ s₂ hs hstep entry hentry
  have hsubset := generations_subset_of_step hstep
  rcases mem_starts_of_step hstep hentry with hentry | ⟨rfl, hmem⟩
  · obtain ⟨hchecked, hmem⟩ := hs entry hentry
    exact ⟨List.mem_append_left _ hchecked, hsubset hmem⟩
  · exact ⟨List.mem_append_right _ List.mem_cons_self, hsubset hmem⟩

end Sources

/-! ### The invariant -/

/-- What the outcome of the current attempt says. The first three parts are about a connection that
was not started: nobody can decide its attempt but a call that closes it. -/
structure Decided (s : Traffic σ φ) : Prop where
  stopped : s.connection.flags.started = false → s.sources = []
  closing : ∀ o, s.occupant = some o → o.plan = .close → s.connection.flags.closed = true
  untouched : s.connection.flags.started = false → s.connection.flags.closed = false →
    s.connection.startOutcome = none
  offline : s.connection.IsOpen → ¬ s.OwesUpdate → s.occupant = none →
    ∀ state, s.connection.offlineState? = some state →
      s.connection.startOutcome = some (decide (state = .setOffline))
  online : s.connection.IsOpen → ¬ s.OwesRebuild → s.occupant = none →
    s.connection.active.isSome = true → s.connection.startOutcome = some true →
      s.connection.flags.initialized = true

theorem decided_around {c : Connection σ φ} (hc : c.IsNew) : Decided (around c) where
  stopped _ := rfl
  closing := nofun
  untouched _ _ := hc.startOutcome
  offline := by
    intro hopen
    have hstarted : c.flags.started = true := hopen.1
    rw [hc.flags] at hstarted
    cases hstarted
  online := by
    intro _ _ _ hactive
    simp only [around, hc.active] at hactive
    cases hactive

/-- In the critical section nothing is promised of the outcome. -/
theorem Decided.of_occupied {s s' : Traffic σ φ} (hs : Decided s) {o : Occupant}
    (ho : s'.occupant = some o) (hsources : s'.sources.length = s.sources.length)
    (hflags : s'.connection.flags = s.connection.flags)
    (houtcome : s'.connection.startOutcome = s.connection.startOutcome)
    (hclosing : o.plan = .close → s.connection.flags.closed = true) : Decided s' where
  stopped h := by
    rw [hflags] at h
    rw [hs.stopped h] at hsources
    exact List.eq_nil_of_length_eq_zero hsources
  closing o' ho' hplan := by
    cases ho.symm.trans ho'
    rw [hflags]
    exact hclosing hplan
  untouched := by
    rw [hflags, houtcome]
    exact hs.untouched
  offline _ _ hfree := by cases ho.symm.trans hfree
  online _ _ hfree := by cases ho.symm.trans hfree

theorem Decided.announce {s : Traffic σ φ} (hs : Decided s) (hp : Planned s)
    (call : ConnectionCall φ) : Decided (s.announce call) := by
  obtain ⟨flags, factory, hcontrol⟩ := s.connection.announce_control call
  have houtcome : (s.announce call).connection.startOutcome = s.connection.startOutcome := by
    simp only [Traffic.announce, hcontrol]
  have hactive : (s.announce call).connection.active = s.connection.active := by
    simp only [Traffic.announce, hcontrol]
  rcases s.connection.announce_cases call with
    ⟨heq, -⟩ | ⟨rebuild, hcritical, hclosed, -, hstarted, hkeeps⟩ | heq
  · have hsame : s.announce call = { s with calls := s.calls + 1 } := by
      simp [Traffic.announce, heq]
    rw [hsame]
    exact { hs with }
  · have hnot : (s.announce call).connection.flags.started = false →
        s.connection.flags.started = false := by
      intro h
      cases hstart : s.connection.flags.started with
      | false => rfl
      | true => cases (hstarted hstart).symm.trans h
    refine ⟨fun h => hs.stopped (hnot h), fun o ho hplan => hclosed.trans (hs.closing o ho hplan),
      fun h h' => ?_, fun _ howes => absurd (owesUpdate_announce hcritical) howes,
      fun hopen howes hfree hsome htrue => ?_⟩
    · rw [houtcome]
      exact hs.untouched (hnot h) (hclosed.symm.trans h')
    · cases rebuild with
      | true => exact absurd (owesRebuild_announce hcritical) howes
      | false =>
        -- A call that asks for no rebuild does not forget the data either.
        have hkept : call.resets = false := by
          cases call with
          | reconfigure factory reset => exact absurd rfl ((hkeeps rfl).2 factory reset)
          | start | setForceOffline | setNetworkEnabled | setInBackground | close => rfl
        rw [hactive] at hsome
        rw [houtcome] at htrue
        have hopen := hp.isOpen_of_announce hopen hsome
        have harrived := hs.online hopen (fun h => howes (h.announce call)) hfree hsome htrue
        refine (s.connection.announce_initialized call).trans ?_
        rw [hkept, harrived]
        rfl
  · have hclosed : (s.announce call).connection.flags.closed = true := by
      simp only [Traffic.announce, heq]
    have hnot : ¬ (s.announce call).connection.IsOpen := by
      intro ho
      cases hclosed.symm.trans ho.2.1
    refine ⟨fun h => hs.stopped ?_, fun _ _ _ => hclosed, fun _ h => ?_, fun ho => absurd ho hnot,
      fun ho => absurd ho hnot⟩
    · simpa only [Traffic.announce, heq] using h
    · cases hclosed.symm.trans h

theorem Decided.grant {s : Traffic σ φ} (hs : Decided s) (hp : Planned s)
    (hfree : s.occupant = none) {call : Nat} {critical : Critical}
    (hmem : (call, critical) ∈ s.waiting) : Decided (s.grant call critical) := by
  rcases s.grant_cases call critical with ⟨hstay, ho⟩ | ⟨-, ho⟩
  · -- The source stays, so the call has not asked for another one.
    refine ⟨hs.stopped, fun o ho' => ?_, hs.untouched, fun hopen _ _ state hstate => ?_,
      fun hopen howes _ => ?_⟩
    · cases ho.symm.trans ho'
    · cases (hopen.of_stay hstay).2.1.symm.trans hstate
    · obtain ⟨rfl, -⟩ := hopen.of_stay hstay
      exact hs.online hopen (fun h => howes (h.grant call)) hfree
  · refine hs.of_occupied ho rfl rfl rfl fun hplan => ?_
    cases critical with
    | close => exact hp.closing call hmem
    | update rebuild =>
      simp only [Connection.plan] at hplan
      split at hplan
      · cases hplan
      · split at hplan
        · cases hplan
        · split at hplan <;> cases hplan

/-- A plan that is settled leaves the outcome that belongs to it. -/
theorem Decided.settle {s : Traffic σ φ} (hs : Decided s) (hg : Guarded s) (hp : Planned s)
    {call : Nat} {plan : Plan} (ho : s.occupant = some ⟨call, plan, .cleared⟩) :
    Decided (s.settle plan) := by
  have hnone := hg.active_of_cleared ho
  rcases s.settle_cases plan with
    ⟨rfl, status, clock, outcome, heq, -⟩ | ⟨hne, status, clock, outcome, heq, -⟩
  · have houtcome : outcome = if s.connection.flags.initialized then some true else none := by
      refine Eq.trans ?_ s.connection.settle_replace_startOutcome
      exact (congrArg (·.connection.startOutcome) heq).symm
    have hstarted : s.connection.flags.started = true := by
      cases hstart : s.connection.flags.started with
      | true => rfl
      | false => cases (hp.stopped hstart).2 _ ho
    rw [heq]
    refine ⟨fun h => ?_, fun _ hfree => ?_, fun h => ?_, fun hopen howes _ state hstate => ?_,
      fun _ _ _ _ htrue => ?_⟩
    · cases hstarted.symm.trans h
    · cases hfree
    · cases hstarted.symm.trans h
    · have hgoal : .replace = s.connection.goal := hp.agreed hopen howes _ ho
      have hstate : s.connection.offlineState? = some state := hstate
      simp only [Connection.goal, hstate] at hgoal
      cases hgoal
    · have htrue : outcome = some true := htrue
      rw [houtcome] at htrue
      split at htrue
      · next h => exact h
      · cases htrue
  · rw [heq]
    refine ⟨hs.stopped, fun _ hfree => ?_, fun h h' => ?_, fun hopen howes _ state hstate => ?_,
      fun _ _ _ hsome => ?_⟩
    · cases hfree
    · -- Only the call that closes a connection gets here before it was started.
      cases (hs.closing _ ho ((hp.stopped h).2 _ ho)).symm.trans h'
    · have hgoal : plan = s.connection.goal := hp.agreed hopen howes _ ho
      have hstate : s.connection.offlineState? = some state := hstate
      simp only [Connection.goal, hstate] at hgoal
      subst hgoal
      refine Eq.trans ?_ (s.connection.settle_goOffline_startOutcome state)
      exact (congrArg (·.connection.startOutcome) heq).symm
    · simp only [hnone] at hsome
      cases hsome

/-- What a source does may decide an attempt that is open, and data have arrived if it succeeds. -/
theorem Decided.of_aside {s s' : Traffic σ φ} (hs : Decided s) (hbuilt : s.sources ≠ [])
    {connection : Connection σ φ} {starts : List (Nat × Bool)}
    (h : s' = { s with connection, starts }) {initialized shutDown : Bool}
    (hactive : connection.active = s.connection.active)
    (hdisable : connection.disableBackgroundUpdating = s.connection.disableBackgroundUpdating)
    (hflags : connection.flags = { s.connection.flags with initialized, shutDown })
    (hkeep : s.connection.flags.shutDown = true → shutDown = true)
    (hinitialized : s.connection.flags.initialized = true → initialized = true)
    (houtcome : shutDown = false → ∃ decision, connection.startOutcome =
      s.connection.startOutcome.or decision ∧ (decision = some true → initialized = true)) :
    Decided s' := by
  subst h
  have hstarted : connection.flags.started ≠ false := by
    rw [hflags]
    exact fun h => hbuilt (hs.stopped h)
  have hstate : connection.offlineState? = s.connection.offlineState? :=
    Connection.offlineState?_congr hflags hdisable
  have hopen : connection.IsOpen → s.connection.IsOpen :=
    Connection.IsOpen.of_flags_eq hflags hkeep
  have hdecision : connection.IsOpen → ∃ decision, connection.startOutcome =
      s.connection.startOutcome.or decision ∧ (decision = some true → initialized = true) := by
    intro h
    refine houtcome ?_
    have hshut := h.2.2
    rwa [hflags] at hshut
  refine ⟨fun h => absurd h hstarted, fun o ho hplan => ?_, fun h => absurd h hstarted,
    fun h howes hfree state heq => ?_, fun h howes hfree hsome htrue => ?_⟩
  · simp only [hflags]
    exact hs.closing o ho hplan
  · obtain ⟨decision, heq', -⟩ := hdecision h
    simp only [heq', hs.offline (hopen h) howes hfree state (hstate ▸ heq), Option.some_or]
  · obtain ⟨decision, heq, harrived⟩ := hdecision h
    have hbefore := hs.online (hopen h) howes hfree (hactive ▸ hsome)
    simp only [heq] at htrue
    simp only [hflags]
    -- The yes was there before, or is given now.
    cases houtcome : s.connection.startOutcome with
    | none =>
      rw [houtcome, Option.none_or] at htrue
      exact harrived htrue
    | some outcome =>
      rw [houtcome, Option.some_or] at htrue
      exact hinitialized (hbefore (houtcome.trans htrue))

/-! ### Every run keeps it -/

section Run

variable [Storage σ]

theorem Decided.step {s s' : Traffic σ φ} (hs : Decided s) (hg : Guarded s) (hp : Planned s)
    (hstarts : ∀ entry ∈ s.starts, entry.1 ∈ s.generations) {e : TrafficEvent φ}
    (h : s.step e = some s') : Decided s' := by
  have hbuilt {source : Nat} (hmem : source ∈ s.generations) : s.sources ≠ [] := by
    intro hnil
    simp [generations, hnil] at hmem
  cases e with
  | call call =>
    cases h
    exact hs.announce hp call
  | enter call =>
    obtain ⟨hfree, critical, hmem, rfl⟩ := step_enter h
    exact hs.grant hp hfree hmem
  | cutOff =>
    obtain ⟨call, plan, ho, rfl⟩ := step_cutOff h
    obtain ⟨generation, progress, sources, heq, hlength⟩ := s.cutOff_eq call plan
    rw [heq]
    exact hs.of_occupied rfl hlength rfl rfl fun hplan => hs.closing _ ho hplan
  | dispose =>
    obtain ⟨call, plan, source, ho, rfl⟩ := step_dispose h
    exact hs.of_occupied rfl (s.length_withStage source .gone) rfl rfl fun hplan =>
      hs.closing _ ho hplan
  | settle =>
    obtain ⟨call, plan, ho, rfl⟩ := step_settle h
    exact hs.settle hg hp ho
  | switch identity =>
    obtain ⟨status, clock, rfl, -⟩ := step_switch h
    exact ⟨hs.stopped, hs.closing, hs.untouched, hs.offline, hs.online⟩
  | deliver source delivery =>
    obtain ⟨hmem, rfl⟩ := step_deliver h
    rw [hg.deliver_eq hmem]
    split
    · -- A delivery decides only against the attempt, and the connection has failed then.
      obtain ⟨hactive, -, hdisable, -, shutDown, hflags, hkeep⟩ :=
        s.connection.accept_control delivery
      refine hs.of_aside (hbuilt hmem) rfl hactive hdisable hflags hkeep id fun hshut => ?_
      rcases s.connection.accept_startOutcome delivery with hfailed | hsame
      · rw [hflags] at hfailed
        cases hfailed.symm.trans hshut
      · refine ⟨none, hsame.trans (Option.or_none ..).symm, fun h => ?_⟩
        cases h
    · exact hs
  | checkStart source succeeded =>
    obtain ⟨starts, rfl⟩ := step_checkStart h
    exact ⟨hs.stopped, hs.closing, hs.untouched, hs.offline, hs.online⟩
  | noteStart source succeeded =>
    obtain ⟨hmem, heq⟩ := noteStart_of_step h
    have haccept := s.connection.acceptStart_eq succeeded
    refine hs.of_aside (hbuilt (hstarts _ hmem)) heq (by rw [haccept]) (by rw [haccept])
      (by rw [haccept]) id (fun h => ?_) fun _ => ⟨some succeeded, by rw [haccept], ?_⟩
    · rw [h, Bool.true_or]
    · rintro ⟨⟩
      exact Bool.or_true _

/-- The outcome is in line in every run. -/
theorem decided_of_run {c : Connection σ φ} (hc : c.IsNew) {es : List (TrafficEvent φ)}
    {s : Traffic σ φ} (h : (around c).run es = some s) : Decided s := by
  suffices (around c).run es = some s ∧ Decided s from this.2
  refine run_induction (motive := fun es s => (around c).run es = some s ∧ Decided s)
    ⟨rfl, decided_around hc⟩ ?_ h
  rintro es e s₁ s₂ ⟨hrun, hs⟩ hstep
  have hg : Guarded s₁ := guarded_of_run (guarded_around hc) hrun
  exact ⟨run_concat hrun hstep, hs.step hg (planned_of_run hc hrun)
    (fun entry hentry => (mem_starts_of_run hrun hentry).2) hstep⟩

/-! ### Without calls on their way -/

/-- **An open connection that says yes is ready**: if no call is on its way, an outcome that is true
means that the connection is forced offline or that data have arrived. -/
theorem ready_of_atRest {c : Connection σ φ} (hc : c.IsNew) {es : List (TrafficEvent φ)}
    {s : Traffic σ φ} (h : (around c).run es = some s) (hrest : s.AtRest)
    (hopen : s.connection.IsOpen) (htrue : s.connection.startOutcome = some true) :
    s.connection.flags.forceOffline = true ∨ s.connection.flags.initialized = true := by
  have hs : Decided s := decided_of_run hc h
  obtain ⟨hwaiting, hfree⟩ := hrest
  have hupdate : ¬ s.OwesUpdate := by
    simp [OwesUpdate, hwaiting]
  have hrebuild : ¬ s.OwesRebuild := by
    simp [OwesRebuild, hwaiting]
  cases hstate : s.connection.offlineState? with
  | some state =>
    have hforced := (hs.offline hopen hupdate hfree state hstate).symm.trans htrue
    obtain rfl : state = .setOffline := of_decide_eq_true (Option.some.inj hforced)
    exact .inl (Connection.forceOffline_of_setOffline hstate)
  | none =>
    have hsome := ((kept_of_run hc h).agrees hopen hupdate hfree).online hstate
    exact .inr (hs.online hopen hrebuild hfree hsome htrue)

end Run

end Traffic

end LiveFlags
