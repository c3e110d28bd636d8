import LiveFlags.Proofs.Connection.Flags
import LiveFlags.Proofs.Connection.Settled

/-!
# A failure for good

A source that has stopped for good leaves a connection in the state `shutdown`, and there is to be
no source after it. Calls that come to the critical section later see to that: they find the flag
and leave. Two things are not held up by the flag. A call that had decided on its plan before the
failure carries it out, be it to go offline or to build the next source. And the failed source is
still the current one, so the status follows it if it reports another state.

`Final` says that neither has happened, `Unopposed` that neither of the two was tried, and they are
the same.

Main statement: `final_iff`.
-/

namespace LiveFlags

namespace Connection

variable {σ φ : Type}

/-- After a failure there is nothing left to plan but the end. -/
theorem plan_of_shutDown {c : Connection σ φ} (h : c.flags.shutDown = true) {critical : Critical}
    (hstay : c.plan critical ≠ .stay) : c.plan critical = .close := by
  cases critical with
  | close => rfl
  | update rebuild =>
    refine absurd ?_ hstay
    simp [plan, h]

/-- A connection goes offline in a state that its flags ask for, which is never that of its end. -/
theorem ne_shutdown_of_plan {c : Connection σ φ} {critical : Critical} {state : ConnectionState}
    (h : c.plan critical = .goOffline state) : state ≠ .shutdown ∧ state ≠ .interrupted := by
  cases critical with
  | close => cases h
  | update rebuild =>
    simp only [plan] at h
    split at h
    · cases h
    · split at h
      · next heq =>
        cases h
        refine ⟨?_, offlineState?_ne_interrupted heq⟩
        rw [offlineState?_eq_some heq]
        split
        · simp
        · split <;> simp
      · split at h <;> cases h

theorem settle_goOffline_state (c : Connection σ φ) {state : ConnectionState}
    (h : state ≠ .interrupted) : (c.settle (.goOffline state)).2.status.state = state :=
  c.setState_state h

theorem settle_close_state (c : Connection σ φ) :
    (c.settle .close).2.status.state = .shutdown :=
  c.setState_state nofun

variable [Storage σ]

theorem accept_failure_state (c : Connection σ φ) (error : SourceError) :
    (c.accept (.failure error)).status.state = .shutdown := by
  simp [accept, onShutDown, updateStatus, finishStart, Status.reached_of_ne]

/-- In the state `shutdown` the status follows every request. -/
theorem accept_status_state {c : Connection σ φ} (h : c.status.state = .shutdown)
    (state : ConnectionState) (error : Option SourceError) :
    (c.accept (.status (some state) error)).status.state = state := by
  have hstate : c.status.current.state = .shutdown := h
  simp [accept, updateStatus, Status.reached, hstate]

/-- A delivery that requests no other state leaves the connection in the state `shutdown`. -/
theorem accept_state_of_shutdown {c : Connection σ φ} (h : c.status.state = .shutdown)
    {delivery : Delivery}
    (hreport : ∀ state error, delivery = .status (some state) error → state = .shutdown) :
    (c.accept delivery).status.state = .shutdown := by
  cases hstep : delivery.dataStep? with
  | some step =>
    obtain ⟨status, clock, heq, hstatus⟩ := c.accept_data_eq hstep
    rw [heq]
    exact hstatus.trans h
  | none =>
    cases delivery with
    | snapshot | item => cases hstep
    | failure error => exact c.accept_failure_state error
    | status state error =>
      cases state with
      | none => simpa [accept, updateStatus] using h
      | some state => rw [accept_status_state h, hreport state error rfl]

end Connection

namespace Traffic

variable {σ φ : Type} [Storage σ]

/-! ### The plan in the critical section -/

/-- A call keeps its plan until it leaves, and the plan of the next one is made when it enters. -/
theorem plan_of_step {s s' : Traffic σ φ} {e : TrafficEvent φ} (h : s.step e = some s') :
    (e ≠ .settle ∧ s'.occupant.map (·.plan) = s.occupant.map (·.plan)) ∨
      (e = .settle ∧ s'.occupant = none) ∨
      (s.occupant = none ∧ ∃ critical, s.connection.plan critical ≠ .stay ∧
        s'.occupant.map (·.plan) = some (s.connection.plan critical)) := by
  cases e with
  | call call =>
    cases h
    exact .inl ⟨nofun, rfl⟩
  | enter call =>
    obtain ⟨hfree, critical, -, rfl⟩ := step_enter h
    rcases s.grant_cases call critical with ⟨-, ho⟩ | ⟨hstay, ho⟩
    · exact .inl ⟨nofun, by rw [ho, hfree]⟩
    · exact .inr (.inr ⟨hfree, critical, hstay, by rw [ho]; rfl⟩)
  | cutOff =>
    obtain ⟨call, plan, ho, rfl⟩ := step_cutOff h
    obtain ⟨generation, progress, sources, heq, -⟩ := s.cutOff_eq call plan
    exact .inl ⟨nofun, by rw [heq, ho]; rfl⟩
  | dispose =>
    obtain ⟨call, plan, source, ho, rfl⟩ := step_dispose h
    exact .inl ⟨nofun, by rw [ho]; rfl⟩
  | settle =>
    obtain ⟨call, plan, -, rfl⟩ := step_settle h
    rcases s.settle_cases plan with
      ⟨-, status, clock, outcome, heq, -⟩ | ⟨-, status, clock, outcome, heq, -⟩ <;>
      exact .inr (.inl ⟨rfl, by rw [heq]⟩)
  | switch | deliver | checkStart | noteStart =>
    obtain ⟨connection, starts, _, _, rfl, -⟩ := step_aside h rfl
    exact .inl ⟨nofun, rfl⟩

/-- Until it settles, a call in the critical section keeps its plan. -/
theorem plan_of_run {s s' : Traffic σ φ} {es : List (TrafficEvent φ)} (h : s.run es = some s')
    (hsettle : .settle ∉ es) {plan : Plan} (hplan : s.occupant.map (·.plan) = some plan) :
    s'.occupant.map (·.plan) = some plan := by
  induction es generalizing s with
  | nil =>
    cases h
    exact hplan
  | cons e es ih =>
    rw [run_cons] at h
    obtain ⟨s₁, hstep, hrun⟩ := Option.bind_eq_some_iff.1 h
    simp only [List.mem_cons, not_or] at hsettle
    refine ih hrun hsettle.2 ?_
    rcases plan_of_step hstep with ⟨-, heq⟩ | ⟨rfl, -⟩ | ⟨hfree, -⟩
    · exact heq.trans hplan
    · exact absurd rfl hsettle.1
    · rw [hfree] at hplan
      cases hplan

/-- What a call in the critical section may have in mind. -/
def Drafted (s : Traffic σ φ) : Prop :=
  ∀ plan, s.occupant.map (·.plan) = some plan → plan ≠ .stay ∧
    ∀ state, plan = .goOffline state → state ≠ .shutdown ∧ state ≠ .interrupted

/-- A call keeps its plan until it leaves the critical section. -/
theorem Drafted.step {s s' : Traffic σ φ} (hs : Drafted s) {e : TrafficEvent φ}
    (h : s.step e = some s') : Drafted s' := by
  intro plan hplan
  rcases plan_of_step h with ⟨-, heq⟩ | ⟨-, hfree⟩ | ⟨-, critical, hstay, heq⟩
  · exact hs plan (heq.symm.trans hplan)
  · rw [hfree] at hplan
    cases hplan
  · cases hplan.symm.trans heq
    exact ⟨hstay, fun state => Connection.ne_shutdown_of_plan⟩

theorem drafted_of_run {c : Connection σ φ} {es : List (TrafficEvent φ)} {s : Traffic σ φ}
    (h : (around c).run es = some s) : Drafted s := by
  refine run_induction (motive := fun _ s => Drafted s) ?_
    (fun _ _ _ _ hm hstep => hm.step hstep) h
  intro plan hplan
  cases hplan

/-! ### The end of all sources -/

omit [Storage σ] in
theorem generations_cutOff (s : Traffic σ φ) (call : Nat) (plan : Plan) :
    (s.cutOff call plan).generations = s.generations := by
  unfold cutOff
  split
  · exact s.generations_withStage _ _
  · rfl

omit [Storage σ] in
/-- Only a plan to replace the source builds one. -/
theorem generations_settle_of_ne (s : Traffic σ φ) {plan : Plan} (h : plan ≠ .replace) :
    (s.settle plan).generations = s.generations := by
  rcases s.settle_cases plan with ⟨hreplace, -⟩ | ⟨-, status, clock, outcome, heq, -⟩
  · exact absurd hreplace h
  · rw [heq]
    rfl

omit [Storage σ] in
theorem generations_settle_ne (s : Traffic σ φ) :
    (s.settle .replace).generations ≠ s.generations := by
  rcases s.settle_cases .replace with ⟨-, status, clock, outcome, heq, -⟩ | ⟨hne, -⟩
  · rw [heq]
    simp [generations]
  · exact absurd rfl hne

/-- A source has failed for good, and the sources that were built by then are all there are. -/
structure Ended (generations : List Nat) (s : Traffic σ φ) : Prop where
  shutDown : s.connection.flags.shutDown = true
  state : s.connection.status.state = .shutdown
  generations : s.generations = generations

/-- After a failure every step leaves the end as it is, unless an old plan is carried out or the
source that is active reports another state. -/
theorem Ended.step {generations : List Nat} {s s' : Traffic σ φ} (hs : Ended generations s)
    (hg : Guarded s) {e : TrafficEvent φ} (h : s.step e = some s')
    (hsettle : e = .settle → ∀ o, s.occupant = some o → o.plan = .close)
    (hreport : ∀ source state error, e = .deliver source (.status (some state) error) →
      s.connection.active = some source → state = .shutdown) : Ended generations s' := by
  have hshut := shutDown_of_step h hs.shutDown
  obtain ⟨-, hstate, hgenerations⟩ := hs
  cases e with
  | call call =>
    cases h
    obtain ⟨flags, factory, heq⟩ := s.connection.announce_control call
    refine ⟨hshut, ?_, hgenerations⟩
    simpa only [announce, heq] using hstate
  | enter call =>
    obtain ⟨-, critical, -, rfl⟩ := step_enter h
    exact ⟨hshut, hstate, hgenerations⟩
  | cutOff =>
    obtain ⟨call, plan, -, rfl⟩ := step_cutOff h
    refine ⟨hshut, ?_, (s.generations_cutOff call plan).trans hgenerations⟩
    obtain ⟨generation, progress, sources, heq, -⟩ := s.cutOff_eq call plan
    rw [heq]
    exact hstate
  | dispose =>
    obtain ⟨call, plan, source, -, rfl⟩ := step_dispose h
    refine ⟨hshut, hstate, ?_⟩
    simpa only [Traffic.generations, generations_withStage] using hgenerations
  | settle =>
    obtain ⟨call, plan, ho, rfl⟩ := step_settle h
    -- Whoever leaves the critical section has the end in mind.
    have hplan : plan = .close := hsettle rfl _ ho
    subst hplan
    refine ⟨hshut, s.connection.settle_close_state, ?_⟩
    exact (s.generations_settle_of_ne (by simp)).trans hgenerations
  | switch identity =>
    obtain ⟨status, clock, rfl, hstatus⟩ := step_switch h
    exact ⟨hshut, hstatus.trans hstate, hgenerations⟩
  | deliver source delivery =>
    obtain ⟨hmem, rfl⟩ := step_deliver h
    refine ⟨hshut, ?_, hgenerations⟩
    rw [hg.deliver_eq hmem]
    split
    · next hactive =>
      refine Connection.accept_state_of_shutdown hstate ?_
      rintro state error rfl
      exact hreport source state error rfl hactive
    · exact hstate
  | checkStart source succeeded =>
    obtain ⟨starts, rfl⟩ := step_checkStart h
    exact ⟨hshut, hstate, hgenerations⟩
  | noteStart source succeeded =>
    obtain ⟨initialized, outcome, starts, rfl⟩ := step_noteStart h
    exact ⟨hshut, hstate, hgenerations⟩

/-! ### The main statement -/

/-- From now on the state is `shutdown` and no source is built, whatever of `es` has happened. -/
def Final (s : Traffic σ φ) (es : List (TrafficEvent φ)) : Prop :=
  ∀ before after s', es = before ++ after → s.run before = some s' →
    s'.connection.status.state = .shutdown ∧ s'.generations = s.generations

/-- Nobody goes against a failure: no call that decided before it is going to leave the critical
section, other than one that closes the connection, and the source that is active never reports
another state. -/
structure Unopposed (s : Traffic σ φ) (es : List (TrafficEvent φ)) : Prop where
  calls : ∀ o, s.occupant = some o → o.plan ≠ .close → .settle ∉ es
  reports : ∀ before after source state error s',
    es = before ++ .deliver source (.status (some state) error) :: after →
      s.run before = some s' → s'.connection.active = some source → state = .shutdown

/-- Nothing but a call that closes the connection settles then. -/
theorem Unopposed.tail {s s' : Traffic σ φ} {e : TrafficEvent φ} {es : List (TrafficEvent φ)}
    (hu : Unopposed s (e :: es)) (hshut : s.connection.flags.shutDown = true)
    (h : s.step e = some s') : Unopposed s' es where
  calls o ho hclose := by
    rcases plan_of_step h with ⟨-, heq⟩ | ⟨-, hfree⟩ | ⟨-, critical, hstay, heq⟩
    · rw [ho] at heq
      obtain ⟨o', ho', hplan⟩ := Option.map_eq_some_iff.1 heq.symm
      have hnot := hu.calls o' ho' (hplan ▸ hclose)
      exact fun hmem => hnot (List.mem_cons_of_mem e hmem)
    · cases hfree.symm.trans ho
    · rw [ho, Connection.plan_of_shutDown hshut hstay] at heq
      exact absurd (Option.some.inj heq) hclose
  reports before after source state error s₁ heq hrun hactive := by
    refine hu.reports (e :: before) after source state error s₁ ?_ ?_ hactive
    · rw [heq]
      rfl
    · rw [run_cons, h]
      exact hrun

/-- If nobody goes against it, the end stays in a whole run. -/
theorem Ended.run {generations : List Nat} {s s' : Traffic σ φ} (hs : Ended generations s)
    (hg : Guarded s) {before after : List (TrafficEvent φ)} (hu : Unopposed s (before ++ after))
    (h : s.run before = some s') : Ended generations s' := by
  induction before generalizing s with
  | nil =>
    cases h
    exact hs
  | cons e before ih =>
    rw [run_cons] at h
    obtain ⟨s₁, hstep, hrun⟩ := Option.bind_eq_some_iff.1 h
    refine ih (hs.step hg hstep ?_ ?_) (hg.step hstep) (hu.tail hs.shutDown hstep) hrun
    · rintro rfl o ho
      by_cases hclose : o.plan = .close
      · exact hclose
      · exact absurd List.mem_cons_self (hu.calls o ho hclose)
    · rintro source state error rfl hactive
      exact hu.reports [] (before ++ after) source state error s rfl rfl hactive

/-- If a call settles that had decided before, its plan shows: a source is built, or the state is
that of a connection that is offline. -/
theorem Final.not_mem_settle {s s' : Traffic σ φ} {es : List (TrafficEvent φ)} (hf : Final s es)
    (hd : Drafted s) (h : s.run es = some s') {o : Occupant} (ho : s.occupant = some o)
    (hclose : o.plan ≠ .close) : .settle ∉ es := by
  intro hmem
  obtain ⟨before, after, rfl, hbefore⟩ := List.eq_append_cons_of_mem hmem
  obtain ⟨s₁, s₂, hrun, hstep, -⟩ := run_append_cons h
  obtain ⟨call, plan, ho₁, rfl⟩ := step_settle hstep
  have hplan : plan = o.plan := by
    have hkept : s₁.occupant.map (·.plan) = some o.plan :=
      plan_of_run hrun hbefore (by rw [ho]; rfl)
    rw [ho₁] at hkept
    exact Option.some.inj hkept
  obtain ⟨hstay, hstates⟩ := hd o.plan (by rw [ho]; rfl)
  obtain ⟨hend, hbuilt⟩ := hf (before ++ [.settle]) after _ (by simp) (run_concat hrun hstep)
  obtain ⟨-, hbuilt₁⟩ := hf before _ _ rfl hrun
  rw [hplan] at hend hbuilt
  -- Any other plan shows when it is settled.
  cases hp : o.plan with
  | stay => exact hstay hp
  | close => exact hclose hp
  | replace =>
    rw [hp] at hbuilt
    exact s₁.generations_settle_ne (hbuilt.trans hbuilt₁.symm)
  | goOffline state =>
    obtain ⟨hne, hne'⟩ := hstates state hp
    rw [hp] at hend
    exact hne ((s₁.connection.settle_goOffline_state hne').symm.trans hend)

/-- A report of another state would show in the status. -/
theorem Final.report {s s₁ s' : Traffic σ φ} (hg : Guarded s) {before after : List (TrafficEvent φ)}
    {source : Nat} {state : ConnectionState} {error : Option SourceError}
    (hf : Final s (before ++ .deliver source (.status (some state) error) :: after))
    (h : s.run (before ++ .deliver source (.status (some state) error) :: after) = some s')
    (hrun : s.run before = some s₁) (hactive : s₁.connection.active = some source) :
    state = .shutdown := by
  obtain ⟨_, s₂, hbefore, hstep, -⟩ := run_append_cons h
  cases hrun.symm.trans hbefore
  obtain ⟨hstate, -⟩ := hf before _ s₁ rfl hrun
  obtain ⟨hend, -⟩ := hf (before ++ [.deliver source (.status (some state) error)]) after s₂
    (by simp) (run_concat hrun hstep)
  obtain ⟨hmem, rfl⟩ := step_deliver hstep
  have hg₁ : Guarded s₁ := guarded_of_run hg hrun
  rw [hg₁.deliver_eq hmem, if_pos hactive] at hend
  exact (Connection.accept_status_state hstate state error).symm.trans hend

/-- **A failure for good is final, with two exceptions.** The active source has failed, and then the
events `es` have happened. The state was `shutdown` all the time and no source was built, just if no
call carried out what it had decided before the failure, and the source that was still active never
reported another state. -/
theorem final_iff {c : Connection σ φ} (hc : c.IsNew) {es₀ es : List (TrafficEvent φ)}
    {s₀ s s' : Traffic σ φ} {source : Nat} {error : SourceError}
    (h₀ : (around c).run es₀ = some s₀) (hactive : s₀.connection.active = some source)
    (hfail : s₀.step (.deliver source (.failure error)) = some s) (h : s.run es = some s') :
    Final s es ↔ Unopposed s es := by
  have hrun : (around c).run (es₀ ++ [.deliver source (.failure error)]) = some s :=
    run_concat h₀ hfail
  have hg : Guarded s := guarded_of_run (guarded_around hc) hrun
  constructor
  · intro hf
    refine ⟨fun o ho hclose => hf.not_mem_settle (drafted_of_run hrun) h ho hclose, ?_⟩
    rintro before after reporter state error s₁ rfl hbefore hactive
    exact hf.report hg h hbefore hactive
  · rintro hu before after s₁ rfl hbefore
    -- The failure comes from the active source, so it gets through.
    have hended : Ended s.generations s := by
      obtain ⟨hmem, heq⟩ := step_deliver hfail
      have hg₀ : Guarded s₀ := guarded_of_run (guarded_around hc) h₀
      rw [hg₀.deliver_eq hmem, if_pos hactive] at heq
      refine ⟨?_, ?_, rfl⟩
      · rw [heq]
        rfl
      · rw [heq]
        exact s₀.connection.accept_failure_state error
    obtain ⟨-, hstate, hgenerations⟩ := hended.run hg hu hbefore
    exact ⟨hstate, hgenerations⟩

/-- A source of generation 1. -/
def firstSource : List (TrafficEvent Unit) :=
  [.call .start, .enter 0, .cutOff, .settle]

/-- Others ask in vain for a source after it has failed. -/
def inVain : List (TrafficEvent Unit) :=
  [.call (.reconfigure none true), .enter 1, .deliver 1 (.status (some .shutdown) none),
    .call (.setForceOffline true), .enter 2, .call .close, .enter 3, .cutOff, .dispose, .settle]

/-- Nobody gets another source after the failure, and the state stays as it is. -/
theorem final_inVain : ∃ s s', (around Connection.plain).run
      (firstSource ++ [.deliver 1 (.failure (.response 401))]) = some s ∧
    s.run inVain = some s' ∧ Final s inVain := by
  obtain ⟨s₀, h₀, hactive, s, hfail, hfree, s', h⟩ : ∃ s₀,
      (around Connection.plain).run firstSource = some s₀ ∧ s₀.connection.active = some 1 ∧
      ∃ s, s₀.step (.deliver 1 (.failure (.response 401))) = some s ∧ s.occupant = none ∧
      ∃ s', s.run inVain = some s' :=
    ⟨_, rfl, rfl, _, rfl, rfl, _, rfl⟩
  refine ⟨s, s', run_concat h₀ hfail, h,
    (final_iff Connection.isNew_plain h₀ hactive hfail h).2 ⟨fun o ho => ?_, ?_⟩⟩
  · cases hfree.symm.trans ho
  · intro before after source state error s₁ heq _ _
    have hmem : .deliver source (.status (some state) error) ∈ inVain := by
      rw [heq]
      exact List.mem_append_right before List.mem_cons_self
    obtain ⟨-, hstate, -⟩ : source = 1 ∧ state = .shutdown ∧ error = none := by
      simpa [inVain] using hmem
    exact hstate

/-- A failed source can report that it is well, and a call that had decided before the failure can
build the next source. -/
theorem exists_opposed : (∃ s s', (around Connection.plain).run
      (firstSource ++ [.deliver 1 (.failure (.response 401))]) = some s ∧
    s.connection.status.state = .shutdown ∧ s.step (.deliver 1 .valid) = some s' ∧
    s'.connection.status.state = .valid) ∧
    ∃ s s', (around Connection.plain).run (firstSource ++ [.call (.setInBackground true), .enter 1,
      .deliver 1 (.failure (.response 401))]) = some s ∧
    s.connection.active = some 1 ∧ s.run [.cutOff, .dispose, .settle] = some s' ∧
    s.generations = [1] ∧ s'.generations = [1, 3] ∧
    s'.connection.status.state = .initializing :=
  ⟨⟨_, _, rfl, rfl, rfl, rfl⟩, _, _, rfl, rfl, rfl, rfl, rfl, rfl⟩

end Traffic

end LiveFlags
