import LiveFlags.Proofs.Connection.SingleSource

/-!
# A connection at rest

A call writes its flag first and decides later, in the critical section, by whatever the flags are
then. In between, other calls may have written flags as well. When no call is on its way any more,
the connection nevertheless does what its flags ask for: whoever changes a flag still has to pass
the critical section, and the one that passes last has seen all changes.

The argument has two invariants. `Planned` is about calls that are not through yet: the plan in the
critical section is the one that the flags of now ask for, unless some call is still waiting.
`Kept` is about the outcome: while the critical section is free, the source and the status are as
the flags ask, unless some call is waiting, and the source was built for the background and the
identity of now, unless some call is waiting to rebuild it.

Main statement: `settled_of_atRest`.
-/

namespace LiveFlags

namespace Connection

variable {σ φ : Type}

/-- The connection was started, and neither a call nor a source has ended it. -/
def IsOpen (c : Connection σ φ) : Prop :=
  c.flags.started = true ∧ c.flags.closed = false ∧ c.flags.shutDown = false

/-- What the flags ask for if the source cannot stay. -/
def goal (c : Connection σ φ) : Plan :=
  match c.offlineState? with
  | some state => .goOffline state
  | none => .replace

/-- The source and the status are what the flags ask for. -/
structure Agrees (c : Connection σ φ) : Prop where
  online : c.offlineState? = none → c.active.isSome = true
  offline : ∀ state, c.offlineState? = some state → c.active = none ∧ c.status.state = state

/-- An open connection follows its flags. It stays as it is only if it has a source already, is not
to be offline and was not asked for a rebuild. -/
theorem IsOpen.plan {c : Connection σ φ} (h : c.IsOpen) (rebuild : Bool) :
    c.plan (.update rebuild) = c.goal ∨
      (rebuild = false ∧ c.plan (.update rebuild) = .stay ∧ c.offlineState? = none ∧
        c.active.isSome = true) := by
  obtain ⟨hstarted, hclosed, hshut⟩ := h
  simp only [Connection.plan, goal, hstarted, hclosed, hshut]
  cases hstate : c.offlineState? with
  | some state => exact .inl rfl
  | none =>
    cases rebuild with
    | true => exact .inl (by simp)
    | false =>
      cases hactive : c.active.isSome with
      | true => exact .inr ⟨rfl, rfl, rfl, rfl⟩
      | false => exact .inl rfl

theorem goal_ne_stay (c : Connection σ φ) : c.goal ≠ .stay := by
  unfold goal
  split <;> nofun

/-- The source of an open connection stays only for a call that asks for no rebuild. -/
theorem IsOpen.of_stay {c : Connection σ φ} (h : c.IsOpen) {critical : Critical}
    (hstay : c.plan critical = .stay) :
    critical = .update false ∧ c.offlineState? = none ∧ c.active.isSome = true := by
  cases critical with
  | close => cases hstay
  | update rebuild =>
    rcases h.plan rebuild with hgoal | ⟨rfl, -, hrest⟩
    · exact absurd (hgoal.symm.trans hstay) c.goal_ne_stay
    · exact ⟨rfl, hrest⟩

/-- Before the start an update leaves everything as it is. -/
theorem plan_of_not_started {c : Connection σ φ} (h : c.flags.started = false) (rebuild : Bool) :
    c.plan (.update rebuild) = .stay := by
  simp [Connection.plan, h]

/-- A source may run unless something keeps the connection offline. -/
theorem offlineState?_eq_none_iff (c : Connection σ φ) : c.offlineState? = none ↔
    c.flags.forceOffline = false ∧ c.flags.networkEnabled = true ∧
      ¬ (c.flags.inBackground = true ∧ c.disableBackgroundUpdating = true) := by
  unfold offlineState?
  split
  · simp_all
  · split
    · simp_all
    · split <;> simp_all

/-- Being forced offline goes before a missing network, and that before the background. -/
theorem offlineState?_eq_some {c : Connection σ φ} {state : ConnectionState}
    (h : c.offlineState? = some state) : state =
      if c.flags.forceOffline then .setOffline
      else if !c.flags.networkEnabled then .networkUnavailable
      else .backgroundDisabled := by
  unfold offlineState? at h
  split at h
  · simp_all
  · split at h
    · simp_all
    · split at h
      · simp_all
      · cases h

/-- No flag asks for the state of a connection that is interrupted. -/
theorem offlineState?_ne_interrupted {c : Connection σ φ} {state : ConnectionState}
    (h : c.offlineState? = some state) : state ≠ .interrupted := by
  rw [offlineState?_eq_some h]
  split
  · nofun
  · split <;> nofun

section Aside

variable {c c' : Connection σ φ} {initialized shutDown : Bool}

/-- What keeps a connection offline is in the flags that only calls write. -/
theorem offlineState?_congr (hflags : c'.flags = { c.flags with initialized, shutDown })
    (hdisable : c'.disableBackgroundUpdating = c.disableBackgroundUpdating) :
    c'.offlineState? = c.offlineState? := by
  simp only [offlineState?, hflags, hdisable]

theorem IsOpen.of_flags_eq (hflags : c'.flags = { c.flags with initialized, shutDown })
    (hkeep : c.flags.shutDown = true → shutDown = true) (h : c'.IsOpen) : c.IsOpen := by
  simp only [IsOpen, hflags] at h
  obtain ⟨hstarted, hclosed, hshut⟩ := h
  refine ⟨hstarted, hclosed, ?_⟩
  cases hs : c.flags.shutDown with
  | false => rfl
  | true => cases (hkeep hs).symm.trans hshut

end Aside

end Connection

namespace Traffic

variable {σ φ : Type}

/-! ### Calls that are not through yet -/

/-- A call is waiting to bring the source in line with the flags. -/
def OwesUpdate (s : Traffic σ φ) : Prop :=
  ∃ call rebuild, (call, .update rebuild) ∈ s.waiting

/-- A call is waiting that replaces the source in any case. -/
def OwesRebuild (s : Traffic σ φ) : Prop :=
  ∃ call, (call, .update true) ∈ s.waiting

/-- A call that wants something from the critical section waits for it. -/
theorem waiting_announce {s : Traffic σ φ} {call : ConnectionCall φ} {critical : Critical}
    (h : (s.connection.announce call).1 = some critical) :
    (s.announce call).waiting = s.waiting ++ [(s.calls, critical)] := by
  simp only [Traffic.announce, h, Option.map_some, Option.toList_some]

theorem owesUpdate_announce {s : Traffic σ φ} {call : ConnectionCall φ} {rebuild : Bool}
    (h : (s.connection.announce call).1 = some (.update rebuild)) :
    (s.announce call).OwesUpdate :=
  ⟨s.calls, rebuild, by rw [waiting_announce h]; exact List.mem_append_right _ List.mem_cons_self⟩

theorem owesRebuild_announce {s : Traffic σ φ} {call : ConnectionCall φ}
    (h : (s.connection.announce call).1 = some (.update true)) : (s.announce call).OwesRebuild :=
  ⟨s.calls, by rw [waiting_announce h]; exact List.mem_append_right _ List.mem_cons_self⟩

/-- Whoever waits goes on waiting while others call. -/
theorem OwesRebuild.announce {s : Traffic σ φ} (h : s.OwesRebuild) (call : ConnectionCall φ) :
    (s.announce call).OwesRebuild :=
  h.imp fun _ hmem => List.mem_append_left _ hmem

/-- Whoever waits for a rebuild goes on waiting while a call enters that asks for none. -/
theorem OwesRebuild.grant {s : Traffic σ φ} (h : s.OwesRebuild) (call : Nat) :
    (s.grant call (.update false)).OwesRebuild :=
  h.imp fun _ hmem => (List.mem_erase_of_ne (by simp)).2 hmem

/-- What calls on their way are going to do. -/
structure Planned (s : Traffic σ φ) : Prop where
  closing : ∀ call, (call, .close) ∈ s.waiting → s.connection.flags.closed = true
  stopped : s.connection.flags.started = false →
    s.connection.active = none ∧ ∀ o, s.occupant = some o → o.plan = .close
  agreed : s.connection.IsOpen → ¬ s.OwesUpdate →
    ∀ o, s.occupant = some o → o.plan = s.connection.goal

theorem planned_around {c : Connection σ φ} (hc : c.IsNew) : Planned (around c) where
  closing := nofun
  stopped := fun _ => ⟨hc.active, nofun⟩
  agreed := nofun

/-- What does not touch the calls, and none of the flags but `initialized` and `shutDown`, keeps the
plan a good one. -/
theorem Planned.of_eq {s s' : Traffic σ φ} (hs : Planned s) (hwaiting : s'.waiting = s.waiting)
    (hplan : s'.occupant.map (·.plan) = s.occupant.map (·.plan))
    (hactive : s'.connection.active = s.connection.active ∨ s'.connection.active = none)
    (hstarted : s'.connection.flags.started = s.connection.flags.started)
    (hclosed : s'.connection.flags.closed = s.connection.flags.closed)
    (hopen : s'.connection.IsOpen → s.connection.IsOpen)
    (hstate : s'.connection.offlineState? = s.connection.offlineState?) : Planned s' := by
  have hoccupant : ∀ o', s'.occupant = some o' → ∃ o, s.occupant = some o ∧ o.plan = o'.plan := by
    intro o' ho'
    rw [ho', Option.map_some] at hplan
    exact Option.map_eq_some_iff.1 hplan.symm
  refine ⟨?_, ?_, ?_⟩
  · rw [hwaiting, hclosed]
    exact hs.closing
  · intro h
    obtain ⟨hnone, hclose⟩ := hs.stopped (hstarted ▸ h)
    refine ⟨?_, fun o' ho' => ?_⟩
    · rcases hactive with hactive | hactive
      · rw [hactive, hnone]
      · exact hactive
    · obtain ⟨o, ho, heq⟩ := hoccupant o' ho'
      rw [← heq, hclose o ho]
  · intro hopen' howes o' ho'
    obtain ⟨o, ho, heq⟩ := hoccupant o' ho'
    have hnot : ¬ s.OwesUpdate := by
      unfold OwesUpdate at howes ⊢
      rwa [hwaiting] at howes
    rw [← heq, hs.agreed (hopen hopen') hnot o ho]
    simp only [Connection.goal, hstate]

/-- Whoever makes the flags and the source disagree is on the way to put that right. -/
theorem Planned.announce {s : Traffic σ φ} (hs : Planned s) (call : ConnectionCall φ) :
    Planned (s.announce call) := by
  obtain ⟨flags, factory, hcontrol⟩ := s.connection.announce_control call
  rcases s.connection.announce_cases call with
    ⟨heq, -⟩ | ⟨rebuild, hcritical, hclosed, -, hstarted, -⟩ | heq
  · have hsame : (s.announce call).connection = s.connection := by
      simp only [Traffic.announce, heq]
    exact hs.of_eq (by simp [Traffic.announce, heq]) rfl (.inl (by rw [hsame])) (by rw [hsame])
      (by rw [hsame]) (by rw [hsame]; exact id) (by rw [hsame])
  · -- The call is waiting itself now, so the plan in the critical section may be outdated.
    refine ⟨fun i hi => ?_, fun h => ?_,
      fun _ howes => absurd (owesUpdate_announce hcritical) howes⟩
    · rw [waiting_announce hcritical, List.mem_append, List.mem_singleton] at hi
      rcases hi with hi | hi
      · exact hclosed.trans (hs.closing i hi)
      · cases hi
    · have hnot : s.connection.flags.started = false := by
        rw [← Bool.not_eq_true]
        intro h'
        cases (hstarted h').symm.trans h
      obtain ⟨hnone, hclose⟩ := hs.stopped hnot
      refine ⟨?_, hclose⟩
      simp only [Traffic.announce, hcontrol, hnone]
  · have hshut : (s.announce call).connection.flags.closed = true := by
      simp only [Traffic.announce, heq]
    refine ⟨fun _ _ => hshut, fun h => ?_, fun hopen => ?_⟩
    · simp only [Traffic.announce, heq] at h ⊢
      exact hs.stopped h
    · cases hshut.symm.trans hopen.2.1

/-- Only a connection that was not started can become open, and it has no source. -/
theorem Planned.isOpen_of_announce {s : Traffic σ φ} (hs : Planned s) {call : ConnectionCall φ}
    (h : (s.announce call).connection.IsOpen) (hactive : s.connection.active.isSome = true) :
    s.connection.IsOpen := by
  rcases s.connection.announce_cases call with
    ⟨heq, -⟩ | ⟨rebuild, -, hclosed, hshut, -⟩ | heq
  · simpa only [Traffic.announce, heq] using h
  · refine ⟨?_, hclosed.symm.trans h.2.1, hshut.symm.trans h.2.2⟩
    cases hstart : s.connection.flags.started with
    | true => rfl
    | false =>
      rw [(hs.stopped hstart).1] at hactive
      cases hactive
  · have hclosed := h.2.1
    simp only [Traffic.announce, heq] at hclosed
    cases hclosed

theorem Planned.grant {s : Traffic σ φ} (hs : Planned s) {call : Nat} {critical : Critical}
    (hmem : (call, critical) ∈ s.waiting) : Planned (s.grant call critical) := by
  have hplan : ∀ o, (s.grant call critical).occupant = some o →
      o.plan = s.connection.plan critical ∧ s.connection.plan critical ≠ .stay := by
    intro o ho
    rcases s.grant_cases call critical with ⟨-, ho'⟩ | ⟨hne, ho'⟩
    · cases ho.symm.trans ho'
    · cases ho.symm.trans ho'
      exact ⟨rfl, hne⟩
  -- The plan is made from the flags of now, whoever else is waiting.
  refine ⟨fun i hi => hs.closing i (List.mem_of_mem_erase hi), fun h => ?_, fun hopen _ o ho => ?_⟩
  · refine ⟨(hs.stopped h).1, fun o ho => ?_⟩
    obtain ⟨heq, hne⟩ := hplan o ho
    cases critical with
    | update rebuild => exact absurd (Connection.plan_of_not_started h rebuild) hne
    | close => exact heq
  · obtain ⟨heq, hne⟩ := hplan o ho
    cases critical with
    | update rebuild =>
      rcases hopen.plan rebuild with hgoal | ⟨-, hstay, -⟩
      · exact heq.trans hgoal
      · exact absurd hstay hne
    | close => cases (hs.closing call hmem).symm.trans hopen.2.1

/-- A plan that is settled brings the source in line, up to what has been called since. -/
theorem Planned.settle {s : Traffic σ φ} (hs : Planned s) {call : Nat} {plan : Plan}
    (ho : s.occupant = some ⟨call, plan, .cleared⟩) : Planned (s.settle plan) := by
  rcases s.settle_cases plan with
    ⟨hreplace, status, clock, outcome, heq, -⟩ | ⟨-, status, clock, outcome, heq, -⟩
  · rw [heq]
    refine ⟨hs.closing, fun h => ?_, fun _ _ => nofun⟩
    have hclose := (hs.stopped h).2 _ ho
    cases hreplace.symm.trans hclose
  · rw [heq]
    exact ⟨hs.closing, fun h => ⟨(hs.stopped h).1, nofun⟩, fun _ _ => nofun⟩

section Step

variable [Storage σ]

/-- Steps that are no steps of a call leave the calls and the active source alone, and of the flags
they write only `initialized` and `shutDown`. -/
theorem Planned.step {s s' : Traffic σ φ} (hs : Planned s) {e : TrafficEvent φ}
    (h : s.step e = some s') : Planned s' := by
  cases e with
  | call call =>
    cases h
    exact hs.announce call
  | enter call =>
    obtain ⟨-, critical, hmem, rfl⟩ := step_enter h
    exact hs.grant hmem
  | cutOff =>
    obtain ⟨call, plan, ho, rfl⟩ := step_cutOff h
    obtain ⟨generation, progress, sources, heq, -⟩ := s.cutOff_eq call plan
    rw [heq]
    exact hs.of_eq rfl (by rw [ho]; rfl) (.inr rfl) rfl rfl id rfl
  | dispose =>
    obtain ⟨call, plan, source, ho, rfl⟩ := step_dispose h
    exact hs.of_eq rfl (by rw [ho]; rfl) (.inl rfl) rfl rfl id rfl
  | settle =>
    obtain ⟨call, plan, ho, rfl⟩ := step_settle h
    exact hs.settle ho
  | switch | deliver | checkStart | noteStart =>
    obtain ⟨connection, starts, initialized, shutDown, rfl, hactive, -, hdisable, hflags, hkeep⟩ :=
      step_aside h rfl
    exact hs.of_eq rfl rfl (.inl hactive) (by rw [hflags]) (by rw [hflags])
      (Connection.IsOpen.of_flags_eq hflags hkeep) (Connection.offlineState?_congr hflags hdisable)

end Step

/-! ### What is promised of events -/

/-- Each switch of the identity is followed, at some time, by a call that replaces the source. -/
def SwitchesFollowed (es : List (TrafficEvent φ)) : Prop :=
  ∀ before identity after, es = before ++ .switch identity :: after →
    ∃ factory reset, .call (.reconfigure factory reset) ∈ after

/-- The states that sources report are `valid` or `interrupted`. -/
def ReportsOnline (es : List (TrafficEvent φ)) : Prop :=
  ∀ source state error, .deliver source (.status (some state) error) ∈ es →
    state = .valid ∨ state = .interrupted

theorem SwitchesFollowed.of_concat {es : List (TrafficEvent φ)} {e : TrafficEvent φ}
    (h : SwitchesFollowed (es ++ [e]))
    (he : ∀ factory reset, e ≠ .call (.reconfigure factory reset)) : SwitchesFollowed es := by
  intro before identity after heq
  obtain ⟨factory, reset, hmem⟩ := h before identity (after ++ [e]) (by simp [heq])
  refine ⟨factory, reset, ?_⟩
  rcases List.mem_append.1 hmem with hmem | hmem
  · exact hmem
  · exact absurd (List.mem_singleton.1 hmem).symm (he factory reset)

/-- A switch of the identity is not followed by anything yet. -/
theorem not_switchesFollowed_concat (es : List (TrafficEvent φ)) (identity : Identity) :
    ¬ SwitchesFollowed (es ++ [.switch identity]) := by
  intro h
  obtain ⟨_, _, hmem⟩ := h es identity [] rfl
  cases hmem

theorem ReportsOnline.of_concat {es : List (TrafficEvent φ)} {e : TrafficEvent φ}
    (h : ReportsOnline (es ++ [e])) : ReportsOnline es :=
  fun source state error hmem => h source state error (List.mem_append_left _ hmem)

/-! ### What calls have left behind -/

/-- The active source was built for the background and the identity of now. -/
def Fresh (es : List (TrafficEvent φ)) (s : Traffic σ φ) : Prop :=
  ∀ b ∈ s.sources, s.connection.active = some b.generation →
    b.context.inBackground = s.connection.flags.inBackground ∧
      (SwitchesFollowed es → b.context.identity = s.connection.data.identity)

/-- How the connection stands while the critical section is free. -/
structure Kept (es : List (TrafficEvent φ)) (s : Traffic σ φ) : Prop where
  agrees : s.connection.IsOpen → ¬ s.OwesUpdate → s.occupant = none → s.connection.Agrees
  fresh : s.connection.IsOpen → ¬ s.OwesRebuild → s.occupant = none → Fresh es s
  online : s.connection.IsOpen → ReportsOnline es → s.connection.active.isSome = true →
    s.connection.status.state.isOffline = false

theorem kept_around {c : Connection σ φ} (hc : c.IsNew) : Kept [] (around c) where
  agrees := by
    intro hopen
    have hstarted : c.flags.started = true := hopen.1
    rw [hc.flags] at hstarted
    cases hstarted
  fresh := fun _ _ _ => nofun
  online := by
    intro _ _ hactive
    simp only [around, hc.active] at hactive
    cases hactive

/-- Only the parts named here count. The status of a connection without a source has to stay. -/
theorem Kept.of_eq {es : List (TrafficEvent φ)} {e : TrafficEvent φ} {s s' : Traffic σ φ}
    (hs : Kept es s) (hwaiting : s'.waiting = s.waiting) (hoccupant : s'.occupant = s.occupant)
    (hsources : s'.sources = s.sources) (hactive : s'.connection.active = s.connection.active)
    (hopen : s'.connection.IsOpen → s.connection.IsOpen)
    (hstate : s'.connection.offlineState? = s.connection.offlineState?)
    (hbackground : s'.connection.flags.inBackground = s.connection.flags.inBackground)
    (hidentity : SwitchesFollowed (es ++ [e]) →
      SwitchesFollowed es ∧ s'.connection.data.identity = s.connection.data.identity)
    (hidle : s.connection.active = none →
      s'.connection.status.state = s.connection.status.state)
    (honline : s'.connection.IsOpen → ReportsOnline (es ++ [e]) →
      s.connection.status.state.isOffline = false →
      s'.connection.status.state.isOffline = false) : Kept (es ++ [e]) s' := by
  refine ⟨fun ho howes hfree => ?_, fun ho howes hfree => ?_, fun ho hreports hsome => ?_⟩
  · unfold OwesUpdate at howes
    rw [hwaiting] at howes
    have hagrees := hs.agrees (hopen ho) howes (hoccupant ▸ hfree)
    refine ⟨?_, fun state hoffline => ?_⟩
    · rw [hstate, hactive]
      exact hagrees.online
    · obtain ⟨hnone, heq⟩ := hagrees.offline state (hstate ▸ hoffline)
      exact ⟨hactive.trans hnone, (hidle hnone).trans heq⟩
  · unfold OwesRebuild at howes
    rw [hwaiting] at howes
    have hfresh := hs.fresh (hopen ho) howes (hoccupant ▸ hfree)
    intro b hb hb'
    obtain ⟨hsame, hfor⟩ := hfresh b (hsources ▸ hb) (hactive ▸ hb')
    refine ⟨hsame.trans hbackground.symm, fun hfollowed => ?_⟩
    obtain ⟨hfollowed, heq⟩ := hidentity hfollowed
    exact (hfor hfollowed).trans heq.symm
  · exact honline ho hreports (hs.online (hopen ho) hreports.of_concat (hactive ▸ hsome))

/-- In the critical section nothing is promised of the source but its status. -/
theorem Kept.of_occupied {es : List (TrafficEvent φ)} {e : TrafficEvent φ} {s s' : Traffic σ φ}
    (hs : Kept es s) (hoccupied : s'.occupant ≠ none)
    (hopen : s'.connection.IsOpen → s.connection.IsOpen)
    (hactive : s'.connection.active = s.connection.active ∨ s'.connection.active = none)
    (hstatus : s'.connection.status = s.connection.status) : Kept (es ++ [e]) s' := by
  refine ⟨fun _ _ hfree => absurd hfree hoccupied, fun _ _ hfree => absurd hfree hoccupied,
    fun ho hreports hsome => ?_⟩
  rw [hstatus]
  rcases hactive with hactive | hactive
  · exact hs.online (hopen ho) hreports.of_concat (hactive ▸ hsome)
  · rw [hactive] at hsome
    cases hsome

/-! ### The steps of a call keep it -/

/-- A call that changes what the source should be built for is on its way to replace it. -/
theorem Kept.announce {es : List (TrafficEvent φ)} {s : Traffic σ φ} (hs : Kept es s)
    (hp : Planned s) (call : ConnectionCall φ) :
    Kept (es ++ [.call call]) (s.announce call) := by
  obtain ⟨flags, factory, hcontrol⟩ := s.connection.announce_control call
  have hactive : (s.announce call).connection.active = s.connection.active := by
    simp only [Traffic.announce, hcontrol]
  rcases s.connection.announce_cases call with
    ⟨heq, hne⟩ | ⟨rebuild, hcritical, -, -, -, hkeeps⟩ | heq
  · have hsame : s.announce call = { s with calls := s.calls + 1 } := by
      simp [Traffic.announce, heq]
    rw [hsame]
    refine hs.of_eq rfl rfl rfl rfl id rfl rfl (fun h => ⟨h.of_concat ?_, rfl⟩) (fun _ => rfl)
      fun _ _ => id
    rintro factory reset ⟨⟩
    exact hne factory reset rfl
  · refine ⟨fun _ howes => absurd (owesUpdate_announce hcritical) howes,
      fun ho howes hfree => ?_, fun ho hreports hsome => ?_⟩
    · cases rebuild with
      | true => exact absurd (owesRebuild_announce hcritical) howes
      | false =>
        -- A call that asks for no rebuild changes nothing that a source is built for.
        obtain ⟨hbackground, hne⟩ := hkeeps rfl
        intro b hb hb'
        rw [hactive] at hb'
        have ho := hp.isOpen_of_announce ho (hb' ▸ rfl)
        obtain ⟨hsame, hfor⟩ := hs.fresh ho (fun h => howes (h.announce call)) hfree b hb hb'
        refine ⟨hsame.trans hbackground.symm, fun hfollowed => ?_⟩
        have hidentity : (s.announce call).connection.data.identity =
            s.connection.data.identity := by
          simp only [Traffic.announce, hcontrol]
        rw [hidentity]
        refine hfor (hfollowed.of_concat ?_)
        rintro factory reset ⟨⟩
        exact hne factory reset rfl
    · rw [hactive] at hsome
      have hstatus : (s.announce call).connection.status = s.connection.status := by
        simp only [Traffic.announce, hcontrol]
      rw [hstatus]
      exact hs.online (hp.isOpen_of_announce ho hsome) hreports.of_concat hsome
  · have hclosed : (s.announce call).connection.flags.closed = true := by
      simp only [Traffic.announce, heq]
    have hnot : ¬ (s.announce call).connection.IsOpen := by
      intro ho
      cases hclosed.symm.trans ho.2.1
    exact ⟨fun ho => absurd ho hnot, fun ho => absurd ho hnot, fun ho => absurd ho hnot⟩

/-- A call that finds nothing to do finds a source that is as the flags ask. -/
theorem Kept.grant {es : List (TrafficEvent φ)} {s : Traffic σ φ} (hs : Kept es s)
    (hfree : s.occupant = none) (call : Nat) (critical : Critical) :
    Kept (es ++ [.enter call]) (s.grant call critical) := by
  rcases s.grant_cases call critical with ⟨hstay, -⟩ | ⟨-, ho⟩
  · -- In particular, a call that was to rebuild the source does not end like this.
    refine ⟨fun hopen _ _ => ?_, fun hopen howes _ => ?_,
      fun hopen hreports => hs.online hopen hreports.of_concat⟩
    · obtain ⟨-, hnone, hsome⟩ := hopen.of_stay hstay
      exact ⟨fun _ => hsome, fun state hstate => by cases hnone.symm.trans hstate⟩
    · obtain ⟨rfl, -⟩ := hopen.of_stay hstay
      intro b hb hb'
      obtain ⟨hsame, hfor⟩ := hs.fresh hopen (fun h => howes (h.grant call)) hfree b hb hb'
      exact ⟨hsame, fun hfollowed => hfor (hfollowed.of_concat nofun)⟩
  · exact hs.of_occupied (by rw [ho]; nofun) id (.inl rfl) rfl

/-- A plan that is settled leaves the source that is asked for, unless somebody is on the way. -/
theorem Kept.settle {es : List (TrafficEvent φ)} {s : Traffic σ φ} (hg : Guarded s)
    (hp : Planned s) {call : Nat} {plan : Plan}
    (ho : s.occupant = some ⟨call, plan, .cleared⟩) :
    Kept (es ++ [.settle]) (s.settle plan) := by
  have hnone := hg.active_of_cleared ho
  rcases s.settle_cases plan with
    ⟨rfl, status, clock, outcome, heq, hstatus⟩ | ⟨hne, status, clock, outcome, heq, hoffline⟩
  · rw [heq]
    refine ⟨fun hopen howes _ => ?_, fun _ _ _ b hb hb' => ?_, fun _ _ _ => hstatus⟩
    · have hgoal : .replace = s.connection.goal := hp.agreed hopen howes _ ho
      refine ⟨fun _ => rfl, fun state hstate => ?_⟩
      have hstate : s.connection.offlineState? = some state := hstate
      simp only [Connection.goal, hstate] at hgoal
      cases hgoal
    · -- All other sources have older generations.
      rcases List.mem_append.1 hb with hb | hb
      · have hle := hg.bounded _ (List.mem_map_of_mem hb)
        have hnew := Option.some.inj hb'
        omega
      · cases List.mem_singleton.1 hb
        exact ⟨rfl, fun _ => rfl⟩
  · rw [heq]
    refine ⟨fun hopen howes _ => ?_, fun _ _ _ b _ hb' => ?_, fun _ _ hsome => ?_⟩
    · have hgoal : plan = s.connection.goal := hp.agreed hopen howes _ ho
      refine ⟨fun hstate => ?_, fun state hstate => ⟨hnone, ?_⟩⟩
      · have hstate : s.connection.offlineState? = none := hstate
        simp only [Connection.goal, hstate] at hgoal
        exact absurd hgoal hne
      · have hstate : s.connection.offlineState? = some state := hstate
        simp only [Connection.goal, hstate] at hgoal
        exact hoffline state hgoal (Connection.offlineState?_ne_interrupted hstate)
    · cases hnone.symm.trans hb'
    · simp only [hnone] at hsome
      cases hsome

/-! ### Every run keeps it -/

section Run

variable [Storage σ]

/-- A source at work reports only states that are allowed. -/
theorem Kept.deliver {es : List (TrafficEvent φ)} {s : Traffic σ φ} (hs : Kept es s)
    (hg : Guarded s) {source : Nat} (hmem : source ∈ s.generations) (delivery : Delivery) :
    Kept (es ++ [.deliver source delivery])
      { s with connection := s.connection.deliver source delivery } := by
  rw [hg.deliver_eq hmem]
  split
  · next hsource =>
    obtain ⟨hactive, -, hdisable, hidentity, shutDown, hflags, hkeep⟩ :=
      s.connection.accept_control delivery
    have hidle : s.connection.active ≠ none := by
      rw [hsource]
      nofun
    refine hs.of_eq rfl rfl rfl hactive (Connection.IsOpen.of_flags_eq hflags hkeep)
      (Connection.offlineState?_congr hflags hdisable) (by rw [hflags])
      (fun h => ⟨h.of_concat nofun, hidentity⟩) (fun h => absurd h hidle)
      fun hopen hreports honline => ?_
    refine Connection.accept_online hopen.2.2 honline fun state error heq => ?_
    rcases hreports source state error (by simp [heq]) with rfl | rfl <;> rfl
  · exact hs.of_eq rfl rfl rfl rfl id rfl rfl (fun h => ⟨h.of_concat nofun, rfl⟩) (fun _ => rfl)
      fun _ _ => id

theorem Kept.step {es : List (TrafficEvent φ)} {s s' : Traffic σ φ} (hs : Kept es s)
    (hg : Guarded s) (hp : Planned s) {e : TrafficEvent φ} (h : s.step e = some s') :
    Kept (es ++ [e]) s' := by
  cases e with
  | call call =>
    cases h
    exact hs.announce hp call
  | enter call =>
    obtain ⟨hfree, critical, -, rfl⟩ := step_enter h
    exact hs.grant hfree call critical
  | cutOff =>
    obtain ⟨call, plan, -, rfl⟩ := step_cutOff h
    obtain ⟨generation, progress, sources, heq, -⟩ := s.cutOff_eq call plan
    rw [heq]
    exact hs.of_occupied nofun id (.inr rfl) rfl
  | dispose =>
    obtain ⟨call, plan, source, -, rfl⟩ := step_dispose h
    exact hs.of_occupied nofun id (.inl rfl) rfl
  | settle =>
    obtain ⟨call, plan, ho, rfl⟩ := step_settle h
    exact Kept.settle hg hp ho
  | switch identity =>
    -- Nothing is promised about an identity that nobody has asked a source for.
    obtain ⟨status, clock, rfl, hstatus⟩ := step_switch h
    exact hs.of_eq rfl rfl rfl rfl id rfl rfl
      (fun h => absurd h (not_switchesFollowed_concat es identity)) (fun _ => hstatus)
      fun _ _ honline => hstatus ▸ honline
  | deliver source delivery =>
    obtain ⟨hmem, rfl⟩ := step_deliver h
    exact hs.deliver hg hmem delivery
  | checkStart source succeeded =>
    obtain ⟨starts, rfl⟩ := step_checkStart h
    exact hs.of_eq rfl rfl rfl rfl id rfl rfl (fun h => ⟨h.of_concat nofun, rfl⟩) (fun _ => rfl)
      fun _ _ => id
  | noteStart source succeeded =>
    obtain ⟨initialized, outcome, starts, rfl⟩ := step_noteStart h
    exact hs.of_eq rfl rfl rfl rfl id rfl rfl (fun h => ⟨h.of_concat nofun, rfl⟩) (fun _ => rfl)
      fun _ _ => id

/-- In every run the source is in line with the flags, or somebody is on the way. -/
theorem planned_of_run {c : Connection σ φ} (hc : c.IsNew) {es : List (TrafficEvent φ)}
    {s : Traffic σ φ} (h : (around c).run es = some s) : Planned s :=
  run_induction (motive := fun _ s => Planned s) (planned_around hc)
    (fun _ _ _ _ hm hstep => hm.step hstep) h

/-- In every run the source is built for the background and identity of the client, or somebody is
on the way. -/
theorem kept_of_run {c : Connection σ φ} (hc : c.IsNew) {es : List (TrafficEvent φ)}
    {s : Traffic σ φ} (h : (around c).run es = some s) : Kept es s := by
  suffices (around c).run es = some s ∧ Kept es s from this.2
  refine run_induction (motive := fun es s => (around c).run es = some s ∧ Kept es s)
    ⟨rfl, kept_around hc⟩ ?_ h
  rintro es e s₁ s₂ ⟨hrun, hs⟩ hstep
  have hg : Guarded s₁ := guarded_of_run (guarded_around hc) hrun
  exact ⟨run_concat hrun hstep, hs.step hg (planned_of_run hc hrun) hstep⟩

end Run

/-! ### The main statement -/

/-- What it means that a connection does what its flags ask for, after the events `es`. -/
structure Settled (es : List (TrafficEvent φ)) (s : Traffic σ φ) : Prop where
  active_iff : s.connection.active.isSome = true ↔
    s.connection.flags.forceOffline = false ∧ s.connection.flags.networkEnabled = true ∧
      ¬ (s.connection.flags.inBackground = true ∧ s.connection.disableBackgroundUpdating = true)
  /-- Being forced offline goes before a missing network, and that before the background. -/
  offline : s.connection.active = none → s.connection.status.state =
    if s.connection.flags.forceOffline then .setOffline
    else if !s.connection.flags.networkEnabled then .networkUnavailable
    else .backgroundDisabled
  /-- The source that runs was built for what counts now. -/
  source : ∀ g, s.connection.active = some g → ∃ b ∈ s.sources, b.generation = g ∧
    b.stage = .live ∧ b.context.inBackground = s.connection.flags.inBackground ∧
    (SwitchesFollowed es → b.context.identity = s.connection.data.identity)
  online : ReportsOnline es → s.connection.active.isSome = true →
    s.connection.status.state ≠ .setOffline ∧ s.connection.status.state ≠ .networkUnavailable ∧
      s.connection.status.state ≠ .backgroundDisabled

/-- **A connection at rest does what its flags ask for**, in whatever order calls have got there. -/
theorem settled_of_atRest [Storage σ] {c : Connection σ φ} (hc : c.IsNew)
    {es : List (TrafficEvent φ)} {s : Traffic σ φ} (h : (around c).run es = some s)
    (hrest : s.AtRest) (hopen : s.connection.IsOpen) : Settled es s := by
  have hg : Guarded s := guarded_of_run (guarded_around hc) h
  have hs : Kept es s := kept_of_run hc h
  obtain ⟨hwaiting, hfree⟩ := hrest
  -- At rest nobody is on the way, so all that is kept holds without exception.
  have hupdate : ¬ s.OwesUpdate := by
    simp [OwesUpdate, hwaiting]
  have hrebuild : ¬ s.OwesRebuild := by
    simp [OwesRebuild, hwaiting]
  have hagrees := hs.agrees hopen hupdate hfree
  refine ⟨?_, fun hnone => ?_, fun g hactive => ?_, fun hreports hsome => ?_⟩
  · rw [← s.connection.offlineState?_eq_none_iff]
    refine ⟨fun hsome => ?_, hagrees.online⟩
    cases hstate : s.connection.offlineState? with
    | none => rfl
    | some state =>
      rw [(hagrees.offline state hstate).1] at hsome
      cases hsome
  · cases hstate : s.connection.offlineState? with
    | none =>
      have hsome := hagrees.online hstate
      rw [hnone] at hsome
      cases hsome
    | some state =>
      rw [(hagrees.offline state hstate).2]
      exact Connection.offlineState?_eq_some hstate
  · obtain ⟨b, hb, rfl⟩ := List.mem_map.1 (hg.built g hactive)
    exact ⟨b, hb, rfl, (hg.live_iff b hb).2 hactive, hs.fresh hopen hrebuild hfree b hb hactive⟩
  · have honline := hs.online hopen hreports hsome
    refine ⟨?_, ?_, ?_⟩ <;> intro hstate <;> rw [hstate] at honline <;> cases honline

/-- Five calls that overlap. The one that starts the connection enters when there is nothing left to
do for it, and the one that forces the connection offline is overtaken by the one that does not. -/
def overlap : List (TrafficEvent Unit) :=
  [.call .start, .call (.setForceOffline true), .call (.setInBackground true), .enter 1,
    .call (.setForceOffline false), .cutOff, .settle, .switch { key := "other" },
    .call (.reconfigure none true), .enter 4, .cutOff, .settle, .deliver 1 .valid, .enter 0,
    .enter 3, .enter 2, .cutOff, .dispose, .settle]

/-- The calls overlap, and one source is left that is the right one. -/
theorem settled_overlap :
    ∃ s, (around Connection.plain).run overlap = some s ∧ s.AtRest ∧ s.connection.IsOpen ∧
      s.connection.active = some 3 ∧ Settled overlap s :=
  ⟨_, rfl, ⟨rfl, rfl⟩, ⟨rfl, rfl, rfl⟩, rfl,
    settled_of_atRest Connection.isNew_plain rfl ⟨rfl, rfl⟩ ⟨rfl, rfl, rfl⟩⟩

end Traffic

end LiveFlags
