import LiveFlags.Proofs.Connection.Answers
import LiveFlags.Proofs.Connection.Failure

/-!
# A closed connection

The first call that closes a connection writes the flag, and ends the source in the critical section
later. What other calls had decided before goes on in between, and may even build a source. Once the
call is through, that source is gone as well, and nothing is left to happen: whoever comes to the
critical section finds the flag and leaves, whatever a source delivers is dropped, and a start says
no at once. `Shut` is the invariant from then on.

A further call of the same kind finds the flag and returns at once, whether the first one is through
or not. So it may return while a call that had decided before is still in the critical section, and
a source is built after that. This is the only thing that can go wrong.

Main statement: `over_iff_shut`.
-/

namespace LiveFlags

/-- A closed connection leaves its source alone, unless it is to end it. -/
theorem Connection.plan_of_closed {σ φ : Type} {c : Connection σ φ} (h : c.flags.closed = true)
    {critical : Critical} (hstay : c.plan critical ≠ .stay) : c.plan critical = .close := by
  cases critical with
  | close => rfl
  | update rebuild =>
    refine absurd ?_ hstay
    simp [plan, h]

namespace Traffic

variable {σ φ : Type}

/-- The call is on its way to close the connection. -/
def Closing (s : Traffic σ φ) (call : Nat) : Prop :=
  (call, .close) ∈ s.waiting ∨ ∃ o, s.occupant = some o ∧ o.call = call ∧ o.plan = .close

theorem Closing.inProgress {s : Traffic σ φ} {call : Nat} (h : s.Closing call) :
    s.InProgress call := by
  rcases h with hmem | ⟨o, ho, hcall, -⟩
  · exact .inl ⟨_, hmem⟩
  · exact .inr ⟨o, ho, hcall⟩

/-- The connection is closed and at its end, and whoever is in the critical section wants nothing
else. -/
structure Shut (s : Traffic σ φ) : Prop where
  closed : s.connection.flags.closed = true
  state : s.connection.status.state = .shutdown
  active : s.connection.active = none
  plan : ∀ o, s.occupant = some o → o.plan = .close

variable [Storage σ]

theorem closed_of_step {s s' : Traffic σ φ} {e : TrafficEvent φ} (h : s.step e = some s')
    (hclosed : s.connection.flags.closed = true) : s'.connection.flags.closed = true := by
  cases hs : s'.connection.flags.closed with
  | true => rfl
  | false => cases hclosed.symm.trans (not_closed_of_step h hs)

/-- Nobody opens a connection that was closed. -/
theorem closed_of_run {s s' : Traffic σ φ} {es : List (TrafficEvent φ)} (h : s.run es = some s')
    (hclosed : s.connection.flags.closed = true) : s'.connection.flags.closed = true :=
  run_induction (motive := fun _ s => s.connection.flags.closed = true) hclosed
    (fun _ _ _ _ hm hstep => closed_of_step hstep hm) h

/-- Until it settles, a call stays in the critical section with its plan. -/
theorem occupant_of_step {s s' : Traffic σ φ} {o : Occupant} (ho : s.occupant = some o)
    {e : TrafficEvent φ} (h : s.step e = some s') (hne : e ≠ .settle) :
    ∃ o', s'.occupant = some o' ∧ o'.call = o.call ∧ o'.plan = o.plan := by
  cases e with
  | settle => exact absurd rfl hne
  | call call =>
    cases h
    exact ⟨o, ho, rfl, rfl⟩
  | enter call =>
    obtain ⟨hfree, -⟩ := step_enter h
    cases hfree.symm.trans ho
  | cutOff =>
    obtain ⟨call, plan, ho', rfl⟩ := step_cutOff h
    obtain ⟨generation, progress, sources, heq, -⟩ := s.cutOff_eq call plan
    cases ho.symm.trans ho'
    exact ⟨⟨call, plan, progress⟩, by rw [heq], rfl, rfl⟩
  | dispose =>
    obtain ⟨call, plan, source, ho', rfl⟩ := step_dispose h
    cases ho.symm.trans ho'
    exact ⟨_, rfl, rfl, rfl⟩
  | switch | deliver | checkStart | noteStart =>
    obtain ⟨connection, starts, _, _, rfl, -⟩ := step_aside h rfl
    exact ⟨o, ho, rfl, rfl⟩

/-! ### Until the call is through -/

/-- The call waits, decides and settles, and the connection is shut when it has settled. -/
theorem Closing.step {s s' : Traffic σ φ} {call : Nat} (hs : s.Closing call) (hg : Guarded s)
    {e : TrafficEvent φ} (h : s.step e = some s') (hclosed : s.connection.flags.closed = true) :
    s'.Closing call ∨ Shut s' := by
  rcases hs with hmem | ⟨o, ho, hcall, hplan⟩
  · by_cases he : e = .enter call
    · subst he
      obtain ⟨-, critical, hmem', rfl⟩ := step_enter h
      cases critical with
      | update rebuild => exact .inl (.inl ((List.mem_erase_of_ne (by simp)).2 hmem))
      | close => exact .inl (.inr ⟨_, rfl, rfl, rfl⟩)
    · exact .inl (.inl (waiting_of_step hmem h he))
  · by_cases he : e = .settle
    · subst he
      have hclosed' := closed_of_step h hclosed
      obtain ⟨call', plan, ho', rfl⟩ := step_settle h
      cases ho.symm.trans ho'
      obtain rfl : plan = .close := hplan
      have hactive : s.connection.active = none := hg.active_of_cleared ho
      exact .inr ⟨hclosed', s.connection.settle_close_state, hactive, nofun⟩
    · -- It has not settled yet, so it is still the one in the critical section.
      obtain ⟨o', ho', hcall', hplan'⟩ := occupant_of_step ho h he
      exact .inl (.inr ⟨o', ho', hcall'.trans hcall, hplan'.trans hplan⟩)

/-! ### When the call is through -/

/-- A connection that is shut stays so, and no source is built. -/
theorem Shut.step {s s' : Traffic σ φ} (hs : Shut s) (hg : Guarded s) {e : TrafficEvent φ}
    (h : s.step e = some s') : Shut s' ∧ s'.generations = s.generations := by
  have hclosed := closed_of_step h hs.closed
  have hplan : ∀ o, s'.occupant = some o → o.plan = .close := by
    intro o ho
    rcases plan_of_step h with ⟨-, heq⟩ | ⟨-, hfree⟩ | ⟨-, critical, hstay, heq⟩
    · rw [ho] at heq
      obtain ⟨o₁, ho₁, hsame⟩ := Option.map_eq_some_iff.1 heq.symm
      exact hsame.symm.trans (hs.plan o₁ ho₁)
    · cases hfree.symm.trans ho
    · rw [ho] at heq
      exact (Option.some.inj heq).trans (Connection.plan_of_closed hs.closed hstay)
  obtain ⟨-, hstate, hactive, hwants⟩ := hs
  cases e with
  | call call =>
    cases h
    obtain ⟨flags, factory, heq⟩ := s.connection.announce_control call
    refine ⟨⟨hclosed, ?_, ?_, hplan⟩, rfl⟩
    · simpa only [announce, heq] using hstate
    · simpa only [announce, heq] using hactive
  | enter call =>
    obtain ⟨-, critical, -, rfl⟩ := step_enter h
    exact ⟨⟨hclosed, hstate, hactive, hplan⟩, rfl⟩
  | cutOff =>
    obtain ⟨call, plan, -, rfl⟩ := step_cutOff h
    have hcut : s.cutOff call plan = { s with occupant := some ⟨call, plan, .cleared⟩ } := by
      simp only [Traffic.cutOff, hactive]
    rw [hcut] at hclosed hplan ⊢
    exact ⟨⟨hclosed, hstate, hactive, hplan⟩, rfl⟩
  | dispose =>
    obtain ⟨call, plan, source, -, rfl⟩ := step_dispose h
    exact ⟨⟨hclosed, hstate, hactive, hplan⟩, s.generations_withStage source .gone⟩
  | settle =>
    obtain ⟨call, plan, ho, rfl⟩ := step_settle h
    obtain rfl : plan = .close := hwants _ ho
    exact ⟨⟨hclosed, s.connection.settle_close_state, hactive, hplan⟩,
      s.generations_settle_of_ne (by simp)⟩
  | switch identity =>
    obtain ⟨status, clock, rfl, hstatus⟩ := step_switch h
    exact ⟨⟨hclosed, hstatus.trans hstate, hactive, hplan⟩, rfl⟩
  | deliver source delivery =>
    obtain ⟨hmem, rfl⟩ := step_deliver h
    rw [hg.deliver_eq hmem, if_neg (by simp [hactive])] at hclosed ⊢
    exact ⟨⟨hclosed, hstate, hactive, hplan⟩, rfl⟩
  | checkStart source succeeded =>
    obtain ⟨starts, rfl⟩ := step_checkStart h
    exact ⟨⟨hclosed, hstate, hactive, hplan⟩, rfl⟩
  | noteStart source succeeded =>
    obtain ⟨initialized, outcome, starts, rfl⟩ := step_noteStart h
    exact ⟨⟨hclosed, hstate, hactive, hplan⟩, rfl⟩

/-- What one step keeps is kept by a run, and no source is ever built. -/
theorem Shut.run {s s' : Traffic σ φ} (hs : Shut s) (hg : Guarded s) {es : List (TrafficEvent φ)}
    (h : s.run es = some s') : Shut s' ∧ s'.generations = s.generations := by
  suffices s.run es = some s' ∧ Shut s' ∧ s'.generations = s.generations from this.2
  refine run_induction (motive := fun es s' => s.run es = some s' ∧ Shut s' ∧
    s'.generations = s.generations) ⟨rfl, hs, rfl⟩ ?_ h
  rintro es e s₁ s₂ ⟨hrun, hs₁, hgenerations⟩ hstep
  obtain ⟨hs₂, hsame⟩ := hs₁.step (guarded_of_run hg hrun) hstep
  exact ⟨run_concat hrun hstep, hs₂, hsame.trans hgenerations⟩

/-- Nobody but who switches the identity has anything to enter in the journal. -/
theorem Shut.journal {s s' : Traffic σ φ} (hs : Shut s) (hg : Guarded s)
    {es : List (TrafficEvent φ)} (h : s.run es = some s') :
    ∀ entry ∈ s.journal es, ∃ identity, entry.1 = .switch identity := by
  induction es generalizing s with
  | nil => exact fun entry hentry => absurd hentry List.not_mem_nil
  | cons e es ih =>
    rw [run_cons] at h
    obtain ⟨s₁, hstep, hrun⟩ := Option.bind_eq_some_iff.1 h
    have hrest := ih (hs.step hg hstep).1 (hg.step hstep) hrun
    intro entry hentry
    simp only [Traffic.journal, hstep, List.mem_append] at hentry
    rcases hentry with hentry | hentry
    · cases e with
      | switch identity =>
        cases List.mem_singleton.1 hentry
        exact ⟨identity, rfl⟩
      | deliver source delivery => simp [entries, hs.active] at hentry
      | call | enter | cutOff | dispose | settle | checkStart | noteStart =>
        exact absurd hentry List.not_mem_nil
    · exact hrest entry hentry

/-! ### The calls that close -/

/-- The call with this number is one that closes the connection, and finds it in the state `s`. -/
def ClosesAt (c : Connection σ φ) (es : List (TrafficEvent φ)) (call : Nat)
    (s : Traffic σ φ) : Prop :=
  ∃ before after, es = before ++ .call .close :: after ∧ (around c).run before = some s ∧
    s.calls = call

theorem ClosesAt.split {c : Connection σ φ} {es : List (TrafficEvent φ)} {call : Nat}
    {s s' : Traffic σ φ} (hcall : ClosesAt c es call s) (h : (around c).run es = some s') :
    ∃ before after, (around c).run (before ++ [.call .close]) = some (s.announce .close) ∧
      s.calls = call ∧ (s.announce .close).run after = some s' := by
  obtain ⟨before, after, rfl, hbefore, hcalls⟩ := hcall
  obtain ⟨_, _, hbefore', hstep, hafter⟩ := run_append_cons h
  cases hbefore.symm.trans hbefore'
  cases hstep
  exact ⟨before, after, run_concat hbefore rfl, hcalls, hafter⟩

omit [Storage σ] in
theorem announce_close_closed (s : Traffic σ φ) :
    (s.announce .close).connection.flags.closed = true := by
  simp only [announce, Connection.announce]
  split
  · next hclosed => exact hclosed
  · rfl

/-- The call that finds the connection open is on its way to close it, or has shut it. -/
theorem closing_or_shut {c : Connection σ φ} (hc : c.IsNew) {es : List (TrafficEvent φ)}
    {call : Nat} {s s' : Traffic σ φ} (hcall : ClosesAt c es call s)
    (hopen : s.connection.flags.closed = false) (h : (around c).run es = some s') :
    s'.Closing call ∨ Shut s' := by
  obtain ⟨before, after, hbefore, rfl, hafter⟩ := hcall.split h
  have hg : Guarded (s.announce .close) := guarded_of_run (guarded_around hc) hbefore
  have hwaits : (s.calls, .close) ∈ (s.announce .close).waiting := by
    simp [announce, Connection.announce, hopen]
  suffices (s.announce .close).run after = some s' ∧ (s'.Closing s.calls ∨ Shut s') from this.2
  refine run_induction (motive := fun es s' => (s.announce .close).run es = some s' ∧
    (s'.Closing s.calls ∨ Shut s')) ⟨rfl, .inl (.inl hwaits)⟩ ?_ hafter
  · rintro es e s₁ s₂ ⟨hrun, hs₁⟩ hstep
    have hg₁ : Guarded s₁ := guarded_of_run hg hrun
    refine ⟨run_concat hrun hstep, ?_⟩
    rcases hs₁ with hclosing | hshut
    · exact hclosing.step hg₁ hstep (closed_of_run hrun s.announce_close_closed)
    · exact .inr (hshut.step hg₁ hstep).1

/-! ### A call that had decided before -/

/-- With no source in its way, the call in the critical section comes to settle its plan. -/
theorem exists_run_settle {s : Traffic σ φ} {o : Occupant} (ho : s.occupant = some o)
    (hactive : s.connection.active = none) :
    ∃ (es : List (TrafficEvent φ)) (s₁ : Traffic σ φ), s.run es = some (s₁.settle o.plan) := by
  obtain ⟨call, plan, progress⟩ := o
  cases progress with
  | decided =>
    refine ⟨[.cutOff, .settle], { s with occupant := some ⟨call, plan, .cleared⟩ }, ?_⟩
    simp [run, step, ho, cutOff, hactive]
  | disposing source =>
    refine ⟨[.dispose, .settle], { s with
      occupant := some ⟨call, plan, .cleared⟩, sources := s.withStage source .gone }, ?_⟩
    simp [run, step, ho]
  | cleared =>
    refine ⟨[.settle], s, ?_⟩
    simp [run, step, ho]

omit [Storage σ] in
/-- Any other plan than the end shows when it is settled: a source is active, or the state is that
of a connection that is offline. -/
theorem Drafted.eq_close {s : Traffic σ φ} (hd : Drafted s) {o : Occupant}
    (ho : s.occupant = some o) {s₁ : Traffic σ φ}
    (hstate : (s₁.settle o.plan).connection.status.state = .shutdown)
    (hactive : (s₁.settle o.plan).connection.active = none) : o.plan = .close := by
  obtain ⟨hstay, hstates⟩ := hd o.plan (by rw [ho]; rfl)
  cases hplan : o.plan with
  | close => rfl
  | stay => exact absurd hplan hstay
  | replace =>
    rw [hplan] at hactive
    rcases s₁.settle_cases .replace with ⟨-, status, clock, outcome, heq, -⟩ | ⟨hne, -⟩
    · rw [heq] at hactive
      cases hactive
    · exact absurd rfl hne
  | goOffline state =>
    obtain ⟨hne, hne'⟩ := hstates state hplan
    rw [hplan] at hstate
    exact absurd ((s₁.connection.settle_goOffline_state hne').symm.trans hstate) hne

/-! ### The main statement -/

/-- The connection has ended for good, and has been like that since `s₀`, after which the events
`es` have led to `s`. -/
structure Over (s₀ : Traffic σ φ) (es : List (TrafficEvent φ)) (s : Traffic σ φ) : Prop where
  state : s.connection.status.state = .shutdown
  active : s.connection.active = none
  /-- No source was built. -/
  generations : s.generations = s₀.generations
  /-- Whatever any source delivers changes nothing. -/
  deliver : ∀ source delivery s', s.step (.deliver source delivery) = some s' → s' = s
  /-- The data were changed by nothing but switches of the identity. -/
  data : s.connection.data = (s₀.journal es).foldl FlagData.take s₀.connection.data
  switches : ∀ entry ∈ s₀.journal es, ∃ identity, entry.1 = .switch identity
  /-- A start ends at once, leaves everything as it is, and says no. -/
  start : s.step (.call .start) = some { s with calls := s.calls + 1 } ∧
    ∀ c, ¬ ClientCall.start.SaysYes s.connection c

/-- A connection that is shut has ended for good. -/
theorem Shut.over {s₀ s : Traffic σ φ} (hs₀ : Shut s₀) (hg₀ : Guarded s₀)
    {es : List (TrafficEvent φ)} (h : s₀.run es = some s) : Over s₀ es s := by
  have hg : Guarded s := guarded_of_run hg₀ h
  obtain ⟨hs, hgenerations⟩ := hs₀.run hg₀ h
  refine ⟨hs.state, hs.active, hgenerations, fun source delivery s' hstep => ?_, hg₀.run_data h,
    hs₀.journal hg₀ h, ?_, fun c ⟨_, hopen, _⟩ => ?_⟩
  · obtain ⟨hmem, rfl⟩ := step_deliver hstep
    rw [hg.deliver_eq hmem, if_neg (by simp [hs.active])]
  · simp [Traffic.step, announce, Connection.announce, hs.closed]
  · cases hs.closed.symm.trans (hopen rfl)

/-- **When a closed connection stays closed.** A call that closes the connection was made at some
time. From `s₀` on the connection has ended for good, whatever is called and delivered, just if it
is shut in `s₀`: its state is `shutdown`, no source is active, and no call that had decided before
the end is in the critical section. If the call found the connection open, that is so as soon as the
call is through. -/
theorem over_iff_shut {c : Connection σ φ} (hc : c.IsNew) {es₀ : List (TrafficEvent φ)}
    {s₀ s₁ : Traffic σ φ} {call : Nat} (h₀ : (around c).run es₀ = some s₀)
    (hcall : ClosesAt c es₀ call s₁) :
    ((∀ es s, s₀.run es = some s → Over s₀ es s) ↔ Shut s₀) ∧
      (s₁.connection.flags.closed = false → ¬ s₀.InProgress call → Shut s₀) := by
  have hg₀ : Guarded s₀ := guarded_of_run (guarded_around hc) h₀
  refine ⟨⟨fun hover => ?_, fun hshut es s => hshut.over hg₀⟩, fun hopen hthrough => ?_⟩
  · have hclosed : s₀.connection.flags.closed = true := by
      obtain ⟨before, after, -, -, hafter⟩ := hcall.split h₀
      exact closed_of_run hafter s₁.announce_close_closed
    have hnow := hover [] s₀ rfl
    refine ⟨hclosed, hnow.state, hnow.active, fun o ho => ?_⟩
    obtain ⟨es, s, hrun⟩ := exists_run_settle ho hnow.active
    have hthen := hover es _ hrun
    exact (drafted_of_run h₀).eq_close ho hthen.state hthen.active
  · rcases closing_or_shut hc hcall hopen h₀ with hclosing | hshut
    · exact absurd hclosing.inProgress hthrough
    · exact hshut

/-- The connection is closed while a call that had decided before is about to build the next source,
and once more while that goes on. -/
def lateBuild : List (TrafficEvent Unit) :=
  firstSource ++ [.call (.setInBackground true), .enter 1, .cutOff, .call .close, .dispose,
    .call .close, .settle, .enter 2, .cutOff, .dispose, .settle]

/-- Others go on as if nothing had happened. -/
def aftermath : List (TrafficEvent Unit) :=
  [.call .start, .deliver 3 .valid, .call (.reconfigure none true), .call (.setForceOffline true),
    .enter 6, .switch { key := "other" }, .enter 5, .deliver 1 (.failure (.response 401)),
    .call .close]

/-- The first call closes the connection after a source was built in front of it, and whatever comes
then is in vain. -/
theorem over_aftermath : ∃ s₀ s, (around Connection.plain).run lateBuild = some s₀ ∧
    s₀.generations = [1, 3] ∧ s₀.run aftermath = some s ∧ Over s₀ aftermath s := by
  obtain ⟨s₀, h₀, hbuilt, hrest, s, h⟩ : ∃ s₀,
      (around Connection.plain).run lateBuild = some s₀ ∧ s₀.generations = [1, 3] ∧ s₀.AtRest ∧
      ∃ s, s₀.run aftermath = some s :=
    ⟨_, rfl, rfl, ⟨rfl, rfl⟩, _, rfl⟩
  obtain ⟨s₁, hfound, hopen⟩ : ∃ s₁, ClosesAt Connection.plain lateBuild 2 s₁ ∧
      s₁.connection.flags.closed = false :=
    ⟨_, ⟨firstSource ++ [.call (.setInBackground true), .enter 1, .cutOff], _, rfl, rfl, rfl⟩, rfl⟩
  obtain ⟨hiff, hshut⟩ := over_iff_shut Connection.isNew_plain h₀ hfound
  exact ⟨s₀, s, h₀, hbuilt, h, hiff.2 (hshut hopen (hrest.not_inProgress 2)) aftermath s h⟩

/-- The connection is closed twice while a call that had decided before is in the critical
section. -/
def lateClose : List (TrafficEvent Unit) :=
  firstSource ++ [.call (.setInBackground true), .enter 1, .cutOff, .call .close, .call .close]

/-- The second of the calls that close is through while the first one waits for somebody who had
decided before, and who builds a source then. -/
theorem exists_not_over : ∃ s₁ s₀ s, (around Connection.plain).run lateClose = some s₀ ∧
    ClosesAt Connection.plain lateClose 3 s₁ ∧ ¬ s₀.InProgress 3 ∧
    s₀.run [.dispose, .settle] = some s ∧ ¬ Over s₀ [.dispose, .settle] s ∧
    s.connection.status.state = .initializing ∧ s.connection.active = some 3 ∧
    s₀.generations = [1] ∧ s.generations = [1, 3] := by
  obtain ⟨s₀, s, h₀, hwaiting, hoccupant, h, hstate, hactive, hgenerations⟩ :
      ∃ s₀ s, (around Connection.plain).run lateClose = some s₀ ∧ s₀.waiting = [(2, .close)] ∧
      s₀.occupant = some ⟨1, .replace, .disposing 1⟩ ∧ s₀.run [.dispose, .settle] = some s ∧
      s.connection.status.state = .initializing ∧ s.connection.active = some 3 ∧
      s₀.generations = [1] ∧ s.generations = [1, 3] :=
    ⟨_, _, rfl, rfl, rfl, rfl, rfl, rfl, rfl, rfl⟩
  obtain ⟨s₁, hfound⟩ : ∃ s₁, ClosesAt Connection.plain lateClose 3 s₁ :=
    ⟨_, firstSource ++ [.call (.setInBackground true), .enter 1, .cutOff, .call .close], [], rfl,
      rfl, rfl⟩
  refine ⟨s₁, s₀, s, h₀, hfound, ?_, h, fun hover => ?_, hstate, hactive, hgenerations⟩
  · simp [InProgress, hwaiting, hoccupant]
  · cases hover.active.symm.trans hactive

end Traffic

end LiveFlags
