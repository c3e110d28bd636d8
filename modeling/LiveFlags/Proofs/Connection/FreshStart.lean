import LiveFlags.Proofs.Connection.Answers

/-!
# Data since fresh data were asked for

A call that asks for fresh data first forgets that data have arrived, and comes to the critical
section later. From then on the connection should not count as initialized, and nobody should be
told yes, before a source that was built since has come through its start (`StartsAfresh`).

Two things stand in the way of that. The old source is cut off only in the critical section, and its
start is noted in two steps. If its generation is looked at before it is cut off, and the success is
noted after the call has forgotten the data, then the old data count for new ones.
`noteStart_window` says which sources this can happen to.

The outcome of the attempt to start stays what it was until a call goes offline or builds a source.
So there may be an old yes for some time (`OldYes`), and it stays for ever if the connection has
come to its end by then.

Main statement: `startsAfresh_iff`.
-/

namespace LiveFlags

/-- A call with this plan decides on the attempt to start, whatever has come of it so far. -/
def Plan.decides : Plan → Bool
  | .goOffline _ | .replace => true
  | .stay | .close => false

/-- A delivery settles the attempt to start only against it. -/
theorem Connection.deliver_startOutcome {σ φ : Type} [Storage σ] (c : Connection σ φ) (source : Nat)
    (delivery : Delivery) :
    ∃ decision, (c.deliver source delivery).startOutcome = c.startOutcome.or decision ∧
      decision ≠ some true := by
  unfold deliver
  split
  · cases hstep : delivery.dataStep? with
    | some step =>
      obtain ⟨status, clock, heq, -⟩ := c.accept_data_eq hstep
      rw [heq]
      exact ⟨none, (Option.or_none ..).symm, nofun⟩
    | none =>
      cases delivery with
      | snapshot | item => cases hstep
      | status => exact ⟨none, (Option.or_none ..).symm, nofun⟩
      | failure error => exact ⟨some false, rfl, nofun⟩
  · exact ⟨none, (Option.or_none ..).symm, nofun⟩

namespace Traffic

variable {σ φ : Type}

/-- Fresh data were asked for just now, or nothing has happened yet. -/
def AsksAfresh (es : List (TrafficEvent φ)) : Prop :=
  es = [] ∨ ∃ before factory, es = before ++ [.call (.reconfigure factory true)]

/-- A source that was built since has come through its start. -/
def StartedSince (s₀ s : Traffic σ φ) (after : List (TrafficEvent φ)) : Prop :=
  ∃ g ∈ s.generations, g ∉ s₀.generations ∧ .checkStart g true ∈ after

/-- What somebody who asks for fresh data may expect. -/
structure StartsAfresh (s₀ s : Traffic σ φ) (after : List (TrafficEvent φ)) : Prop where
  initialized : s.connection.flags.initialized = true → StartedSince s₀ s after
  outcome : s.connection.startOutcome = some true → s.connection.flags.forceOffline = false →
    StartedSince s₀ s after

/-- The end of the start of a source can still be noted: its generation was looked at, or it is in
place. -/
def Outstanding (s : Traffic σ φ) (source : Nat) (succeeded : Bool) : Prop :=
  (source, succeeded) ∈ s.starts ∨ s.connection.active = some source

variable [Storage σ]

/-- In the course of these events no call goes offline or builds a source. -/
def Undecided (s : Traffic σ φ) (es : List (TrafficEvent φ)) : Prop :=
  ∀ earlier later s' o, es = earlier ++ .settle :: later → s.run earlier = some s' →
    s'.occupant = some o → o.plan.decides = false

/-- The outcome is a yes that no source has given since: it was there when fresh data were asked
for, or comes from a connection that was taken offline by force. -/
inductive OldYes (s₀ : Traffic σ φ) (after : List (TrafficEvent φ)) : Prop
  | kept (outcome : s₀.connection.startOutcome = some true) (undecided : Undecided s₀ after)
  | offline {earlier later : List (TrafficEvent φ)} {s₁ s₂ : Traffic σ φ} {o : Occupant}
    (split : after = earlier ++ .settle :: later) (run : s₀.run earlier = some s₁)
    (occupied : s₁.occupant = some o) (plan : o.plan = .goOffline .setOffline)
    (settled : s₁.step .settle = some s₂) (undecided : Undecided s₂ later)

/-- When that can be relied on. -/
structure Orderly (s₀ s : Traffic σ φ) (after : List (TrafficEvent φ)) : Prop where
  /-- If an old source gets through in its window, a new one has come through as well. -/
  replaced : ∀ source, s₀.Outstanding source true → .noteStart source true ∈ after →
    StartedSince s₀ s after
  /-- While the connection is not forced offline, no old yes is left, unless a new source has come
  through. -/
  renewed : OldYes s₀ after → s.connection.flags.forceOffline = false → StartedSince s₀ s after

variable {s s' : Traffic σ φ}

/-! ### The outcome -/

/-- While nobody settles a plan, the outcome may be settled as long as it is open, and in favour
only by a start. -/
theorem startOutcome_of_ne_settle {e : TrafficEvent φ} (h : s.step e = some s')
    (he : e ≠ .settle) :
    ∃ decision, s'.connection.startOutcome = s.connection.startOutcome.or decision ∧
      (decision = some true → ∃ source, e = .noteStart source true) := by
  have hsame (heq : s'.connection.startOutcome = s.connection.startOutcome) :
      ∃ decision, s'.connection.startOutcome = s.connection.startOutcome.or decision ∧
        (decision = some true → ∃ source, e = .noteStart source true) :=
    ⟨none, heq.trans (Option.or_none ..).symm, nofun⟩
  cases e with
  | settle => exact absurd rfl he
  | call call =>
    cases h
    obtain ⟨flags, factory, heq⟩ := s.connection.announce_control call
    exact hsame (by simp only [announce, heq])
  | enter call =>
    obtain ⟨-, critical, -, rfl⟩ := step_enter h
    exact hsame rfl
  | cutOff =>
    obtain ⟨call, plan, -, rfl⟩ := step_cutOff h
    obtain ⟨generation, progress, sources, heq, -⟩ := s.cutOff_eq call plan
    exact hsame (by rw [heq])
  | dispose =>
    obtain ⟨call, plan, source, -, rfl⟩ := step_dispose h
    exact hsame rfl
  | switch identity =>
    obtain ⟨status, clock, rfl, -⟩ := step_switch h
    exact hsame rfl
  | deliver source delivery =>
    obtain ⟨-, rfl⟩ := step_deliver h
    obtain ⟨decision, heq, hfalse⟩ := s.connection.deliver_startOutcome source delivery
    exact ⟨decision, heq, fun htrue => absurd htrue hfalse⟩
  | checkStart source succeeded =>
    obtain ⟨starts, rfl⟩ := step_checkStart h
    exact hsame rfl
  | noteStart source succeeded =>
    obtain ⟨-, rfl⟩ := noteStart_of_step h
    refine ⟨some succeeded, by rw [Connection.acceptStart_eq], fun htrue => ?_⟩
    exact ⟨source, by rw [Option.some.inj htrue]⟩

/-- A call that goes offline or builds a source writes the outcome anew. Anything else may settle it
only while it is open, and in favour only by a start. -/
theorem startOutcome_cases {e : TrafficEvent φ} (h : s.step e = some s') :
    (∃ o, e = .settle ∧ s.occupant = some o ∧ o.plan = .replace ∧
      s'.connection.startOutcome = if s.connection.flags.initialized then some true else none) ∨
    (∃ o state, e = .settle ∧ s.occupant = some o ∧ o.plan = .goOffline state ∧
      s'.connection.startOutcome = some (decide (state = .setOffline))) ∨
    ((e = .settle → ∀ o, s.occupant = some o → o.plan.decides = false) ∧
      ∃ decision, s'.connection.startOutcome = s.connection.startOutcome.or decision ∧
        (decision = some true → ∃ source, e = .noteStart source true)) := by
  by_cases he : e = .settle
  · subst he
    obtain ⟨call, plan, ho, rfl⟩ := step_settle h
    have honly (hplan : plan.decides = false) (o : Occupant) (ho' : s.occupant = some o) :
        o.plan.decides = false := by
      cases ho.symm.trans ho'
      exact hplan
    cases plan with
    | replace => exact .inl ⟨_, rfl, ho, rfl, s.connection.settle_replace_startOutcome⟩
    | goOffline state => exact .inr (.inl ⟨_, state, rfl, ho, rfl, rfl⟩)
    | stay =>
      exact .inr (.inr ⟨fun _ => honly rfl, none, (Option.or_none ..).symm, nofun⟩)
    | close =>
      exact .inr (.inr ⟨fun _ => honly rfl, some false, rfl, nofun⟩)
  · exact .inr (.inr ⟨fun hsettle => absurd hsettle he, startOutcome_of_ne_settle h he⟩)

/-- A run goes on where its first part has ended. -/
theorem run_of_split {s₁ s₂ : Traffic σ φ} {e : TrafficEvent φ}
    {earlier later : List (TrafficEvent φ)} (h : s.run (earlier ++ e :: later) = some s')
    (h₁ : s.run earlier = some s₁) (h₂ : s₁.step e = some s₂) : s₂.run later = some s' := by
  obtain ⟨s₁', s₂', h₁', h₂', hlater⟩ := run_append_cons h
  cases h₁.symm.trans h₁'
  cases h₂.symm.trans h₂'
  exact hlater

theorem Undecided.concat {s₀ : Traffic σ φ} {es : List (TrafficEvent φ)} {e : TrafficEvent φ}
    (h : Undecided s₀ es) (hrun : s₀.run es = some s)
    (he : e = .settle → ∀ o, s.occupant = some o → o.plan.decides = false) :
    Undecided s₀ (es ++ [e]) := by
  intro earlier later s₁ o heq hearlier ho
  rcases History.split_concat heq with ⟨-, rfl, hlast⟩ | ⟨later, rfl, hes⟩
  · cases hearlier.symm.trans hrun
    exact he hlast o ho
  · exact h earlier later s₁ o hes hearlier ho

/-- A yes stays as long as nobody decides anew. -/
theorem Undecided.startOutcome {es : List (TrafficEvent φ)} (hs : Undecided s es)
    (h : s.run es = some s') (htrue : s.connection.startOutcome = some true) :
    s'.connection.startOutcome = some true := by
  refine (run_induction (motive := fun es s' => s.run es = some s' ∧
    (Undecided s es → s'.connection.startOutcome = some true)) ⟨rfl, fun _ => htrue⟩ ?_ h).2 hs
  rintro es e s₁ s₂ ⟨hrun, hm⟩ hstep
  refine ⟨run_concat hrun hstep, fun hs => ?_⟩
  have hbefore : s₁.connection.startOutcome = some true :=
    hm fun earlier later s' o heq => hs earlier (later ++ [e]) s' o (by simp [heq])
  rcases startOutcome_cases hstep with
    ⟨o, rfl, ho, hplan, -⟩ | ⟨o, state, rfl, ho, hplan, -⟩ | ⟨-, decision, houtcome, -⟩
  · have hundecided := hs es [] s₁ o rfl hrun ho
    rw [hplan] at hundecided
    cases hundecided
  · have hundecided := hs es [] s₁ o rfl hrun ho
    rw [hplan] at hundecided
    cases hundecided
  · rw [houtcome, hbefore, Option.some_or]

theorem OldYes.startOutcome {s₀ : Traffic σ φ} {after : List (TrafficEvent φ)}
    (hs : OldYes s₀ after) (h : s₀.run after = some s) : s.connection.startOutcome = some true := by
  cases hs with
  | kept houtcome hundecided => exact hundecided.startOutcome h houtcome
  | offline hsplit h₁ ho hplan h₂ hundecided =>
    subst hsplit
    refine hundecided.startOutcome (run_of_split h h₁ h₂) ?_
    obtain ⟨call, plan, ho', rfl⟩ := step_settle h₂
    cases ho.symm.trans ho'
    obtain rfl : plan = .goOffline .setOffline := hplan
    rfl

/-- An old yes is still one if nobody decides anew. -/
theorem OldYes.concat {s₀ : Traffic σ φ} {es : List (TrafficEvent φ)} {e : TrafficEvent φ}
    (hs : OldYes s₀ es) (h : s₀.run es = some s)
    (he : e = .settle → ∀ o, s.occupant = some o → o.plan.decides = false) :
    OldYes s₀ (es ++ [e]) := by
  cases hs with
  | kept houtcome hundecided => exact .kept houtcome (hundecided.concat h he)
  | offline hsplit h₁ ho hplan h₂ hundecided =>
    subst hsplit
    have hlater := hundecided.concat (run_of_split h h₁ h₂) he
    exact .offline (by simp) h₁ ho hplan h₂ hlater

/-- Without a start that succeeds there is no other yes than an old one. -/
theorem oldYes_of_run {s₀ : Traffic σ φ} (h₀ : s₀.connection.flags.initialized = false)
    {after : List (TrafficEvent φ)} (h : s₀.run after = some s)
    (hnone : ∀ source, .noteStart source true ∉ after)
    (htrue : s.connection.startOutcome = some true) : OldYes s₀ after := by
  refine (run_induction (motive := fun es s => s₀.run es = some s ∧
    ((∀ source, .noteStart source true ∉ es) → s.connection.startOutcome = some true →
      OldYes s₀ es)) ⟨rfl, fun _ htrue => .kept htrue (by simp [Undecided])⟩ ?_ h).2 hnone htrue
  rintro es e s₁ s₂ ⟨hrun, hm⟩ hstep
  refine ⟨run_concat hrun hstep, fun hnone htrue => ?_⟩
  have hnone' : ∀ source, .noteStart source true ∉ es := fun source hmem =>
    hnone source (List.mem_append_left _ hmem)
  rcases startOutcome_cases hstep with
    ⟨o, -, -, -, houtcome⟩ | ⟨o, state, rfl, ho, hplan, houtcome⟩ |
    ⟨hundecided, decision, houtcome, hdecision⟩
  · -- The new source finds the attempt open, since no data are there.
    have hinitialized : s₁.connection.flags.initialized = false := by
      cases hinitialized : s₁.connection.flags.initialized with
      | false => rfl
      | true =>
        obtain ⟨earlier, source, later, heq, -⟩ :=
          (initialized_iff_arrived h₀ hrun).1 hinitialized
        exact absurd (heq ▸ List.mem_append_right _ List.mem_cons_self) (hnone' source)
    rw [houtcome, hinitialized] at htrue
    cases htrue
  · obtain rfl : state = .setOffline := by
      rw [houtcome] at htrue
      exact of_decide_eq_true (Option.some.inj htrue)
    refine .offline rfl hrun ho hplan hstep ?_
    simp [Undecided]
  · refine (hm hnone' ?_).concat hrun hundecided
    cases hbefore : s₁.connection.startOutcome with
    | some outcome => simpa [houtcome, hbefore] using htrue
    | none =>
      rw [houtcome, hbefore, Option.none_or] at htrue
      obtain ⟨source, rfl⟩ := hdecision htrue
      exact absurd (List.mem_append_right _ List.mem_cons_self) (hnone source)

/-! ### The start of an old source -/

/-- What is in place was in place before, unless it has just been built. -/
theorem active_of_step {e : TrafficEvent φ} (h : s.step e = some s') {g : Nat}
    (hactive : s'.connection.active = some g) :
    s.connection.active = some g ∨ g = s.connection.generation + 1 := by
  cases e with
  | call call =>
    cases h
    obtain ⟨flags, factory, heq⟩ := s.connection.announce_control call
    simp only [announce, heq] at hactive
    exact .inl hactive
  | enter call =>
    obtain ⟨-, critical, -, rfl⟩ := step_enter h
    exact .inl hactive
  | cutOff =>
    obtain ⟨call, plan, -, rfl⟩ := step_cutOff h
    obtain ⟨generation, progress, sources, heq, -⟩ := s.cutOff_eq call plan
    rw [heq] at hactive
    cases hactive
  | dispose =>
    obtain ⟨call, plan, source, -, rfl⟩ := step_dispose h
    exact .inl hactive
  | settle =>
    obtain ⟨call, plan, -, rfl⟩ := step_settle h
    rcases s.settle_cases plan with
      ⟨-, status, clock, outcome, heq, -⟩ | ⟨-, status, clock, outcome, heq, -⟩
    · rw [heq] at hactive
      exact .inr (Option.some.inj hactive).symm
    · rw [heq] at hactive
      exact .inl hactive
  | switch identity =>
    obtain ⟨status, clock, rfl, -⟩ := step_switch h
    exact .inl hactive
  | deliver source delivery =>
    obtain ⟨-, rfl⟩ := step_deliver h
    simp only [Connection.deliver] at hactive
    split at hactive
    · exact .inl ((s.connection.accept_control delivery).1.symm.trans hactive)
    · exact .inl hactive
  | checkStart source succeeded =>
    obtain ⟨starts, rfl⟩ := step_checkStart h
    exact .inl hactive
  | noteStart source succeeded =>
    obtain ⟨-, rfl⟩ := noteStart_of_step h
    simp only [Connection.acceptStart_eq] at hactive
    exact .inl hactive

/-- An old source never comes back. -/
theorem active_of_run {s₀ : Traffic σ φ} (hg : Guarded s₀) {after : List (TrafficEvent φ)}
    (h : s₀.run after = some s) {g : Nat} (hactive : s.connection.active = some g)
    (hold : g ∈ s₀.generations) : s₀.connection.active = some g := by
  -- A new source gets a generation that is greater than all those that were ever given.
  refine (run_induction (motive := fun es s => s₀.run es = some s ∧
    g ∈ s.generations ∧ (s.connection.active = some g → s₀.connection.active = some g))
    ⟨rfl, hold, id⟩ ?_ h).2.2 hactive
  rintro es e s₁ s₂ ⟨hrun, hbuilt, hm⟩ hstep
  refine ⟨run_concat hrun hstep, generations_subset_of_step hstep hbuilt, fun hactive => ?_⟩
  rcases active_of_step hstep hactive with hactive | rfl
  · exact hm hactive
  · exact absurd ((guarded_of_run hg hrun).bounded _ hbuilt) (Nat.not_succ_le_self _)

/-- A start of an old source that is noted late was under way, or its source in place, from the
beginning. -/
theorem outstanding_of_run {s₀ : Traffic σ φ} (hg : Guarded s₀) {after : List (TrafficEvent φ)}
    (h : s₀.run after = some s) : ∀ entry ∈ s.starts, entry.1 ∈ s₀.generations →
      s₀.Outstanding entry.1 entry.2 := by
  refine (run_induction (motive := fun es s => s₀.run es = some s ∧
    ∀ entry ∈ s.starts, entry.1 ∈ s₀.generations → s₀.Outstanding entry.1 entry.2)
    ⟨rfl, fun _ hentry _ => .inl hentry⟩ ?_ h).2
  rintro es e s₁ s₂ ⟨hrun, hm⟩ hstep
  refine ⟨run_concat hrun hstep, fun entry hentry hold => ?_⟩
  by_cases hknown : entry ∈ s₁.starts
  · exact hm entry hknown hold
  rcases mem_starts_of_step hstep hentry with hbefore | ⟨rfl, hbuilt⟩
  · exact absurd hbefore hknown
  · refine .inr (active_of_run hg hrun ((guarded_of_run hg hrun).current entry.1 hbuilt ?_) hold)
    cases hcurrent : s₁.connection.isCurrent entry.1 with
    | true => exact (of_decide_eq_true hcurrent).symm
    | false =>
      -- Nothing is kept of a start that comes too late.
      simp only [step, if_pos hbuilt, checkStart, hcurrent] at hstep
      cases hstep
      exact absurd hentry hknown

/-- **The window for an old source**: when fresh data are asked for, the source in place and those
whose generation was looked at are the only old ones that a success can be noted for later. -/
theorem noteStart_window {s₀ : Traffic σ φ} (hg : Guarded s₀) {after : List (TrafficEvent φ)}
    (h : s₀.run after = some s) {source : Nat} {succeeded : Bool}
    (hmem : .noteStart source succeeded ∈ after) (hold : source ∈ s₀.generations) :
    s₀.Outstanding source succeeded := by
  obtain ⟨earlier, later, rfl⟩ := List.append_of_mem hmem
  obtain ⟨s₁, s₂, hrun, hstep, -⟩ := run_append_cons h
  exact outstanding_of_run hg hrun _ (noteStart_of_step hstep).1 hold

/-! ### The main statement -/

/-- Nobody comes through a start before it is built. -/
theorem mem_generations_of_checkStart {s₀ : Traffic σ φ} {es : List (TrafficEvent φ)}
    (h : s₀.run es = some s) {source : Nat} {succeeded : Bool}
    (hmem : .checkStart source succeeded ∈ es) : source ∈ s.generations := by
  refine run_induction (motive := fun es s => .checkStart source succeeded ∈ es →
    source ∈ s.generations) nofun (fun es e s₁ s₂ hm hstep hmem => ?_) h hmem
  refine generations_subset_of_step hstep ?_
  rcases List.mem_append.1 hmem with hmem | hmem
  · exact hm hmem
  · cases List.mem_singleton.1 hmem
    exact Decidable.byContradiction fun hunbuilt => by simp [Traffic.step, hunbuilt] at hstep

/-- Whoever asks for fresh data makes the connection forget that it had any. -/
theorem AsksAfresh.initialized {c : Connection σ φ} (hc : c.IsNew) {es : List (TrafficEvent φ)}
    (hes : AsksAfresh es) (h : (around c).run es = some s) :
    s.connection.flags.initialized = false := by
  rcases hes with rfl | ⟨before, factory, rfl⟩
  · cases h
    exact congrArg ConnectionFlags.initialized hc.flags
  · obtain ⟨s₁, s₂, -, hstep, hend⟩ := run_append_cons h
    cases hend
    cases hstep
    exact (s₁.connection.announce_initialized _).trans (Bool.and_false _)

/-- A noted success is that of an old source or of a new one. -/
theorem startedSince_of_noteStart {c : Connection σ φ} (hc : c.IsNew)
    {before after : List (TrafficEvent φ)} {s₀ : Traffic σ φ}
    (h₀ : (around c).run before = some s₀) (h : s₀.run after = some s)
    (hreplaced : ∀ source, s₀.Outstanding source true → .noteStart source true ∈ after →
      StartedSince s₀ s after) {source : Nat} (hmem : .noteStart source true ∈ after) :
    StartedSince s₀ s after := by
  by_cases hold : source ∈ s₀.generations
  · have hg : Guarded s₀ := guarded_of_run (guarded_around hc) h₀
    exact hreplaced source (noteStart_window hg h hmem hold) hmem
  obtain ⟨hchecked, hbuilt⟩ :=
    mem_generations_of_noteStart (run_trans h₀ h) (List.mem_append_right _ hmem)
  rcases List.mem_append.1 hchecked with hchecked | hchecked
  · exact absurd (mem_generations_of_checkStart h₀ hchecked) hold
  · exact ⟨source, hbuilt, hold, hchecked⟩

/-- **Fresh data are fresh**, just if no old source gets through at the last moment and no old yes
is left. The events `after` are those since the last time that fresh data were asked for. -/
theorem startsAfresh_iff {c : Connection σ φ} (hc : c.IsNew) {before after : List (TrafficEvent φ)}
    {s₀ : Traffic σ φ} (h₀ : (around c).run before = some s₀) (hasks : AsksAfresh before)
    (h : s₀.run after = some s) (hlast : ∀ call, .call call ∈ after → call.resets = false) :
    StartsAfresh s₀ s after ↔ Orderly s₀ s after := by
  have hreset : s₀.connection.flags.initialized = false := hasks.initialized hc h₀
  have hinitialized : s.connection.flags.initialized = true ↔ Arrived after :=
    initialized_iff_arrived hreset h
  constructor
  · intro hs
    refine ⟨fun source _ hmem => hs.initialized ?_, fun hold => hs.outcome (hold.startOutcome h)⟩
    obtain ⟨earlier, later, rfl⟩ := List.append_of_mem hmem
    exact hinitialized.2 ⟨earlier, source, later, rfl, fun call hcall =>
      hlast call (List.mem_append_right _ (List.mem_cons_of_mem _ hcall))⟩
  · intro hs
    have hnoted {source : Nat} (hmem : .noteStart source true ∈ after) : StartedSince s₀ s after :=
      startedSince_of_noteStart hc h₀ h hs.replaced hmem
    refine ⟨fun hinit => ?_, fun houtcome hforced => ?_⟩
    · obtain ⟨earlier, source, later, heq, -⟩ := hinitialized.1 hinit
      exact hnoted (heq ▸ List.mem_append_right _ List.mem_cons_self)
    · by_cases hsome : ∃ source, .noteStart source true ∈ after
      · obtain ⟨source, hmem⟩ := hsome
        exact hnoted hmem
      · -- Nobody has come through since, so the yes can only be an old one.
        have hold := oldYes_of_run hreset h (fun source hmem => hsome ⟨source, hmem⟩) houtcome
        exact hs.renewed hold hforced

/-- Fresh data are asked for. -/
def renewal : List (TrafficEvent Unit) :=
  arrival ++ [.call (.reconfigure none true)]

/-- The old source is cut off, and the new one brings data. -/
def renewed : List (TrafficEvent Unit) :=
  [.enter 1, .cutOff, .dispose, .settle] ++ success 3 { key := "user" }

/-- The new source comes through, and the flag and the outcome are its own. -/
theorem startsAfresh_renewed : ∃ s₀ s, (around Connection.plain).run renewal = some s₀ ∧
    s₀.run renewed = some s ∧ StartsAfresh s₀ s renewed := by
  obtain ⟨s₀, h₀, hold, s, h, hgenerations⟩ : ∃ s₀,
      (around Connection.plain).run renewal = some s₀ ∧ s₀.generations = [1] ∧
      ∃ s, s₀.run renewed = some s ∧ s.generations = [1, 3] :=
    ⟨_, rfl, rfl, _, rfl, rfl⟩
  have hnew : StartedSince s₀ s renewed := by
    refine ⟨3, ?_, ?_, ?_⟩
    · simp [hgenerations]
    · simp [hold]
    · simp [renewed, success]
  have hlast : ∀ call, .call call ∈ renewed → call.resets = false := by
    simp [renewed, success]
  have hasks : AsksAfresh renewal := .inr ⟨arrival, none, rfl⟩
  refine ⟨s₀, s, h₀, h, (startsAfresh_iff Connection.isNew_plain h₀ hasks h hlast).2 ⟨?_, ?_⟩⟩
  · exact fun _ _ _ => hnew
  · exact fun _ _ => hnew

/-- The first source comes through while it is replaced. -/
def overtaken : List (TrafficEvent Unit) :=
  [.call .start, .enter 0, .cutOff, .settle, .call (.reconfigure none true)]

def overtaking : List (TrafficEvent Unit) :=
  [.checkStart 1 true, .enter 1, .cutOff, .dispose, .noteStart 1 true, .settle]

/-- The first source brings data, and fails for good. -/
def rejected : List (TrafficEvent Unit) :=
  arrival ++ [.deliver 1 (.failure (.response 401)), .call (.reconfigure none true)]

/-- Old data are taken for new ones, and after a failure for good the old yes is kept. -/
theorem exists_not_startsAfresh :
    (∃ s₀ s, (around Connection.plain).run overtaken = some s₀ ∧ s₀.run overtaking = some s ∧
      s.connection.flags.initialized = true ∧ ¬ StartsAfresh s₀ s overtaking) ∧
    (∃ s₀ s, (around Connection.plain).run rejected = some s₀ ∧ s₀.run [.enter 1] = some s ∧
      s.AtRest ∧ s.connection.startOutcome = some true ∧
      s.connection.flags.forceOffline = false ∧ ¬ StartsAfresh s₀ s [.enter 1]) := by
  constructor
  · obtain ⟨s₀, s, h₀, h, hinitialized⟩ : ∃ s₀ s,
        (around Connection.plain).run overtaken = some s₀ ∧ s₀.run overtaking = some s ∧
        s₀.generations = [1] ∧ s.connection.flags.initialized = true :=
      ⟨_, _, rfl, rfl, rfl, rfl⟩
    refine ⟨s₀, s, h₀, h, hinitialized.2, fun hs => ?_⟩
    obtain ⟨g, -, hnew, hchecked⟩ := hs.initialized hinitialized.2
    have hg : g = 1 := by simpa [overtaking] using hchecked
    rw [hinitialized.1, hg] at hnew
    exact hnew List.mem_cons_self
  · obtain ⟨s₀, s, h₀, h, hrest, houtcome, hforced⟩ : ∃ s₀ s,
        (around Connection.plain).run rejected = some s₀ ∧ s₀.run [.enter 1] = some s ∧
        s.AtRest ∧ s.connection.startOutcome = some true ∧
        s.connection.flags.forceOffline = false :=
      ⟨_, _, rfl, rfl, ⟨rfl, rfl⟩, rfl, rfl⟩
    refine ⟨s₀, s, h₀, h, hrest, houtcome, hforced, fun hs => ?_⟩
    obtain ⟨g, -, -, hchecked⟩ := hs.outcome houtcome hforced
    simp at hchecked

end Traffic

end LiveFlags
