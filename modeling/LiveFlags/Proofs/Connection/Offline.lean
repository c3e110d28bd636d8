import LiveFlags.Proofs.Connection.Flags
import LiveFlags.Proofs.Connection.Settled

/-!
# Forced offline

A connection that is forced offline ends its source, and builds none until it is released, whatever
else it is told. There is one exception, and it is about when the call takes the critical section:
if a source has stopped for good by then, the call finds that nothing is to be built any more and
leaves, with that very source still active. From then on no call but the closing one touches the
source, and what it delivers is applied.

Both sides are invariants from the moment at which the call takes the critical section: `Forced` if
the exception does not hold then, `Stranded` if it does. A call that finds the connection forced
offline already has nothing to do, so the one that counts may have been made before it. `Bound` puts
the cases together, and a run keeps it from the first call to the release.

Main statement: `forcedOffline_iff`.
-/

namespace LiveFlags

namespace Connection

variable {σ φ : Type}

/-- While the connection is forced offline, no call plans to build a source. -/
theorem plan_ne_replace {c : Connection σ φ} (h : c.flags.forceOffline = true)
    (critical : Critical) : c.plan critical ≠ .replace := by
  cases critical with
  | close =>
    intro hplan
    cases hplan
  | update rebuild =>
    simp only [plan, offlineState?, h]
    intro hplan
    split at hplan <;> cases hplan

end Connection

namespace Traffic

variable {σ φ : Type} [Storage σ]

/-! ### The source is ended and stays away -/

omit [Storage σ] in
/-- No source is active but for the time that one of these calls takes, and nobody plans to build
one. -/
structure Forced (calls : Nat → Prop) (s : Traffic σ φ) : Prop where
  forceOffline : s.connection.flags.forceOffline = true
  plan : ∀ o, s.occupant = some o → o.plan ≠ .replace
  silent : s.connection.active = none ∨ ∃ o, s.occupant = some o ∧ calls o.call

omit [Storage σ] in
theorem Forced.mono {calls calls' : Nat → Prop} {s : Traffic σ φ} (hs : Forced calls s)
    (h : ∀ call, calls call → calls' call) : Forced calls' s :=
  ⟨hs.forceOffline, hs.plan, hs.silent.imp_right fun ⟨o, ho, hcall⟩ => ⟨o, ho, h o.call hcall⟩⟩

omit [Storage σ] in
/-- Nobody who enters then is going to build a source. -/
theorem grant_plan_ne_replace {s : Traffic σ φ} (hforced : s.connection.flags.forceOffline = true)
    (call : Nat) (critical : Critical) :
    ∀ o, (s.grant call critical).occupant = some o → o.plan ≠ .replace := by
  intro o ho
  rcases s.grant_cases call critical with ⟨-, ho'⟩ | ⟨-, ho'⟩
  · cases ho.symm.trans ho'
  · cases ho.symm.trans ho'
    exact Connection.plan_ne_replace hforced critical

/-- The call enters: either there is no source, or it is going to end the source. -/
theorem forced_of_enter {calls : Nat → Prop} {s s' : Traffic σ φ} (hp : Planned s) {call : Nat}
    (hcall : calls call) (h : s.step (.enter call) = some s')
    (hforced : s.connection.flags.forceOffline = true)
    (hclosed : s.connection.flags.closed = false)
    (hidle : s.connection.flags.shutDown = false ∨ s.connection.active = none) :
    Forced calls s' := by
  obtain ⟨-, critical, hmem, rfl⟩ := step_enter h
  refine ⟨hforced, grant_plan_ne_replace hforced call critical, ?_⟩
  by_cases hnone : s.connection.active = none
  · exact .inl hnone
  · -- A source that is well runs only in an open connection, and such a one follows its flags.
    have hopen : s.connection.IsOpen := by
      refine ⟨?_, hclosed, hidle.resolve_right hnone⟩
      cases hstarted : s.connection.flags.started with
      | true => rfl
      | false => exact absurd (hp.stopped hstarted).1 hnone
    have hstay : s.connection.plan critical ≠ .stay := by
      cases critical with
      | close =>
        intro hplan
        cases hplan
      | update rebuild =>
        rcases hopen.plan rebuild with hgoal | ⟨-, -, honline, -⟩
        · rw [hgoal]
          exact s.connection.goal_ne_stay
        · rw [Connection.offlineState?_eq_none_iff] at honline
          cases hforced.symm.trans honline.1
    rcases s.grant_cases call critical with ⟨hplan, -⟩ | ⟨-, ho⟩
    · exact absurd hplan hstay
    · exact .inr ⟨_, ho, hcall⟩

/-- Whoever enters meets no source, and whoever leaves has built none. -/
theorem Forced.step {calls : Nat → Prop} {s s' : Traffic σ φ} (hs : Forced calls s) (hg : Guarded s)
    {e : TrafficEvent φ} (h : s.step e = some s') (hkeep : e ≠ .call (.setForceOffline false)) :
    Forced calls s' := by
  have hforced := forceOffline_of_step h hkeep hs.forceOffline
  obtain ⟨-, hplan, hsilent⟩ := hs
  cases e with
  | call k =>
    cases h
    obtain ⟨flags, factory, heq⟩ := s.connection.announce_control k
    refine ⟨hforced, hplan, ?_⟩
    simpa only [announce, heq] using hsilent
  | enter k =>
    obtain ⟨hfree, critical, hmem, rfl⟩ := step_enter h
    refine ⟨hforced, grant_plan_ne_replace hforced k critical, .inl ?_⟩
    -- Only a call in the critical section could have left the source there.
    rcases hsilent with hnone | ⟨o, ho, -⟩
    · exact hnone
    · cases hfree.symm.trans ho
  | cutOff =>
    obtain ⟨k, plan, ho, rfl⟩ := step_cutOff h
    have hne : plan ≠ .replace := hplan _ ho
    obtain ⟨generation, progress, sources, heq, -⟩ := s.cutOff_eq k plan
    rw [heq] at hforced ⊢
    refine ⟨hforced, fun o ho' => ?_, .inl rfl⟩
    cases ho'
    exact hne
  | dispose =>
    obtain ⟨k, plan, source, ho, rfl⟩ := step_dispose h
    have hne : plan ≠ .replace := hplan _ ho
    refine ⟨hforced, fun o ho' => ?_, .inl (hg.active_of_disposing ho)⟩
    cases ho'
    exact hne
  | settle =>
    obtain ⟨k, plan, ho, rfl⟩ := step_settle h
    rcases s.settle_cases plan with ⟨hreplace, -⟩ | ⟨-, status, clock, outcome, heq, -⟩
    · exact absurd hreplace (hplan _ ho)
    · rw [heq] at hforced ⊢
      refine ⟨hforced, fun o ho' => ?_, .inl (hg.active_of_cleared ho)⟩
      cases ho'
  | switch | deliver | checkStart | noteStart =>
    obtain ⟨connection, starts, _, _, rfl, hactive, -⟩ := step_aside h rfl
    refine ⟨hforced, hplan, ?_⟩
    rwa [hactive]

/-! ### The source is left where it is -/

omit [Storage σ] in
/-- A source has stopped for good and is still active, and no call is going to touch it. -/
structure Stranded (source : Nat) (s : Traffic σ φ) : Prop where
  shutDown : s.connection.flags.shutDown = true
  active : s.connection.active = some source
  free : s.occupant = none

/-- A call that enters finds that nothing is to be built any more, and leaves. -/
theorem stranded_of_enter {s s' : Traffic σ φ} (hp : Planned s) {call source : Nat}
    (h : s.step (.enter call) = some s') (hclosed : s.connection.flags.closed = false)
    (hshut : s.connection.flags.shutDown = true) (hactive : s.connection.active = some source) :
    Stranded source s' := by
  obtain ⟨-, critical, hmem, rfl⟩ := step_enter h
  refine ⟨hshut, hactive, ?_⟩
  have hstay : s.connection.plan critical = .stay := by
    cases critical with
    | close => cases (hp.closing call hmem).symm.trans hclosed
    | update rebuild => simp [Connection.plan, hshut]
  rcases s.grant_cases call critical with ⟨-, ho⟩ | ⟨hne, -⟩
  · exact ho
  · exact absurd hstay hne

/-- A source that has stopped for good is left where it is until the connection is closed. -/
theorem Stranded.step {source : Nat} {s s' : Traffic σ φ} (hs : Stranded source s) (hp : Planned s)
    {e : TrafficEvent φ} (h : s.step e = some s') (hclosed : s'.connection.flags.closed = false) :
    Stranded source s' := by
  have hshut := shutDown_of_step h hs.shutDown
  obtain ⟨hshut', hactive, hfree⟩ := hs
  cases e with
  | call k =>
    cases h
    obtain ⟨flags, factory, heq⟩ := s.connection.announce_control k
    refine ⟨hshut, ?_, hfree⟩
    simpa only [announce, heq] using hactive
  | enter k => exact stranded_of_enter hp h (not_closed_of_step h hclosed) hshut' hactive
  | cutOff =>
    obtain ⟨k, plan, ho, -⟩ := step_cutOff h
    cases hfree.symm.trans ho
  | dispose =>
    obtain ⟨k, plan, g, ho, -⟩ := step_dispose h
    cases hfree.symm.trans ho
  | settle =>
    obtain ⟨k, plan, ho, -⟩ := step_settle h
    cases hfree.symm.trans ho
  | switch | deliver | checkStart | noteStart =>
    obtain ⟨connection, starts, _, _, rfl, hsame, -⟩ := step_aside h rfl
    exact ⟨hshut, hsame.trans hactive, hfree⟩

/-! ### The calls that force the connection offline -/

/-- The call with this number forces the connection offline, and nobody takes it back in `es`. -/
def ForcesOffline (c : Connection σ φ) (es : List (TrafficEvent φ)) (call : Nat) : Prop :=
  ∃ before after s, es = before ++ .call (.setForceOffline true) :: after ∧
    .call (.setForceOffline false) ∉ after ∧ (around c).run before = some s ∧ s.calls = call

/-- Such a call takes the critical section, and `s` is what it meets there. -/
def TakesOffline (c : Connection σ φ) (es : List (TrafficEvent φ)) (s : Traffic σ φ) : Prop :=
  ∃ before after call, es = before ++ .enter call :: after ∧
    .call (.setForceOffline false) ∉ after ∧ (around c).run before = some s ∧
    ForcesOffline c before call

variable {c : Connection σ φ} {es : List (TrafficEvent φ)}

/-- A call has its effect as long as nobody takes it back. -/
theorem ForcesOffline.append {call : Nat} (h : ForcesOffline c es call)
    {es' : List (TrafficEvent φ)} (hkeep : .call (.setForceOffline false) ∉ es') :
    ForcesOffline c (es ++ es') call := by
  obtain ⟨before, after, s, rfl, hafter, hrun, hcall⟩ := h
  refine ⟨before, after ++ es', s, by simp, ?_, hrun, hcall⟩
  simp only [List.mem_append, not_or]
  exact ⟨hafter, hkeep⟩

theorem ForcesOffline.concat {call : Nat} (h : ForcesOffline c es call) {e : TrafficEvent φ}
    (hkeep : e ≠ .call (.setForceOffline false)) : ForcesOffline c (es ++ [e]) call :=
  h.append fun hmem => hkeep (List.mem_singleton.1 hmem).symm

theorem forcesOffline_self {s : Traffic σ φ} (h : (around c).run es = some s) :
    ForcesOffline c (es ++ [.call (.setForceOffline true)]) s.calls :=
  ⟨es, [], s, rfl, List.not_mem_nil, h, rfl⟩

/-- The call is the last event, or one that was not taken back since. -/
theorem ForcesOffline.of_concat {call : Nat} {e : TrafficEvent φ}
    (h : ForcesOffline c (es ++ [e]) call) :
    e = .call (.setForceOffline true) ∨
      (e ≠ .call (.setForceOffline false) ∧ ForcesOffline c es call) := by
  obtain ⟨before, after, s, heq, hafter, hrun, hcall⟩ := h
  rcases History.split_concat heq with ⟨-, -, he⟩ | ⟨after', rfl, hes⟩
  · exact .inl he
  · simp only [List.mem_append, List.mem_singleton, not_or] at hafter
    exact .inr ⟨Ne.symm hafter.2, before, after', s, hes, hafter.1, hrun, hcall⟩

/-- As long as nobody takes it back, the connection is forced offline. -/
theorem ForcesOffline.forceOffline {call : Nat} (h : ForcesOffline c es call) {s : Traffic σ φ}
    (hrun : (around c).run es = some s) : s.connection.flags.forceOffline = true := by
  refine run_induction (motive := fun es s => ForcesOffline c es call →
    s.connection.flags.forceOffline = true) ?_ (fun es e s₁ s₂ hm hstep h => ?_) hrun h
  · rintro ⟨before, after, s, heq, -⟩
    simp at heq
  · rcases h.of_concat with rfl | ⟨hkeep, h⟩
    · exact forceOffline_of_set hstep
    · exact forceOffline_of_step hstep hkeep (hm h)

theorem not_takesOffline_nil (t : Traffic σ φ) : ¬ TakesOffline c [] t := by
  rintro ⟨before, after, call, heq, -⟩
  simp at heq

theorem TakesOffline.concat {t : Traffic σ φ} (h : TakesOffline c es t) {e : TrafficEvent φ}
    (hkeep : e ≠ .call (.setForceOffline false)) : TakesOffline c (es ++ [e]) t := by
  obtain ⟨before, after, call, rfl, hafter, hrun, hforces⟩ := h
  refine ⟨before, after ++ [e], call, by simp, ?_, hrun, hforces⟩
  simp only [List.mem_append, List.mem_singleton, not_or]
  exact ⟨hafter, Ne.symm hkeep⟩

theorem ForcesOffline.takesOffline {call : Nat} (h : ForcesOffline c es call) {s : Traffic σ φ}
    (hrun : (around c).run es = some s) : TakesOffline c (es ++ [.enter call]) s :=
  ⟨es, [], call, rfl, List.not_mem_nil, hrun, h⟩

/-- The last event gives the critical section to the call, or it had been there before. -/
theorem TakesOffline.of_concat {t : Traffic σ φ} {e : TrafficEvent φ}
    (h : TakesOffline c (es ++ [e]) t) :
    (∃ call, e = .enter call ∧ ForcesOffline c es call ∧ (around c).run es = some t) ∨
      (e ≠ .call (.setForceOffline false) ∧ TakesOffline c es t) := by
  obtain ⟨before, after, call, heq, hafter, hrun, hforces⟩ := h
  rcases History.split_concat heq with ⟨-, rfl, rfl⟩ | ⟨after', rfl, hes⟩
  · exact .inl ⟨call, rfl, hforces, hrun⟩
  · simp only [List.mem_append, List.mem_singleton, not_or] at hafter
    exact .inr ⟨Ne.symm hafter.2, before, after', call, hes, hafter.1, hrun, hforces⟩

theorem TakesOffline.exists_forcesOffline {t : Traffic σ φ} (h : TakesOffline c es t) :
    ∃ call, ForcesOffline c es call := by
  obtain ⟨before, after, call, rfl, hafter, -, hforces⟩ := h
  refine ⟨call, hforces.append ?_⟩
  simpa using hafter

/-- A source that has failed when the call enters has failed ever after. -/
theorem TakesOffline.shutDown {t s : Traffic σ φ} (h : TakesOffline c es t)
    (hrun : (around c).run es = some s) (hshut : t.connection.flags.shutDown = true) :
    s.connection.flags.shutDown = true := by
  refine run_induction (motive := fun es s => (around c).run es = some s ∧
    (TakesOffline c es t → s.connection.flags.shutDown = true))
    ⟨rfl, fun h => absurd h (not_takesOffline_nil t)⟩ ?_ hrun |>.2 h
  rintro es e s₁ s₂ ⟨hrun, hm⟩ hstep
  refine ⟨run_concat hrun hstep, fun h => ?_⟩
  rcases h.of_concat with ⟨call, -, -, ht⟩ | ⟨-, h⟩
  · cases hrun.symm.trans ht
    exact shutDown_of_step hstep hshut
  · exact shutDown_of_step hstep (hm h)

/-! ### From the call to the release -/

/-- How a connection stands that is forced offline. -/
inductive Bound (c : Connection σ φ) (es : List (TrafficEvent φ)) (s : Traffic σ φ) : Prop where
  /-- A call that forces it offline has not taken the critical section yet. -/
  | waiting {call : Nat} {critical : Critical} (forces : ForcesOffline c es call)
    (mem : (call, critical) ∈ s.waiting) (early : ∀ t, ¬ TakesOffline c es t)
  | forced (forced : Forced (ForcesOffline c es) s) (idle : ∀ t, TakesOffline c es t →
      t.connection.flags.shutDown = false ∨ t.connection.active = none)
  | stranded {source : Nat} {t : Traffic σ φ} (stranded : Stranded source s)
    (takes : TakesOffline c es t) (shutDown : t.connection.flags.shutDown = true)
    (active : t.connection.active ≠ none)

/-- A call waits until it enters. -/
theorem waiting_of_step {s s' : Traffic σ φ} {call : Nat} {critical : Critical}
    (hmem : (call, critical) ∈ s.waiting) {e : TrafficEvent φ} (h : s.step e = some s')
    (hne : e ≠ .enter call) : (call, critical) ∈ s'.waiting := by
  cases e with
  | call k =>
    cases h
    exact List.mem_append_left _ hmem
  | enter k =>
    obtain ⟨-, critical', -, rfl⟩ := step_enter h
    refine (List.mem_erase_of_ne ?_).2 hmem
    rintro ⟨⟩
    exact hne rfl
  | cutOff =>
    obtain ⟨k, plan, -, rfl⟩ := step_cutOff h
    obtain ⟨generation, progress, sources, heq, -⟩ := s.cutOff_eq k plan
    rw [heq]
    exact hmem
  | dispose =>
    obtain ⟨k, plan, source, -, rfl⟩ := step_dispose h
    exact hmem
  | settle =>
    obtain ⟨k, plan, -, rfl⟩ := step_settle h
    exact hmem
  | switch | deliver | checkStart | noteStart =>
    obtain ⟨connection, starts, _, _, rfl, -⟩ := step_aside h rfl
    exact hmem

/-- The first call that forces the connection offline has to take the critical section. -/
theorem bound_of_call {s s' : Traffic σ φ} (hrun : (around c).run es = some s)
    (h : s.step (.call (.setForceOffline true)) = some s')
    (hforced : s.connection.flags.forceOffline = false) :
    Bound c (es ++ [.call (.setForceOffline true)]) s' := by
  have hmem : (s.calls, .update false) ∈ s'.waiting := by
    cases h
    simp [announce, Connection.announce, hforced]
  refine .waiting (forcesOffline_self hrun) hmem fun t ht => ?_
  rcases ht.of_concat with ⟨call, he, -⟩ | ⟨-, ht⟩
  · cases he
  · -- Another such call would have set the flag already.
    obtain ⟨call, hforces⟩ := ht.exists_forcesOffline
    cases hforced.symm.trans (hforces.forceOffline hrun)

/-- One that enters decides what is to come, unless that has been decided before. -/
theorem Bound.enter {s s' : Traffic σ φ} (hb : Bound c es s) (hp : Planned s)
    (hrun : (around c).run es = some s) {call : Nat} (hforces : ForcesOffline c es call)
    (h : s.step (.enter call) = some s') (hclosed : s.connection.flags.closed = false) :
    Bound c (es ++ [.enter call]) s' := by
  have hkeep : (.enter call : TrafficEvent φ) ≠ .call (.setForceOffline false) := by
    intro he
    cases he
  by_cases hidle : s.connection.flags.shutDown = false ∨ s.connection.active = none
  · refine .forced (forced_of_enter hp (hforces.concat hkeep) h (hforces.forceOffline hrun) hclosed
      hidle) fun t ht => ?_
    rcases ht.of_concat with ⟨_, -, -, ht⟩ | ⟨-, ht⟩
    · cases hrun.symm.trans ht
      exact hidle
    · cases hb with
      | waiting forces mem early => exact absurd ht (early t)
      | forced forced idle => exact idle t ht
      | stranded stranded takes shutDown active =>
        -- A source that an earlier call has left there would be there still.
        obtain ⟨hshut, hactive, -⟩ := stranded
        rcases hidle with hidle | hidle
        · cases hshut.symm.trans hidle
        · cases hactive.symm.trans hidle
  · simp only [not_or, Bool.not_eq_false] at hidle
    obtain ⟨hshut, hactive⟩ := hidle
    obtain ⟨source, hsource⟩ := Option.ne_none_iff_exists'.1 hactive
    exact .stranded (stranded_of_enter hp h hclosed hshut hsource) (hforces.takesOffline hrun) hshut
      hactive

theorem Bound.step {s s' : Traffic σ φ} (hb : Bound c es s) (hg : Guarded s) (hp : Planned s)
    (hrun : (around c).run es = some s) {e : TrafficEvent φ} (h : s.step e = some s')
    (hkeep : e ≠ .call (.setForceOffline false)) (hclosed : s'.connection.flags.closed = false) :
    Bound c (es ++ [e]) s' := by
  -- Nothing is decided but by a call that forces the connection offline, when it enters.
  by_cases henter : ∃ call, e = .enter call ∧ ForcesOffline c es call
  · obtain ⟨call, rfl, hforces⟩ := henter
    exact hb.enter hp hrun hforces h (not_closed_of_step h hclosed)
  · have hold : ∀ t, TakesOffline c (es ++ [e]) t → TakesOffline c es t := by
      intro t ht
      rcases ht.of_concat with ⟨call, he, hforces, -⟩ | ⟨-, ht⟩
      · exact absurd ⟨call, he, hforces⟩ henter
      · exact ht
    cases hb with
    | @waiting call critical forces mem early =>
      have hne : e ≠ .enter call := fun he => henter ⟨call, he, forces⟩
      exact .waiting (forces.concat hkeep) (waiting_of_step mem h hne)
        fun t ht => early t (hold t ht)
    | forced forced idle =>
      exact .forced ((forced.step hg h hkeep).mono fun _ hforces => hforces.concat hkeep)
        fun t ht => idle t (hold t ht)
    | stranded stranded takes shutDown active =>
      exact .stranded (stranded.step hp h hclosed) (takes.concat hkeep) shutDown active

/-- A connection that is forced offline and open is bound, in every run. -/
theorem bound_of_run (hc : c.IsNew) {s : Traffic σ φ} (h : (around c).run es = some s)
    (hforced : s.connection.flags.forceOffline = true)
    (hclosed : s.connection.flags.closed = false) : Bound c es s := by
  suffices (around c).run es = some s ∧ (s.connection.flags.forceOffline = true →
      s.connection.flags.closed = false → Bound c es s) from this.2 hforced hclosed
  refine run_induction (motive := fun es s => (around c).run es = some s ∧
    (s.connection.flags.forceOffline = true → s.connection.flags.closed = false → Bound c es s))
    ⟨rfl, fun hforced _ => ?_⟩ ?_ h
  · -- A connection may be forced offline from the beginning, and has no source then.
    refine .forced ⟨hforced, fun o ho => ?_, .inl hc.active⟩
      fun t ht => absurd ht (not_takesOffline_nil t)
    cases ho
  · rintro es e s₁ s₂ ⟨hrun, hb⟩ hstep
    have hg : Guarded s₁ := guarded_of_run (guarded_around hc) hrun
    have hp : Planned s₁ := planned_of_run hc hrun
    refine ⟨run_concat hrun hstep, fun hforced hclosed => ?_⟩
    cases hforced₁ : s₁.connection.flags.forceOffline with
    | true =>
      refine (hb hforced₁ (not_closed_of_step hstep hclosed)).step hg hp hrun hstep ?_ hclosed
      rintro rfl
      cases (forceOffline_of_set hstep).symm.trans hforced
    | false =>
      -- The flag has changed, and only a call does that.
      by_cases he : ∃ offline, e = .call (.setForceOffline offline)
      · obtain ⟨offline, rfl⟩ := he
        cases (forceOffline_of_set hstep).symm.trans hforced
        exact bound_of_call hrun hstep hforced₁
      · have hsame := forceOffline_of_ne hstep (not_exists.1 he)
        cases hforced.symm.trans (hsame.trans hforced₁)

/-! ### The main statement -/

/-- **Forced offline, with one exception.** The connection is forced offline after `es`, nobody has
taken it back, and the calls that force it offline are through. There is no active source then, and
no delivery changes anything, just if none of those calls met a failed source that was active. -/
theorem forcedOffline_iff (hc : c.IsNew) {s' : Traffic σ φ} (h : (around c).run es = some s')
    (hforces : ∃ call, ForcesOffline c es call)
    (hdone : ∀ call, ForcesOffline c es call → ¬ s'.InProgress call)
    (hclosed : s'.connection.flags.closed = false) :
    (s'.connection.active = none ∧
      ∀ source delivery s'', s'.step (.deliver source delivery) = some s'' → s'' = s') ↔
    ∀ s, TakesOffline c es s →
      s.connection.flags.shutDown = false ∨ s.connection.active = none := by
  have hg : Guarded s' := guarded_of_run (guarded_around hc) h
  obtain ⟨call, hforces⟩ := hforces
  have hb : Bound c es s' := bound_of_run hc h (hforces.forceOffline h) hclosed
  cases hb with
  | waiting forces mem early => exact absurd (.inl ⟨_, mem⟩) (hdone _ forces)
  | forced forced idle =>
    have hnone : s'.connection.active = none := by
      -- A source that is left would be one that such a call is about to end.
      refine forced.silent.resolve_right ?_
      rintro ⟨o, ho, hcall⟩
      exact hdone o.call hcall (.inr ⟨o, ho, rfl⟩)
    refine ⟨fun _ => idle, fun _ => ⟨hnone, fun source delivery s'' hstep => ?_⟩⟩
    obtain ⟨hmem, rfl⟩ := step_deliver hstep
    rw [hg.deliver_eq hmem, hnone]
    rfl
  | stranded stranded takes shutDown active =>
    constructor
    · rintro ⟨hnone, -⟩
      cases hnone.symm.trans stranded.active
    · intro hidle
      rcases hidle _ takes with hidle | hidle
      · cases shutDown.symm.trans hidle
      · exact absurd hidle active

/-- A connection with a source of generation 1. -/
def opening : List (TrafficEvent Unit) :=
  [.call .start, .enter 0, .cutOff, .settle]

/-- A connection whose source is well goes offline, and another source is asked for in vain. The
second call that forces it offline has nothing to do. -/
def healthy : List (TrafficEvent Unit) :=
  opening ++ [.call (.setForceOffline true), .deliver 1 .valid, .enter 1, .cutOff,
    .call (.setForceOffline true), .dispose, .settle, .call (.reconfigure none false), .enter 3,
    .cutOff, .settle]

/-- Nothing is active after that, and nothing that a source delivers arrives. -/
theorem forcedOffline_healthy : ∃ s', (around Connection.plain).run healthy = some s' ∧
    s'.connection.active = none ∧
      ∀ source delivery s'', s'.step (.deliver source delivery) = some s'' → s'' = s' := by
  have hrun : ∃ s', (around Connection.plain).run healthy = some s' ∧ s'.AtRest ∧
      s'.connection.flags.closed = false ∧ s'.connection.flags.shutDown = false :=
    ⟨_, rfl, ⟨rfl, rfl⟩, rfl, rfl⟩
  obtain ⟨s', hrun, hrest, hclosed, hhealthy⟩ := hrun
  have hforces : ForcesOffline Connection.plain healthy 1 :=
    ⟨opening, _, _, rfl, by simp, rfl, rfl⟩
  refine ⟨s', hrun, (forcedOffline_iff Connection.isNew_plain hrun ⟨1, hforces⟩
    (fun call _ => hrest.not_inProgress call) hclosed).2 fun t ht => .inl ?_⟩
  cases hshut : t.connection.flags.shutDown with
  | false => rfl
  | true => cases hhealthy.symm.trans (ht.shutDown hrun hshut)

/-- A source has failed for good, then the connection is forced offline, and everybody is through.
The source is active as before, and the flags that it delivers are readable. -/
theorem exists_active_of_forceOffline : ∃ s s', (around Connection.plain).run (opening ++
      [.deliver 1 (.failure (.response 401)), .call (.setForceOffline true), .enter 1]) = some s ∧
    s.AtRest ∧ s.connection.flags.started = true ∧ s.connection.flags.closed = false ∧
    s.connection.flags.forceOffline = true ∧ s.connection.active = some 1 ∧
    s.step (.deliver 1 (.item { key := "user" } { key := "flag", version := 1 })) = some s' ∧
    s.connection.data.get? "flag" = none ∧
    s'.connection.data.get? "flag" = some { key := "flag", version := 1 } :=
  ⟨_, _, rfl, ⟨rfl, rfl⟩, rfl, rfl, rfl, rfl, rfl, rfl, by decide +kernel⟩

end Traffic

end LiveFlags
