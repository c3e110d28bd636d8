import LiveFlags.Proofs.Connection.Traffic

/-!
# One source at a time

However calls and sources get in each other's way, at most one source is not disposed of, and only
the active one has a say. Three things are tied together: the generation of the connection, the
generations of all sources that were ever built, and the active source. `Guarded` is the invariant:
every generation that was ever given away is at most the current one, the current one belongs to the
active source or to nobody, and the stages of the sources agree with who is active and whose
disposal goes on.

Main statement: `exclusive_of_run`. It covers every order of calls and all deliveries, those of
sources long gone included, and ends with what follows for the data: they are the fold of the
switches of the identity and of the deliveries of the source that was active at that moment.
-/

namespace LiveFlags.Traffic

variable {σ φ : Type}

/-! ### The invariant -/

/-- The source whose disposal goes on. -/
def disposing? (s : Traffic σ φ) : Option Nat :=
  match s.occupant with
  | some ⟨_, _, .disposing source⟩ => some source
  | _ => none

/-- Generations, stages and the active source agree. -/
structure Guarded (s : Traffic σ φ) : Prop where
  ordered : s.generations.Pairwise (· < ·)
  bounded : ∀ g ∈ s.generations, g ≤ s.connection.generation
  current : ∀ g ∈ s.generations, g = s.connection.generation → s.connection.active = some g
  built : ∀ g, s.connection.active = some g → g ∈ s.generations
  newest : ∀ g, s.connection.active = some g → g = s.connection.generation
  live_iff : ∀ b ∈ s.sources, b.stage = .live ↔ s.connection.active = some b.generation
  ending_iff : ∀ b ∈ s.sources, b.stage = .ending ↔ s.disposing? = some b.generation
  /-- A call that has cut off the active source, or found none, keeps the connection without one. -/
  cut : ∀ o, s.occupant = some o → o.progress ≠ .decided → s.connection.active = none

theorem guarded_around {c : Connection σ φ} (hc : c.IsNew) : Guarded (around c) where
  ordered := List.Pairwise.nil
  bounded := nofun
  current := nofun
  built := by simp [around, hc.active]
  newest := by simp [around, hc.active]
  live_iff := nofun
  ending_iff := nofun
  cut := nofun

/-- A source that is being disposed of is not active any more. -/
theorem Guarded.active_of_disposing {s : Traffic σ φ} (hs : Guarded s) {call source : Nat}
    {plan : Plan} (ho : s.occupant = some ⟨call, plan, .disposing source⟩) :
    s.connection.active = none := by
  refine hs.cut _ ho ?_
  intro h
  cases h

/-- No source is active when a plan is settled. -/
theorem Guarded.active_of_cleared {s : Traffic σ φ} (hs : Guarded s) {call : Nat} {plan : Plan}
    (ho : s.occupant = some ⟨call, plan, .cleared⟩) : s.connection.active = none := by
  refine hs.cut _ ho ?_
  intro h
  cases h

/-! ### What keeps the invariant -/

/-- Only the sources, the critical section, the active source and the generation count. -/
theorem Guarded.of_eq {s s' : Traffic σ φ} (hs : Guarded s) (hsources : s'.sources = s.sources)
    (hoccupant : s'.occupant = s.occupant)
    (hactive : s'.connection.active = s.connection.active)
    (hgeneration : s'.connection.generation = s.connection.generation) : Guarded s' := by
  obtain ⟨h1, h2, h3, h4, h5, h6, h7, h8⟩ := hs
  simp only [generations, disposing?] at h1 h2 h3 h4 h7
  constructor <;>
    simpa only [generations, disposing?, hsources, hoccupant, hactive, hgeneration]

@[simp]
theorem generations_withStage (s : Traffic σ φ) (generation : Nat) (stage : SourceStage) :
    (s.withStage generation stage).map (·.generation) = s.generations := by
  simp only [withStage, generations, List.map_map]
  refine List.map_congr_left fun b _ => ?_
  simp only [Function.comp]
  split <;> rfl

theorem mem_withStage {s : Traffic σ φ} {generation : Nat} {stage : SourceStage} {b : BuiltSource} :
    b ∈ s.withStage generation stage ↔
      ∃ a ∈ s.sources, b.generation = a.generation ∧ b.context = a.context ∧
        b.stage = if a.generation = generation then stage else a.stage := by
  simp only [withStage, List.mem_map]
  refine exists_congr fun a => and_congr_right fun _ => ⟨?_, ?_⟩
  · rintro rfl
    split <;> exact ⟨rfl, rfl, rfl⟩
  · obtain ⟨g, c, t⟩ := b
    rintro ⟨rfl, rfl, rfl⟩
    split <;> rfl

theorem Guarded.grant {s : Traffic σ φ} (hs : Guarded s) (hfree : s.occupant = none) (call : Nat)
    (critical : Critical) : Guarded (s.grant call critical) where
  ordered := hs.ordered
  bounded := hs.bounded
  current := hs.current
  built := hs.built
  newest := hs.newest
  live_iff := hs.live_iff
  ending_iff := by
    have hnone : s.disposing? = none := by simp [disposing?, hfree]
    have hnone' : (s.grant call critical).disposing? = none := by
      rcases s.grant_cases call critical with ⟨-, ho⟩ | ⟨-, ho⟩ <;> simp only [disposing?, ho]
    rw [hnone', ← hnone]
    exact hs.ending_iff
  cut := by
    intro o ho hprogress
    rcases s.grant_cases call critical with ⟨-, ho'⟩ | ⟨-, ho'⟩
    · rw [ho'] at ho
      cases ho
    · rw [ho'] at ho
      cases ho
      exact absurd rfl hprogress

/-- The source that is cut off is the only one that can still act. -/
theorem Guarded.cutOff {s : Traffic σ φ} (hs : Guarded s) {call : Nat} {plan : Plan}
    (ho : s.occupant = some ⟨call, plan, .decided⟩) : Guarded (s.cutOff call plan) := by
  have hnone : s.disposing? = none := by simp [disposing?, ho]
  cases hactive : s.connection.active with
  | none =>
    simp only [Traffic.cutOff, hactive]
    refine { hs with ending_iff := fun b hb => ?_, cut := fun _ _ _ => hactive }
    rw [hs.ending_iff b hb, hnone]
    rfl
  | some g =>
    -- The generation moves on beyond all that were given away, so nobody is current any more.
    simp only [Traffic.cutOff, hactive, Connection.cutOff_eq _ hactive]
    refine ⟨?_, ?_, ?_, nofun, nofun, ?_, ?_, fun _ _ _ => rfl⟩
    · simpa only [generations, generations_withStage] using hs.ordered
    · intro x hx
      simp only [generations, generations_withStage] at hx
      exact Nat.le_succ_of_le (hs.bounded x hx)
    · intro x hx heq
      simp only [generations, generations_withStage] at hx
      have := hs.bounded x hx
      exact absurd heq (by simp only; omega)
    · intro b hb
      obtain ⟨a, ha, hg, -, hstage⟩ := mem_withStage.1 hb
      have hlive := hs.live_iff a ha
      rw [hactive] at hlive
      rw [hstage]
      split
      · simp
      · next hne => simp [hlive, Ne.symm hne]
    · intro b hb
      obtain ⟨a, ha, hg, -, hstage⟩ := mem_withStage.1 hb
      have hending := hs.ending_iff a ha
      rw [hnone] at hending
      rw [hstage, hg]
      split
      · next heq => simp [disposing?, heq]
      · next hne => simp [disposing?, hending, Ne.symm hne]

/-- A source that is disposed of is gone before the next one is built. -/
theorem Guarded.dispose {s : Traffic σ φ} (hs : Guarded s) {call source : Nat} {plan : Plan}
    (ho : s.occupant = some ⟨call, plan, .disposing source⟩) :
    Guarded { s with
      occupant := some ⟨call, plan, .cleared⟩, sources := s.withStage source .gone } := by
  have hactive := hs.active_of_disposing ho
  have hsome : s.disposing? = some source := by simp [disposing?, ho]
  refine ⟨?_, ?_, ?_, ?_, hs.newest, ?_, ?_, fun _ _ _ => hactive⟩
  · simpa only [generations, generations_withStage] using hs.ordered
  · simpa only [generations, generations_withStage] using hs.bounded
  · simpa only [generations, generations_withStage] using hs.current
  · simpa only [generations, generations_withStage] using hs.built
  · intro b hb
    obtain ⟨a, ha, hg, -, hstage⟩ := mem_withStage.1 hb
    have hlive := hs.live_iff a ha
    rw [hactive] at hlive ⊢
    rw [hstage]
    split
    · simp
    · simp [hlive]
  · intro b hb
    obtain ⟨a, ha, hg, -, hstage⟩ := mem_withStage.1 hb
    have hending := hs.ending_iff a ha
    rw [hsome] at hending
    rw [hstage]
    split
    · simp [disposing?]
    · next hne => simp [disposing?, hending, Ne.symm hne]

/-- Before a source can be built, all sources so far are gone. -/
theorem Guarded.gone_of_cleared {s : Traffic σ φ} (hs : Guarded s) {call : Nat} {plan : Plan}
    (ho : s.occupant = some ⟨call, plan, .cleared⟩) : ∀ b ∈ s.sources, b.stage = .gone := by
  intro b hb
  have hlive : b.stage ≠ .live := by
    rw [ne_eq, hs.live_iff b hb, hs.active_of_cleared ho]
    intro h
    cases h
  have hending : b.stage ≠ .ending := by
    rw [ne_eq, hs.ending_iff b hb]
    simp [disposing?, ho]
  cases hstage : b.stage with
  | live => exact absurd hstage hlive
  | ending => exact absurd hstage hending
  | gone => rfl

/-- A source that is built gets a generation of its own, and finds no other one. -/
theorem Guarded.settle {s : Traffic σ φ} (hs : Guarded s) {call : Nat} {plan : Plan}
    (ho : s.occupant = some ⟨call, plan, .cleared⟩) : Guarded (s.settle plan) := by
  have hactive := hs.active_of_cleared ho
  have hgone := hs.gone_of_cleared ho
  rcases s.settle_cases plan with
    ⟨-, status, clock, outcome, heq, -⟩ | ⟨-, status, clock, outcome, heq, -⟩
  · -- The new generation is above all others, so the new source is the newest one.
    rw [heq]
    refine ⟨?_, ?_, ?_, ?_, ?_, ?_, ?_, nofun⟩
    · simp only [generations, List.map_append, List.pairwise_append]
      refine ⟨hs.ordered, List.pairwise_singleton _ _, fun x hx y hy => ?_⟩
      simp only [List.map_cons, List.map_nil, List.mem_singleton] at hy
      have := hs.bounded x hx
      omega
    · intro x hx
      simp only [generations, List.map_append, List.mem_append] at hx
      rcases hx with hx | hx
      · exact Nat.le_succ_of_le (hs.bounded x hx)
      · simp only [List.map_cons, List.map_nil, List.mem_singleton] at hx
        exact Nat.le_of_eq hx
    · rintro x - rfl
      rfl
    · rintro x ⟨⟩
      simp [generations]
    · rintro x ⟨⟩
      rfl
    · intro b hb
      rcases List.mem_append.1 hb with hb | hb
      · have hle := hs.bounded _ (List.mem_map_of_mem hb)
        rw [hgone b hb]
        simp only [reduceCtorEq, Option.some.injEq, false_iff]
        omega
      · cases List.mem_singleton.1 hb
        simp
    · intro b hb
      rcases List.mem_append.1 hb with hb | hb
      · simp [hgone b hb, disposing?]
      · cases List.mem_singleton.1 hb
        simp [disposing?]
  · rw [heq]
    refine { hs with live_iff := hs.live_iff, ending_iff := fun b hb => ?_, cut := nofun }
    simp [hgone b hb, disposing?]

/-! ### Every run keeps it -/

variable [Storage σ]

theorem Guarded.step {s s' : Traffic σ φ} (hs : Guarded s) {e : TrafficEvent φ}
    (h : s.step e = some s') : Guarded s' := by
  cases e with
  | call call =>
    cases h
    obtain ⟨flags, factory, heq⟩ := s.connection.announce_control call
    exact hs.of_eq rfl rfl (by simp only [announce, heq]) (by simp only [announce, heq])
  | enter call =>
    obtain ⟨hfree, critical, -, rfl⟩ := step_enter h
    exact hs.grant hfree call critical
  | cutOff =>
    obtain ⟨call, plan, ho, rfl⟩ := step_cutOff h
    exact hs.cutOff ho
  | dispose =>
    obtain ⟨call, plan, source, ho, rfl⟩ := step_dispose h
    exact hs.dispose ho
  | settle =>
    obtain ⟨call, plan, ho, rfl⟩ := step_settle h
    exact hs.settle ho
  | switch | deliver | checkStart | noteStart =>
    obtain ⟨connection, starts, _, _, rfl, hactive, hgeneration, -⟩ := step_aside h rfl
    exact hs.of_eq rfl rfl hactive hgeneration

theorem guarded_of_run {s s' : Traffic σ φ} (hs : Guarded s) {es : List (TrafficEvent φ)}
    (h : s.run es = some s') : Guarded s' :=
  run_induction (motive := fun _ s => Guarded s) hs (fun _ _ _ _ hm hstep => hm.step hstep) h

/-! ### Who has a say -/

omit [Storage σ] in
/-- Among the sources that were ever built, the current one is the active one. -/
theorem Guarded.isCurrent_iff {s : Traffic σ φ} (hs : Guarded s) {g : Nat}
    (hg : g ∈ s.generations) : s.connection.isCurrent g = true ↔ s.connection.active = some g := by
  simp only [Connection.isCurrent, decide_eq_true_eq]
  exact ⟨fun h => hs.current g hg h.symm, fun h => (hs.newest g h).symm⟩

theorem Guarded.deliver_eq {s : Traffic σ φ} (hs : Guarded s) {g : Nat} (hg : g ∈ s.generations)
    (delivery : Delivery) :
    s.connection.deliver g delivery =
      if s.connection.active = some g then s.connection.accept delivery else s.connection := by
  simp only [Connection.deliver, hs.isCurrent_iff hg]

omit [Storage σ] in
/-- Two sources that are not gone are the same one: both are the active source, or both are the one
whose disposal goes on. -/
theorem Guarded.eq_of_not_gone {s : Traffic σ φ} (hs : Guarded s) {a b : BuiltSource}
    (ha : a ∈ s.sources) (hb : b ∈ s.sources) (ha' : a.stage ≠ .gone) (hb' : b.stage ≠ .gone) :
    a.generation = b.generation := by
  -- While a disposal goes on, no source is active, so there cannot be one of each kind.
  have hexclusive : s.disposing? ≠ none → s.connection.active = none := by
    intro hd
    unfold disposing? at hd
    split at hd
    · next ho => exact hs.active_of_disposing ho
    · exact absurd rfl hd
  have hla := hs.live_iff a ha
  have hlb := hs.live_iff b hb
  have hea := hs.ending_iff a ha
  have heb := hs.ending_iff b hb
  cases hsa : a.stage with
  | gone => exact absurd hsa ha'
  | live =>
    cases hsb : b.stage with
    | gone => exact absurd hsb hb'
    | live => simp_all
    | ending => simp_all
  | ending =>
    cases hsb : b.stage with
    | gone => exact absurd hsb hb'
    | live => simp_all
    | ending => simp_all

omit [Storage σ] in
/-- No two sources are there at a time. -/
theorem Guarded.length_not_gone {s : Traffic σ φ} (hs : Guarded s) :
    (s.sources.filter (·.stage ≠ .gone)).length ≤ 1 := by
  have hordered : (s.sources.filter (·.stage ≠ .gone)).Pairwise (·.generation < ·.generation) :=
    (List.pairwise_map.1 hs.ordered).filter _
  have hsame : ∀ a ∈ s.sources.filter (·.stage ≠ .gone),
      ∀ b ∈ s.sources.filter (·.stage ≠ .gone), a.generation = b.generation := by
    intro a ha b hb
    simp only [List.mem_filter, decide_eq_true_eq] at ha hb
    exact hs.eq_of_not_gone ha.1 hb.1 ha.2 hb.2
  generalize s.sources.filter (·.stage ≠ .gone) = l at hordered hsame ⊢
  match l, hordered, hsame with
  | [], _, _ | [_], _, _ => simp
  | a :: b :: l, hordered, hsame =>
    have hlt := List.rel_of_pairwise_cons hordered (List.mem_cons_self (a := b))
    have heq := hsame a (by simp) b (by simp)
    omega

omit [Storage σ] in
theorem length_withStage (s : Traffic σ φ) (generation : Nat) (stage : SourceStage) :
    (s.withStage generation stage).length = s.sources.length :=
  List.length_map ..

/-- A source is built only when all sources before it are gone. -/
theorem Guarded.gone_of_built {s s' : Traffic σ φ} (hs : Guarded s) {e : TrafficEvent φ}
    (h : s.step e = some s') (hlt : s.sources.length < s'.sources.length) :
    ∀ b ∈ s.sources, b.stage = .gone := by
  cases e with
  | settle =>
    obtain ⟨call, plan, ho, -⟩ := step_settle h
    exact hs.gone_of_cleared ho
  | call call =>
    cases h
    exact absurd hlt (Nat.lt_irrefl _)
  | enter call =>
    obtain ⟨-, critical, -, rfl⟩ := step_enter h
    exact absurd hlt (Nat.lt_irrefl _)
  | cutOff =>
    obtain ⟨call, plan, -, rfl⟩ := step_cutOff h
    obtain ⟨generation, progress, sources, heq, hlength⟩ := s.cutOff_eq call plan
    rw [heq] at hlt
    exact absurd hlength (Nat.ne_of_gt hlt)
  | dispose =>
    obtain ⟨call, plan, source, -, rfl⟩ := step_dispose h
    exact absurd (s.length_withStage source .gone) (Nat.ne_of_gt hlt)
  | switch | deliver | checkStart | noteStart =>
    obtain ⟨connection, starts, _, _, rfl, -⟩ := step_aside h rfl
    exact absurd hlt (Nat.lt_irrefl _)

/-! ### The data of a run -/

/-- What an event writes into the data, with the reading of the clock at which it does: the switches
of the identity, and what the active source delivers. -/
def entries (s : Traffic σ φ) : TrafficEvent φ → List (DataStep × Int)
  | .switch identity => [(.switch identity, s.connection.nextReading)]
  | .deliver source delivery =>
    if s.connection.active = some source then
      (delivery.dataStep?.map (·, s.connection.nextReading)).toList
    else []
  | _ => []

/-- What a run writes into the data, in order. -/
def journal (s : Traffic σ φ) : List (TrafficEvent φ) → List (DataStep × Int)
  | [] => []
  | e :: es =>
    s.entries e ++ match s.step e with
      | some s' => s'.journal es
      | none => []

/-- The data change by what the journal notes of a step. -/
theorem Guarded.step_data {s s' : Traffic σ φ} (hs : Guarded s) {e : TrafficEvent φ}
    (h : s.step e = some s') :
    s'.connection.data = (s.entries e).foldl FlagData.take s.connection.data := by
  cases e with
  | call call =>
    cases h
    obtain ⟨flags, factory, heq⟩ := s.connection.announce_control call
    simp only [announce, heq, entries, List.foldl_nil]
  | enter call =>
    obtain ⟨-, critical, -, rfl⟩ := step_enter h
    rfl
  | cutOff =>
    obtain ⟨call, plan, -, rfl⟩ := step_cutOff h
    obtain ⟨generation, progress, sources, heq, -⟩ := s.cutOff_eq call plan
    rw [heq]
    rfl
  | dispose =>
    obtain ⟨call, plan, source, -, rfl⟩ := step_dispose h
    rfl
  | settle =>
    obtain ⟨call, plan, -, rfl⟩ := step_settle h
    rcases s.settle_cases plan with
      ⟨-, status, clock, outcome, heq, -⟩ | ⟨-, status, clock, outcome, heq, -⟩ <;> rw [heq] <;> rfl
  | switch identity =>
    obtain ⟨status, clock, rfl, -⟩ := step_switch h
    rfl
  | deliver source delivery =>
    -- Only the active source gets through, and the journal notes nobody else.
    obtain ⟨hmem, rfl⟩ := step_deliver h
    simp only [hs.deliver_eq hmem, entries]
    split
    · cases hstep : delivery.dataStep? with
      | none => exact s.connection.accept_data_of_none hstep
      | some step =>
        obtain ⟨status, clock, heq, -⟩ := s.connection.accept_data_eq hstep
        simp only [heq, Option.map_some, Option.toList_some, List.foldl_cons, List.foldl_nil]
    · rfl
  | checkStart source succeeded =>
    obtain ⟨starts, rfl⟩ := step_checkStart h
    rfl
  | noteStart source succeeded =>
    obtain ⟨initialized, outcome, starts, rfl⟩ := step_noteStart h
    rfl

theorem Guarded.run_data {s s' : Traffic σ φ} (hs : Guarded s) {es : List (TrafficEvent φ)}
    (h : s.run es = some s') :
    s'.connection.data = (s.journal es).foldl FlagData.take s.connection.data := by
  induction es generalizing s with
  | nil =>
    cases h
    rfl
  | cons e es ih =>
    rw [run_cons] at h
    obtain ⟨s₁, hstep, hrun⟩ := Option.bind_eq_some_iff.1 h
    simp only [journal, hstep, List.foldl_append]
    rw [ih (hs.step hstep) hrun, hs.step_data hstep]

/-! ### The main statement -/

/-- What it means that the sources of a connection never overlap and that only the active one has a
say, after the events `es` from `s₀` have led to `s`. -/
structure Exclusive (s₀ : Traffic σ φ) (es : List (TrafficEvent φ)) (s : Traffic σ φ) : Prop where
  /-- At most one source that was built is not disposed of. -/
  alone : (s.sources.filter (·.stage ≠ .gone)).length ≤ 1
  /-- The live source is the active one. -/
  live_iff : ∀ b ∈ s.sources, b.stage = .live ↔ s.connection.active = some b.generation
  active_built : ∀ g, s.connection.active = some g → g ∈ s.generations
  /-- A source that is neither live nor gone is being disposed of in the critical section. -/
  ending_iff : ∀ b ∈ s.sources, b.stage = .ending ↔
    ∃ o, s.occupant = some o ∧ o.progress = .disposing b.generation
  /-- Building the next source takes that all disposals are complete. -/
  gone_of_built : ∀ e s', s.step e = some s' → s.sources.length < s'.sources.length →
    ∀ b ∈ s.sources, b.stage = .gone
  /-- Whatever a source delivers counts if it is the active one, and changes nothing at all if it is
  any other. -/
  deliver : ∀ g delivery s', s.step (.deliver g delivery) = some s' →
    s' = if s.connection.active = some g then
        { s with connection := s.connection.accept delivery }
      else s
  /-- The data are made of the switches of the identity and the deliveries of active sources. -/
  data : s.connection.data = (s₀.journal es).foldl FlagData.take s₀.connection.data

/-- **One source at a time**: every run from a new connection keeps its sources apart, and drops
what any source but the active one delivers. -/
theorem exclusive_of_run {c : Connection σ φ} (hc : c.IsNew) {es : List (TrafficEvent φ)}
    {s : Traffic σ φ} (h : (around c).run es = some s) : Exclusive (around c) es s := by
  have hs : Guarded s := guarded_of_run (guarded_around hc) h
  refine ⟨hs.length_not_gone, hs.live_iff, hs.built, fun b hb => ?_,
    fun e s' hstep => hs.gone_of_built hstep, fun g delivery s' hstep => ?_,
    (guarded_around hc).run_data h⟩
  · rw [hs.ending_iff b hb]
    unfold disposing?
    split
    · next ho => simp [ho]
    · next hne =>
      simp only [reduceCtorEq, false_iff, not_exists, not_and]
      rintro ⟨call, plan, progress⟩ ho rfl
      exact hne _ _ _ ho
  · obtain ⟨hmem, rfl⟩ := step_deliver hstep
    rw [hs.deliver_eq hmem]
    split <;> rfl

/-- A source that still delivers while it is disposed of, and again after another one has taken its
place. -/
def replacement : List (TrafficEvent Unit) :=
  [.call .start, .enter 0, .cutOff, .settle,
    .deliver 1 (.item { key := "user" } { key := "flag", version := 1 }),
    .call (.setInBackground true), .enter 1, .cutOff, .deliver 1 .valid, .dispose, .settle,
    .deliver 1 .valid, .deliver 3 .valid]

/-- The old source makes way for the new one. -/
theorem exclusive_replacement :
    ∃ s, (around Connection.plain).run replacement = some s ∧
      s.connection.active = some 3 ∧ s.generations = [1, 3] ∧
      Exclusive (around Connection.plain) replacement s :=
  ⟨_, rfl, rfl, rfl, exclusive_of_run Connection.isNew_plain rfl⟩

end LiveFlags.Traffic
