import LiveFlags.Proofs.Source.Site

/-!
# What a disposal achieves

When a disposal is over, and the starts that had begun before it as well, the source ought to be
quiet: its worker makes no further call. There is at most one worker; but a disposal may be over
although a start that had claimed to make the worker makes it only then, or although another
disposal has told the worker to stop and still waits for its end. `isQuiet_iff_isAtRest` says when
the source is quiet, and `isQuiet_of_forall_done` what is enough for that.
-/

namespace LiveFlags

namespace Site

variable {s s' : Site}

/-! ### At rest -/

/-- Once a start or a disposal has come first, a source at rest stays so. -/
theorem IsAtRest.step {event : SiteEvent} (hs : s.IsAtRest) (hclaimed : s.life.claimed)
    (h : s.step event = some s') : s'.IsAtRest ∧ s'.life.claimed ∧ s'.calls = s.calls := by
  cases event with
  | start =>
    cases h
    exact ⟨⟨by simpa [List.countP_append, StartStep.isMaking] using hs.making, hs.worker⟩,
      hclaimed, rfl⟩
  | dispose =>
    cases h
    exact ⟨⟨hs.making, hs.worker⟩, hclaimed, rfl⟩
  | stepStart n =>
    obtain ⟨next, hnext, hne, rfl⟩ := step_stepStart h
    have hcount := countP_set_starts hnext (s.life.stepStart next).1
    have hnot : next.isMaking = false := by
      simpa using List.countP_eq_zero.1 hs.making next (List.mem_of_getElem? hnext)
    rw [hs.making, hnot] at hcount
    cases next with
    | claim =>
      -- The source is claimed already, so this start waits at once.
      refine ⟨⟨?_, hs.worker⟩, rfl, rfl⟩
      simpa [Lifecycle.stepStart, hclaimed, StartStep.isMaking] using hcount
    | publishStopper | spawn => cases hnot
    | publishHandle => exact ⟨⟨hcount, hs.worker⟩, hclaimed, rfl⟩
    | wait => exact absurd rfl hne
  | stepDispose n =>
    obtain ⟨d, -, -, rfl⟩ := step_stepDispose h
    obtain ⟨halive, -, hclaims, -, -⟩ := s.life.stepDispose_keeps d.step
    exact ⟨⟨hs.making, fun hlives => hs.worker (halive ▸ hlives)⟩, by simp [hclaims, hclaimed], rfl⟩
  | turn arrival draw =>
    -- A worker that is over takes no further turn.
    obtain ⟨halive, w, hw, rfl⟩ := step_turn h
    rw [(hs.worker halive).goOn_eq] at hw
    cases hw
  | act =>
    obtain ⟨halive, act, todo, htodo, rfl⟩ := step_act h
    obtain ⟨hawait, hover⟩ := hs.worker halive
    rw [htodo] at hover
    obtain ⟨outcome, heq⟩ := s.life.note_eq act
    obtain ⟨hcall, htail⟩ := List.forall_mem_cons.1 hover
    refine ⟨⟨hs.making, fun _ => ⟨hawait, htail⟩⟩, by simp [heq, hclaimed], ?_⟩
    simp [calls, List.filter_append, hcall]
  | finish =>
    obtain ⟨-, rfl⟩ := step_finish h
    exact ⟨⟨hs.making, fun hlives => absurd hlives Bool.false_ne_true⟩, hclaimed, rfl⟩

/-- At rest nothing is left that could make a call. -/
theorem IsAtRest.isQuiet (hs : s.IsAtRest) (hclaimed : s.life.claimed) : s.IsQuiet := by
  intro s' h
  suffices s'.IsAtRest ∧ s'.life.claimed ∧ s'.calls = s.calls from this.2.2
  induction h with
  | refl => exact ⟨hs, hclaimed, rfl⟩
  | tail _ hstep ih =>
    obtain ⟨event, hevent⟩ := hstep
    obtain ⟨hrest, hclaims, hcalls⟩ := ih.1.step ih.2.1 hevent
    exact ⟨hrest, hclaims, hcalls.trans ih.2.2⟩

/-! ### Not at rest -/

/-- A source is not quiet if it leads to one that is not, without a call on the way. -/
theorem not_isQuiet_of_reaches (h : s.Reaches s') (hcalls : s'.calls = s.calls)
    (hquiet : ¬s'.IsQuiet) : ¬s.IsQuiet :=
  fun hs => hquiet fun _ h' => (hs _ (h.trans h')).trans hcalls.symm

/-- A worker that lives can do all of its turn. -/
theorem exists_turn_over {todo : List Act} (htodo : s.worker.todo = todo)
    (halive : s.life.isAlive) : ∃ s', s.Reaches s' ∧ s'.life.isAlive ∧
      s'.worker = { s.worker with todo := [], done := s.worker.done ++ todo } := by
  induction todo generalizing s with
  | nil => exact ⟨s, .refl, halive, by rw [List.append_nil, ← htodo]⟩
  | cons act todo ih =>
    obtain ⟨outcome, heq⟩ := s.life.note_eq act
    let s₁ : Site := { s with
      life := s.life.note act
      worker := { s.worker with todo, done := s.worker.done ++ [act] } }
    have hact : s.step .act = some s₁ := by simp [step, htodo, halive, s₁]
    have halive₁ : s₁.life.isAlive := by
      simp only [s₁, heq]
      exact halive
    obtain ⟨s', hreaches, halive', hworker⟩ := ih (s := s₁) rfl halive₁
    exact ⟨s', .head ⟨_, hact⟩ hreaches, halive', by simp [hworker, s₁]⟩

/-- A worker that lives carries out what is to be done. -/
theorem not_isQuiet_of_todo (halive : s.life.isAlive) (h : ∃ act ∈ s.worker.todo, act.isCall) :
    ¬s.IsQuiet := by
  obtain ⟨s', hreaches, -, hworker⟩ := exists_turn_over rfl halive
  intro hquiet
  have hcalls := hquiet s' hreaches
  simp only [calls, hworker, List.filter_append, List.append_right_eq_self] at hcalls
  obtain ⟨act, hact, hcall⟩ := h
  exact List.filter_eq_nil_iff.1 hcalls act hact hcall

end Site

namespace Worker

variable {w : Worker}

theorem goOn_of_expects {await : Await} {arrival : Arrival} (htodo : w.todo = [])
    (hawait : w.await = some await) (h : await.expects arrival) (draw : Nat) :
    w.goOn (some arrival) draw = (w.kind.follow arrival draw).map w.take := by
  simp [goOn, htodo, hawait, h]

/-- When its delay has passed, a worker asks the service. -/
theorem exists_goOn_timer {delay : Duration} (htodo : w.todo = [])
    (hawait : w.await = some (.timer delay)) (hmay : w.kind.mayAwait w.await) :
    ∃ w', w.goOn (some .elapsed) 0 = some w' ∧ ∃ act ∈ w'.todo, act.isCall := by
  rw [goOn_of_expects htodo hawait rfl]
  cases hkind : w.kind with
  | test | manual => simp [hkind, Simulation.SourceKind.mayAwait] at hmay
  | polling p => exact ⟨_, rfl, _, .head _, rfl⟩
  | streaming source => exact ⟨_, rfl, _, .head _, rfl⟩

/-- A worker that has not stopped can go on, and will then make a call or wait for one. -/
theorem exists_goOn (htodo : w.todo = []) (hawait : w.await ≠ some .nothing)
    (hmay : w.kind.mayAwait w.await) : ∃ arrival draw w', w.goOn arrival draw = some w' ∧
      ((∃ act ∈ w'.todo, act.isCall) ∨ ∃ delay, w'.await = some (.timer delay)) := by
  cases hawaits : w.await with
  | none =>
    have hstart : w.goOn none 0 = w.kind.onStart.map w.take := by simp [goOn, htodo, hawaits]
    refine ⟨none, 0, ?_⟩
    rw [hstart]
    cases hkind : w.kind with
    | test | manual => simp [hkind, Simulation.SourceKind.mayAwait] at hmay
    | streaming source => exact ⟨_, rfl, .inl ⟨_, .head _, rfl⟩⟩
    | polling p =>
      refine ⟨_, rfl, ?_⟩
      by_cases hdelay : p.initialDelay = .zero
      · exact .inl ⟨.fetch, by simp [take, Polling.start, hdelay, Turn.acts, Await.acts], rfl⟩
      · exact .inr ⟨p.initialDelay, by simp [take, Polling.start, hdelay]⟩
  | some await =>
    -- What it waits for may come at any time, if only as an error.
    cases await with
    | nothing => exact absurd hawaits hawait
    | timer delay =>
      obtain ⟨w', hw', hcall⟩ := exists_goOn_timer htodo hawaits hmay
      exact ⟨_, _, w', hw', .inl hcall⟩
    | fetch =>
      refine ⟨some (.fetched (.ok ∅)), 0, ?_⟩
      rw [goOn_of_expects htodo hawaits rfl]
      cases hkind : w.kind with
      | test | manual => simp [hkind, Simulation.SourceKind.mayAwait] at hmay
      | polling p => exact ⟨_, rfl, .inl ⟨_, .head _, rfl⟩⟩
      | streaming source => exact ⟨_, rfl, .inl ⟨_, .head _, rfl⟩⟩
    | subscription =>
      refine ⟨some (.subscribed (.error ⟨.network, none, ""⟩)), 0, ?_⟩
      rw [goOn_of_expects htodo hawaits rfl]
      cases hkind : w.kind with
      | test | manual | polling => simp [hkind, hawaits, Simulation.SourceKind.mayAwait] at hmay
      | streaming source => exact ⟨_, rfl, .inl ⟨_, .head _, rfl⟩⟩
    | event =>
      refine ⟨some (.event (.ok (.put ∅))), 0, ?_⟩
      rw [goOn_of_expects htodo hawaits rfl]
      cases hkind : w.kind with
      | test | manual | polling => simp [hkind, hawaits, Simulation.SourceKind.mayAwait] at hmay
      | streaming source => exact ⟨_, rfl, .inl ⟨_, .head _, rfl⟩⟩

end Worker

namespace Site

variable {s s' : Site}

/-- If it is not quiet after a turn, it was not before. -/
theorem not_isQuiet_of_turn {arrival : Option Arrival} {draw : Nat} {w : Worker}
    (halive : s.life.isAlive) (hw : s.worker.goOn arrival draw = some w)
    (h : ¬IsQuiet { s with worker := w }) : ¬s.IsQuiet := by
  have hstep : s.step (.turn arrival draw) = some { s with worker := w } := by
    simp [step, halive, hw]
  refine not_isQuiet_of_reaches (.single ⟨_, hstep⟩) ?_ h
  obtain ⟨-, turn, rfl, -⟩ := Worker.goOn_cases hw
  rfl

/-- A worker does the rest of its turn, and waits. -/
theorem Sound.exists_waiting (hs : Sound s) (halive : s.life.isAlive)
    (htodo : ∀ act ∈ s.worker.todo, act.isCall = false) : ∃ s₁, Sound s₁ ∧ s₁.life.isAlive ∧
      s₁.worker.todo = [] ∧ s₁.worker.await = s.worker.await ∧ (¬s₁.IsQuiet → ¬s.IsQuiet) := by
  obtain ⟨s₁, hreaches, halive₁, hworker⟩ := exists_turn_over rfl halive
  have hcalls : s₁.calls = s.calls := by
    simp only [calls, hworker, List.filter_append, List.append_right_eq_self]
    exact List.filter_eq_nil_iff.2 fun act hact => by simp [htodo act hact]
  exact ⟨s₁, hs.of_reaches hreaches, halive₁, by rw [hworker], by rw [hworker],
    not_isQuiet_of_reaches hreaches hcalls⟩

/-- A worker that sleeps wakes up and makes a call. -/
theorem Sound.not_isQuiet_of_timer (hs : Sound s) (halive : s.life.isAlive) {delay : Duration}
    (hawait : s.worker.await = some (.timer delay)) : ¬s.IsQuiet := by
  by_cases hcall : ∃ act ∈ s.worker.todo, act.isCall
  · exact not_isQuiet_of_todo halive hcall
  · obtain ⟨s₁, hs₁, halive₁, htodo₁, hawait₁, hquiet⟩ :=
      hs.exists_waiting halive (by simpa using hcall)
    obtain ⟨w, hw, hcall₁⟩ :=
      Worker.exists_goOn_timer htodo₁ (hawait₁.trans hawait) hs₁.awaits
    exact hquiet (not_isQuiet_of_turn halive₁ hw (not_isQuiet_of_todo halive₁ hcall₁))

/-- A worker that lives, and has not come to its end, can make another call. -/
theorem Sound.not_isQuiet_of_isAlive (hs : Sound s) (halive : s.life.isAlive)
    (hover : ¬s.worker.IsOver) : ¬s.IsQuiet := by
  by_cases hcall : ∃ act ∈ s.worker.todo, act.isCall
  · exact not_isQuiet_of_todo halive hcall
  · have htodo : ∀ act ∈ s.worker.todo, act.isCall = false := by simpa using hcall
    obtain ⟨s₁, hs₁, halive₁, htodo₁, hawait₁, hquiet⟩ := hs.exists_waiting halive htodo
    have hawaits : s₁.worker.await ≠ some .nothing := fun hawait =>
      hover ⟨hawait₁.symm.trans hawait, htodo⟩
    obtain ⟨arrival, draw, w, hw, hnext⟩ := Worker.exists_goOn htodo₁ hawaits hs₁.awaits
    have hstep : s₁.step (.turn arrival draw) = some { s₁ with worker := w } := by
      simp [Site.step, halive₁, hw]
    refine hquiet (not_isQuiet_of_turn halive₁ hw ?_)
    rcases hnext with hcall₁ | ⟨delay, hawait⟩
    · exact not_isQuiet_of_todo halive₁ hcall₁
    · exact (hs₁.step hstep).not_isQuiet_of_timer halive₁ hawait

/-- A start that is about to make the worker leads to its first call. -/
theorem Sound.not_isQuiet_of_spawn (hs : Sound s) (hmem : .spawn ∈ s.starts) : ¬s.IsQuiet := by
  obtain ⟨n, hn⟩ := List.mem_iff_getElem?.1 hmem
  have hfresh := hs.fresh (hs.absent.2 (hs.not_made hmem rfl).2)
  have hstep : s.step (.stepStart n) = some { s with
      life := (s.life.stepStart .spawn).2, starts := s.starts.set n .publishHandle } := by
    simp [Site.step, hn, Lifecycle.stepStart]
  refine not_isQuiet_of_reaches (.single ⟨_, hstep⟩) rfl ?_
  refine (hs.step hstep).not_isQuiet_of_isAlive ?_ ?_
  · simp only [Lifecycle.stepStart, Lifecycle.isAlive]
    split <;> rfl
  · intro hover
    cases hover.await.symm.trans hfresh.await

/-- A start that is going to make the worker can do so, and the worker can then make a call. -/
theorem Sound.not_isQuiet_of_making (hs : Sound s) {next : StartStep} (hmem : next ∈ s.starts)
    (hmaking : next.isMaking) : ¬s.IsQuiet := by
  cases next with
  | claim | publishHandle | wait => cases hmaking
  | spawn => exact hs.not_isQuiet_of_spawn hmem
  | publishStopper =>
    obtain ⟨n, hn⟩ := List.mem_iff_getElem?.1 hmem
    have hstep : s.step (.stepStart n) = some { s with
        life := (s.life.stepStart .publishStopper).2, starts := s.starts.set n .spawn } := by
      simp [Site.step, hn, Lifecycle.stepStart]
    refine not_isQuiet_of_reaches (.single ⟨_, hstep⟩) rfl ((hs.step hstep).not_isQuiet_of_spawn ?_)
    exact List.mem_set (List.getElem?_eq_some_iff.1 hn).1 _

/-- A source is quiet only at rest. -/
theorem Sound.isQuiet_iff (hs : Sound s) (hclaimed : s.life.claimed) : s.IsQuiet ↔ s.IsAtRest := by
  refine ⟨fun hquiet => ⟨?_, fun halive => ?_⟩, fun hrest => hrest.isQuiet hclaimed⟩
  · rw [List.countP_eq_zero]
    exact fun next hmem hmaking => hs.not_isQuiet_of_making hmem hmaking hquiet
  · exact Classical.byContradiction fun hover =>
      hs.not_isQuiet_of_isAlive halive hover hquiet

/-- **When a disposal keeps its promise.** However starts and disposals are interleaved, at most one
worker is made. When a disposal is over, and the starts that had begun before it are past their
steps, the source is quiet exactly when no other start is about to make the worker, and the worker,
if it lives, has come to its end of itself. -/
theorem isQuiet_iff_isAtRest {w : Worker} (hw : w.IsFresh) (h : (around w).Reaches s) :
    s.life.spawned ≤ 1 ∧ ∀ d ∈ s.disposals, d.IsPast s → (s.IsQuiet ↔ s.IsAtRest) := by
  have hs := (sound_around hw).of_reaches h
  refine ⟨?_, fun d hd hpast => hs.isQuiet_iff (hs.forbidden d hd ?_)⟩
  · have hmade := hs.made
    have hle := s.life.claimed.toNat_le
    omega
  · rw [hpast.step]
    nofun

/-- The worker of a source that was just built, for a client that polls or reads a stream. -/
def workerFor (mode : Mode) : Worker :=
  .ofOrder ⟨{ mobileKey := "mobile-key", mode }, 1, { identity := { key := "user" } }⟩ .initializing

/-- A start makes the worker, which sends its first request. -/
def firstRequest : List SiteEvent :=
  [.start, .stepStart 0, .stepStart 0, .stepStart 0, .stepStart 0, .turn none 0, .act]

/-- A disposal stops the worker and waits for its end. -/
def disposal : List SiteEvent :=
  [.dispose, .stepDispose 0, .stepDispose 0, .stepDispose 0, .stepDispose 0, .finish,
    .stepDispose 0]

/-- A disposal that began after the only start. -/
theorem isPast_of_starts (h : s.starts = [.wait]) : Disposal.IsPast ⟨.done, 1⟩ s where
  step := rfl
  starts n hn := by
    obtain rfl : n = 0 := Nat.lt_one_iff.1 hn
    rw [h]
    rfl

/-- After an ordinary life the source is quiet. -/
theorem isQuiet_disposal : ∃ s,
    (around (workerFor .polling)).run (firstRequest ++ disposal) = some s ∧
      (∃ d ∈ s.disposals, d.IsPast s) ∧ s.calls = [.fetch] ∧ s.IsQuiet := by
  obtain ⟨s, h, hmem, hpast, hcalls, hmaking, hgone⟩ : ∃ s,
      (around (workerFor .polling)).run (firstRequest ++ disposal) = some s ∧
        ⟨.done, 1⟩ ∈ s.disposals ∧ Disposal.IsPast ⟨.done, 1⟩ s ∧ s.calls = [.fetch] ∧
        s.starts.countP StartStep.isMaking = 0 ∧ s.life.isAlive = false :=
    ⟨_, rfl, .head _, isPast_of_starts rfl, rfl, rfl, rfl⟩
  obtain ⟨-, hiff⟩ :=
    isQuiet_iff_isAtRest (w := workerFor .polling) ⟨rfl, rfl, rfl⟩ (reaches_of_run _ h)
  refine ⟨s, h, ⟨_, hmem, hpast⟩, hcalls, (hiff _ hmem hpast).2 ⟨hmaking, fun halive => ?_⟩⟩
  rw [hgone] at halive
  cases halive

/-- A disposal takes all its steps while a start that has claimed to make the worker has not yet
done anything about it. -/
def lateStart : List SiteEvent :=
  [.start, .stepStart 0, .dispose, .stepDispose 0, .stepDispose 0, .stepDispose 0, .stepDispose 0,
    .stepStart 0, .stepStart 0, .stepStart 0]

/-- A disposal takes all its steps while another one waits for the worker. -/
def secondDisposal : List SiteEvent :=
  [.dispose, .stepDispose 0, .stepDispose 0, .stepDispose 0, .stepDispose 0,
    .dispose, .stepDispose 1, .stepDispose 1, .stepDispose 1, .stepDispose 1]

/-- **Disposals that are over and have not stopped the source.** The worker is made afterwards and
sends a request, or it delivers something although it was told to stop. -/
theorem exists_not_isQuiet :
    (∃ s, (around (workerFor .polling)).run lateStart = some s ∧
      (∃ d ∈ s.disposals, d.IsPast s) ∧ ¬s.IsQuiet) ∧
    ∃ s, (around (workerFor .streaming)).run (firstRequest ++ secondDisposal) = some s ∧
      (∃ d ∈ s.disposals, d.IsPast s) ∧ ¬s.IsQuiet := by
  refine ⟨⟨_, rfl, ⟨_, .head _, isPast_of_starts rfl⟩, fun hquiet => ?_⟩,
    ⟨_, rfl, ⟨_, .tail _ (.head _), isPast_of_starts rfl⟩, fun hquiet => ?_⟩⟩
  · cases hquiet _ (reaches_of_run [.turn none 0, .act] rfl)
  · cases hquiet _ (reaches_of_run
      [.turn (some (.subscribed (.error ⟨.network, none, ""⟩))) 0, .act] rfl)

/-! ### Disposals while no start is under way -/

/-- No start is between its first and its last step, none can get there, and while there are means
to wait for the worker, a disposal is going to take them. -/
structure IsClosing (s : Site) : Prop where
  starts : ∀ next ∈ s.starts, next = .claim ∨ next = .wait
  claimed : s.life.claimed
  handle : s.life.handle → ∃ d ∈ s.disposals, d.step ≠ .join ∧ d.step ≠ .done

/-- A source that is closing stays so, whatever happens. -/
theorem IsClosing.step {event : SiteEvent} (hs : s.IsClosing) (h : s.step event = some s') :
    s'.IsClosing := by
  obtain ⟨hstarts, hclaimed, hhandle⟩ := hs
  cases event with
  | start =>
    cases h
    exact ⟨List.forall_mem_append.2 ⟨hstarts, by simp⟩, hclaimed, hhandle⟩
  | dispose =>
    cases h
    refine ⟨hstarts, hclaimed, fun hhas => ?_⟩
    obtain ⟨d, hd, hahead⟩ := hhandle hhas
    exact ⟨d, List.mem_append_left _ hd, hahead⟩
  | stepStart n =>
    obtain ⟨next, hnext, hne, rfl⟩ := step_stepStart h
    rcases hstarts next (List.mem_of_getElem? hnext) with rfl | rfl
    · refine ⟨fun next' hnext' => ?_, rfl, hhandle⟩
      rcases List.mem_or_eq_of_mem_set hnext' with hold | rfl
      · exact hstarts next' hold
      · simp [Lifecycle.stepStart, hclaimed]
    · exact absurd rfl hne
  | stepDispose n =>
    obtain ⟨d, hd, hne, rfl⟩ := step_stepDispose h
    obtain ⟨-, -, hclaims, hkeeps, -⟩ := s.life.stepDispose_keeps d.step
    refine ⟨hstarts, by simp [hclaims, hclaimed], fun hhas => ?_⟩
    have hmem (d' : Disposal) := List.mem_set (List.getElem?_eq_some_iff.1 hd).1 d'
    cases hnext : d.step with
    | forbid | resolve | stop => exact ⟨_, hmem _, by simp [Lifecycle.stepDispose]⟩
    | takeHandle => simp [hnext, Lifecycle.stepDispose] at hhas
    | join | done =>
      -- Another disposal is going to take the handle.
      rw [hkeeps (by simp [hnext])] at hhas
      exact exists_mem_set hd (by simp [hnext]) (hhandle hhas) _
  | turn arrival draw =>
    obtain ⟨-, w, -, rfl⟩ := step_turn h
    exact ⟨hstarts, hclaimed, hhandle⟩
  | act =>
    obtain ⟨-, act, todo, -, rfl⟩ := step_act h
    obtain ⟨outcome, heq⟩ := s.life.note_eq act
    rw [heq]
    exact ⟨hstarts, hclaimed, hhandle⟩
  | finish =>
    obtain ⟨-, rfl⟩ := step_finish h
    exact ⟨hstarts, hclaimed, hhandle⟩

theorem IsClosing.of_reaches (hs : s.IsClosing) (h : s.Reaches s') : s'.IsClosing := by
  induction h with
  | refl => exact hs
  | tail _ hstep ih =>
    obtain ⟨event, hevent⟩ := hstep
    exact ih.step hevent

/-- **Disposals that no start disturbs.** If no start is under way when a disposal has forbidden
further ones, and has still to take the means to wait for the worker, then the worker is gone when
all disposals are over. -/
theorem isQuiet_of_forall_done {w : Worker} (hw : w.IsFresh) {s₁ : Site}
    (h₁ : (around w).Reaches s₁) (hstarts : ∀ next ∈ s₁.starts, next = .claim ∨ next = .wait)
    {d : Disposal} (hd : d ∈ s₁.disposals)
    (hstep : d.step = .resolve ∨ d.step = .stop ∨ d.step = .takeHandle) (h : s₁.Reaches s)
    (hdone : ∀ d ∈ s.disposals, d.step = .done) : s.life.isAlive = false ∧ s.IsQuiet := by
  have hs₁ := (sound_around hw).of_reaches h₁
  have hclosing₁ : s₁.IsClosing := by
    refine ⟨hstarts, hs₁.forbidden d hd ?_, fun _ => ⟨d, hd, ?_⟩⟩
    all_goals rcases hstep with hstep | hstep | hstep <;> simp [hstep]
  obtain ⟨hstarts', hclaimed, hhandle⟩ := hclosing₁.of_reaches h
  have hgone : ¬s.life.isAlive := by
    intro halive
    rcases (hs₁.of_reaches h).held halive with hhas | ⟨next, hnext, rfl⟩ | ⟨d, hd, hjoin⟩
    · obtain ⟨d, hd, -, hnot⟩ := hhandle hhas
      exact hnot (hdone d hd)
    · rcases hstarts' _ hnext with h | h <;> cases h
    · cases (hdone d hd).symm.trans hjoin
  have hmaking : s.starts.countP StartStep.isMaking = 0 := by
    rw [List.countP_eq_zero]
    intro next hnext
    rcases hstarts' next hnext with rfl | rfl <;> simp [StartStep.isMaking]
  exact ⟨Bool.eq_false_iff.2 hgone,
    IsAtRest.isQuiet ⟨hmaking, fun halive => absurd halive hgone⟩ hclaimed⟩

end Site

end LiveFlags
