import LiveFlags.Proofs.Connection.Operation
import LiveFlags.Source.Lifecycle

/-!
# Starts and disposals that take place at the same time

A `Site` is a source with its worker and the calls that start and dispose of it. Each call takes one
step after the other, and anything else may happen between two of them. So does the worker: it
begins, does its turn act by act, and goes on when what it waits for has arrived, until it has been
told to stop and does so, or has come to its end.

`Sound` is the invariant. It counts the starts that are going to make the worker together with the
workers made, which gives that there is never a second one.
-/

namespace LiveFlags

/-! ### What happens at a source -/

/-- The act is a call of the service, or one of those whom the source tells what it has learnt. -/
def Act.isCall : Act → Bool
  | deliver _ | fetch | subscribe => true
  | resolve _ | wait _ => false

/-- The start is going to make the worker. -/
def StartStep.isMaking : StartStep → Bool
  | publishStopper | spawn => true
  | claim | publishHandle | wait => false

/-- What an act of the worker changes for starts and disposals. -/
def Lifecycle.note (l : Lifecycle) : Act → Lifecycle
  | .resolve succeeded => l.resolve succeeded
  | _ => l

/-- A source like this can wait for it. -/
def Simulation.SourceKind.mayAwait : SourceKind → Option Await → Bool
  | streaming _, _ => true
  | polling _, none | polling _, some (.timer _) | polling _, some .fetch
  | polling _, some .nothing => true
  | _, _ => false

/-- The worker of a source that has one has not begun. -/
structure Worker.IsFresh (w : Worker) : Prop where
  kind : w.kind.mayAwait none
  await : w.await = none
  todo : w.todo = []

/-- The worker comes to its end without another call. -/
structure Worker.IsOver (w : Worker) : Prop where
  await : w.await = some .nothing
  todo : ∀ act ∈ w.todo, act.isCall = false

/-- A disposal. -/
structure Disposal where
  step : DisposeStep := .forbid
  /-- How many starts had begun before. -/
  starts : Nat

/-- A source with its worker, and the calls that start and dispose of it. -/
structure Site where
  life : Lifecycle := {}
  worker : Worker
  starts : List StartStep := []
  disposals : List Disposal := []

/-- What happens at a source. -/
inductive SiteEvent where
  /-- A start begins. -/
  | start
  /-- A disposal begins. -/
  | dispose
  | stepStart (n : Nat)
  | stepDispose (n : Nat)
  /-- The worker begins its first turn, or the one after an arrival. -/
  | turn (arrival : Option Arrival) (draw : Nat)
  /-- The worker does what is next in its turn. -/
  | act
  /-- The worker ends. -/
  | finish

namespace Site

/-- What an event leads to, if it can happen. A call that waits takes no step. -/
def step (s : Site) : SiteEvent → Option Site
  | .start => some { s with starts := s.starts ++ [.claim] }
  | .dispose => some { s with disposals := s.disposals ++ [{ starts := s.starts.length }] }
  | .stepStart n =>
    s.starts[n]?.bind fun next =>
      let (next', life) := s.life.stepStart next
      if next' = next then none else some { s with life, starts := s.starts.set n next' }
  | .stepDispose n =>
    s.disposals[n]?.bind fun d =>
      let (next, life) := s.life.stepDispose d.step
      if next = d.step then none
      else some { s with life, disposals := s.disposals.set n { d with step := next } }
  | .turn arrival draw =>
    if s.life.isAlive then (s.worker.goOn arrival draw).map ({ s with worker := · }) else none
  | .act =>
    match s.worker.todo with
    | act :: todo =>
      if s.life.isAlive then
        some { s with
          life := s.life.note act
          worker := { s.worker with todo, done := s.worker.done ++ [act] } }
      else none
    | [] => none
  | .finish =>
    if s.life.isAlive ∧ s.worker.todo = [] ∧
        (s.life.worker = .stopping ∨ s.worker.await = some .nothing) then
      some { s with life := s.life.finish }
    else none

/-- One state leads to another. -/
def Reaches : Site → Site → Prop :=
  Relation.ReflTransGen fun s s' => ∃ event, s.step event = some s'

/-- Follows events in order. -/
def run (s : Site) (events : List SiteEvent) : Option Site :=
  events.foldlM step s

/-- A source that was just built. -/
def around (w : Worker) : Site :=
  { worker := w }

/-- The calls that the worker has made. -/
def calls (s : Site) : List Act :=
  s.worker.done.filter Act.isCall

/-- The worker makes no further call, whatever happens. -/
def IsQuiet (s : Site) : Prop :=
  ∀ s', s.Reaches s' → s'.calls = s.calls

/-- No start is going to make a worker, and one that lives comes to its end without another call. -/
structure IsAtRest (s : Site) : Prop where
  making : s.starts.countP StartStep.isMaking = 0
  worker : s.life.isAlive → s.worker.IsOver

end Site

/-- The disposal has taken all its steps, and so have the starts that had begun before. -/
structure Disposal.IsPast (d : Disposal) (s : Site) : Prop where
  step : d.step = .done
  starts : ∀ n < d.starts, s.starts[n]? = some .wait

namespace Site

/-! ### Inversion of steps -/

variable {s s' : Site}

/-- A start takes its next step, if it has one. -/
theorem step_stepStart {n : Nat} (h : s.step (.stepStart n) = some s') :
    ∃ next, s.starts[n]? = some next ∧ (s.life.stepStart next).1 ≠ next ∧
      s' = { s with
        life := (s.life.stepStart next).2
        starts := s.starts.set n (s.life.stepStart next).1 } := by
  obtain ⟨next, hnext, h⟩ := Option.bind_eq_some_iff.1 h
  simp only at h
  split at h
  · cases h
  · next hne => exact ⟨next, hnext, hne, (Option.some.inj h).symm⟩

theorem step_stepDispose {n : Nat} (h : s.step (.stepDispose n) = some s') :
    ∃ d, s.disposals[n]? = some d ∧ (s.life.stepDispose d.step).1 ≠ d.step ∧
      s' = { s with
        life := (s.life.stepDispose d.step).2
        disposals := s.disposals.set n { d with step := (s.life.stepDispose d.step).1 } } := by
  obtain ⟨d, hd, h⟩ := Option.bind_eq_some_iff.1 h
  simp only at h
  split at h
  · cases h
  · next hne => exact ⟨d, hd, hne, (Option.some.inj h).symm⟩

theorem step_turn {arrival : Option Arrival} {draw : Nat}
    (h : s.step (.turn arrival draw) = some s') : s.life.isAlive ∧
      ∃ w, s.worker.goOn arrival draw = some w ∧ s' = { s with worker := w } := by
  simp only [step] at h
  split at h
  · next halive =>
    obtain ⟨w, hw, rfl⟩ := Option.map_eq_some_iff.1 h
    exact ⟨halive, w, hw, rfl⟩
  · cases h

theorem step_act (h : s.step .act = some s') : s.life.isAlive ∧
    ∃ act todo, s.worker.todo = act :: todo ∧ s' = { s with
      life := s.life.note act
      worker := { s.worker with todo, done := s.worker.done ++ [act] } } := by
  simp only [step] at h
  split at h
  · next act todo htodo =>
    split at h
    · next halive => exact ⟨halive, act, todo, htodo, (Option.some.inj h).symm⟩
    · cases h
  · cases h

theorem reaches_of_run (events : List SiteEvent) (h : s.run events = some s') : s.Reaches s' := by
  induction events generalizing s with
  | nil =>
    cases h
    exact .refl
  | cons event events ih =>
    obtain ⟨s₁, hstep, hrest⟩ := Option.bind_eq_some_iff.1 h
    exact .head ⟨event, hstep⟩ (ih hrest)

theorem step_finish (h : s.step .finish = some s') :
    s.life.isAlive ∧ s' = { s with life := s.life.finish } := by
  simp only [step] at h
  split at h
  · next hends => exact ⟨hends.1, (Option.some.inj h).symm⟩
  · cases h

end Site

/-! ### Workers -/

/-- Only polling and streaming sources take turns, each in its own way. -/
theorem Simulation.SourceKind.turn_cases {kind : SourceKind} {polling : Polling → Turn}
    {streaming : Streaming → Turn × Streaming} {next : Turn × SourceKind}
    (h : kind.turn polling streaming = some next) :
    (∃ p, kind = .polling p ∧ next = (polling p, .polling p)) ∨
      ∃ s, kind = .streaming s ∧ next = ((streaming s).1, .streaming (streaming s).2) := by
  cases kind with
  | polling p => exact .inl ⟨p, rfl, (Option.some.inj h).symm⟩
  | streaming s => exact .inr ⟨s, rfl, (Option.some.inj h).symm⟩
  | test | manual => cases h

namespace Worker

/-- A worker waits for what a source like its own can wait for. -/
theorem mayAwait_goOn {w w' : Worker} {arrival : Option Arrival} {draw : Nat}
    (h : w.goOn arrival draw = some w') : w'.kind.mayAwait w'.await := by
  obtain ⟨-, turn, rfl, hstart | ⟨arrival, hfollow⟩⟩ := goOn_cases h
  · obtain ⟨p, -, rfl⟩ | ⟨s, -, rfl⟩ := Simulation.SourceKind.turn_cases hstart
    · simp only [take, Polling.start]
      split <;> rfl
    · rfl
  · obtain ⟨p, -, rfl⟩ | ⟨s, -, rfl⟩ := Simulation.SourceKind.turn_cases hfollow
    · cases arrival with
      | elapsed | subscribed | event | ended => rfl
      | fetched answer =>
        cases answer with
        | ok snapshot => rfl
        | error error =>
          simp only [take, Polling.follow, Polling.onFetch]
          split <;> rfl
    · rfl

/-- A worker that is over does not go on. -/
theorem IsOver.goOn_eq {w : Worker} (hw : w.IsOver) (arrival : Option Arrival) (draw : Nat) :
    w.goOn arrival draw = none := by
  unfold goOn
  split
  · next _ hawait => cases hawait.symm.trans hw.await
  · next await arrival _ hawait =>
    cases hawait.symm.trans hw.await
    cases arrival <;> rfl
  · rfl

end Worker

/-! ### Lives -/

namespace Lifecycle

theorem not_isAlive_of_absent {l : Lifecycle} (h : l.worker = .absent) : ¬l.isAlive := by
  simp [isAlive, h]

theorem note_eq (l : Lifecycle) (act : Act) : ∃ outcome, l.note act = { l with outcome } := by
  cases act with
  | resolve succeeded => exact ⟨_, rfl⟩
  | deliver | wait | fetch | subscribe => exact ⟨l.outcome, rfl⟩

theorem tell_keeps (l : Lifecycle) : l.tell.isAlive = l.isAlive ∧ l.tell.claimed = l.claimed ∧
    l.tell.spawned = l.spawned ∧ l.tell.handle = l.handle ∧
      (l.tell.worker = .absent ↔ l.worker = .absent) := by
  cases hworker : l.worker <;> simp [tell, hworker, isAlive]

/-- A disposal neither makes a worker nor ends one, and allows no further starts. -/
theorem stepDispose_keeps (l : Lifecycle) (next : DisposeStep) :
    (l.stepDispose next).2.isAlive = l.isAlive ∧ (l.stepDispose next).2.spawned = l.spawned ∧
      (l.stepDispose next).2.claimed = (next = .forbid || l.claimed) ∧
      (next ≠ .takeHandle → (l.stepDispose next).2.handle = l.handle) ∧
      ((l.stepDispose next).2.worker = .absent ↔ l.worker = .absent) := by
  cases next with
  | forbid => exact ⟨rfl, rfl, rfl, fun _ => rfl, .rfl⟩
  | resolve | join | done => exact ⟨rfl, rfl, by simp [stepDispose, resolve], fun _ => rfl, .rfl⟩
  | takeHandle => exact ⟨rfl, rfl, by simp [stepDispose], fun h => absurd rfl h, .rfl⟩
  | stop =>
    simp only [stepDispose]
    split
    · obtain ⟨halive, hclaimed, hspawned, hhandle, hworker⟩ :=
        tell_keeps { l with stopper := false }
      exact ⟨halive, hspawned, by simpa using hclaimed, fun _ => hhandle, hworker⟩
    · simp

end Lifecycle

/-! ### The invariant -/

/-- One of a list is replaced that does not count, so those that count are still there. -/
theorem exists_mem_set {α : Type} {p : α → Prop} {l : List α} {n : Nat} {a : α}
    (ha : l[n]? = some a) (hp : ¬p a) (h : ∃ b ∈ l, p b) (a' : α) : ∃ b ∈ l.set n a', p b := by
  obtain ⟨b, hb, hpb⟩ := h
  obtain ⟨m, hm⟩ := List.mem_iff_getElem?.1 hb
  have hne : n ≠ m := by
    rintro rfl
    exact hp (Option.some.inj (ha.symm.trans hm) ▸ hpb)
  exact ⟨b, List.mem_of_getElem? ((List.getElem?_set_ne hne).trans hm), hpb⟩

namespace Site

/-- What holds of a source, its worker and its calls at any time. -/
structure Sound (s : Site) : Prop where
  /-- No more than one start makes a worker or has done so, and none before it has claimed that. -/
  made : s.starts.countP StartStep.isMaking + s.life.spawned ≤ s.life.claimed.toNat
  absent : s.life.worker = .absent ↔ s.life.spawned = 0
  fresh : s.life.worker = .absent → s.worker.IsFresh
  awaits : s.worker.kind.mayAwait s.worker.await
  forbidden : ∀ d ∈ s.disposals, d.step ≠ .forbid → s.life.claimed
  /-- Who waits for a worker that lives, or can still do so. -/
  held : s.life.isAlive → s.life.handle ∨ (∃ next ∈ s.starts, next = .publishHandle) ∨
    ∃ d ∈ s.disposals, d.step = .join

variable {s s' : Site}

/-- A start that takes a step counts as making a worker for what it does next. -/
theorem countP_set_starts {n : Nat} {next : StartStep} (hnext : s.starts[n]? = some next)
    (next' : StartStep) : (s.starts.set n next').countP StartStep.isMaking +
      (if next.isMaking then 1 else 0) =
        s.starts.countP StartStep.isMaking + if next'.isMaking then 1 else 0 := by
  obtain ⟨hn, hget⟩ := List.getElem?_eq_some_iff.1 hnext
  have hcount := List.countP_set (p := StartStep.isMaking) (a := next') hn
  have hpos : (if next.isMaking then 1 else 0) ≤ s.starts.countP StartStep.isMaking := by
    split
    · next hmaking =>
      exact List.countP_pos_iff.2 ⟨next, List.mem_of_getElem? hnext, hmaking⟩
    · exact Nat.zero_le _
  rw [hget] at hcount
  omega

/-- While a start is going to make the worker, there is none. -/
theorem Sound.not_made (hs : Sound s) {next : StartStep} (hnext : next ∈ s.starts)
    (hmaking : next.isMaking) : s.life.claimed ∧ s.life.spawned = 0 := by
  have hpos : 0 < s.starts.countP StartStep.isMaking :=
    List.countP_pos_iff.2 ⟨next, hnext, hmaking⟩
  have hmade := hs.made
  cases hclaimed : s.life.claimed with
  | true =>
    rw [hclaimed, Bool.toNat_true] at hmade
    exact ⟨rfl, by omega⟩
  | false =>
    rw [hclaimed, Bool.toNat_false] at hmade
    omega

/-- A start claims the source for itself, so no second worker is ever made. -/
theorem Sound.stepStart (hs : Sound s) {n : Nat} (h : s.step (.stepStart n) = some s') :
    Sound s' := by
  obtain ⟨next, hnext, hne, rfl⟩ := step_stepStart h
  have hmem := List.mem_of_getElem? hnext
  have hcount := countP_set_starts hnext (s.life.stepStart next).1
  have hmade := hs.made
  cases next with
  | claim =>
    refine ⟨?_, hs.absent, hs.fresh, hs.awaits, fun _ _ _ => rfl, fun halive => ?_⟩
    · cases hclaimed : s.life.claimed <;>
        simp_all [Lifecycle.stepStart, StartStep.isMaking]
    · exact (hs.held halive).imp_right (.imp_left fun h => exists_mem_set hnext nofun h _)
  | publishStopper =>
    have hsame : (s.starts.set n .spawn).countP StartStep.isMaking =
        s.starts.countP StartStep.isMaking := Nat.add_right_cancel hcount
    refine ⟨?_, hs.absent, hs.fresh, hs.awaits, hs.forbidden, fun halive => ?_⟩
    · simpa only [Lifecycle.stepStart, hsame] using hmade
    · exact (hs.held halive).imp_right (.imp_left fun h => exists_mem_set hnext nofun h _)
  | spawn =>
    -- This is the one start that makes the worker.
    obtain ⟨hclaimed, hspawned⟩ := hs.not_made hmem rfl
    refine ⟨?_, ?_, fun habsent => ?_, hs.awaits, hs.forbidden, fun _ => .inr (.inl ?_)⟩
    · simp_all [Lifecycle.stepStart, StartStep.isMaking]
    · simp only [Lifecycle.stepStart]
      split <;> simp
    · simp only [Lifecycle.stepStart] at habsent
      split at habsent <;> cases habsent
    · exact ⟨_, List.mem_set (List.getElem?_eq_some_iff.1 hnext).1 _, rfl⟩
  | publishHandle =>
    have hsame : (s.starts.set n .wait).countP StartStep.isMaking =
        s.starts.countP StartStep.isMaking := hcount
    refine ⟨?_, hs.absent, hs.fresh, hs.awaits, hs.forbidden, fun _ => .inl rfl⟩
    simpa only [Lifecycle.stepStart, hsame] using hmade
  | wait => exact absurd rfl hne

/-- A disposal takes what it finds of the worker, and makes none. -/
theorem Sound.stepDispose (hs : Sound s) {n : Nat} (h : s.step (.stepDispose n) = some s') :
    Sound s' := by
  obtain ⟨d, hd, hne, rfl⟩ := step_stepDispose h
  obtain ⟨halive, hspawned, hclaimed, hhandle, hworker⟩ := s.life.stepDispose_keeps d.step
  have hmade := hs.made
  refine ⟨?_, ?_, fun habsent => hs.fresh (hworker.1 habsent), hs.awaits, ?_, ?_⟩
  · rw [hspawned, hclaimed]
    cases hold : s.life.claimed with
    | true => simpa [hold] using hmade
    | false =>
      rw [hold] at hmade
      exact Nat.le_trans hmade (Nat.zero_le _)
  · rw [hspawned, hworker]
    exact hs.absent
  · intro d' hd' hstep'
    rw [hclaimed]
    by_cases hforbid : d.step = .forbid
    · simp [hforbid]
    · rcases List.mem_or_eq_of_mem_set hd' with hold | rfl
      · simp [hs.forbidden d' hold hstep']
      · simp [hs.forbidden d (List.mem_of_getElem? hd) hforbid]
  · intro hlives
    have hlives : s.life.isAlive := by rwa [halive] at hlives
    rcases hs.held hlives with hhas | hstart | hjoin
    · by_cases htake : d.step = .takeHandle
      · refine .inr (.inr ⟨_, List.mem_set (List.getElem?_eq_some_iff.1 hd).1 _, ?_⟩)
        simp [htake, Lifecycle.stepDispose, hhas]
      · exact .inl ((hhandle htake).trans hhas)
    · exact .inr (.inl hstart)
    · -- Who waits for the worker goes on waiting while it lives.
      refine .inr (.inr (exists_mem_set hd (fun hstep => hne ?_) hjoin _))
      rw [hstep]
      simp [Lifecycle.stepDispose, hlives]

theorem Sound.turn (hs : Sound s) {arrival : Option Arrival} {draw : Nat}
    (h : s.step (.turn arrival draw) = some s') : Sound s' := by
  obtain ⟨halive, w, hw, rfl⟩ := step_turn h
  refine ⟨hs.made, hs.absent, fun habsent => ?_, Worker.mayAwait_goOn hw, hs.forbidden, hs.held⟩
  exact absurd halive (Lifecycle.not_isAlive_of_absent habsent)

theorem Sound.act (hs : Sound s) (h : s.step .act = some s') : Sound s' := by
  obtain ⟨halive, act, todo, htodo, rfl⟩ := step_act h
  obtain ⟨outcome, heq⟩ := s.life.note_eq act
  rw [heq]
  refine ⟨hs.made, hs.absent, fun habsent => ?_, hs.awaits, hs.forbidden, hs.held⟩
  exact absurd halive (Lifecycle.not_isAlive_of_absent habsent)

theorem Sound.finish (hs : Sound s) (h : s.step .finish = some s') : Sound s' := by
  obtain ⟨halive, rfl⟩ := step_finish h
  refine ⟨hs.made, ?_, nofun, hs.awaits, hs.forbidden, nofun⟩
  have hspawned : s.life.spawned ≠ 0 := by
    rw [Ne, ← hs.absent]
    exact fun habsent => Lifecycle.not_isAlive_of_absent habsent halive
  simpa [Lifecycle.finish] using hspawned

theorem Sound.step {event : SiteEvent} (hs : Sound s) (h : s.step event = some s') : Sound s' := by
  cases event with
  | stepStart n => exact hs.stepStart h
  | stepDispose n => exact hs.stepDispose h
  | turn arrival draw => exact hs.turn h
  | act => exact hs.act h
  | finish => exact hs.finish h
  | start =>
    cases h
    refine ⟨?_, hs.absent, hs.fresh, hs.awaits, hs.forbidden, fun halive => ?_⟩
    · simpa [List.countP_append, StartStep.isMaking] using hs.made
    · refine (hs.held halive).imp_right (.imp_left ?_)
      rintro ⟨next, hnext, rfl⟩
      exact ⟨_, List.mem_append_left _ hnext, rfl⟩
  | dispose =>
    cases h
    refine ⟨hs.made, hs.absent, hs.fresh, hs.awaits, fun d hd hstep => ?_, fun halive => ?_⟩
    · rcases List.mem_append.1 hd with hold | hnew
      · exact hs.forbidden d hold hstep
      · cases List.mem_singleton.1 hnew
        exact absurd rfl hstep
    · refine (hs.held halive).imp_right (.imp_right ?_)
      rintro ⟨d, hd, hjoin⟩
      exact ⟨d, List.mem_append_left _ hd, hjoin⟩

/-- They are sound in every run. -/
theorem Sound.of_reaches (hs : Sound s) (h : s.Reaches s') : Sound s' := by
  induction h with
  | refl => exact hs
  | tail _ hstep ih =>
    obtain ⟨event, hevent⟩ := hstep
    exact ih.step hevent

/-- A source that was just built has neither worker nor calls. -/
theorem sound_around {w : Worker} (hw : w.IsFresh) : Sound (around w) where
  made := Nat.le_refl 0
  absent := by simp [around]
  fresh _ := hw
  awaits := (congrArg w.kind.mayAwait hw.await).trans hw.kind
  forbidden := List.forall_mem_nil _
  held := nofun

end Site

end LiveFlags
