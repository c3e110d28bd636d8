import LiveFlags.Proofs.Connection.Operation

/-!
# The status after a successful start

A source of the service reports `valid` before its start succeeds, with one exception: a polling
source that is built right after the application has entered the background, with data loaded,
counts as started at once and reports nothing before its first fetch. The status it found stays in
place until then, also if that says that there are no data.

Main statement: `initializing_iff`.
-/

namespace LiveFlags

open Simulation (SourceKind)

/-! ### What workers do to the status -/

/-- The act ends the wait for data: they are there, or there will be none. -/
def Act.isDecisive : Act → Bool
  | deliver (.status (some .valid) _) | deliver (.failure _) => true
  | _ => false

/-- The only states that the act may report are those of a source at work. -/
def Act.IsOrderly (act : Act) : Prop :=
  ∀ state error, act = .deliver (.status state error) →
    state = some .valid ∨ state = some .interrupted

/-- Only a decisive act ends the initialization, and none begins it. -/
theorem Act.IsOrderly.after_eq_initializing {act : Act} (h : act.IsOrderly)
    (state : ConnectionState) :
    act.after state = .initializing ↔ state = .initializing ∧ act.isDecisive = false := by
  cases act with
  | resolve | wait | fetch | subscribe => simp [after, isDecisive]
  | deliver delivery =>
    cases delivery with
    | snapshot | item => simp [after, Delivery.after, isDecisive]
    | failure error => simp [after, Delivery.after, isDecisive]
    | status requested error =>
      rcases h requested error rfl with rfl | rfl
      · simp [after, Delivery.after, isDecisive, Status.reached]
      · -- Nothing is interrupted before there are data.
        by_cases hstate : state = .initializing
        · simp [after, Delivery.after, isDecisive, Status.reached, hstate]
        · simp [after, Delivery.after, isDecisive, Status.reached, hstate]

/-- The initialization lasts until the first decisive act. -/
theorem foldl_after_eq_initializing {acts : List Act} (h : ∀ act ∈ acts, act.IsOrderly)
    (state : ConnectionState) :
    acts.foldl (fun state act => act.after state) state = .initializing ↔
      state = .initializing ∧ ∀ act ∈ acts, act.isDecisive = false := by
  induction acts generalizing state with
  | nil => simp
  | cons act acts ih =>
    obtain ⟨hact, hacts⟩ := List.forall_mem_cons.1 h
    rw [List.foldl_cons, ih hacts, hact.after_eq_initializing, List.forall_mem_cons, and_assoc]

/-- The act reports that data are there and current. -/
def Act.IsValid (act : Act) : Prop :=
  act = .deliver .valid

namespace Turn.Brings

variable {context : SourceContext} {turn : Turn}

/-- Whatever a turn brings, its acts report only the states of a source at work. -/
theorem isOrderly (h : turn.Brings context) : ∀ act ∈ turn.acts, act.IsOrderly := by
  rintro act hact state error rfl
  have hmem := (turn.deliver_mem_acts _).1 hact
  cases h with
  | all snapshot await =>
    simp only [ofSnapshot, Delivery.valid, List.mem_cons, List.not_mem_nil, or_false,
      reduceCtorEq, false_or, Delivery.status.injEq] at hmem
    exact .inl hmem.1
  | theEnd error => simp [stop] at hmem
  | part partly =>
    rcases partly _ hmem with ⟨item, heq⟩ | ⟨error, heq⟩ <;> cases heq
    exact .inr rfl

/-- In no turn does the start succeed before the data are reported as current. -/
theorem announced_valid (h : turn.Brings context) : Announced Act.IsValid turn.acts := by
  cases h with
  | all snapshot await =>
    have hdata : Announced Act.IsValid [.deliver (.snapshot context.identity snapshot)] :=
      .of_ne nofun
    have hvalid : Act.IsValid (.deliver .valid) := rfl
    exact hdata.append (.cons hvalid _)
  | part | theEnd => exact .of_ne (by simp [findSome?_outcome?_acts, stop])

end Turn.Brings

namespace Simulation.SourceKind

/-- Whatever arrives, a source that lets its first fetch wait stays one, and each of its turns
brings data for one identity. -/
theorem follow_brings {kind kind' : SourceKind} {turn : Turn} {arrival : Arrival} {draw : Nat}
    (h : kind.follow arrival draw = some (turn, kind')) :
    kind'.isDelayed = kind.isDelayed ∧ ∃ context, turn.Brings context := by
  cases kind with
  | test | manual => cases h
  | polling p =>
    cases h
    exact ⟨rfl, _, p.follow_brings arrival⟩
  | streaming s =>
    obtain ⟨-, hbrings⟩ := s.follow_brings arrival draw
    cases h
    exact ⟨rfl, _, hbrings⟩

/-- Only a delayed source has started when it has just begun. -/
theorem onStart_brings {kind kind' : SourceKind} {turn : Turn}
    (h : kind.onStart = some (turn, kind')) :
    kind'.isDelayed = kind.isDelayed ∧ turn.deliveries = [] ∧
      (kind.isDelayed = false → turn.outcome = none) := by
  cases kind with
  | test | manual => cases h
  | streaming s =>
    cases h
    exact ⟨rfl, rfl, fun _ => rfl⟩
  | polling p =>
    have hdeliveries : p.start.deliveries = [] := by
      unfold Polling.start
      split <;> rfl
    have houtcome (hnot : (polling p).isDelayed = false) : p.start.outcome = none := by
      unfold Polling.start
      split
      · rfl
      · next hdelay => simp_all [isDelayed]
    cases h
    exact ⟨rfl, hdeliveries, houtcome⟩

/-- A polling source lets its first fetch wait if the background was just entered and has an
interval of its own. -/
theorem isDelayed_polling (o : Options) (context : SourceContext) :
    (polling (.ofOptions o context)).isDelayed =
      (context.justEnteredBackground && o.backgroundPollingInterval ≠ .zero) := by
  rw [Bool.eq_iff_iff]
  simp only [isDelayed, Bool.and_eq_true, decide_eq_true_eq]
  simp only [Polling.ofOptions]
  by_cases hentered : context.justEnteredBackground = true
  · rw [if_pos hentered]
    simp only [SourceContext.justEnteredBackground, Bool.and_eq_true] at hentered ⊢
    rw [if_pos hentered.1.2]
    exact and_congr_left fun _ => iff_of_true hentered.1.1 hentered
  · simp [hentered]

/-- Whether the first fetch waits can be told from the order. -/
theorem isDelayed_ofFactory (order : BuildOrder Options) :
    (ofFactory (.service order.factory) order.context).isDelayed = order.isDelayed := by
  simp only [ofFactory, BuildOrder.isDelayed]
  cases order.factory.mode with
  | polling => simp [isDelayed_polling]
  | streaming =>
    cases hstream : order.factory.streamEvenInBackground with
    | true => simp [isDelayed]
    | false =>
      cases hbackground : order.context.inBackground with
      | true => simp [isDelayed_polling]
      | false => simp [isDelayed, SourceContext.justEnteredBackground, hbackground]

end Simulation.SourceKind

namespace Worker

/-- What holds of the worker of a source, whatever arrives. -/
structure Sound (w : Worker) : Prop where
  isDelayed : w.kind.isDelayed = w.order.isDelayed
  isOrderly : ∀ act ∈ w.done ++ w.todo, act.IsOrderly
  announced : w.order.isDelayed = false → Announced Act.IsValid (w.done ++ w.todo)

theorem sound_ofOrder (order : BuildOrder Options) (found : ConnectionState) :
    (ofOrder order found).Sound where
  isDelayed := SourceKind.isDelayed_ofFactory order
  isOrderly := List.forall_mem_nil _
  announced _ := .of_ne nofun

theorem Sound.goOn {w w' : Worker} (h : w.Sound) {arrival : Option Arrival} {draw : Nat}
    (hgoOn : w.goOn arrival draw = some w') : w'.Sound := by
  obtain ⟨htodo, ⟨turn, kind⟩, rfl, hturn⟩ := goOn_cases hgoOn
  obtain ⟨hdelayed, horderly, hannounced⟩ := h
  rw [htodo, List.append_nil] at horderly hannounced
  have happend (hturn : ∀ act ∈ turn.acts, act.IsOrderly) :
      ∀ act ∈ w.done ++ turn.acts, act.IsOrderly := by
    intro act hact
    exact (List.mem_append.1 hact).elim (horderly act) (hturn act)
  rcases hturn with hstart | ⟨arrival, hfollow⟩
  · -- The first turn delivers nothing, so only its outcome could do harm.
    obtain ⟨hkind, hdeliveries, houtcome⟩ := SourceKind.onStart_brings hstart
    refine ⟨hkind.trans hdelayed, happend ?_, fun hnot => (hannounced hnot).append ?_⟩
    · rintro act hact state error rfl
      have hmem := (turn.deliver_mem_acts _).1 hact
      rw [hdeliveries] at hmem
      cases hmem
    · have hnone : turn.acts.findSome? Act.outcome? = none :=
        turn.findSome?_outcome?_acts.trans (houtcome (hdelayed.trans hnot))
      exact .of_ne (hnone ▸ nofun)
  · obtain ⟨hkind, context, hbrings⟩ := SourceKind.follow_brings hfollow
    exact ⟨hkind.trans hdelayed, happend hbrings.isOrderly,
      fun hnot => (hannounced hnot).append hbrings.announced_valid⟩

theorem Sound.act {w : Worker} (h : w.Sound) {act : Act} {todo : List Act}
    (htodo : w.todo = act :: todo) : { w with todo, done := w.done ++ [act] }.Sound := by
  have hacts : w.done ++ [act] ++ todo = w.done ++ w.todo := by simp [htodo]
  obtain ⟨hdelayed, horderly, hannounced⟩ := h
  refine ⟨hdelayed, ?_, ?_⟩ <;> simp only [hacts]
  · exact horderly
  · exact hannounced

/-- **The status of a source that has started.** -/
theorem Sound.state_eq_initializing {w : Worker} (h : w.Sound) (hstarted : w.outcome? = some true) :
    w.state = .initializing ↔ w.order.isDelayed = true ∧
      (w.found.isOffline = true ∨ w.found = .initializing) ∧
      ∀ act ∈ w.done, act.isDecisive = false := by
  have horderly : ∀ act ∈ w.done, act.IsOrderly := fun act hact =>
    h.isOrderly act (List.mem_append_left _ hact)
  rw [state, foldl_after_eq_initializing horderly]
  have hopening (hdelayed : w.order.isDelayed = true) : w.order.opening w.found = .initializing ↔
      w.found.isOffline = true ∨ w.found = .initializing := by
    -- A delayed source is built for data that are loaded.
    have hinitialized : w.order.context.initialized = true := by
      simp_all [BuildOrder.isDelayed, SourceContext.justEnteredBackground]
    rw [BuildOrder.opening, hinitialized]
    cases w.found.isOffline <;> simp
  constructor
  · rintro ⟨hstate, hwaits⟩
    have hdelayed : w.order.isDelayed = true := by
      cases hnot : w.order.isDelayed with
      | true => rfl
      | false =>
        obtain ⟨act, hact, rfl⟩ := h.announced hnot w.done (List.prefix_append _ _) hstarted
        cases hwaits _ hact
    exact ⟨hdelayed, (hopening hdelayed).1 hstate, hwaits⟩
  · rintro ⟨hdelayed, hfound, hwaits⟩
    exact ⟨(hopening hdelayed).2 hfound, hwaits⟩

end Worker

namespace Operation

variable {σ : Type} {s s' : Operation σ}

/-! ### Every run -/

/-- All workers are sound. -/
def Sound (s : Operation σ) : Prop :=
  ∀ g w, s.worker? g = some w → w.Sound

theorem Sound.withWorker (hs : Sound s) {source : Nat} {w : Worker} (hw : w.Sound) :
    Sound (s.withWorker source w) := by
  intro g w' hg
  by_cases hsource : g = source
  · subst hsource
    cases (s.withWorker_self g w).symm.trans hg
    exact hw
  · exact hs g w' ((s.withWorker_of_ne w hsource).symm.trans hg)

variable [Storage σ]

/-- What goes on in the connection concerns no worker but that of a source that is built. -/
theorem Sound.proceed (hs : Sound s) {e : TrafficEvent Options} (h : s.proceed e = some s') :
    Sound s' := by
  obtain ⟨traffic, -, ⟨-, rfl⟩ | ⟨order, -, rfl⟩⟩ := proceed_cases h
  · exact hs
  · have hs' : Sound { s with traffic } := hs
    exact hs'.withWorker (Worker.sound_ofOrder ..)

theorem Sound.step (hs : Sound s) {e : OperationEvent} (h : s.step e = some s') : Sound s' := by
  cases e with
  | traffic e =>
    simp only [Operation.step] at h
    split at h
    · cases h
    · exact hs.proceed h
  | turn source arrival draw =>
    obtain ⟨w, w', hw, hgoOn, rfl⟩ := step_turn h
    exact hs.withWorker ((hs source w hw).goOn hgoOn)
  | act source =>
    obtain ⟨w, act, todo, s₁, hw, htodo, hperform, rfl⟩ := step_act h
    have hs₁ : Sound s₁ := by
      cases act with
      | deliver delivery => exact hs.proceed hperform
      | resolve | wait | fetch | subscribe =>
        cases hperform
        exact hs
    exact hs₁.withWorker ((hs source w hw).act htodo)
  | report source =>
    obtain ⟨w, succeeded, -, -, hproceed⟩ := step_report h
    exact hs.proceed hproceed

/-- All workers are sound in every run. -/
theorem sound_of_run {c : Connection σ Options} {es : List OperationEvent}
    (h : (around c).run es = some s) : Sound s := by
  have hstart : Sound (around c) := by
    intro g w hg
    cases hg
  exact run_induction hstart (fun _ _ _ hm hstep => hm.step hstep) h

/-- **When the status denies data although the source has started.** The active source has started,
and the status says nevertheless that there are no data yet: this is so exactly when the source was
built while the connection was offline, or had no data, for an application that had just entered the
background with its data loaded, and has neither got data nor failed since. -/
theorem initializing_iff {c : Connection σ Options} (hc : c.IsNew) {es : List OperationEvent}
    (h : (around c).run es = some s) {g : Nat} (hactive : s.traffic.connection.active = some g) :
    ∃ w, s.worker? g = some w ∧ (w.outcome? = some true →
      (s.traffic.connection.status.state = .initializing ↔ w.order.isDelayed = true ∧
        (w.found.isOffline = true ∨ w.found = .initializing) ∧
        ∀ act ∈ w.done, act.isDecisive = false)) := by
  obtain ⟨w, hw, hstate⟩ := (attended_of_run hc h).followed g hactive
  refine ⟨w, hw, fun hstarted => ?_⟩
  rw [hstate]
  exact (sound_of_run h g w hw).state_eq_initializing hstarted

/-! ### Offline and back -/

/-- The options of a client that polls. -/
def pollingOptions : Options :=
  { mobileKey := "mobile-key", mode := .polling }

/-- The connection of such a client, with nothing in its storage. -/
def polled : Connection MemoryStorage Options :=
  .mount pollingOptions { key := "user" } ∅ pollingOptions

/-- A source is built and gets data. -/
def firstPoll : List OperationEvent :=
  [.traffic (.call .start), .traffic (.enter 0), .traffic .cutOff, .traffic .settle,
    .turn 1 none 0, .act 1, .turn 1 (some (.fetched (.ok ∅))) 0, .act 1, .act 1, .act 1, .act 1,
    .report 1, .traffic (.noteStart 1 true)]

/-- The connection is forced offline, and the background is entered before that ends. -/
def offlineAndBack : List OperationEvent :=
  [.traffic (.call (.setForceOffline true)), .traffic (.enter 1), .traffic .cutOff,
    .traffic .dispose, .traffic .settle, .traffic (.call (.setInBackground true)),
    .traffic (.enter 2), .traffic .cutOff, .traffic .settle,
    .traffic (.call (.setForceOffline false)), .traffic (.enter 3), .traffic .cutOff,
    .traffic .settle, .turn 3 none 0, .act 3, .act 3, .report 3, .traffic (.noteStart 3 true)]

/-- The interval passes, and the next fetch brings data. -/
def nextPoll : List OperationEvent :=
  [.turn 3 (some .elapsed) 0, .act 3, .turn 3 (some (.fetched (.ok ∅))) 0, .act 3, .act 3]

/-- The source that was built in the background lets its first fetch wait, and has data after the
next one. -/
theorem not_initializing_nextPoll : ∃ s w,
    (around polled).run (firstPoll ++ offlineAndBack ++ nextPoll) = some s ∧
    s.traffic.connection.active = some 3 ∧ s.worker? 3 = some w ∧ w.outcome? = some true ∧
    w.order.isDelayed = true ∧ w.found = .setOffline ∧
    s.traffic.connection.status.state ≠ .initializing := by
  obtain ⟨s, h, hactive, w, hw, hstarted, hdelayed, hfound, hvalid⟩ : ∃ s,
      (around polled).run (firstPoll ++ offlineAndBack ++ nextPoll) = some s ∧
      s.traffic.connection.active = some 3 ∧ ∃ w, s.worker? 3 = some w ∧
      w.outcome? = some true ∧ w.order.isDelayed = true ∧ w.found = .setOffline ∧
      w.done.getLast? = some (.deliver .valid) :=
    ⟨_, rfl, rfl, _, rfl, rfl, rfl, rfl, rfl⟩
  obtain ⟨w', hw', hiff⟩ := initializing_iff (Connection.isNew_mount ..) h hactive
  cases hw.symm.trans hw'
  refine ⟨s, w, h, hactive, hw, hstarted, hdelayed, hfound, fun hstate => ?_⟩
  obtain ⟨-, -, hwaits⟩ := (hiff hstarted).1 hstate
  cases hwaits _ (List.mem_of_getLast? hvalid)

/-- Before that the status says that there are no data, although the source has started, no call is
on its way and the worker only waits for its delay to pass. -/
theorem exists_initializing : ∃ s w, (around polled).run (firstPoll ++ offlineAndBack) = some s ∧
    s.traffic.AtRest ∧ s.traffic.starts = [] ∧ s.traffic.connection.active = some 3 ∧
    s.worker? 3 = some w ∧ w.todo = [] ∧
    w.await = some (.timer pollingOptions.backgroundPollingInterval) ∧ w.outcome? = some true ∧
    s.traffic.connection.status.state = .initializing :=
  ⟨_, _, rfl, ⟨rfl, rfl⟩, rfl, rfl, rfl, rfl, rfl, rfl, rfl⟩

end Operation

end LiveFlags
