import LiveFlags.Proofs.Connection.SingleSource
import LiveFlags.Proofs.Source.Worker
import LiveFlags.Simulation.Source

/-!
# A connection and the workers of its sources

`Operation` puts the traffic around a connection together with the workers of the sources that the
service's own factory builds. A worker takes one turn after the other: the first one when it begins,
and each further one when what it waits for has arrived. It goes through its turn act by act, and
anything else may happen between two of them. What it delivers then is a delivery of the traffic,
and the outcome of its start is reported once it is decided. A source that was disposed of may go on
for ever; its deliveries do not count.

`Attended` is the invariant: the state of the status is that in which the active source was built,
moved on by what its worker has delivered since.
-/

namespace LiveFlags

/-! ### Workers -/

namespace Simulation.SourceKind

/-- The turn of a worker after an arrival. -/
def follow (kind : SourceKind) (arrival : Arrival) (draw : Nat) : Option (Turn × SourceKind) :=
  kind.turn (·.follow arrival) (·.follow arrival draw)

/-- The source lets its first fetch wait, and counts as started until then. -/
def isDelayed : SourceKind → Bool
  | polling p => p.context.initialized && p.initialDelay ≠ .zero
  | _ => false

end Simulation.SourceKind

/-- The application has just entered the background with its data loaded, and the source to build is
one that lets its first fetch wait then. -/
def BuildOrder.isDelayed (order : BuildOrder Options) : Bool :=
  order.context.justEnteredBackground &&
    (order.factory.mode = .polling || !order.factory.streamEvenInBackground) &&
    order.factory.backgroundPollingInterval ≠ .zero

/-- The worker waits for an arrival of this kind. -/
def Await.expects : Await → Arrival → Bool
  | timer _, .elapsed => true
  | fetch, .fetched _ => true
  | subscription, .subscribed _ => true
  | event, .event _ | event, .ended => true
  | _, _ => false

/-- The worker of a source. -/
structure Worker where
  order : BuildOrder Options
  /-- The state that the connection was in when the source was built. -/
  found : ConnectionState
  kind : Simulation.SourceKind
  /-- What the worker waits for after its turn; none before the first one. -/
  await : Option Await := none
  /-- What is left to do of the turn. -/
  todo : List Act := []
  /-- What was done so far. -/
  done : List Act := []

namespace Worker

/-- The worker of a source that is built to an order. -/
def ofOrder (order : BuildOrder Options) (found : ConnectionState) : Worker :=
  { order, found, kind := .ofFactory (.service order.factory) order.context }

/-- The worker begins a turn. -/
def take (w : Worker) (turn : Turn × Simulation.SourceKind) : Worker :=
  { w with kind := turn.2, await := some turn.1.await, todo := turn.1.acts }

/-- The worker goes on when its turn is over: it begins, or what it waits for arrives. -/
def goOn (w : Worker) (arrival : Option Arrival) (draw : Nat) : Option Worker :=
  match w.todo, w.await, arrival with
  | [], none, none => w.kind.onStart.map w.take
  | [], some await, some arrival =>
    if await.expects arrival then (w.kind.follow arrival draw).map w.take else none
  | _, _, _ => none

/-- The outcome of the start. -/
def outcome? (w : Worker) : Option Bool :=
  w.done.findSome? Act.outcome?

end Worker

/-! ### Operation -/

/-- A connection with its traffic, and the workers of its sources. -/
structure Operation (σ : Type) where
  traffic : Traffic σ Options
  /-- The worker of the source of each generation. -/
  worker? : Nat → Option Worker

/-- What happens around a connection that the service's factory builds sources for. -/
inductive OperationEvent where
  /-- Anything but what sources do. -/
  | traffic (event : TrafficEvent Options)
  /-- A worker begins its first turn, or the one after an arrival. -/
  | turn (source : Nat) (arrival : Option Arrival) (draw : Nat)
  /-- A worker does what is next in its turn. -/
  | act (source : Nat)
  /-- The start of a source is found to be decided. -/
  | report (source : Nat)

/-- The event is up to the sources. -/
def TrafficEvent.isOfSource {φ : Type} : TrafficEvent φ → Bool
  | .deliver .. | .checkStart .. => true
  | _ => false

/-- The order that an event carries out. -/
def Traffic.order? {σ φ : Type} (s : Traffic σ φ) : TrafficEvent φ → Option (BuildOrder φ)
  | .settle => s.occupant.bind fun o => (s.connection.settle o.plan).1
  | _ => none

namespace Operation

variable {σ : Type}

/-- Before the first call there are no sources. -/
def around (c : Connection σ Options) : Operation σ :=
  { traffic := .around c, worker? := fun _ => none }

def withWorker (s : Operation σ) (source : Nat) (w : Worker) : Operation σ :=
  { s with worker? := fun g => if g = source then some w else s.worker? g }

variable [Storage σ]

/-- A source that is built gets a worker. -/
def proceed (s : Operation σ) (event : TrafficEvent Options) : Option (Operation σ) :=
  (s.traffic.step event).map fun traffic =>
    match s.traffic.order? event with
    | some order =>
      { s with traffic }.withWorker order.generation
        (.ofOrder order s.traffic.connection.status.state)
    | none => { s with traffic }

/-- A worker delivers; what else it does is not the connection's business. -/
def perform (s : Operation σ) (source : Nat) : Act → Option (Operation σ)
  | .deliver delivery => s.proceed (.deliver source delivery)
  | _ => some s

/-- What an event leads to, if it can happen. -/
def step (s : Operation σ) : OperationEvent → Option (Operation σ)
  | .traffic event => if event.isOfSource then none else s.proceed event
  | .turn source arrival draw =>
    ((s.worker? source).bind (·.goOn arrival draw)).map (s.withWorker source)
  | .act source =>
    match s.worker? source with
    | some w =>
      match w.todo with
      | act :: todo =>
        (s.perform source act).map
          (·.withWorker source { w with todo, done := w.done ++ [act] })
      | [] => none
    | none => none
  | .report source =>
    ((s.worker? source).bind (·.outcome?)).bind fun succeeded =>
      s.proceed (.checkStart source succeeded)

/-- Follows events in order. -/
def run (s : Operation σ) (events : List OperationEvent) : Option (Operation σ) :=
  events.foldlM step s

end Operation

/-! ### What a worker tells the connection -/

/-- The state that a delivery of the current source leads to. -/
def Delivery.after (delivery : Delivery) (state : ConnectionState) : ConnectionState :=
  match delivery with
  | status (some requested) _ => ({ state } : Status).reached requested
  | failure _ => .shutdown
  | _ => state

def Act.after (act : Act) (state : ConnectionState) : ConnectionState :=
  match act with
  | deliver delivery => delivery.after state
  | _ => state

/-- What is delivered decides on the state, whatever else the connection is about. -/
theorem Connection.accept_state {σ φ : Type} [Storage σ] (c : Connection σ φ)
    (delivery : Delivery) : (c.accept delivery).status.state = delivery.after c.status.state := by
  cases hstep : delivery.dataStep? with
  | some step =>
    obtain ⟨status, clock, heq, hstate⟩ := c.accept_data_eq hstep
    rw [heq]
    cases delivery with
    | snapshot | item => exact hstate
    | status | failure => cases hstep
  | none =>
    cases delivery with
    | snapshot | item => cases hstep
    | failure error =>
      simp [accept, onShutDown, finishStart, updateStatus, Status.reached, Delivery.after]
    | status requested error =>
      simp only [accept, updateStatus, StatusTracker.update_state]
      cases requested <;> rfl

/-- The state that the connection is in when a source has been built. -/
def BuildOrder.opening {φ : Type} (order : BuildOrder φ) (found : ConnectionState) :
    ConnectionState :=
  if order.context.initialized && !found.isOffline then found else .initializing

/-- The state that the worker has led the connection to. -/
def Worker.state (w : Worker) : ConnectionState :=
  w.done.foldl (fun state act => act.after state) (w.order.opening w.found)

theorem Connection.build_state {σ φ : Type} (c : Connection σ φ) :
    c.build.2.status.state = c.build.1.opening c.status.state := by
  have hne : ConnectionState.initializing ≠ .interrupted := nofun
  simp only [build, BuildOrder.opening, sourceContext]
  cases c.flags.initialized with
  | false => exact setState_state _ hne
  | true =>
    cases c.status.state.isOffline with
    | true => exact setState_state _ hne
    | false => rfl

namespace Traffic

variable {σ φ : Type} [Storage σ] {s s' : Traffic σ φ} {e : TrafficEvent φ}

omit [Storage σ] in
/-- A source is ordered when a plan is settled that wants one. -/
theorem order?_settle {call : Nat} {plan : Plan} {progress : Progress}
    (ho : s.occupant = some ⟨call, plan, progress⟩) :
    s.order? .settle = (s.connection.settle plan).1 := by
  simp [order?, ho]

/-- While a source is active, the state of the status is left to it. -/
theorem Guarded.step_idle (hs : Guarded s) (h : s.step e = some s')
    (hdeliver : ∀ source delivery, e ≠ .deliver source delivery) (hnone : s.order? e = none) :
    s'.connection.active = none ∨ (s'.connection.active = s.connection.active ∧
      s'.connection.status.state = s.connection.status.state) := by
  cases e with
  | deliver source delivery => exact absurd rfl (hdeliver source delivery)
  | call call =>
    cases h
    obtain ⟨flags, factory, heq⟩ := s.connection.announce_control call
    have hconnection : (s.announce call).connection = { s.connection with flags, factory } := heq
    rw [hconnection]
    exact .inr ⟨rfl, rfl⟩
  | enter call =>
    obtain ⟨-, critical, -, rfl⟩ := step_enter h
    exact .inr ⟨rfl, rfl⟩
  | cutOff =>
    obtain ⟨call, plan, -, rfl⟩ := step_cutOff h
    obtain ⟨generation, progress, sources, heq, -⟩ := s.cutOff_eq call plan
    rw [heq]
    exact .inl rfl
  | dispose =>
    obtain ⟨call, plan, source, -, rfl⟩ := step_dispose h
    exact .inr ⟨rfl, rfl⟩
  | settle =>
    obtain ⟨call, plan, ho, rfl⟩ := step_settle h
    rcases s.connection.settle_cases plan with ⟨-, heq⟩ | ⟨-, status, clock, outcome, heq, -⟩
    · rw [order?_settle ho, heq] at hnone
      cases hnone
    · -- The source was cut off before, and none is built.
      refine .inl ?_
      simp only [Traffic.settle, heq, hs.active_of_cleared ho]
  | switch identity =>
    obtain ⟨status, clock, rfl, hstate⟩ := step_switch h
    exact .inr ⟨rfl, hstate⟩
  | checkStart source succeeded =>
    obtain ⟨starts, rfl⟩ := step_checkStart h
    exact .inr ⟨rfl, rfl⟩
  | noteStart source succeeded =>
    obtain ⟨initialized, outcome, starts, rfl⟩ := step_noteStart h
    exact .inr ⟨rfl, rfl⟩

/-- A source that is built is the active one, and the order says which state it begins with. -/
theorem step_build {order : BuildOrder φ} (h : s.step e = some s')
    (horder : s.order? e = some order) : s'.connection.active = some order.generation ∧
      s'.connection.status.state = order.opening s.connection.status.state := by
  cases e with
  | call | enter | cutOff | dispose | switch | deliver | checkStart | noteStart => cases horder
  | settle =>
    obtain ⟨call, plan, ho, rfl⟩ := step_settle h
    rw [order?_settle ho] at horder
    rcases s.connection.settle_cases plan with ⟨-, heq⟩ | ⟨-, status, clock, outcome, heq, -⟩
    · rw [heq] at horder
      cases horder
      obtain ⟨hbuilt, status, clock, outcome, heq', -⟩ := s.connection.build_eq
      refine ⟨?_, ?_⟩
      · simp only [settle, heq, heq', hbuilt]
      · simp only [settle, heq, s.connection.build_state]
    · rw [heq] at horder
      cases horder

end Traffic

/-! ### Inversion of steps -/

/-- A worker that goes on has done all of its turn, and begins another one. -/
theorem Worker.goOn_cases {w w' : Worker} {arrival : Option Arrival} {draw : Nat}
    (h : w.goOn arrival draw = some w') : w.todo = [] ∧ ∃ turn, w' = w.take turn ∧
      (w.kind.onStart = some turn ∨ ∃ arrival, w.kind.follow arrival draw = some turn) := by
  unfold goOn at h
  split at h
  · next htodo _ =>
    obtain ⟨turn, hturn, rfl⟩ := Option.map_eq_some_iff.1 h
    exact ⟨htodo, turn, rfl, .inl hturn⟩
  · next await arrival htodo _ =>
    split at h
    · obtain ⟨turn, hturn, rfl⟩ := Option.map_eq_some_iff.1 h
      exact ⟨htodo, turn, rfl, .inr ⟨arrival, hturn⟩⟩
    · cases h
  · cases h

namespace Operation

variable {σ : Type} {s s' : Operation σ}

@[simp]
theorem withWorker_self (s : Operation σ) (source : Nat) (w : Worker) :
    (s.withWorker source w).worker? source = some w :=
  if_pos rfl

theorem withWorker_of_ne (s : Operation σ) {source g : Nat} (w : Worker) (h : g ≠ source) :
    (s.withWorker source w).worker? g = s.worker? g :=
  if_neg h

variable [Storage σ]

/-- A worker carries out the next of its acts, and notes that it has. -/
theorem step_act {source : Nat} (h : s.step (.act source) = some s') :
    ∃ w act todo s₁, s.worker? source = some w ∧ w.todo = act :: todo ∧
      s.perform source act = some s₁ ∧
      s' = s₁.withWorker source { w with todo, done := w.done ++ [act] } := by
  simp only [step] at h
  split at h
  · next w hw =>
    split at h
    · next act todo htodo =>
      obtain ⟨s₁, hperform, rfl⟩ := Option.map_eq_some_iff.1 h
      exact ⟨w, act, todo, s₁, hw, htodo, hperform, rfl⟩
    · cases h
  · cases h

/-- A worker goes on when all is done and what it waits for arrives. -/
theorem step_turn {source draw : Nat} {arrival : Option Arrival}
    (h : s.step (.turn source arrival draw) = some s') :
    ∃ w w', s.worker? source = some w ∧ w.goOn arrival draw = some w' ∧
      s' = s.withWorker source w' := by
  obtain ⟨w', hw', rfl⟩ := Option.map_eq_some_iff.1 h
  obtain ⟨w, hw, hgoOn⟩ := Option.bind_eq_some_iff.1 hw'
  exact ⟨w, w', hw, hgoOn, rfl⟩

theorem step_report {source : Nat} (h : s.step (.report source) = some s') :
    ∃ w succeeded, s.worker? source = some w ∧ w.outcome? = some succeeded ∧
      s.proceed (.checkStart source succeeded) = some s' := by
  obtain ⟨succeeded, houtcome, hproceed⟩ := Option.bind_eq_some_iff.1 h
  obtain ⟨w, hw, houtcome⟩ := Option.bind_eq_some_iff.1 houtcome
  exact ⟨w, succeeded, hw, houtcome, hproceed⟩

/-- What happens beside the workers adds the worker of a source that is built. -/
theorem proceed_cases {e : TrafficEvent Options} (h : s.proceed e = some s') :
    ∃ traffic, s.traffic.step e = some traffic ∧
      ((s.traffic.order? e = none ∧ s' = { s with traffic }) ∨
        ∃ order, s.traffic.order? e = some order ∧
          s' = { s with traffic }.withWorker order.generation
            (.ofOrder order s.traffic.connection.status.state)) := by
  obtain ⟨traffic, hstep, rfl⟩ := Option.map_eq_some_iff.1 h
  refine ⟨traffic, hstep, ?_⟩
  cases horder : s.traffic.order? e with
  | none => exact .inl ⟨rfl, rfl⟩
  | some order => exact .inr ⟨order, rfl, rfl⟩

/-! ### The active source and the status -/

/-- The active source has a worker, and the state of the status is what that has led to. -/
structure Attended (s : Operation σ) : Prop where
  guarded : s.traffic.Guarded
  followed : ∀ g, s.traffic.connection.active = some g →
    ∃ w, s.worker? g = some w ∧ s.traffic.connection.status.state = w.state

omit [Storage σ] in
theorem attended_around {c : Connection σ Options} (hc : c.IsNew) : Attended (around c) where
  guarded := Traffic.guarded_around hc
  followed := by simp [around, Traffic.around, hc.active]

/-- What goes on in the connection, deliveries apart, leaves workers and state in line. -/
theorem Attended.proceed (hs : Attended s) {e : TrafficEvent Options}
    (hdeliver : ∀ source delivery, e ≠ .deliver source delivery) (h : s.proceed e = some s') :
    Attended s' := by
  obtain ⟨traffic, hstep, hresult⟩ := proceed_cases h
  have hguarded := hs.guarded.step hstep
  rcases hresult with ⟨hnone, rfl⟩ | ⟨order, horder, rfl⟩
  · refine ⟨hguarded, fun g hg => ?_⟩
    rcases hs.guarded.step_idle hstep hdeliver hnone with hcut | ⟨hactive, hstate⟩
    · cases hcut.symm.trans hg
    · obtain ⟨w, hw, hfollowed⟩ := hs.followed g (hactive.symm.trans hg)
      exact ⟨w, hw, hstate.trans hfollowed⟩
  · -- The source that is built here is the active one, and its worker has done nothing yet.
    obtain ⟨hactive, hstate⟩ := Traffic.step_build hstep horder
    refine ⟨hguarded, fun g hg => ?_⟩
    cases hactive.symm.trans hg
    exact ⟨_, withWorker_self .., hstate⟩

omit [Storage σ] in
/-- A worker that another takes the place of has led the connection to the same state. -/
theorem Attended.withWorker (hs : Attended s) {source : Nat} {w w' : Worker}
    (hw : s.worker? source = some w) (hstate : w'.state = w.state) :
    Attended (s.withWorker source w') where
  guarded := hs.guarded
  followed g hg := by
    obtain ⟨w₁, hw₁, hfollowed⟩ := hs.followed g hg
    by_cases hsource : g = source
    · subst hsource
      cases hw.symm.trans hw₁
      exact ⟨w', withWorker_self .., hfollowed.trans hstate.symm⟩
    · exact ⟨w₁, (s.withWorker_of_ne w' hsource).trans hw₁, hfollowed⟩

/-- A delivery changes the state as it does the one that the worker counts with. -/
theorem Attended.deliver (hs : Attended s) {source : Nat} {delivery : Delivery}
    {s₁ : Operation σ} (h : s.proceed (.deliver source delivery) = some s₁) {w w' : Worker}
    (hw : s.worker? source = some w) (hstate : w'.state = delivery.after w.state) :
    Attended (s₁.withWorker source w') := by
  obtain ⟨traffic, hstep, ⟨-, rfl⟩ | ⟨order, horder, -⟩⟩ := proceed_cases h
  · have hguarded := hs.guarded.step hstep
    obtain ⟨hmem, rfl⟩ := Traffic.step_deliver hstep
    refine ⟨hguarded, fun g hg => ?_⟩
    by_cases hactive : s.traffic.connection.active = some source
    · -- The delivery counts, and its worker is the one that the status follows.
      have hdeliver := (hs.guarded.deliver_eq hmem delivery).trans (if_pos hactive)
      obtain ⟨w₁, hw₁, hfollowed⟩ := hs.followed source hactive
      cases hw.symm.trans hw₁
      obtain ⟨hkeeps, -⟩ := s.traffic.connection.accept_control delivery
      have hsource : g = source := by
        have hg' : (s.traffic.connection.deliver source delivery).active = some g := hg
        rw [hdeliver, hkeeps, hactive] at hg'
        exact (Option.some.inj hg').symm
      subst hsource
      refine ⟨w', withWorker_self .., ?_⟩
      calc (s.traffic.connection.deliver g delivery).status.state
        _ = delivery.after s.traffic.connection.status.state := by
          rw [hdeliver, s.traffic.connection.accept_state]
        _ = w'.state := by rw [hfollowed, hstate]
    · -- A source that is not active any more delivers in vain.
      have hdeliver := (hs.guarded.deliver_eq hmem delivery).trans (if_neg hactive)
      have hg' : s.traffic.connection.active = some g := by
        rw [← hdeliver]
        exact hg
      have hsource : g ≠ source := by
        rintro rfl
        exact hactive hg'
      obtain ⟨w₁, hw₁, hfollowed⟩ := hs.followed g hg'
      refine ⟨w₁, (withWorker_of_ne _ w' hsource).trans hw₁, ?_⟩
      exact (congrArg (·.status.state) hdeliver).trans hfollowed
  · cases horder

omit [Storage σ] in
theorem state_concat (w : Worker) (act : Act) (todo : List Act) :
    { w with todo, done := w.done ++ [act] }.state = act.after w.state := by
  simp [Worker.state]

theorem Attended.step (hs : Attended s) {e : OperationEvent} (h : s.step e = some s') :
    Attended s' := by
  cases e with
  | traffic e =>
    simp only [Operation.step] at h
    split at h
    · cases h
    · next hsource =>
      refine hs.proceed (fun source delivery he => ?_) h
      subst he
      exact hsource rfl
  | turn source arrival draw =>
    obtain ⟨w, w', hw, hgoOn, rfl⟩ := step_turn h
    obtain ⟨-, turn, rfl, -⟩ := Worker.goOn_cases hgoOn
    exact hs.withWorker hw rfl
  | act source =>
    obtain ⟨w, act, todo, s₁, hw, -, hperform, rfl⟩ := step_act h
    have hstate := state_concat w act todo
    cases act with
    | deliver delivery => exact hs.deliver hperform hw hstate
    | resolve | wait | fetch | subscribe =>
      cases hperform
      exact hs.withWorker hw hstate
  | report source =>
    obtain ⟨w, succeeded, -, -, hproceed⟩ := step_report h
    refine hs.proceed (fun source delivery he => ?_) hproceed
    cases he

/-- What each event keeps, a run keeps. -/
theorem run_induction {motive : Operation σ → Prop} (start : motive s)
    (next : ∀ e s₁ s₂, motive s₁ → s₁.step e = some s₂ → motive s₂) {es : List OperationEvent}
    (h : s.run es = some s') : motive s' :=
  History.foldlM_induction (motive := fun _ => motive) start
    (fun _ e s₁ s₂ _ => next e s₁ s₂) h

/-- The state is that of the active worker in every run. -/
theorem attended_of_run {c : Connection σ Options} (hc : c.IsNew) {es : List OperationEvent}
    (h : (around c).run es = some s) : Attended s :=
  run_induction (attended_around hc) (fun _ _ _ hm hstep => hm.step hstep) h

end Operation

end LiveFlags
