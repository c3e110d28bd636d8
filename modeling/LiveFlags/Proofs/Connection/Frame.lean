import LiveFlags.Connection.Basic
import LiveFlags.Client
import LiveFlags.Storage.Memory
import LiveFlags.Proofs.FlagData.Steps
import LiveFlags.Proofs.Status

/-!
# What the steps of a connection leave alone

A connection has a part that decides about sources (its flags, the active source and the
generation) and a part that only records (the data, the status and the clock). The lemmas below say
for each step which fields it writes, so that later proofs do not open the steps again.

`Connection.IsNew` holds of a connection that nothing has happened to, as a client makes it.
-/

namespace LiveFlags.Connection

variable {σ φ : Type}

/-! ### Steps that only record -/

/-- A list of errors goes into the status and moves the clock; the state of the status stays. -/
theorem foldl_updateStatus_error (errors : List SourceError) (c : Connection σ φ) :
    ∃ status clock, errors.foldl (fun c e => c.updateStatus none (some e)) c =
      { c with status, clock } ∧ status.state = c.status.state := by
  induction errors generalizing c with
  | nil => exact ⟨c.status, c.clock, rfl, rfl⟩
  | cons e errors ih =>
    obtain ⟨status, clock, h, hstate⟩ := ih (c.updateStatus none (some e))
    exact ⟨status, clock, h, hstate⟩

theorem reportFailures_eq (c : Connection σ φ) :
    ∃ status clock, c.reportFailures = { c with data := c.data.collected, status, clock } ∧
      status.state = c.status.state :=
  foldl_updateStatus_error _ { c with data := c.data.collected }

theorem withData_eq (c : Connection σ φ) (data : FlagData σ) :
    ∃ status clock, c.withData data = { c with data := data.collected, status, clock } ∧
      status.state = c.status.state :=
  reportFailures_eq { c with data, clock := c.clock + 1 }

section Data

variable [Storage σ]

/-- Another identity changes the data, and neither the state nor the source. -/
theorem switchData_eq (c : Connection σ φ) (identity : Identity) :
    ∃ status clock, (c.switchData identity).2 =
      { c with data := c.data.take (.switch identity, c.nextReading), status, clock } ∧
      status.state = c.status.state :=
  withData_eq c (c.data.switch identity c.nextReading).2

/-- A delivery of data writes the data and nothing that decides about sources. -/
theorem accept_data_eq (c : Connection σ φ) {delivery : Delivery} {step : DataStep}
    (h : delivery.dataStep? = some step) :
    ∃ status clock, c.accept delivery =
      { c with data := c.data.take (step, c.nextReading), status, clock } ∧
      status.state = c.status.state := by
  cases delivery <;> cases h
  · exact withData_eq ..
  · exact withData_eq ..

/-- A delivery that is no data leaves the data alone. -/
theorem accept_data_of_none (c : Connection σ φ) {delivery : Delivery}
    (h : delivery.dataStep? = none) : (c.accept delivery).data = c.data := by
  cases delivery with
  | snapshot | item => cases h
  | status | failure => rfl

end Data

/-! ### Fields under a delivery -/

section Deliver

variable [Storage σ] (c : Connection σ φ) (delivery : Delivery)

/-- What a delivery can do to the part that decides about sources: a failure ends the building of
sources, and nothing else happens there. -/
theorem accept_control :
    (c.accept delivery).active = c.active ∧ (c.accept delivery).generation = c.generation ∧
      (c.accept delivery).disableBackgroundUpdating = c.disableBackgroundUpdating ∧
      (c.accept delivery).data.identity = c.data.identity ∧
      ∃ shutDown, (c.accept delivery).flags = { c.flags with shutDown } ∧
        (c.flags.shutDown = true → shutDown = true) := by
  cases hstep : delivery.dataStep? with
  | some step =>
    obtain ⟨status, clock, h, -⟩ := c.accept_data_eq hstep
    rw [h]
    exact ⟨rfl, rfl, rfl, c.data.take_identity hstep _, _, rfl, id⟩
  | none =>
    cases delivery with
    | snapshot | item => cases hstep
    | status => exact ⟨rfl, rfl, rfl, rfl, _, rfl, id⟩
    | failure => exact ⟨rfl, rfl, rfl, rfl, true, rfl, fun _ => rfl⟩

/-- A source that reports no offline state, and does not fail, keeps the status from being
offline. -/
theorem accept_online {c : Connection σ φ} {delivery : Delivery}
    (hshut : (c.accept delivery).flags.shutDown = false)
    (honline : c.status.state.isOffline = false)
    (hreport : ∀ state error, delivery = .status (some state) error → state.isOffline = false) :
    (c.accept delivery).status.state.isOffline = false := by
  cases hstep : delivery.dataStep? with
  | some step =>
    obtain ⟨status, clock, h, hstatus⟩ := c.accept_data_eq hstep
    rw [h]
    exact hstatus ▸ honline
  | none =>
    cases delivery with
    | snapshot | item => cases hstep
    | failure => cases hshut
    | status state error =>
      simp only [accept, updateStatus, StatusTracker.update_state]
      cases state with
      | none => exact honline
      | some state => exact Status.reached_isOffline _ (hreport state error rfl)

end Deliver

/-- A noted start only marks the data as there and decides the attempt to start. -/
theorem acceptStart_eq (c : Connection σ φ) (succeeded : Bool) :
    c.acceptStart succeeded = { c with
      flags := { c.flags with initialized := c.flags.initialized || succeeded }
      startOutcome := c.startOutcome.or (some succeeded) } := by
  cases succeeded <;> simp [acceptStart, markInitialized, finishStart]

/-! ### Steps of a call -/

/-- A connection that enters a state by itself is in that state afterwards. -/
theorem setState_state (c : Connection σ φ) {state : ConnectionState} (h : state ≠ .interrupted) :
    (c.setState state).status.state = state := by
  simp [setState, updateStatus, Status.reached_of_ne _ h]

/-- A call changes nothing but the flags and the factory. -/
theorem announce_control (c : Connection σ φ) (call : ConnectionCall φ) :
    ∃ flags factory, (c.announce call).2 = { c with flags, factory } := by
  cases call <;> simp only [announce] <;> (try split) <;> exact ⟨_, _, rfl⟩

/-- A call changes nothing and ends at once, or wants the source in line with its flags, or closes
the connection. If it does not ask for a rebuild, the source would be built for the same
background. -/
theorem announce_cases (c : Connection σ φ) (call : ConnectionCall φ) :
    (c.announce call = (none, c) ∧ ∀ factory reset, call ≠ .reconfigure factory reset) ∨
      (∃ rebuild, (c.announce call).1 = some (.update rebuild) ∧
        (c.announce call).2.flags.closed = c.flags.closed ∧
        (c.announce call).2.flags.shutDown = c.flags.shutDown ∧
        (c.flags.started = true → (c.announce call).2.flags.started = true) ∧
        (rebuild = false → (c.announce call).2.flags.inBackground = c.flags.inBackground ∧
          ∀ factory reset, call ≠ .reconfigure factory reset)) ∨
      c.announce call = (some .close, { c with flags := { c.flags with closed := true } }) := by
  cases call with
  | start =>
    simp only [announce]
    split
    · exact .inl ⟨rfl, nofun⟩
    · exact .inr (.inl ⟨false, rfl, rfl, rfl, fun _ => rfl, fun _ => ⟨rfl, nofun⟩⟩)
  | setForceOffline offline | setNetworkEnabled offline =>
    simp only [announce]
    split
    · exact .inl ⟨rfl, nofun⟩
    · exact .inr (.inl ⟨false, rfl, rfl, rfl, id, fun _ => ⟨rfl, nofun⟩⟩)
  | setInBackground inBackground =>
    simp only [announce]
    split
    · exact .inl ⟨rfl, nofun⟩
    · exact .inr (.inl ⟨true, rfl, rfl, rfl, id, nofun⟩)
  | reconfigure factory reset => exact .inr (.inl ⟨true, rfl, rfl, rfl, id, nofun⟩)
  | close =>
    simp only [announce]
    split
    · exact .inl ⟨rfl, nofun⟩
    · exact .inr (.inr rfl)

/-- The end of the active source leaves no source active, and no generation current that was ever
given to a source. -/
theorem cutOff_eq (c : Connection σ φ) {source : Nat} (h : c.active = some source) :
    c.cutOff.2 = { c with active := none, generation := c.generation + 1 } := by
  simp only [cutOff, h]

/-- Building a source makes it the active one, with a generation of its own. The status is not
offline after that. -/
theorem build_eq (c : Connection σ φ) :
    c.build.1 = ⟨c.factory, c.generation + 1, c.sourceContext⟩ ∧
      ∃ status clock startOutcome, c.build.2 =
        { c with
          flags := { c.flags with previouslyInBackground := c.flags.inBackground }
          generation := c.generation + 1
          active := some (c.generation + 1)
          startOutcome, status, clock } ∧ status.state.isOffline = false := by
  refine ⟨rfl, ?_⟩
  simp only [build]
  split
  · refine ⟨_, _, _, rfl, ?_⟩
    rw [StatusTracker.update_state]
    exact Status.reached_isOffline _ rfl
  · next h =>
    simp only [Bool.or_eq_true, Bool.not_eq_true', not_or, Bool.not_eq_true] at h
    exact ⟨_, _, _, rfl, h.2⟩

/-- What the rest of a plan does to a connection without an active source: it has one afterwards
only if the plan was to replace it. -/
theorem settle_cases (c : Connection σ φ) (plan : Plan) :
    (plan = .replace ∧ c.settle plan = (some c.build.1, c.build.2)) ∨
      (plan ≠ .replace ∧ ∃ status clock startOutcome,
        c.settle plan = (none, { c with status, clock, startOutcome }) ∧
        ∀ state, plan = .goOffline state → state ≠ .interrupted → status.state = state) := by
  cases plan with
  | stay => exact .inr ⟨nofun, _, _, _, rfl, nofun⟩
  | goOffline state =>
    refine .inr ⟨nofun, _, _, _, rfl, ?_⟩
    rintro _ ⟨⟩ hstate
    exact c.setState_state hstate
  | replace => exact .inl ⟨rfl, rfl⟩
  | close => exact .inr ⟨nofun, _, _, _, rfl, nofun⟩

/-! ### A new connection -/

/-- Nothing has happened to the connection yet. Its data, its status and its factory may be any. -/
structure IsNew (c : Connection σ φ) : Prop where
  flags : c.flags = { forceOffline := c.flags.forceOffline }
  active : c.active = none
  generation : c.generation = 0
  startOutcome : c.startOutcome = none

theorem IsNew.reportFailures {c : Connection σ φ} (h : c.IsNew) : c.reportFailures.IsNew := by
  obtain ⟨status, clock, heq, -⟩ := c.reportFailures_eq
  rw [heq]
  exact ⟨h.flags, h.active, h.generation, h.startOutcome⟩

/-- A client begins with a new connection. -/
theorem isNew_mount [Storage σ] (o : Options) (identity : Identity) (storage : σ) (factory : φ) :
    (mount o identity storage factory).IsNew :=
  IsNew.reportFailures ⟨rfl, rfl, rfl, rfl⟩

/-- The connection of a client with the usual options and nothing in its storage. -/
def plain : Connection MemoryStorage Unit :=
  mount { mobileKey := "mobile-key" } { key := "user" } ∅ ()

theorem isNew_plain : plain.IsNew :=
  isNew_mount ..

end LiveFlags.Connection
