import LiveFlags.Proofs.FlagData.Durable
import LiveFlags.Proofs.History

/-!
# Updates that overlap

Several calls may update the flags of the current identity at the same time. Each one applies its
update to the items, reads all of them, saves what it has read, and then tells observers of its
changes one after the other. Each of these steps happens as a whole, but steps of other calls may
come in between. `Overlap` is the flags together with the calls that were made, and `Overlap.step`
says what may happen next. The identity is not switched in the meantime.

A call that nobody gets in the way of does what an update does as a whole (`exists_run_perform`).
-/

namespace LiveFlags

/-- The identity that a step names. -/
def DataStep.addressee : DataStep → Identity
  | .switch identity | .snapshot identity _ | .item identity _ => identity

/-- How far a call has come with its update. -/
inductive UpdateStage where
  | called
  | applied (changes : List Change)
  /-- It has read the items after its update. -/
  | seen (changes : List Change) (snapshot : Snapshot)
  /-- It has these changes left to tell; without any it has returned. -/
  | telling (changes : List Change)

/-- What a call does next. -/
inductive UpdateAction where
  | apply
  | read
  | save (now : Int)
  | tell

/-- A call with its update. -/
structure Update where
  step : DataStep
  stage : UpdateStage := .called

/-- What happens to the flags. -/
inductive UpdateEvent where
  | call (step : DataStep)
  | act (call : Nat) (action : UpdateAction)

namespace FlagData

variable {σ : Type}

/-- Only updates for the current identity are let in. -/
theorem same_addressee {d : FlagData σ} {step : DataStep}
    (h : d.isAddressed step = true) : d.identity.same step.addressee = true := by
  cases step with
  | switch identity => cases h
  | snapshot | item => exact h

/-- Applies an update to the items, unless its item is too old. -/
def applied? (d : FlagData σ) : DataStep → Option (FlagData σ × List Change)
  | .switch _ => none
  | .snapshot _ snapshot => some (d.applySnapshot snapshot)
  | .item _ item => d.applyItem item

/-- An update that is applied changes the items and nothing else. -/
theorem applied?_eq_some {d d' : FlagData σ} {step : DataStep} {changes : List Change}
    (h : d.applied? step = some (d', changes)) : d' = { d with store := d.store.after step } := by
  cases step with
  | switch identity => cases h
  | snapshot identity snapshot =>
    cases h
    rfl
  | item identity item =>
    obtain ⟨⟨store, told⟩, hupsert, heq⟩ := Option.map_eq_some_iff.1 h
    cases heq
    simp only [ItemStore.after, ItemStore.offer, hupsert]

variable [Storage σ]

/-- What an action of a call leads to, if it is the next one. -/
def act (d : FlagData σ) (step : DataStep) :
    UpdateStage → UpdateAction → Option (FlagData σ × UpdateStage)
  | .called, .apply =>
    match d.applied? step with
    | some (d, changes) => some (d, .applied changes)
    | none => some (d, .telling [])
  | .applied changes, .read => some (d, .seen changes d.snapshot)
  | .seen changes snapshot, .save now =>
    some (d.persist step.addressee snapshot now, .telling changes)
  | .telling changes, .tell =>
    match changes with
    | change :: changes => some (d.announce [change], .telling changes)
    | [] => none
  | _, _ => none

/-! ### What an action needs and does -/

section Act

variable {d d' : FlagData σ} {step : DataStep} {stage stage' : UpdateStage}

/-- A call first tries its update, and is through if that is too old. -/
theorem act_apply (h : d.act step stage .apply = some (d', stage')) :
    stage = .called ∧
      ((∃ changes, d' = { d with store := d.store.after step } ∧ stage' = .applied changes) ∨
        (d' = d ∧ stage' = .telling [])) := by
  cases stage with
  | called =>
    simp only [act] at h
    split at h
    · next heq =>
      cases h
      exact ⟨rfl, .inl ⟨_, applied?_eq_some heq, rfl⟩⟩
    · cases h
      exact ⟨rfl, .inr ⟨rfl, rfl⟩⟩
  | applied | seen | telling => cases h

/-- It reads all items then, as they are by that time. -/
theorem act_read (h : d.act step stage .read = some (d', stage')) :
    ∃ changes, stage = .applied changes ∧ d' = d ∧ stage' = .seen changes d.snapshot := by
  cases stage with
  | applied changes =>
    cases h
    exact ⟨changes, rfl, rfl, rfl⟩
  | called | seen | telling => cases h

/-- It saves what it has read, at a time of its own. -/
theorem act_save {now : Int} (h : d.act step stage (.save now) = some (d', stage')) :
    ∃ changes snapshot, stage = .seen changes snapshot ∧
      d' = d.persist step.addressee snapshot now ∧ stage' = .telling changes := by
  cases stage with
  | seen changes snapshot =>
    cases h
    exact ⟨changes, snapshot, rfl, rfl, rfl⟩
  | called | applied | telling => cases h

/-- It tells its changes one by one. -/
theorem act_tell (h : d.act step stage .tell = some (d', stage')) :
    ∃ change changes, stage = .telling (change :: changes) ∧ d' = d.announce [change] ∧
      stage' = .telling changes := by
  cases stage with
  | telling changes =>
    cases changes with
    | nil => cases h
    | cons change changes =>
      cases h
      exact ⟨change, changes, rfl, rfl, rfl⟩
  | called | applied | seen => cases h

end Act

/-! ### An update as a whole -/

/-- A call that nobody interferes with does the same as the update at once. -/
theorem perform_of_applied? {d d' : FlagData σ} {step : DataStep} {changes : List Change}
    (hfor : d.isAddressed step = true) (h : d.applied? step = some (d', changes)) (now : Int) :
    d.perform step now = (d'.persist step.addressee d'.snapshot now).announce changes := by
  cases step with
  | switch identity => cases hfor
  | snapshot identity snapshot =>
    cases h
    exact if_pos hfor
  | item identity item =>
    have happly : d.applyItem item = some (d', changes) := h
    refine (if_pos hfor).trans ?_
    rw [happly]
    rfl

/-- An update that is too old leaves no trace. -/
theorem perform_of_applied?_none {d : FlagData σ} {step : DataStep}
    (hfor : d.isAddressed step = true) (h : d.applied? step = none) (now : Int) :
    d.perform step now = d := by
  cases step with
  | switch identity => cases hfor
  | snapshot identity snapshot => cases h
  | item identity item =>
    have happly : d.applyItem item = none := h
    refine (if_pos hfor).trans ?_
    rw [happly]

end FlagData

/-- The flags, and the calls that were made, in the order of their numbers. -/
structure Overlap (σ : Type) where
  data : FlagData σ
  calls : List Update := []

namespace Overlap

variable {σ : Type}

/-- The flags before the first call. -/
def around (d : FlagData σ) : Overlap σ :=
  { data := d }

/-- All calls have returned. -/
def AtRest (s : Overlap σ) : Prop :=
  ∀ u ∈ s.calls, u.stage = .telling []

variable [Storage σ]

/-- What an event leads to, if it can happen. Updates for other identities are left out. -/
def step (s : Overlap σ) : UpdateEvent → Option (Overlap σ)
  | .call step =>
    if s.data.isAddressed step then some { s with calls := s.calls ++ [{ step }] } else none
  | .act n action =>
    match s.calls[n]? with
    | some u => (s.data.act u.step u.stage action).map fun (data, stage) =>
      { data, calls := s.calls.set n { u with stage } }
    | none => none

/-- Follows events in order. -/
def run (s : Overlap σ) (events : List UpdateEvent) : Option (Overlap σ) :=
  events.foldlM step s

variable {s s' : Overlap σ}

/-! ### Steps and runs -/

theorem step_call {step : DataStep} (h : s.step (.call step) = some s') :
    s.data.isAddressed step = true ∧ s' = { s with calls := s.calls ++ [{ step }] } := by
  simp only [Overlap.step] at h
  split at h
  · next hfor => exact ⟨hfor, (Option.some.inj h).symm⟩
  · cases h

/-- A call takes its next step with the flags as others have left them. -/
theorem step_act {n : Nat} {action : UpdateAction} (h : s.step (.act n action) = some s') :
    ∃ u data stage, s.calls[n]? = some u ∧ s.data.act u.step u.stage action = some (data, stage) ∧
      s' = { data, calls := s.calls.set n { u with stage } } := by
  simp only [Overlap.step] at h
  split at h
  · next u hu =>
    obtain ⟨⟨data, stage⟩, hact, heq⟩ := Option.map_eq_some_iff.1 h
    exact ⟨u, data, stage, hu, hact, heq.symm⟩
  · cases h

/-- What an event does to the flags: a call applies its update, or saves what it has read, or at most
tells observers. -/
theorem data_of_step {e : UpdateEvent} (h : s.step e = some s') :
    (∃ notifier, s'.data = { s.data with notifier }) ∨
      (∃ n u changes, e = .act n .apply ∧ u ∈ s.calls ∧
        s'.data = { s.data with store := s.data.store.after u.step } ∧
        { u with stage := .applied changes } ∈ s'.calls) ∨
      ∃ n now u snapshot, e = .act n (.save now) ∧ u ∈ s.calls ∧
        s'.data = s.data.persist u.step.addressee snapshot now := by
  cases e with
  | call step =>
    obtain ⟨-, rfl⟩ := step_call h
    exact .inl ⟨_, rfl⟩
  | act n action =>
    obtain ⟨u, data, stage, hu, hact, rfl⟩ := step_act h
    have hmem : u ∈ s.calls := List.mem_of_getElem? hu
    cases action with
    | apply =>
      obtain ⟨-, ⟨changes, rfl, rfl⟩ | ⟨rfl, -⟩⟩ := FlagData.act_apply hact
      · obtain ⟨hn, -⟩ := List.getElem?_eq_some_iff.1 hu
        exact .inr (.inl ⟨n, u, changes, rfl, hmem, rfl, List.mem_set hn _⟩)
      · exact .inl ⟨_, rfl⟩
    | read =>
      obtain ⟨changes, -, rfl, -⟩ := FlagData.act_read hact
      exact .inl ⟨_, rfl⟩
    | save now =>
      obtain ⟨changes, snapshot, -, rfl, -⟩ := FlagData.act_save hact
      exact .inr (.inr ⟨n, now, u, snapshot, rfl, hmem, rfl⟩)
    | tell =>
      obtain ⟨change, changes, -, rfl, -⟩ := FlagData.act_tell hact
      exact .inl ⟨_, rfl⟩

theorem run_cons (s : Overlap σ) (e : UpdateEvent) (es : List UpdateEvent) :
    s.run (e :: es) = (s.step e).bind (·.run es) :=
  rfl

theorem run_append {es es' : List UpdateEvent} (h : s.run (es ++ es') = some s') :
    ∃ s₁, s.run es = some s₁ ∧ s₁.run es' = some s' :=
  History.foldlM_append_eq_some.1 h

/-- A run comes through each of its events. -/
theorem run_append_cons {es es' : List UpdateEvent} {e : UpdateEvent}
    (h : s.run (es ++ e :: es') = some s') :
    ∃ s₁ s₂, s.run es = some s₁ ∧ s₁.step e = some s₂ ∧ s₂.run es' = some s' :=
  History.foldlM_append_cons_eq_some.1 h

/-- What holds at the beginning and is kept by each event holds after every run. The events so far
may take part. -/
theorem run_induction {motive : List UpdateEvent → Overlap σ → Prop} (start : motive [] s)
    (next : ∀ es e s₁ s₂, s.run es = some s₁ → motive es s₁ → s₁.step e = some s₂ →
      motive (es ++ [e]) s₂)
    {es : List UpdateEvent} (h : s.run es = some s') : motive es s' :=
  History.foldlM_induction start next h

/-! ### A call on its own -/

/-- The last call acts. -/
theorem step_act_last (d : FlagData σ) (calls : List Update) (u : Update) (action : UpdateAction) :
    step { data := d, calls := calls ++ [u] } (.act calls.length action) =
      (d.act u.step u.stage action).map fun (data, stage) =>
        { data, calls := calls ++ [{ u with stage }] } := by
  simp [step]

/-- A call that tells all its changes has told them at once. -/
theorem run_tell (d : FlagData σ) (calls : List Update) (step : DataStep) (changes : List Change) :
    run { data := d, calls := calls ++ [⟨step, .telling changes⟩] }
        (changes.map fun _ => .act calls.length .tell) =
      some { data := d.announce changes, calls := calls ++ [⟨step, .telling []⟩] } := by
  induction changes generalizing d with
  | nil => rfl
  | cons change changes ih =>
    rw [List.map_cons, run_cons, step_act_last]
    exact ih (d.announce [change])

/-- **A call that nobody gets in the way of does its update as a whole.** -/
theorem exists_run_perform (s : Overlap σ) {step : DataStep}
    (hfor : s.data.isAddressed step = true) (now : Int) :
    ∃ actions : List UpdateAction,
      s.run (.call step :: actions.map (.act s.calls.length ·)) = some
        { data := s.data.perform step now, calls := s.calls ++ [⟨step, .telling []⟩] } := by
  have hcall : s.step (.call step) = some { s with calls := s.calls ++ [{ step }] } := if_pos hfor
  -- An update that is refused ends with the first action, any other goes through all of them.
  cases happly : s.data.applied? step with
  | none =>
    refine ⟨[.apply], ?_⟩
    rw [run_cons, hcall, s.data.perform_of_applied?_none hfor happly]
    simp [run, step_act_last, FlagData.act, happly]
  | some applied =>
    obtain ⟨d, changes⟩ := applied
    refine ⟨[.apply, .read, .save now] ++ changes.map fun _ => .tell, ?_⟩
    have htell := run_tell (d.persist step.addressee d.snapshot now) s.calls step changes
    rw [FlagData.perform_of_applied? hfor happly now, ← htell, run_cons, hcall]
    simp [run, step_act_last, FlagData.act, happly]

end Overlap

end LiveFlags
