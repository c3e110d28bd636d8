import LiveFlags.Proofs.Connection.Traffic

/-!
# Flags that only calls write

Whether the connection was started, is closed or is forced offline is written by calls and by
nothing else, and some flags are never taken back: a closed connection stays closed, and so it is
with one whose source has stopped for good. `step_flags` says it for single steps, in one equation,
and the rest follows from it and from what a call announces.
-/

namespace LiveFlags

namespace Connection

variable {σ φ : Type}

theorem announce_closed {c : Connection σ φ} (h : c.flags.closed = true) (call : ConnectionCall φ) :
    (c.announce call).2.flags.closed = true := by
  rcases c.announce_cases call with ⟨heq, -⟩ | ⟨rebuild, -, hclosed, -⟩ | heq
  · rw [heq]
    exact h
  · exact hclosed.trans h
  · rw [heq]

theorem announce_shutDown (c : Connection σ φ) (call : ConnectionCall φ) :
    (c.announce call).2.flags.shutDown = c.flags.shutDown := by
  rcases c.announce_cases call with ⟨heq, -⟩ | ⟨rebuild, -, -, hshut, -⟩ | heq
  · rw [heq]
  · exact hshut
  · rw [heq]

/-- The connection is forced offline, or released, before the call waits for anything. -/
theorem announce_setForceOffline (c : Connection σ φ) (offline : Bool) :
    (c.announce (.setForceOffline offline)).2.flags.forceOffline = offline := by
  simp only [announce]
  split
  · next h => exact h
  · rfl

theorem announce_forceOffline_of_ne (c : Connection σ φ) {call : ConnectionCall φ}
    (h : ∀ offline, call ≠ .setForceOffline offline) :
    (c.announce call).2.flags.forceOffline = c.flags.forceOffline := by
  cases call with
  | setForceOffline offline => exact absurd rfl (h offline)
  | reconfigure factory reset => rfl
  | start | close | setNetworkEnabled | setInBackground =>
    simp only [announce]
    split <;> rfl

end Connection

namespace Traffic

variable {σ φ : Type} [Storage σ]

/-- What is no call leaves the flags that calls write alone. -/
theorem step_flags {s s' : Traffic σ φ} {e : TrafficEvent φ} (h : s.step e = some s')
    (he : ∀ call, e ≠ .call call) : ∃ previous initialized shutDown,
      s'.connection.flags = { s.connection.flags with
        previouslyInBackground := previous, initialized, shutDown } ∧
      (s.connection.flags.shutDown = true → shutDown = true) := by
  cases e with
  | call call => exact absurd rfl (he call)
  | enter call =>
    obtain ⟨-, critical, -, rfl⟩ := step_enter h
    exact ⟨_, _, _, rfl, id⟩
  | cutOff =>
    obtain ⟨call, plan, -, rfl⟩ := step_cutOff h
    obtain ⟨generation, progress, sources, heq, -⟩ := s.cutOff_eq call plan
    rw [heq]
    exact ⟨_, _, _, rfl, id⟩
  | dispose =>
    obtain ⟨call, plan, source, -, rfl⟩ := step_dispose h
    exact ⟨_, _, _, rfl, id⟩
  | settle =>
    obtain ⟨call, plan, -, rfl⟩ := step_settle h
    rcases s.settle_cases plan with
      ⟨-, status, clock, outcome, heq, -⟩ | ⟨-, status, clock, outcome, heq, -⟩
    · rw [heq]
      exact ⟨_, _, _, rfl, id⟩
    · rw [heq]
      exact ⟨_, _, _, rfl, id⟩
  | switch | deliver | checkStart | noteStart =>
    obtain ⟨connection, starts, initialized, shutDown, rfl, -, -, -, hflags, hkeep⟩ :=
      step_aside h rfl
    exact ⟨_, _, _, hflags, hkeep⟩

/-- A connection that is not closed never was. -/
theorem not_closed_of_step {s s' : Traffic σ φ} {e : TrafficEvent φ} (h : s.step e = some s')
    (hclosed : s'.connection.flags.closed = false) : s.connection.flags.closed = false := by
  by_cases he : ∃ call, e = .call call
  · obtain ⟨call, rfl⟩ := he
    cases h
    cases hs : s.connection.flags.closed with
    | false => rfl
    | true => cases (Connection.announce_closed hs call).symm.trans hclosed
  · obtain ⟨previous, initialized, shutDown, hflags, -⟩ := step_flags h (not_exists.1 he)
    rw [hflags] at hclosed
    exact hclosed

/-- A permanent failure is never forgotten. -/
theorem shutDown_of_step {s s' : Traffic σ φ} {e : TrafficEvent φ} (h : s.step e = some s')
    (hshut : s.connection.flags.shutDown = true) : s'.connection.flags.shutDown = true := by
  by_cases he : ∃ call, e = .call call
  · obtain ⟨call, rfl⟩ := he
    cases h
    exact (s.connection.announce_shutDown call).trans hshut
  · obtain ⟨previous, initialized, shutDown, hflags, hkeep⟩ := step_flags h (not_exists.1 he)
    rw [hflags]
    exact hkeep hshut

/-! ### Being forced offline -/

/-- Only the call for it forces a connection offline or releases it. -/
theorem forceOffline_of_ne {s s' : Traffic σ φ} {e : TrafficEvent φ} (h : s.step e = some s')
    (he : ∀ offline, e ≠ .call (.setForceOffline offline)) :
    s'.connection.flags.forceOffline = s.connection.flags.forceOffline := by
  by_cases hcall : ∃ call, e = .call call
  · obtain ⟨call, rfl⟩ := hcall
    cases h
    exact s.connection.announce_forceOffline_of_ne fun offline heq => he offline (congrArg _ heq)
  · obtain ⟨previous, initialized, shutDown, hflags, -⟩ := step_flags h (not_exists.1 hcall)
    rw [hflags]

theorem forceOffline_of_set {s s' : Traffic σ φ} {offline : Bool}
    (h : s.step (.call (.setForceOffline offline)) = some s') :
    s'.connection.flags.forceOffline = offline := by
  cases h
  exact s.connection.announce_setForceOffline offline

/-- Only one call releases a connection that is forced offline. -/
theorem forceOffline_of_step {s s' : Traffic σ φ} {e : TrafficEvent φ} (h : s.step e = some s')
    (hkeep : e ≠ .call (.setForceOffline false))
    (hforced : s.connection.flags.forceOffline = true) :
    s'.connection.flags.forceOffline = true := by
  by_cases he : e = .call (.setForceOffline true)
  · subst he
    exact forceOffline_of_set h
  · refine (forceOffline_of_ne h fun offline => ?_).trans hforced
    cases offline with
    | false => exact hkeep
    | true => exact he

end Traffic

end LiveFlags
