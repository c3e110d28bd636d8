import LiveFlags.Status

/-!
# The state of the status

Of the four parts of a status only the state has a say in what the connection does. A request leads
to the state `Status.reached`, an error alone to the same state as before.
-/

namespace LiveFlags

namespace Status

@[simp]
theorem enter_state (s : Status) (requested : ConnectionState) (now : Nat) :
    (s.enter requested now).state = s.reached requested := by
  simp only [enter]
  split <;> split <;> simp_all

@[simp]
theorem update_state (s : Status) (requested : Option ConnectionState)
    (error : Option SourceError) (now : Nat) :
    (s.update requested error now).state = requested.elim s.state s.reached := by
  cases requested <;> cases error <;> simp [update, record]

/-- Only a request for `interrupted` can lead to another state than the requested one. -/
theorem reached_of_ne (s : Status) {requested : ConnectionState} (h : requested ≠ .interrupted) :
    s.reached requested = requested := by
  simp [reached, h]

/-- A source that asks for `valid` or `interrupted` does not bring the connection offline. -/
theorem reached_isOffline (s : Status) {requested : ConnectionState}
    (h : requested.isOffline = false) : (s.reached requested).isOffline = false := by
  unfold reached
  split
  · rfl
  · exact h

end Status

@[simp]
theorem StatusTracker.update_state (t : StatusTracker) (requested : Option ConnectionState)
    (error : Option SourceError) (now : Nat) :
    (t.update requested error now).state = requested.elim t.state t.current.reached :=
  Status.update_state ..

end LiveFlags
