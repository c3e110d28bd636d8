import Mathlib.Data.List.Induction

/-!
# Histories

A system is followed through a list of events, each of which leads from one state to the next or
cannot happen. What is said of a run in terms of its events so far is proved by induction on the
last one (`foldlM_induction`). What is said of one event is said by what comes before it and what
comes after it.
-/

namespace LiveFlags.History

section Split

variable {α : Type*} {l before after : List α} {a x : α}

/-- An event in a list is the last one, or it is in front of that. -/
theorem split_concat (h : l ++ [a] = before ++ x :: after) :
    (after = [] ∧ l = before ∧ a = x) ∨
      ∃ after', after = after' ++ [a] ∧ l = before ++ x :: after' := by
  rcases List.eq_nil_or_concat after with rfl | ⟨after', b, rfl⟩
  · obtain ⟨hl, ha⟩ := List.append_inj' h rfl
    exact .inl ⟨rfl, hl, List.singleton_inj.1 ha⟩
  · rw [List.concat_eq_append, ← List.cons_append, ← List.append_assoc] at h
    obtain ⟨hl, ha⟩ := List.append_inj' h rfl
    rw [List.concat_eq_append, List.singleton_inj.1 ha]
    exact .inr ⟨after', rfl, hl⟩

/-- Of the events of a kind there is one for each number below their count. -/
theorem exists_split_of_lt_countP {p : α → Bool} {n : Nat} (h : n < l.countP p) :
    ∃ before x after, l = before ++ x :: after ∧ p x = true ∧ before.countP p = n := by
  induction l using List.reverseRecOn with
  | nil => cases h
  | append_singleton l a ih =>
    by_cases hlt : n < l.countP p
    · obtain ⟨before, x, after, rfl, hx, hn⟩ := ih hlt
      exact ⟨before, x, after ++ [a], by simp, hx, hn⟩
    · rw [List.countP_append, List.countP_singleton] at h
      split at h
      · next ha => exact ⟨l, a, [], rfl, ha, by omega⟩
      · exact absurd h hlt

end Split

section Run

variable {σ ε : Type*} {step : σ → ε → Option σ} {s s' : σ} {es es' : List ε}

theorem foldlM_append_eq_some : (es ++ es').foldlM step s = some s' ↔
    ∃ s₁, es.foldlM step s = some s₁ ∧ es'.foldlM step s₁ = some s' := by
  rw [List.foldlM_append]
  exact Option.bind_eq_some_iff

theorem foldlM_concat_eq_some {e : ε} : (es ++ [e]).foldlM step s = some s' ↔
    ∃ s₁, es.foldlM step s = some s₁ ∧ step s₁ e = some s' := by
  rw [foldlM_append_eq_some]
  simp

/-- What an event in the middle of a run does. -/
theorem foldlM_append_cons_eq_some {e : ε} : (es ++ e :: es').foldlM step s = some s' ↔
    ∃ s₁ s₂, es.foldlM step s = some s₁ ∧ step s₁ e = some s₂ ∧ es'.foldlM step s₂ = some s' := by
  simp only [foldlM_append_eq_some, List.foldlM_cons, Option.bind_eq_bind, Option.bind_eq_some_iff,
    exists_and_left]

/-- What holds at the beginning and is kept by each event holds after every run. The events so far
may take part. -/
theorem foldlM_induction {motive : List ε → σ → Prop} (start : motive [] s)
    (next : ∀ es e s₁ s₂, es.foldlM step s = some s₁ → motive es s₁ → step s₁ e = some s₂ →
      motive (es ++ [e]) s₂)
    (h : es.foldlM step s = some s') : motive es s' := by
  induction es using List.reverseRecOn generalizing s' with
  | nil =>
    cases h
    exact start
  | append_singleton es e ih =>
    obtain ⟨s₁, hrun, hstep⟩ := foldlM_concat_eq_some.1 h
    exact next es e s₁ s' hrun (ih hrun) hstep

end Run

end LiveFlags.History
