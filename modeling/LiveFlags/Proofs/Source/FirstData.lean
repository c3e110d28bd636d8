import LiveFlags.Proofs.Source.Streaming

/-!
# The first data of a streaming source

A streaming source hands on what the stream brings, in the order in which it comes. So it begins with
a whole set of flags as long as the service does.

Main statement: `fullFirst_iff`.
-/

namespace LiveFlags

/-- Whether data that are delivered are a whole set of flags. -/
def Delivery.isFull? : Delivery → Option Bool
  | snapshot .. => some true
  | item .. => some false
  | status .. | failure _ => none

def Act.isFull? : Act → Option Bool
  | deliver delivery => delivery.isFull?
  | _ => none

/-- Whether an event that brings data brings a whole set of flags. -/
def Occurrence.isFull? : Occurrence → Option Bool
  | put _ | ping (.ok _) => some true
  | patch _ | delete .. => some false
  | ping (.error _) | failure _ => none

/-- The events that a source hears of until a failure stops it. -/
def Subscription.allHeard : List Subscription → List Occurrence
  | [] => []
  | s :: rest => s.heard ++ if s.failure.isRecoverable then allHeard rest else []

theorem Occurrence.findSome?_isFull?_acts (identity : Identity) (e : Occurrence) :
    (e.acts identity).findSome? Act.isFull? = e.isFull? := by
  cases e with
  | put | patch | delete | failure => rfl
  | ping answer => cases answer <;> rfl

/-- The first whole set of a subscription is the one that is heard first. -/
theorem Subscription.findSome?_isFull?_acts (identity : Identity) (s : Subscription) :
    (s.acts identity).findSome? Act.isFull? = s.heard.findSome? Occurrence.isFull? := by
  rw [Subscription.acts]
  induction s.heard with
  | nil => rfl
  | cons e events ih =>
    rw [List.flatMap_cons, List.findSome?_append, e.findSome?_isFull?_acts, ih]
    cases h : e.isFull? <;> simp [h]

/-- The first data that are delivered are the first that the service sends. -/
theorem Performs.findSome?_isFull? {identity : Identity} {backoff : Backoff} {failures : Nat}
    {subscriptions : List Subscription} {acts : List Act}
    (h : Performs identity backoff failures subscriptions acts) :
    acts.findSome? Act.isFull? =
      (Subscription.allHeard subscriptions).findSome? Occurrence.isFull? := by
  -- Beside what is heard there are only reports, and calls of the service.
  have hheard (s : Subscription) (acts : List Act) :
      (.subscribe :: s.acts identity ++ acts).findSome? Act.isFull? =
        (s.heard.findSome? Occurrence.isFull?).or (acts.findSome? Act.isFull?) := by
    rw [List.findSome?_append, ← s.findSome?_isFull?_acts identity]
    rfl
  induction h with
  | waits => rfl
  | @again failures s rest delay acts recoverable _ _ ih =>
    have hreport : (Act.deliver (.interrupted s.failure) :: .wait delay :: acts).findSome?
        Act.isFull? = acts.findSome? Act.isFull? := rfl
    rw [List.append_assoc, hheard, List.cons_append, List.singleton_append, hreport, ih,
      Subscription.allHeard, if_pos recoverable, List.findSome?_append]
  | @stops failures s rest fatal =>
    have hreport : [Act.deliver (.failure s.failure), .resolve false].findSome? Act.isFull? = none :=
      rfl
    rw [hheard, hreport, Subscription.allHeard, fatal, if_neg Bool.false_ne_true, List.append_nil,
      Option.or_none]

namespace Streaming

/-- The first data, if there are any yet, are a whole set of flags. -/
def FullFirst (acts : List Act) : Prop :=
  acts.findSome? Act.isFull? ≠ some false

/-- **A source delivers a whole set of flags first if the service sends one first**, and only then.
What counts is the first event with data, over all streams that the source hears of. -/
theorem fullFirst_iff (s : Streaming) (subscriptions : List Subscription) (draws : Nat → Nat) :
    (∀ c, (s.begin subscriptions draws).Reaches c → FullFirst c.acts) ↔
      (Subscription.allHeard subscriptions).findSome? Occurrence.isFull? ≠ some false := by
  obtain ⟨last, hreaches, hlast, hperforms⟩ := s.exists_last subscriptions draws
  rw [← hperforms.findSome?_isFull?]
  constructor
  · intro h
    exact h last hreaches
  · intro h c hc hpartly
    exact h ((hc.to_last hreaches hlast).mono.1.findSome?_eq_some hpartly)

/-- A service that begins with an item makes the source deliver it. -/
theorem exists_not_fullFirst : ∃ c, Course.Reaches
    ((Streaming.ofOptions { mobileKey := "mob" } { identity := { key := "u" } }).begin
      [.opened [.patch { key := "a", version := 1 }]] fun _ => 0) c ∧ ¬FullFirst c.acts := by
  refine ⟨_, .tail (.single rfl) rfl, fun h => h rfl⟩

end Streaming

end LiveFlags
