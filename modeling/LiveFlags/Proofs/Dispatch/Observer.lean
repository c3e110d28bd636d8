import LiveFlags.Notifier
import LiveFlags.Proofs.Dispatch.Delivery

/-!
# Observers of changes

A notifier is a dispatcher of changes, with two calls of its own. A listener can be registered for
the changes of one flag, and a list of changes is dispatched at once. Either comes down to what the
dispatcher does (`runNotifier_eq`), so the deliveries are those of a dispatcher, and a listener for
one flag is called for the changes of that flag.

Main statement: `delivered_of_run`, on dispatchers and on notifiers.
-/

namespace LiveFlags

/-- What happens around a notifier. -/
inductive NotifierEvent where
  /-- Something that happens around any dispatcher, the steps of the worker included. -/
  | base (event : DispatchEvent Change)
  | registerForKey (key : String) (listener : Listener Change)
  | notify (changes : List Change)

namespace NotifierEvent

/-- What the dispatcher makes of it. -/
def parts : NotifierEvent → List (DispatchEvent Change)
  | base event => [event]
  | registerForKey key listener => [.register (Notifier.onlyKey key listener)]
  | notify changes => changes.map .dispatch

end NotifierEvent

/-- All that the dispatcher makes of these events. -/
def partsOf (es : List NotifierEvent) : List (DispatchEvent Change) :=
  es.flatMap NotifierEvent.parts

/-- The listener got this id when it was registered for the flag, and has not been removed since. -/
def IsRegisteredForKey (es : List NotifierEvent) (id : Nat) (key : String)
    (listener : Listener Change) : Prop :=
  ∃ before after, es = before ++ .registerForKey key listener :: after ∧
    id = idAfter (partsOf before) ∧ .base (.unregister id) ∉ after

/-- A listener for one key is called for this key alone. -/
theorem Notifier.react_onlyKey (key : String) (listener : Listener Change) (id : Nat)
    (change : Change) : (onlyKey key listener).react id change =
      if change.key = key then listener.react id change else none := by
  simp only [onlyKey, Listener.react]
  grind

theorem partsOf_append (es es' : List NotifierEvent) :
    partsOf (es ++ es') = partsOf es ++ partsOf es' :=
  List.flatMap_append

theorem partsOf_cons (e : NotifierEvent) (es : List NotifierEvent) :
    partsOf (e :: es) = e.parts ++ partsOf es :=
  List.flatMap_cons

/-- Only the removal of a listener comes down to one. -/
theorem mem_of_unregister_mem_partsOf {es : List NotifierEvent} {id : Nat}
    (h : .unregister id ∈ partsOf es) : .base (.unregister id) ∈ es := by
  obtain ⟨e, he, hmem⟩ := List.mem_flatMap.1 h
  cases e with
  | base event =>
    cases List.mem_singleton.1 hmem
    exact he
  | registerForKey key listener => cases List.mem_singleton.1 hmem
  | notify changes =>
    obtain ⟨change, -, heq⟩ := List.mem_map.1 hmem
    cases heq

/-- For the dispatcher, a listener for one key is a listener. -/
theorem IsRegisteredForKey.isRegistered {es : List NotifierEvent} {id : Nat} {key : String}
    {listener : Listener Change} (h : IsRegisteredForKey es id key listener) :
    IsRegistered (partsOf es) id (Notifier.onlyKey key listener) := by
  obtain ⟨before, after, rfl, hid, hkept⟩ := h
  refine ⟨partsOf before, partsOf after, ?_, hid, fun hmem => hkept ?_⟩
  · rw [partsOf_append, partsOf_cons]
    rfl
  · exact mem_of_unregister_mem_partsOf hmem

namespace Courier

/-- What an event around a notifier leads to, if it can happen now. -/
def stepNotifier (s : Courier Change) : NotifierEvent → Option (Courier Change)
  | .base event => s.step event
  | .registerForKey key listener =>
    some { s with dispatcher := (Notifier.registerForKey s.dispatcher key listener).2 }
  | .notify changes => some { s with dispatcher := Notifier.notify s.dispatcher changes }

def runNotifier (s : Courier Change) (events : List NotifierEvent) : Option (Courier Change) :=
  events.foldlM stepNotifier s

/-- What is to be said of the deliveries of a notifier. -/
structure Observed (es : List NotifierEvent) (s : Courier Change) : Prop where
  /-- All that is true of a dispatcher. -/
  delivers : Delivers (partsOf es) s
  /-- A listener that was registered for a flag is called once for each change of that flag, and for
  no other one. -/
  keyed : ∀ before after, es = before ++ .base .look :: after →
    (∀ visit ∈ s.visits, visit.number ≠ looksOf (partsOf before)) →
    ∃ change, (dispatched (partsOf before))[looksOf (partsOf before)]? = some change ∧
      ∀ id key listener, IsRegisteredForKey before id key listener →
        callsOf s.calls (looksOf (partsOf before)) id =
          if change.key = key then (listener.react id change).toList else []
  /-- It is told the id that it got. -/
  registerForKey : ∀ key listener,
    (Notifier.registerForKey s.dispatcher key listener).1 = idAfter (partsOf es)

theorem run_dispatch (s : Courier Change) (changes : List Change) :
    s.run (changes.map .dispatch) =
      some { s with dispatcher := Notifier.notify s.dispatcher changes } := by
  induction changes generalizing s with
  | nil => rfl
  | cons change changes ih => exact ih { s with dispatcher := s.dispatcher.dispatch change }

theorem run_parts (s : Courier Change) (e : NotifierEvent) : s.run e.parts = s.stepNotifier e := by
  cases e with
  | base event =>
    simp only [NotifierEvent.parts, run, List.foldlM_cons, List.foldlM_nil, bind_pure]
    rfl
  | registerForKey key listener => rfl
  | notify changes => exact s.run_dispatch changes

/-- **A notifier is a dispatcher**, and each of its calls is one or more calls of that. -/
theorem runNotifier_eq (s : Courier Change) (es : List NotifierEvent) :
    s.runNotifier es = s.run (partsOf es) := by
  induction es generalizing s with
  | nil => rfl
  | cons e es ih =>
    rw [partsOf_cons, run_append, run_parts, runNotifier, List.foldlM_cons]
    exact congrArg _ (funext ih)

/-- What holds of a dispatcher holds of a notifier, told in terms of its own events. -/
theorem observed_of_run {es : List NotifierEvent} {s : Courier Change}
    (h : Courier.runNotifier {} es = some s) : Observed es s := by
  rw [runNotifier_eq] at h
  have hdelivers : Delivers (partsOf es) s := delivers_of_run h
  refine ⟨hdelivers, ?_, fun key listener => (hdelivers.register _).1⟩
  rintro before after rfl hthrough
  have hsplit : partsOf (before ++ .base .look :: after) =
      partsOf before ++ .look :: partsOf after := by
    rw [partsOf_append, partsOf_cons]
    rfl
  obtain ⟨change, hchange, hcalled, -⟩ := hdelivers.once _ _ hsplit hthrough
  refine ⟨change, hchange, fun id key listener hregistered => ?_⟩
  rw [hcalled id _ hregistered.isRegistered, Notifier.react_onlyKey]
  split <;> rfl

end Courier

open Courier in
/-- **Every listener is called once for each event that it listens to**, whatever happens in between
and whoever panics, with the calls in the order of the events, and for one event in the order of
registration. A listener for one flag is called for the changes of that flag. -/
theorem delivered_of_run :
    (∀ (ε : Type) (es : List (DispatchEvent ε)) (s : Courier ε),
      Courier.run {} es = some s → Delivers es s) ∧
    ∀ (es : List NotifierEvent) (s : Courier Change),
      Courier.runNotifier {} es = some s → Observed es s :=
  ⟨fun _ _ _ => delivers_of_run, fun _ _ => observed_of_run⟩

/-- A listener that always panics is removed between two events, while another one that listens to
even numbers stays. -/
def removal : List (DispatchEvent Nat) :=
  [.register { name := "loud", panics := fun _ => true },
    .register { name := "even", hears := fun n => n % 2 == 0 },
    .dispatch 7, .take, .dispatch 8, .look, .call, .call, .unregister 1, .take, .look, .call]

/-- The flag with this key is there now. -/
def arrival (key : String) : Change :=
  { key, oldValue := .null, newValue := .bool true, deleted := false }

/-- Two listeners for one flag each, of which one always panics, hear of both flags. -/
def arrivals : List NotifierEvent :=
  [.registerForKey "a" { name := "first", panics := fun _ => true },
    .registerForKey "b" { name := "second" }, .notify [arrival "a", arrival "b"],
    .base .take, .base .look, .base .call, .base .call, .base (.unregister 1),
    .base .take, .base .look, .base .call]

/-- Who is removed is not called for what is read later, and whoever stays is. -/
theorem delivered_removal :
    (∃ s, Courier.run {} removal = some s ∧ Courier.Delivers removal s ∧
      s.calls = [(0, { id := 1, name := "loud", event := 7, panicked := true }),
        (1, { id := 2, name := "even", event := 8 })]) ∧
    ∃ s, Courier.runNotifier {} arrivals = some s ∧ Courier.Observed arrivals s ∧
      s.AtRest ∧
      s.calls = [(0, { id := 1, name := "first", event := arrival "a", panicked := true }),
        (1, { id := 2, name := "second", event := arrival "b" })] :=
  ⟨⟨_, rfl, delivered_of_run.1 Nat removal _ rfl, rfl⟩,
    _, rfl, delivered_of_run.2 arrivals _ rfl, ⟨rfl, rfl, rfl⟩, rfl⟩

end LiveFlags
