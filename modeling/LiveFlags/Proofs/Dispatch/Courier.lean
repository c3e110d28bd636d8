import LiveFlags.Dispatch.Basic
import LiveFlags.Proofs.History

/-!
# The courier of a dispatcher

A dispatcher has a worker of its own, the courier. It takes the oldest event from the queue, reads
who is registered, and then calls these listeners one after the other. These are steps of their own:
anything may happen between two of them, and what a listener does when it is called may be to
register or remove listeners, or to dispatch.

A `Courier` is a dispatcher with the worker at its work. Events are counted in the order in which
they were dispatched, which is the one in which they are taken, and each call is noted with the
number of its event. `planned` are the calls that were made, followed by those that are still to be
made for the present event; only reading the listeners adds to them.
-/

namespace LiveFlags

variable {ε : Type}

theorem filterMap_cons_eq {α β : Type} (f : α → Option β) (a : α) (l : List α) :
    (a :: l).filterMap f = (f a).toList ++ l.filterMap f := by
  rw [List.filterMap_cons]
  cases f a <;> rfl

/-- A listener that is to be called for an event. -/
structure Visit (ε : Type) where
  /-- The number of the event. -/
  number : Nat
  event : ε
  id : Nat
  listener : Listener ε

/-- The call that comes of a visit, with the number of the event. -/
def Visit.call? (v : Visit ε) : Option (Nat × Call ε) :=
  (v.listener.react v.id v.event).map (v.number, ·)

/-- A dispatcher and its worker. -/
structure Courier (ε : Type) where
  dispatcher : Dispatcher ε := {}
  /-- The event that was taken from the queue, until the listeners have been read. -/
  held : Option ε := none
  /-- For how many events the listeners have been read. -/
  looked : Nat := 0
  /-- Those that are still to be called. -/
  visits : List (Visit ε) := []
  calls : List (Nat × Call ε) := []

/-- What happens around a dispatcher. -/
inductive DispatchEvent (ε : Type) where
  | register (listener : Listener ε)
  | unregister (id : Nat)
  | dispatch (event : ε)
  /-- The worker takes the oldest event. -/
  | take
  /-- The worker reads who is registered. -/
  | look
  /-- The worker calls the next listener. -/
  | call

def DispatchEvent.isWork : DispatchEvent ε → Bool
  | take | look | call => true
  | _ => false

namespace Courier

/-- What an event leads to, if it can happen now. -/
def step (s : Courier ε) : DispatchEvent ε → Option (Courier ε)
  | .register listener => some { s with dispatcher := (s.dispatcher.register listener).2 }
  | .unregister id => some { s with dispatcher := (s.dispatcher.unregister id).2 }
  | .dispatch event => some { s with dispatcher := s.dispatcher.dispatch event }
  | .take =>
    match s.held, s.visits, s.dispatcher.queue with
    | none, [], event :: queue =>
      some { s with dispatcher := { s.dispatcher with queue }, held := some event }
    | _, _, _ => none
  | .look => s.held.map fun event => { s with
      held := none, looked := s.looked + 1
      visits := s.dispatcher.listeners.map fun (id, listener) =>
        ⟨s.looked, event, id, listener⟩ }
  | .call =>
    match s.visits with
    | visit :: visits => some { s with visits, calls := s.calls ++ visit.call?.toList }
    | [] => none

def run (s : Courier ε) (events : List (DispatchEvent ε)) : Option (Courier ε) :=
  events.foldlM step s

/-- The calls that were made and those that are to be made for the present event. -/
def planned (s : Courier ε) : List (Nat × Call ε) :=
  s.calls ++ s.visits.filterMap Visit.call?

/-- The worker has nothing to do. -/
structure AtRest (s : Courier ε) : Prop where
  queue : s.dispatcher.queue = []
  held : s.held = none
  visits : s.visits = []

/-! ### Steps -/

variable {s s' : Courier ε}

/-- The worker takes the event that has waited longest, when it has finished with the one before. -/
theorem step_take (h : s.step .take = some s') : ∃ event queue,
    s.held = none ∧ s.visits = [] ∧ s.dispatcher.queue = event :: queue ∧
      s' = { s with dispatcher := { s.dispatcher with queue }, held := some event } := by
  simp only [step] at h
  split at h
  · next event queue hheld hvisits hqueue =>
    exact ⟨event, queue, hheld, hvisits, hqueue, (Option.some.inj h).symm⟩
  · cases h

/-- It reads the listeners as they are by then. -/
theorem step_look (h : s.step .look = some s') : ∃ event, s.held = some event ∧
    s' = { s with
      held := none, looked := s.looked + 1
      visits := s.dispatcher.listeners.map fun (id, listener) =>
        ⟨s.looked, event, id, listener⟩ } := by
  obtain ⟨event, hheld, rfl⟩ := Option.map_eq_some_iff.1 h
  exact ⟨event, hheld, rfl⟩

theorem step_call (h : s.step .call = some s') : ∃ visit visits, s.visits = visit :: visits ∧
    s' = { s with visits, calls := s.calls ++ visit.call?.toList } := by
  simp only [step] at h
  split at h
  · next visit visits hvisits => exact ⟨visit, visits, hvisits, (Option.some.inj h).symm⟩
  · cases h

theorem run_append (s : Courier ε) (es es' : List (DispatchEvent ε)) :
    s.run (es ++ es') = (s.run es).bind (·.run es') :=
  List.foldlM_append

/-- What holds at the beginning and is kept by each event holds in the end, told by all events up to
then. -/
theorem run_induction {motive : List (DispatchEvent ε) → Courier ε → Prop} (start : motive [] s)
    (next : ∀ es e s₁ s₂, motive es s₁ → s₁.step e = some s₂ → motive (es ++ [e]) s₂)
    {es : List (DispatchEvent ε)} (h : s.run es = some s') : motive es s' :=
  History.foldlM_induction start (fun es e s₁ s₂ _ => next es e s₁ s₂) h

/-! ### Calls -/

/-- The calls that reading the listeners adds. -/
def added (s : Courier ε) : DispatchEvent ε → List (Nat × Call ε)
  | .look => (s.held.toList.flatMap s.dispatcher.callsFor).map (s.looked, ·)
  | _ => []

theorem filterMap_call?_map (number : Nat) (event : ε) (listeners : List (Nat × Listener ε)) :
    (listeners.map fun (id, listener) => (⟨number, event, id, listener⟩ : Visit ε)).filterMap
        Visit.call? =
      (listeners.filterMap fun (id, listener) => listener.react id event).map (number, ·) := by
  rw [List.filterMap_map, List.map_filterMap]
  rfl

/-- While the worker holds an event it has nobody to call. -/
def IsFree (s : Courier ε) : Prop :=
  s.held.isSome → s.visits = []

/-- Holding an event and visiting listeners exclude each other. -/
theorem IsFree.step (hs : s.IsFree) {e : DispatchEvent ε} (h : s.step e = some s') :
    s'.IsFree := by
  cases e with
  | register | unregister | dispatch =>
    cases h
    exact hs
  | take =>
    obtain ⟨event, queue, -, hvisits, -, rfl⟩ := step_take h
    exact fun _ => hvisits
  | look =>
    obtain ⟨event, -, rfl⟩ := step_look h
    exact fun hheld => absurd hheld Bool.false_ne_true
  | call =>
    obtain ⟨visit, visits, hvisits, rfl⟩ := step_call h
    intro hheld
    cases hvisits.symm.trans (hs hheld)

/-- Calls are planned when the worker reads the listeners, and only then. -/
theorem planned_of_step (hs : s.IsFree) {e : DispatchEvent ε} (h : s.step e = some s') :
    s'.planned = s.planned ++ s.added e := by
  cases e with
  | register | unregister | dispatch =>
    cases h
    exact (List.append_nil _).symm
  | take =>
    obtain ⟨event, queue, -, -, -, rfl⟩ := step_take h
    exact (List.append_nil _).symm
  | look =>
    obtain ⟨event, hheld, rfl⟩ := step_look h
    simp only [planned, added, hheld, hs (by rw [hheld]; rfl), filterMap_call?_map]
    simp [Dispatcher.callsFor]
  | call =>
    obtain ⟨visit, visits, hvisits, rfl⟩ := step_call h
    simp only [planned, added, hvisits, filterMap_cons_eq, List.append_assoc, List.append_nil]

/-! ### The worker comes to rest -/

/-- The worker can get from one state to another while nothing else happens. -/
def Works (s s' : Courier ε) : Prop :=
  ∃ steps : List (DispatchEvent ε), (∀ e ∈ steps, e.isWork) ∧ s.run steps = some s'

theorem Works.refl (s : Courier ε) : s.Works s :=
  ⟨[], List.forall_mem_nil _, rfl⟩

theorem Works.trans {s₁ : Courier ε} (h : s.Works s₁) (h' : s₁.Works s') : s.Works s' := by
  obtain ⟨steps, hwork, hrun⟩ := h
  obtain ⟨steps', hwork', hrun'⟩ := h'
  refine ⟨steps ++ steps', List.forall_mem_append.2 ⟨hwork, hwork'⟩, ?_⟩
  rw [run_append, hrun, Option.bind_some, hrun']

theorem Works.head {s₁ : Courier ε} {e : DispatchEvent ε} (he : e.isWork)
    (hstep : s.step e = some s₁) (h : s₁.Works s') : s.Works s' := by
  obtain ⟨steps, hwork, hrun⟩ := h
  refine ⟨e :: steps, List.forall_mem_cons.2 ⟨he, hwork⟩, ?_⟩
  rw [run, List.foldlM_cons, hstep]
  exact hrun

/-- It calls all whom it has found registered, whatever these do. -/
theorem works_calls (s : Courier ε) :
    s.Works { s with visits := [], calls := s.planned } := by
  obtain ⟨dispatcher, held, looked, visits, calls⟩ := s
  induction visits generalizing calls with
  | nil => simpa [planned] using Works.refl _
  | cons visit visits ih =>
    refine Works.head (e := .call) rfl rfl ?_
    simp only [planned, filterMap_cons_eq, ← List.append_assoc]
    exact ih _

/-- It hands round the event that it holds. -/
theorem works_look {event : ε} (hheld : s.held = some event) : s.Works { s with
    held := none, looked := s.looked + 1, visits := []
    calls := s.calls ++ (s.dispatcher.callsFor event).map (s.looked, ·) } := by
  have hstep : s.step .look = some { s with
      held := none, looked := s.looked + 1
      visits := s.dispatcher.listeners.map fun (id, listener) =>
        ⟨s.looked, event, id, listener⟩ } := by
    rw [step, hheld, Option.map_some]
  have hcalls := works_calls { s with
      held := none, looked := s.looked + 1
      visits := s.dispatcher.listeners.map fun (id, listener) =>
        ⟨s.looked, event, id, listener⟩ }
  rw [planned, filterMap_call?_map] at hcalls
  exact .head rfl hstep hcalls

/-- All that it does for an event, without anything in between, is one delivery of the
dispatcher. -/
theorem works_deliver {event : ε} {queue : List ε} (hheld : s.held = none) (hvisits : s.visits = [])
    (hqueue : s.dispatcher.queue = event :: queue) : s.Works { s with
      dispatcher := s.dispatcher.deliver.2, looked := s.looked + 1
      calls := s.calls ++ s.dispatcher.deliver.1.map (s.looked, ·) } := by
  have htake : s.step .take = some { s with
      dispatcher := { s.dispatcher with queue }, held := some event } := by
    simp only [step, hheld, hvisits, hqueue]
  have hdeliver : s.dispatcher.deliver =
      (s.dispatcher.callsFor event, { s.dispatcher with queue }) := by
    rw [Dispatcher.deliver, hqueue]
  refine .head rfl htake ?_
  rw [hdeliver]
  have hlook := works_look (s := { s with
    dispatcher := { s.dispatcher with queue }, held := some event }) rfl
  simpa only [hheld, hvisits, Dispatcher.callsFor] using hlook

/-- The worker can always deliver all events that wait. No listener keeps it from that. -/
theorem exists_works_atRest (s : Courier ε) : ∃ s', s.Works s' ∧ s'.AtRest := by
  -- It finishes with the present event, and the others follow one by one.
  have hidle (s : Courier ε) (hheld : s.held = none) (hvisits : s.visits = []) :
      ∃ s', s.Works s' ∧ s'.AtRest := by
    induction hqueue : s.dispatcher.queue generalizing s with
    | nil => exact ⟨s, .refl s, hqueue, hheld, hvisits⟩
    | cons event queue ih =>
      have hdeliver := works_deliver hheld hvisits hqueue
      have hrest : s.dispatcher.deliver.2.queue = queue := by
        rw [Dispatcher.deliver, hqueue]
      obtain ⟨s', hworks, hatRest⟩ := ih { s with
        dispatcher := s.dispatcher.deliver.2, looked := s.looked + 1
        calls := s.calls ++ s.dispatcher.deliver.1.map (s.looked, ·) } hheld hvisits hrest
      exact ⟨s', hdeliver.trans hworks, hatRest⟩
  cases hheld : s.held with
  | none =>
    obtain ⟨s', hworks, hatRest⟩ := hidle { s with visits := [], calls := s.planned } hheld rfl
    exact ⟨s', s.works_calls.trans hworks, hatRest⟩
  | some event =>
    obtain ⟨s', hworks, hatRest⟩ := hidle { s with
      held := none, looked := s.looked + 1, visits := []
      calls := s.calls ++ (s.dispatcher.callsFor event).map (s.looked, ·) } rfl rfl
    exact ⟨s', (works_look hheld).trans hworks, hatRest⟩

end Courier

end LiveFlags
