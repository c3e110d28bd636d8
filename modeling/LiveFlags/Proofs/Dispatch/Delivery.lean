import LiveFlags.Proofs.Dispatch.Courier

/-!
# Who is called for which event

What happened around a dispatcher decides who is called, for which events and in which order.
Whether a listener is registered can be told from the registrations and removals so far, and the
n-th time that the worker reads the listeners is for the n-th event that was dispatched.

`Delivers` is what is to be said of the deliveries, and `delivers_of_run` says it of every order in
which these things may happen.
-/

namespace LiveFlags

variable {ε : Type}

/-! ### What happened -/

namespace DispatchEvent

def isRegister : DispatchEvent ε → Bool
  | register _ => true
  | _ => false

def isLook : DispatchEvent ε → Bool
  | look => true
  | _ => false

def dispatched? : DispatchEvent ε → Option ε
  | dispatch event => some event
  | _ => none

end DispatchEvent

/-- The events that were dispatched, in order. -/
def dispatched (es : List (DispatchEvent ε)) : List ε :=
  es.filterMap DispatchEvent.dispatched?

/-- How often the worker has read the listeners. -/
def looksOf (es : List (DispatchEvent ε)) : Nat :=
  es.countP DispatchEvent.isLook

/-- The id that is handed out next. -/
def idAfter (es : List (DispatchEvent ε)) : Nat :=
  es.countP DispatchEvent.isRegister + 1

/-- The listener got this id when it was registered, and has not been removed since. -/
def IsRegistered (es : List (DispatchEvent ε)) (id : Nat) (listener : Listener ε) : Prop :=
  ∃ before after, es = before ++ .register listener :: after ∧ id = idAfter before ∧
    .unregister id ∉ after

/-- The same listener without its panics. -/
def Listener.calm (listener : Listener ε) : Listener ε :=
  { listener with panics := fun _ => false }

def DispatchEvent.calm : DispatchEvent ε → DispatchEvent ε
  | register listener => register listener.calm
  | e => e

def Call.calm (call : Call ε) : Call ε :=
  { call with panicked := false }

def Visit.calm (v : Visit ε) : Visit ε :=
  { v with listener := v.listener.calm }

namespace Courier

/-- All that is left of a state if nobody panics. -/
def calm (s : Courier ε) : Courier ε :=
  { s with
    dispatcher := { s.dispatcher with
      listeners := s.dispatcher.listeners.map (Prod.map id Listener.calm) }
    visits := s.visits.map Visit.calm
    calls := s.calls.map (Prod.map id Call.calm) }

/-- The calls that a listener got for an event. -/
def callsOf (calls : List (Nat × Call ε)) (number id : Nat) : List (Call ε) :=
  (calls.filter fun c => c.1 = number ∧ c.2.id = id).map (·.2)

/-- A call that comes before another: that for the earlier event, or among the calls for one event
that of the listener who was registered earlier. -/
def Precedes (c c' : Nat × Call ε) : Prop :=
  c.1 < c'.1 ∨ (c.1 = c'.1 ∧ c.2.id < c'.2.id)

/-- What is to be said of the deliveries after these events. -/
structure Delivers (es : List (DispatchEvent ε)) (s : Courier ε) : Prop where
  /-- When the worker is through with an event, each listener that was registered when it came to it
  has been called for the event once, if it listens to it, and nobody else. -/
  once : ∀ before after, es = before ++ .look :: after →
    (∀ visit ∈ s.visits, visit.number ≠ looksOf before) →
    ∃ event, (dispatched before)[looksOf before]? = some event ∧
      (∀ id listener, IsRegistered before id listener →
        callsOf s.calls (looksOf before) id = (listener.react id event).toList) ∧
      ∀ id, (∀ listener, ¬IsRegistered before id listener) →
        callsOf s.calls (looksOf before) id = []
  /-- Nobody is called for other events. -/
  known : ∀ call ∈ s.calls, call.1 < looksOf es
  ordered : s.calls.Pairwise Precedes
  /-- No event is lost: one that the worker has not come to is held, or waits in its place. -/
  waiting : (dispatched es).drop (looksOf es) = s.held.toList ++ s.dispatcher.queue
  /-- When the worker is at rest, it has come to each event that was dispatched. -/
  processed : s.AtRest → ∀ number < (dispatched es).length,
    ∃ before after, es = before ++ .look :: after ∧ looksOf before = number
  /-- The worker can always go on until all events are delivered. -/
  progress : ∃ s', s.Works s' ∧ s'.AtRest
  /-- If other listeners panic, or the same ones for other events, all calls are the same, and so is
  what is still to be done. -/
  panics : ∀ es', es'.map DispatchEvent.calm = es.map DispatchEvent.calm →
    ∃ s', Courier.run {} es' = some s' ∧ s'.calm = s.calm
  /-- A new listener gets an id that nobody has. -/
  register : ∀ listener, (s.dispatcher.register listener).1 = idAfter es ∧
    ∀ listener', ¬IsRegistered es (idAfter es) listener'
  /-- The id removes the one listener that has it. -/
  unregister : ∀ id,
    ((s.dispatcher.unregister id).1 = true ↔ ∃ listener, IsRegistered es id listener) ∧
    ∀ i listener, (i, listener) ∈ (s.dispatcher.unregister id).2.listeners ↔
      IsRegistered es i listener ∧ i ≠ id

end Courier

/-! ### Registered listeners -/

theorem dispatched_concat (es : List (DispatchEvent ε)) (e : DispatchEvent ε) :
    dispatched (es ++ [e]) = dispatched es ++ e.dispatched?.toList := by
  rw [dispatched, List.filterMap_append, filterMap_cons_eq, List.filterMap_nil, List.append_nil]
  rfl

theorem looksOf_concat (es : List (DispatchEvent ε)) (e : DispatchEvent ε) :
    looksOf (es ++ [e]) = looksOf es + if e.isLook then 1 else 0 := by
  rw [looksOf, List.countP_append, List.countP_singleton]
  rfl

/-- The worker has read the listeners for each event up to the number of times that it did. -/
theorem exists_look {es : List (DispatchEvent ε)} {number : Nat} (h : number < looksOf es) :
    ∃ before after, es = before ++ .look :: after ∧ looksOf before = number := by
  obtain ⟨before, e, after, rfl, he, hnumber⟩ := History.exists_split_of_lt_countP h
  cases e with
  | look => exact ⟨before, after, rfl, hnumber⟩
  | register | unregister | dispatch | take | call => cases he

theorem idAfter_concat (es : List (DispatchEvent ε)) (e : DispatchEvent ε) :
    idAfter (es ++ [e]) = idAfter es + if e.isRegister then 1 else 0 := by
  rw [idAfter, List.countP_append, List.countP_singleton, idAfter]
  omega

theorem IsRegistered.lt {es : List (DispatchEvent ε)} {id : Nat} {listener : Listener ε}
    (h : IsRegistered es id listener) : id < idAfter es := by
  obtain ⟨before, after, rfl, rfl, -⟩ := h
  simp only [idAfter, List.countP_append, List.countP_cons, DispatchEvent.isRegister, if_true]
  omega

/-- A listener is registered by the event for that, until the one that removes it. -/
theorem isRegistered_concat {es : List (DispatchEvent ε)} {e : DispatchEvent ε} {id : Nat}
    {listener : Listener ε} : IsRegistered (es ++ [e]) id listener ↔
      (e = .register listener ∧ id = idAfter es) ∨
        (IsRegistered es id listener ∧ e ≠ .unregister id) := by
  constructor
  · rintro ⟨before, after, heq, hid, hkept⟩
    rcases History.split_concat heq with ⟨-, rfl, hlast⟩ | ⟨after, rfl, rfl⟩
    · exact .inl ⟨hlast, hid⟩
    · refine .inr ⟨⟨before, after, rfl, hid, fun hmem => hkept ?_⟩, fun hlast => hkept ?_⟩
      · exact List.mem_append_left _ hmem
      · exact List.mem_append_right _ (List.mem_singleton.2 hlast.symm)
  · rintro (⟨rfl, hid⟩ | ⟨⟨before, after, rfl, hid, hkept⟩, hne⟩)
    · exact ⟨es, [], rfl, hid, List.not_mem_nil⟩
    · refine ⟨before, after ++ [e], by simp, hid, ?_⟩
      simpa using ⟨hkept, fun heq => hne heq.symm⟩

/-- A call names the listener who got it. -/
theorem Listener.id_of_react {listener : Listener ε} {id : Nat} {event : ε} {call : Call ε}
    (h : listener.react id event = some call) : call.id = id := by
  rw [react] at h
  split at h
  · cases h
    rfl
  · cases h

section CallsFor

variable {listeners : List (Nat × Listener ε)} {event : ε} {id : Nat}

/-- What becomes of an event if these listeners are registered. -/
abbrev reactions (listeners : List (Nat × Listener ε)) (event : ε) : List (Call ε) :=
  listeners.filterMap fun (id, listener) => listener.react id event

theorem filter_reactions_of_forall_ne (h : ∀ entry ∈ listeners, entry.1 ≠ id) :
    (reactions listeners event).filter (·.id = id) = [] := by
  refine List.filter_eq_nil_iff.2 fun call hcall => ?_
  obtain ⟨entry, hentry, hreact⟩ := List.mem_filterMap.1 hcall
  have hid := Listener.id_of_react hreact
  simpa [hid] using h entry hentry

theorem filter_reactions_of_mem (hsorted : listeners.Pairwise (·.1 < ·.1)) {listener : Listener ε}
    (hmem : (id, listener) ∈ listeners) :
    (reactions listeners event).filter (·.id = id) = (listener.react id event).toList := by
  obtain ⟨before, after, rfl⟩ := List.append_of_mem hmem
  obtain ⟨-, hafter, hbefore⟩ := List.pairwise_append.1 hsorted
  have hbefore' : ∀ entry ∈ before, entry.1 ≠ id := fun entry hentry =>
    Nat.ne_of_lt (hbefore entry hentry _ List.mem_cons_self)
  have hafter' : ∀ entry ∈ after, entry.1 ≠ id := fun entry hentry =>
    Nat.ne_of_gt ((List.pairwise_cons.1 hafter).1 entry hentry)
  have hself : (listener.react id event).toList.filter (·.id = id) =
      (listener.react id event).toList := by
    refine List.filter_eq_self.2 fun call hcall => ?_
    simpa using Listener.id_of_react (Option.mem_toList.1 hcall)
  rw [reactions, List.filterMap_append, filterMap_cons_eq, List.filter_append, List.filter_append,
    filter_reactions_of_forall_ne hbefore',
    filter_reactions_of_forall_ne hafter', hself, List.nil_append, List.append_nil]

end CallsFor

namespace Courier

variable {s s' : Courier ε} {es : List (DispatchEvent ε)}

/-! ### What a run keeps -/

/-- The listeners are those that are registered, in the order of their registration. -/
structure Enrolled (es : List (DispatchEvent ε)) (s : Courier ε) : Prop where
  nextId : s.dispatcher.nextId = idAfter es
  mem : ∀ id listener, (id, listener) ∈ s.dispatcher.listeners ↔ IsRegistered es id listener
  sorted : s.dispatcher.listeners.Pairwise (·.1 < ·.1)

/-- The events are those that were dispatched, in their order. -/
structure Queued (es : List (DispatchEvent ε)) (s : Courier ε) : Prop where
  looked : s.looked = looksOf es
  events : ∃ past : List ε, past.length = s.looked ∧
    dispatched es = past ++ (s.held.toList ++ s.dispatcher.queue)

/-- The calls are in order. -/
structure Noted (s : Courier ε) : Prop where
  known : ∀ call ∈ s.planned, call.1 < s.looked
  ordered : s.planned.Pairwise Precedes

theorem Enrolled.of_eq (hs : Enrolled es s) {e : DispatchEvent ε}
    (hregister : e.isRegister = false) (hunregister : ∀ id, e ≠ .unregister id)
    (hlisteners : s'.dispatcher.listeners = s.dispatcher.listeners)
    (hnextId : s'.dispatcher.nextId = s.dispatcher.nextId) : Enrolled (es ++ [e]) s' where
  nextId := by rw [hnextId, hs.nextId, idAfter_concat, hregister]; rfl
  mem id listener := by
    have hne : e ≠ .register listener := by
      rintro rfl
      cases hregister
    rw [hlisteners, hs.mem, isRegistered_concat]
    simp [hne, hunregister id]
  sorted := hlisteners ▸ hs.sorted

/-- The listeners follow what the events say of them. -/
theorem Enrolled.step (hs : Enrolled es s) {e : DispatchEvent ε} (h : s.step e = some s') :
    Enrolled (es ++ [e]) s' := by
  cases e with
  | register listener =>
    cases h
    refine ⟨?_, fun id listener' => ?_, ?_⟩
    · rw [idAfter_concat, ← hs.nextId]
      rfl
    · rw [isRegistered_concat, ← hs.nextId, ← hs.mem]
      grind [Dispatcher.register]
    · refine List.pairwise_append.2 ⟨hs.sorted, List.pairwise_singleton .., ?_⟩
      rintro ⟨id, listener'⟩ hmem entry hentry
      rw [List.mem_singleton.1 hentry, hs.nextId]
      exact ((hs.mem id listener').1 hmem).lt
  | unregister id =>
    cases h
    refine ⟨?_, fun id' listener => ?_, hs.sorted.filter _⟩
    · rw [idAfter_concat, ← hs.nextId]
      rfl
    · rw [isRegistered_concat, ← hs.mem]
      grind [Dispatcher.unregister]
  | dispatch event =>
    cases h
    exact hs.of_eq rfl nofun rfl rfl
  | take =>
    obtain ⟨event, queue, -, -, -, rfl⟩ := step_take h
    exact hs.of_eq rfl nofun rfl rfl
  | look =>
    obtain ⟨event, -, rfl⟩ := step_look h
    exact hs.of_eq rfl nofun rfl rfl
  | call =>
    obtain ⟨visit, visits, -, rfl⟩ := step_call h
    exact hs.of_eq rfl nofun rfl rfl

/-- Events are taken in the order in which they were dispatched. -/
theorem Queued.step (hs : Queued es s) {e : DispatchEvent ε} (h : s.step e = some s') :
    Queued (es ++ [e]) s' := by
  obtain ⟨hlooked, past, hlength, hevents⟩ := hs
  cases e with
  | register | unregister | dispatch =>
    cases h
    refine ⟨by rw [looksOf_concat, ← hlooked]; rfl, past, hlength, ?_⟩
    rw [dispatched_concat, hevents]
    simp [DispatchEvent.dispatched?, Dispatcher.register, Dispatcher.unregister,
      Dispatcher.dispatch]
  | take =>
    obtain ⟨event, queue, hheld, -, hqueue, rfl⟩ := step_take h
    refine ⟨by rw [looksOf_concat, ← hlooked]; rfl, past, hlength, ?_⟩
    rw [dispatched_concat, hevents, hheld, hqueue]
    simp [DispatchEvent.dispatched?]
  | look =>
    -- The event that was held is past with this look.
    obtain ⟨event, hheld, rfl⟩ := step_look h
    refine ⟨by rw [looksOf_concat, ← hlooked]; rfl, past ++ [event], by simp [hlength], ?_⟩
    rw [dispatched_concat, hevents, hheld]
    simp [DispatchEvent.dispatched?]
  | call =>
    obtain ⟨visit, visits, -, rfl⟩ := step_call h
    refine ⟨by rw [looksOf_concat, ← hlooked]; rfl, past, hlength, ?_⟩
    rw [dispatched_concat, hevents]
    simp [DispatchEvent.dispatched?]

/-- The calls that are added are in order, and come after all others. -/
theorem pairwise_added (hsorted : s.dispatcher.listeners.Pairwise (·.1 < ·.1))
    (e : DispatchEvent ε) : (s.added e).Pairwise Precedes ∧
      ∀ call ∈ s.added e, call.1 = s.looked ∧ e.isLook = true := by
  cases e with
  | register | unregister | dispatch | take | call => exact ⟨.nil, List.forall_mem_nil _⟩
  | look =>
    refine ⟨?_, ?_⟩
    · cases hheld : s.held with
      | none =>
        simp only [added, hheld]
        exact .nil
      | some event =>
        have hcalls : (s.dispatcher.callsFor event).Pairwise (·.id < ·.id) := by
          refine List.pairwise_filterMap.2 (hsorted.imp fun hlt call hcall call' hcall' => ?_)
          rw [Listener.id_of_react hcall, Listener.id_of_react hcall']
          exact hlt
        simp only [added, hheld, Option.toList_some, List.flatMap_singleton]
        exact List.pairwise_map.2 (hcalls.imp fun hlt => Or.inr ⟨rfl, hlt⟩)
    · intro call hcall
      obtain ⟨made, -, rfl⟩ := List.mem_map.1 hcall
      exact ⟨rfl, rfl⟩

theorem looked_of_step {e : DispatchEvent ε} (h : s.step e = some s') :
    s'.looked = s.looked + if e.isLook then 1 else 0 := by
  cases e with
  | register | unregister | dispatch =>
    cases h
    rfl
  | take =>
    obtain ⟨event, queue, -, -, -, rfl⟩ := step_take h
    rfl
  | look =>
    obtain ⟨event, -, rfl⟩ := step_look h
    rfl
  | call =>
    obtain ⟨visit, visits, -, rfl⟩ := step_call h
    rfl

/-- New calls are for the event that is read now, so they come last. -/
theorem Noted.step (hs : Noted s) (hfree : s.IsFree)
    (hsorted : s.dispatcher.listeners.Pairwise (·.1 < ·.1)) {e : DispatchEvent ε}
    (h : s.step e = some s') : Noted s' := by
  obtain ⟨hordered, hadded⟩ := pairwise_added hsorted e
  have hlooked := looked_of_step h
  have hplanned := planned_of_step hfree h
  refine ⟨fun call hcall => ?_, ?_⟩
  · rw [hplanned, List.mem_append] at hcall
    rw [hlooked]
    rcases hcall with hold | hnew
    · exact Nat.lt_add_right _ (hs.known call hold)
    · obtain ⟨heq, hlook⟩ := hadded call hnew
      rw [heq, hlook, if_pos rfl]
      exact Nat.lt_succ_self _
  · rw [hplanned]
    refine List.pairwise_append.2 ⟨hs.ordered, hordered, fun call hcall call' hcall' => .inl ?_⟩
    rw [(hadded call' hcall').1]
    exact hs.known call hcall

/-- What holds after these events, from the beginning. -/
structure Sound (es : List (DispatchEvent ε)) (s : Courier ε) : Prop where
  free : s.IsFree
  enrolled : Enrolled es s
  queued : Queued es s
  noted : Noted s

theorem Sound.step (hs : Sound es s) {e : DispatchEvent ε} (h : s.step e = some s') :
    Sound (es ++ [e]) s' where
  free := hs.free.step h
  enrolled := hs.enrolled.step h
  queued := hs.queued.step h
  noted := hs.noted.step hs.free hs.enrolled.sorted h

/-- All this holds in every run. -/
theorem sound_of_run (h : Courier.run {} es = some s) : Sound es s := by
  refine run_induction ?_ (fun es e s s' hs hstep => hs.step hstep) h
  refine ⟨fun _ => rfl, ⟨rfl, fun id listener => ?_, .nil⟩, ⟨rfl, [], rfl, rfl⟩,
    ⟨List.forall_mem_nil _, .nil⟩⟩
  simp [IsRegistered]

/-! ### The calls for one event -/

/-- What a run adds to the calls of a state is for later events. -/
structure Continues (es : List (DispatchEvent ε)) (s₁ s : Courier ε) : Prop where
  sound : Sound es s
  looked : s₁.looked ≤ s.looked
  later : ∃ later, s.planned = s₁.planned ++ later ∧ ∀ call ∈ later, s₁.looked ≤ call.1

theorem Continues.step {s₁ : Courier ε} (hs : Continues es s₁ s) {e : DispatchEvent ε}
    (h : s.step e = some s') : Continues (es ++ [e]) s₁ s' where
  sound := hs.sound.step h
  looked := by
    rw [looked_of_step h]
    exact Nat.le_add_right_of_le hs.looked
  later := by
    obtain ⟨later, hplanned, hlater⟩ := hs.later
    refine ⟨later ++ s.added e, ?_, List.forall_mem_append.2 ⟨hlater, fun call hcall => ?_⟩⟩
    · rw [planned_of_step hs.sound.free h, hplanned, List.append_assoc]
    · rw [((pairwise_added hs.sound.enrolled.sorted e).2 call hcall).1]
      exact hs.looked

/-- What a state has noted stays, whatever is called later. -/
theorem continues_of_run {s₁ : Courier ε} (hs₁ : Sound es s₁) {es' : List (DispatchEvent ε)}
    (h : s₁.run es' = some s) : Continues (es ++ es') s₁ s := by
  refine run_induction (motive := fun es' s => Continues (es ++ es') s₁ s) ?_
    (fun es' e s s' hs hstep => ?_) h
  · rw [List.append_nil]
    exact ⟨hs₁, Nat.le_refl _, [], (List.append_nil _).symm, List.forall_mem_nil _⟩
  · rw [← List.append_assoc]
    exact hs.step hstep

theorem callsOf_append (calls calls' : List (Nat × Call ε)) (number id : Nat) :
    callsOf (calls ++ calls') number id = callsOf calls number id ++ callsOf calls' number id := by
  rw [callsOf, List.filter_append, List.map_append]
  rfl

theorem callsOf_eq_nil {calls : List (Nat × Call ε)} {number : Nat}
    (h : ∀ call ∈ calls, call.1 ≠ number) (id : Nat) : callsOf calls number id = [] := by
  rw [callsOf, List.map_eq_nil_iff, List.filter_eq_nil_iff]
  intro call hcall
  simp [h call hcall]

theorem callsOf_map (number : Nat) (calls : List (Call ε)) (id : Nat) :
    callsOf (calls.map (number, ·)) number id = calls.filter (·.id = id) := by
  simp [callsOf, List.filter_map, Function.comp_def]

/-- All calls for an event are planned when the worker reads the listeners. -/
theorem callsOf_planned {before after : List (DispatchEvent ε)}
    (h : Courier.run {} (before ++ .look :: after) = some s) : ∃ s₀ event,
      Sound before s₀ ∧ s₀.held = some event ∧
      ∀ id, callsOf s.planned (looksOf before) id =
        (reactions s₀.dispatcher.listeners event).filter (·.id = id) := by
  obtain ⟨s₀, s₁, hrun₀, hstep, hrun⟩ := History.foldlM_append_cons_eq_some.1 h
  have hs₀ := sound_of_run hrun₀
  obtain ⟨later, hplanned, hlater⟩ := (continues_of_run (hs₀.step hstep) hrun).later
  have hplanned₁ := planned_of_step hs₀.free hstep
  have hlooked₁ := looked_of_step hstep
  obtain ⟨event, hheld, -⟩ := step_look hstep
  refine ⟨s₀, event, hs₀, hheld, fun id => ?_⟩
  -- Calls that were planned before are for earlier events, and later ones for later events.
  have hearlier : callsOf s₀.planned (looksOf before) id = [] :=
    callsOf_eq_nil (fun call hcall => by
      have := hs₀.noted.known call hcall
      rw [hs₀.queued.looked] at this
      exact Nat.ne_of_lt this) id
  have hlater' : callsOf later (looksOf before) id = [] :=
    callsOf_eq_nil (fun call hcall => by
      have := hlater call hcall
      rw [hlooked₁, hs₀.queued.looked] at this
      exact Nat.ne_of_gt this) id
  rw [hplanned, hplanned₁, callsOf_append, callsOf_append, hearlier, hlater', List.nil_append,
    List.append_nil, added, hheld, hs₀.queued.looked, Option.toList_some, List.flatMap_singleton,
    callsOf_map]
  rfl

/-- When the worker is through with the event, all these calls have been made. -/
theorem callsOf_of_through {before after : List (DispatchEvent ε)}
    (h : Courier.run {} (before ++ .look :: after) = some s)
    (hthrough : ∀ visit ∈ s.visits, visit.number ≠ looksOf before) : ∃ s₀ event,
      Sound before s₀ ∧ s₀.held = some event ∧
      ∀ id, callsOf s.calls (looksOf before) id =
        (reactions s₀.dispatcher.listeners event).filter (·.id = id) := by
  obtain ⟨s₀, event, hs₀, hheld, hcalls⟩ := callsOf_planned h
  refine ⟨s₀, event, hs₀, hheld, fun id => ?_⟩
  have hvisits : callsOf (s.visits.filterMap Visit.call?) (looksOf before) id = [] := by
    refine callsOf_eq_nil (fun call hcall => ?_) id
    obtain ⟨visit, hvisit, heq⟩ := List.mem_filterMap.1 hcall
    obtain ⟨made, -, rfl⟩ := Option.map_eq_some_iff.1 heq
    exact hthrough visit hvisit
  rw [← hcalls, planned, callsOf_append, hvisits, List.append_nil]

/-- The worker holds the event that was dispatched when as many had been before. -/
theorem Queued.getElem?_dispatched (hs : Queued es s) {event : ε} (hheld : s.held = some event) :
    (dispatched es)[looksOf es]? = some event := by
  obtain ⟨hlooked, past, hlength, hevents⟩ := hs
  rw [hevents, hheld, ← hlooked, ← hlength]
  simp

/-- What was dispatched and not yet looked at is held or waits. -/
theorem Queued.drop_dispatched (hs : Queued es s) :
    (dispatched es).drop (looksOf es) = s.held.toList ++ s.dispatcher.queue := by
  obtain ⟨hlooked, past, hlength, hevents⟩ := hs
  rw [hevents, ← hlooked, ← hlength, List.drop_left]

/-! ### Panics -/

theorem Visit.call?_calm (v : Visit ε) : v.calm.call? = v.call?.map (Prod.map id Call.calm) := by
  by_cases hhears : v.listener.hears v.event <;>
    simp [Visit.call?, Visit.calm, Listener.react, Listener.calm, Call.calm, hhears]

/-- A panic changes nothing but the note on its own call. -/
theorem step_calm (s : Courier ε) (e : DispatchEvent ε) :
    s.calm.step e.calm = (s.step e).map calm := by
  cases e with
  | register listener =>
    simp [step, calm, DispatchEvent.calm, Dispatcher.register]
  | unregister id =>
    simp [step, calm, DispatchEvent.calm, Dispatcher.unregister, List.filter_map,
      Function.comp_def]
  | dispatch event => rfl
  | take =>
    simp only [step, calm, DispatchEvent.calm]
    cases s.held <;> cases s.visits <;> cases s.dispatcher.queue <;> rfl
  | look =>
    simp only [step, calm, DispatchEvent.calm]
    cases s.held with
    | none => rfl
    | some event => simp [calm, Function.comp_def, Visit.calm]
  | call =>
    simp only [step, calm, DispatchEvent.calm]
    cases s.visits with
    | nil => rfl
    | cons visit visits =>
      simp only [List.map_cons, Visit.call?_calm, Option.map_some, calm]
      cases visit.call? <;> simp

/-- So all other calls are made as if nobody panicked. -/
theorem run_calm (s : Courier ε) (es : List (DispatchEvent ε)) :
    s.calm.run (es.map DispatchEvent.calm) = (s.run es).map calm := by
  induction es generalizing s with
  | nil => rfl
  | cons e es ih =>
    rw [List.map_cons, run, List.foldlM_cons, step_calm, run, List.foldlM_cons]
    cases s.step e with
    | none => rfl
    | some s' => exact ih s'

/-- Whoever panics, the courier gets to the same point. -/
theorem exists_run_of_calm {es es' : List (DispatchEvent ε)} (h : Courier.run {} es = some s)
    (heq : es'.map DispatchEvent.calm = es.map DispatchEvent.calm) :
    ∃ s', Courier.run {} es' = some s' ∧ s'.calm = s.calm := by
  have hrun := run_calm ({} : Courier ε) es
  have hrun' := run_calm ({} : Courier ε) es'
  rw [h, ← heq, hrun', Option.map_some] at hrun
  exact Option.map_eq_some_iff.1 hrun

/-! ### Every run delivers -/

/-- What counts is who is registered when the worker comes to the event: anyone who was registered
before the event was dispatched, unless he was removed by then. -/
theorem delivers_of_run (h : Courier.run {} es = some s) : Delivers es s := by
  have hs := sound_of_run h
  refine ⟨?once, ?known, ?ordered, hs.queued.drop_dispatched, ?processed, ?progress, ?panics,
    ?register, ?unregister⟩
  case once =>
    rintro before after rfl hthrough
    obtain ⟨s₀, event, hs₀, hheld, hcalls⟩ := callsOf_of_through h hthrough
    refine ⟨event, hs₀.queued.getElem?_dispatched hheld, fun id listener hregistered => ?_,
      fun id hnobody => ?_⟩
    · rw [hcalls]
      exact filter_reactions_of_mem hs₀.enrolled.sorted
        ((hs₀.enrolled.mem id listener).2 hregistered)
    · rw [hcalls]
      refine filter_reactions_of_forall_ne ?_
      rintro ⟨id', listener⟩ hmem rfl
      exact hnobody listener ((hs₀.enrolled.mem id' listener).1 hmem)
  case known =>
    intro call hcall
    rw [← hs.queued.looked]
    exact hs.noted.known call (List.mem_append_left _ hcall)
  case ordered => exact (List.pairwise_append.1 hs.noted.ordered).1
  case processed =>
    intro hrest number hnumber
    -- At rest nothing is left to be looked at.
    have hnone : (dispatched es).drop (looksOf es) = [] := by
      rw [hs.queued.drop_dispatched, hrest.held, hrest.queue]
      rfl
    exact exists_look (Nat.lt_of_lt_of_le hnumber (List.drop_eq_nil_iff.1 hnone))
  case progress => exact exists_works_atRest s
  case panics => exact fun es' heq => exists_run_of_calm h heq
  case register =>
    intro listener
    refine ⟨hs.enrolled.nextId, fun listener' hregistered => ?_⟩
    exact Nat.lt_irrefl _ hregistered.lt
  case unregister =>
    intro id
    refine ⟨?_, fun i listener => ?_⟩
    · simp only [Dispatcher.unregister, Dispatcher.isRegistered, ← hs.enrolled.mem]
      simp
    · simp only [Dispatcher.unregister, ← hs.enrolled.mem]
      simp

end Courier

end LiveFlags
