import LiveFlags.Proofs.Status
import Mathlib.Data.List.Chain

/-!
# The history of the status

A tracker keeps one status and no history. What happened is told by the calls that it got: they
divide the time into *stays* in a state, and some of them bring an error. The status is what these
say last, and the tracker publishes it whenever the state changes or an error is given.

Main statement: `accounts_of_run`, on every sequence of calls.
-/

namespace LiveFlags

/-! ### What the calls say -/

/-- A call of a tracker, with the clock at that time. -/
inductive StatusCall where
  | update (requested : Option ConnectionState) (error : Option SourceError) (now : Nat)
  | setState (state : ConnectionState) (now : Nat)
  | recordError (error : SourceError) (now : Nat)

namespace StatusCall

def requested? : StatusCall → Option ConnectionState
  | update requested _ _ => requested
  | setState state _ => some state
  | recordError _ _ => none

def error? : StatusCall → Option SourceError
  | update _ error _ => error
  | setState _ _ => none
  | recordError error _ => some error

def now : StatusCall → Nat
  | update _ _ now | setState _ now | recordError _ now => now

end StatusCall

/-- A stay in a state. -/
structure Stay where
  state : ConnectionState
  since : Nat
deriving DecidableEq, Repr

/-- The stay that a status tells of. -/
def Status.stay (s : Status) : Stay :=
  ⟨s.state, s.since⟩

/-- The stay that a call begins. There is nothing to interrupt before the first data. -/
def Stay.next? (s : Stay) (c : StatusCall) : Option Stay :=
  match c.requested? with
  | none => none
  | some requested =>
    if requested = s.state ∨ (requested = .interrupted ∧ s.state = .initializing) then none
    else some ⟨requested, c.now⟩

/-- A stay can come right after another: it is in another state, and what was not yet connected is
not interrupted. -/
def Stay.Precedes (s s' : Stay) : Prop :=
  s'.state ≠ s.state ∧ ¬(s.state = .initializing ∧ s'.state = .interrupted)

/-- The stays so far, after one more call. -/
def Stay.extend (stays : List Stay) (c : StatusCall) : List Stay :=
  stays ++ (stays.getLast?.bind (·.next? c)).toList

/-- All stays from the beginning. -/
def staysOf (start : Nat) (calls : List StatusCall) : List Stay :=
  calls.foldl Stay.extend [⟨.initializing, start⟩]

/-- When the latest stay in `valid` began. -/
def lastValid (stays : List Stay) : Option Nat :=
  (stays.filter (·.state = .valid)).getLast?.map Stay.since

namespace StatusTracker

/-- A tracker that begins to work, with any observers. -/
def begin (start : Nat) (dispatcher : Dispatcher Status) : StatusTracker :=
  { current := { since := start }, dispatcher }

def follow (t : StatusTracker) : StatusCall → StatusTracker
  | .update requested error now => t.update requested error now
  | .setState state now => t.setState state now
  | .recordError error now => t.recordError error now

def run (t : StatusTracker) (calls : List StatusCall) : StatusTracker :=
  calls.foldl follow t

/-- What is to be published right after a call. -/
def newsOf (t : StatusTracker) (c : StatusCall) : List Status :=
  if (t.follow c).state ≠ t.state ∨ c.error?.isSome then [(t.follow c).current] else []

/-- The statuses right after the calls that change the state or give an error. -/
def news (t : StatusTracker) : List StatusCall → List Status
  | [] => []
  | c :: calls => t.newsOf c ++ (t.follow c).news calls

/-- What a tracker owes to its observers, and what its status has to say, after these calls. -/
structure Accounts (start : Nat) (dispatcher : Dispatcher Status) (calls : List StatusCall)
    (t : StatusTracker) : Prop where
  /-- Each change of the state and each error is published, in order, and nothing else. -/
  published : t.dispatcher = ((begin start dispatcher).news calls).foldl .dispatch dispatcher
  /-- All of this waits for the listeners, after what waited before. -/
  queue : t.dispatcher.queue = dispatcher.queue ++ (begin start dispatcher).news calls
  /-- The current status is the one that was published last. -/
  current : t.current = ((begin start dispatcher).news calls).getLastD { since := start }
  stay : (staysOf start calls).getLast? = some t.current.stay
  lastError : t.current.lastError = (calls.filterMap StatusCall.error?).getLast?
  lastSuccess : t.current.lastSuccess = lastValid (staysOf start calls)
  chain : (staysOf start calls).IsChain Stay.Precedes

end StatusTracker

/-! ### One call -/

theorem Stay.precedes_of_next? {s s' : Stay} {c : StatusCall} (h : s.next? c = some s') :
    s.Precedes s' := by
  unfold next? at h
  split at h
  · cases h
  · next requested _ =>
    split at h
    · cases h
    · cases h
      grind [Precedes]

theorem lastValid_append (stays : List Stay) (s : Stay) : lastValid (stays ++ [s]) =
    if s.state = .valid then some s.since else lastValid stays := by
  rw [lastValid, List.filter_append, List.getLast?_append, List.filter_singleton]
  by_cases hvalid : s.state = .valid <;> simp [hvalid, lastValid]

namespace Status

/-- During a stay in `valid` the latest success is the begin of this stay. -/
def IsSettled (s : Status) : Prop :=
  s.state = .valid → s.lastSuccess = some s.since

/-- The status after a call. -/
def after (s : Status) (c : StatusCall) : Status :=
  s.update c.requested? c.error? c.now

variable {s : Status} {c : StatusCall}

/-- An error has no part in the stay. -/
theorem after_eq (s : Status) (c : StatusCall) : ∃ lastError,
    s.after c = { (c.requested?.elim s (s.enter · c.now)) with lastError } := by
  unfold after update
  cases c.requested? <;> cases c.error? <;> exact ⟨_, rfl⟩

theorem stay_after (s : Status) (c : StatusCall) :
    (s.after c).stay = (s.stay.next? c).getD s.stay := by
  obtain ⟨lastError, heq⟩ := s.after_eq c
  rw [heq]
  cases hrequested : c.requested? with
  | none => simp [Stay.next?, hrequested, stay]
  | some requested =>
    simp only [Stay.next?, hrequested, Option.elim_some, enter, reached, stay]
    grind

theorem lastError_after (s : Status) (c : StatusCall) :
    (s.after c).lastError = c.error?.or s.lastError := by
  have henter (requested : ConnectionState) :
      (s.enter requested c.now).lastError = s.lastError := by
    simp only [enter]
    grind
  unfold after update
  cases c.requested? <;> cases c.error? <;> simp [record, henter]

theorem lastSuccess_after (hs : s.IsSettled) (c : StatusCall) : (s.after c).lastSuccess =
    if (s.after c).state = .valid then some (s.after c).since else s.lastSuccess := by
  obtain ⟨lastError, heq⟩ := s.after_eq c
  rw [heq]
  cases c.requested? with
  | none => simp only [Option.elim_none]; grind [IsSettled]
  | some requested =>
    simp only [Option.elim_some, enter]
    grind

theorem IsSettled.after (hs : s.IsSettled) (c : StatusCall) : (s.after c).IsSettled := by
  intro hvalid
  rw [lastSuccess_after hs, if_pos hvalid]

/-- The latest success is the begin of the last stay in `valid`, also after a call: it is that of
the stay which begins, or nothing has changed. -/
theorem IsSettled.lastSuccess_eq_lastValid (hs : s.IsSettled) {stays : List Stay}
    (h : s.lastSuccess = lastValid stays) (c : StatusCall) :
    (s.after c).lastSuccess = lastValid (stays ++ (s.stay.next? c).toList) := by
  have hstay := s.stay_after c
  rw [lastSuccess_after hs]
  cases hnext : s.stay.next? c with
  | none =>
    rw [hnext, Option.getD_none] at hstay
    have hstate : (s.after c).state = s.state := congrArg Stay.state hstay
    have hsince : (s.after c).since = s.since := congrArg Stay.since hstay
    rw [hstate, hsince, Option.toList_none, List.append_nil, ← h]
    split
    · next hvalid => exact (hs hvalid).symm
    · rfl
  | some next =>
    rw [hnext, Option.getD_some] at hstay
    have hstate : (s.after c).state = next.state := congrArg Stay.state hstay
    have hsince : (s.after c).since = next.since := congrArg Stay.since hstay
    rw [hstate, hsince, Option.toList_some, lastValid_append, h]

/-- The state changes exactly when a stay begins. -/
theorem state_after_eq_iff : (s.after c).state = s.state ↔ s.stay.next? c = none := by
  have hstate : (s.after c).state = ((s.stay.next? c).getD s.stay).state :=
    congrArg Stay.state (s.stay_after c)
  rw [hstate]
  cases hnext : s.stay.next? c with
  | none => exact iff_of_true rfl rfl
  | some next => exact iff_of_false (Stay.precedes_of_next? hnext).1 (Option.some_ne_none next)

/-- A call that begins no stay and gives no error changes nothing. -/
theorem IsSettled.after_eq_self (hs : s.IsSettled) (hstate : (s.after c).state = s.state)
    (herror : c.error? = none) : s.after c = s := by
  have hstay := s.stay_after c
  rw [state_after_eq_iff.1 hstate, Option.getD_none] at hstay
  have hsince : (s.after c).since = s.since := congrArg Stay.since hstay
  have hlastError := s.lastError_after c
  rw [herror, Option.none_or] at hlastError
  have hlastSuccess : (s.after c).lastSuccess = s.lastSuccess := by
    rw [lastSuccess_after hs, hstate, hsince]
    split
    · next hvalid => exact (hs hvalid).symm
    · rfl
  calc s.after c
    _ = ⟨(s.after c).state, (s.after c).since, (s.after c).lastError,
        (s.after c).lastSuccess⟩ := rfl
    _ = s := by rw [hstate, hsince, hlastError, hlastSuccess]

end Status

namespace StatusTracker

theorem follow_eq (t : StatusTracker) (c : StatusCall) :
    t.follow c = t.update c.requested? c.error? c.now := by
  cases c <;> rfl

theorem current_follow (t : StatusTracker) (c : StatusCall) :
    (t.follow c).current = t.current.after c := by
  rw [follow_eq]
  rfl

theorem dispatcher_follow (t : StatusTracker) (c : StatusCall) :
    (t.follow c).dispatcher = (t.newsOf c).foldl .dispatch t.dispatcher := by
  have hnews : t.current.isNews c.requested? c.error? = true ↔
      (t.follow c).state ≠ t.state ∨ c.error?.isSome := by
    rw [follow_eq, update_state, Status.isNews]
    cases c.requested? <;> simp [state, or_comm]
  rw [newsOf]
  split
  · next h =>
    rw [follow_eq]
    simp only [update, hnews.2 h, if_true]
    rfl
  · next h =>
    rw [follow_eq]
    simp only [update, mt hnews.1 h]
    rfl

/-! ### All calls -/

theorem news_concat (t : StatusTracker) (calls : List StatusCall) (c : StatusCall) :
    t.news (calls ++ [c]) = t.news calls ++ (t.run calls).newsOf c := by
  induction calls generalizing t with
  | nil => simp [news, run]
  | cons first calls ih =>
    rw [List.cons_append, news, ih, news, List.append_assoc]
    rfl

theorem run_concat (t : StatusTracker) (calls : List StatusCall) (c : StatusCall) :
    t.run (calls ++ [c]) = (t.run calls).follow c :=
  List.foldl_concat ..

theorem staysOf_concat {start : Nat} {calls : List StatusCall} {stay : Stay}
    (hlast : (staysOf start calls).getLast? = some stay) (c : StatusCall) :
    staysOf start (calls ++ [c]) = staysOf start calls ++ (stay.next? c).toList := by
  rw [staysOf, List.foldl_concat, Stay.extend, ← staysOf, hlast, Option.bind_some]

section Step

variable {start : Nat} {dispatcher : Dispatcher Status} {calls : List StatusCall}

theorem Accounts.isSettled {t : StatusTracker} (h : Accounts start dispatcher calls t) :
    t.current.IsSettled := by
  intro hvalid
  obtain ⟨earlier, heq⟩ := List.getLast?_eq_some_iff.1 h.stay
  rw [h.lastSuccess, heq, lastValid_append]
  exact if_pos hvalid

theorem Accounts.follow (h : Accounts start dispatcher calls ((begin start dispatcher).run calls))
    (c : StatusCall) : Accounts start dispatcher (calls ++ [c])
      ((begin start dispatcher).run (calls ++ [c])) := by
  have hsettled := h.isSettled
  have hstays := staysOf_concat h.stay c
  have hnews := (begin start dispatcher).news_concat calls c
  rw [run_concat]
  generalize (begin start dispatcher).run calls = t at *
  have hafter := t.current_follow c
  have hpublished : (t.follow c).dispatcher =
      ((begin start dispatcher).news (calls ++ [c])).foldl .dispatch dispatcher := by
    rw [dispatcher_follow, hnews, List.foldl_append, ← h.published]
  refine ⟨hpublished, ?queue, ?current, ?stay, ?lastError, ?lastSuccess, ?chain⟩
  case queue => rw [hpublished, Dispatcher.foldl_dispatch]
  case current =>
    rw [hnews, newsOf]
    split
    · exact List.getLastD_concat.symm
    · -- A call without news changes nothing.
      next hquiet =>
      rw [not_or, not_not, Option.not_isSome_iff_eq_none] at hquiet
      rw [List.append_nil, ← h.current, hafter]
      exact hsettled.after_eq_self (by rw [← hafter]; exact hquiet.1) hquiet.2
  case stay =>
    rw [hstays, List.getLast?_append, h.stay, hafter, Status.stay_after]
    cases t.current.stay.next? c <;> rfl
  case lastError =>
    rw [hafter, Status.lastError_after, h.lastError, List.filterMap_append, List.getLast?_append]
    cases herror : c.error? <;> simp [herror]
  case lastSuccess =>
    rw [hafter, hstays]
    exact hsettled.lastSuccess_eq_lastValid h.lastSuccess c
  case chain =>
    rw [hstays]
    cases hnext : t.current.stay.next? c with
    | none => simpa using h.chain
    | some next =>
      refine h.chain.append (List.isChain_singleton _) fun last hlast first hfirst => ?_
      rw [h.stay, Option.mem_some_iff] at hlast
      cases hfirst
      subst hlast
      exact Stay.precedes_of_next? hnext

end Step

/-- **The status tells what happened**, whatever calls there are: what is published, and when, the
state with the time since which it lasts, the latest error, and when the latest stay in `valid`
began. -/
theorem accounts_of_run (start : Nat) (dispatcher : Dispatcher Status) (calls : List StatusCall) :
    Accounts start dispatcher calls ((begin start dispatcher).run calls) := by
  induction calls using List.reverseRecOn with
  | nil =>
    exact ⟨rfl, (List.append_nil _).symm, rfl, rfl, rfl, rfl, List.isChain_singleton _⟩
  | append_singleton calls c ih => exact ih.follow c

end StatusTracker

end LiveFlags
