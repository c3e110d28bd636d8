import LiveFlags.Proofs.Source.Streaming
import Mathlib.Data.List.Basic

/-!
# What a polling source does

A service is described by its answers to the fetches of a source. A `Polling.Course` is a source at
work together with the answers to come; it takes one turn after the other until it has stopped or
waits for an answer that there is none to any more.

All that the source has done by then is its opening, and a round for each answer that it got:
`Polling.opening` and `Polling.round` say what these are.

Main statement: `polls_of_begin`, on every sequence of answers.
-/

namespace LiveFlags

/-! ### What there is to do -/

def Act.delivery? : Act → Option Delivery
  | deliver delivery => some delivery
  | _ => none

/-- The time that an act takes at least. -/
def Act.span : Act → Nat
  | wait delay => delay.nanos
  | deliver _ | resolve _ | fetch | subscribe => 0

/-- The time that has passed at least when all this is done. -/
def spanOf : List Act → Nat
  | [] => 0
  | act :: acts => act.span + spanOf acts

/-- What is delivered when a fetch is answered. -/
def Delivery.ofAnswer (identity : Identity) : Except SourceError Snapshot → List Delivery
  | .ok flags => [.snapshot identity flags, .valid]
  | .error error => if error.isRecoverable then [.interrupted error] else [.failure error]

/-- The answer ends the work of a source. -/
def isFatal : Except SourceError Snapshot → Bool
  | .ok _ => false
  | .error error => !error.isRecoverable

/-- The answer brings the whole set of flags. -/
def isSuccess : Except SourceError Snapshot → Bool
  | .ok _ => true
  | .error _ => false

/-- The answers that a source gets: none after one that ends its work. -/
def answersHeard : List (Except SourceError Snapshot) → List (Except SourceError Snapshot)
  | [] => []
  | answer :: answers => if isFatal answer then [answer] else answer :: answersHeard answers

namespace Polling

/-- There are data that count as current until the first fetch, which waits. -/
def isCurrent (p : Polling) : Bool :=
  p.initialDelay ≠ .zero && p.context.initialized

/-- What a source does before the first fetch. -/
def opening (p : Polling) : List Act :=
  (if p.isCurrent then [.resolve true] else []) ++
    if p.initialDelay = .zero then [] else [.wait p.initialDelay]

/-- What a source does because of an answer. -/
def round (p : Polling) (answer : Except SourceError Snapshot) : List Act :=
  (Delivery.ofAnswer p.context.identity answer).map .deliver ++
    match answer with
    | .ok _ => [.resolve true, .wait p.interval]
    | .error error => if error.isRecoverable then [.wait p.interval] else [.resolve false]

/-- A source at work, and what is to come. -/
structure Course where
  await : Await
  /-- The answers that it got. -/
  got : List (Except SourceError Snapshot) := []
  /-- The answers to further fetches. -/
  answers : List (Except SourceError Snapshot)
  acts : List Act := []
  /-- The outcome of the start. -/
  outcome : Option Bool := none
  /-- Whether the source has data. -/
  loaded : Bool := false

namespace Course

/-- The worker takes a turn. -/
def take (c : Course) (turn : Turn) : Course :=
  { c with
    await := turn.await, acts := c.acts ++ turn.acts, outcome := c.outcome.or turn.outcome
    loaded := c.loaded || turn.loaded }

/-- The worker gets an answer. -/
def hear (p : Polling) (c : Course) (answer : Except SourceError Snapshot)
    (rest : List (Except SourceError Snapshot)) : Course :=
  { c.take (p.follow (.fetched answer)) with got := c.got ++ [answer], answers := rest }

/-- What becomes of a course if something is to come. -/
def step (p : Polling) (c : Course) : Option Course :=
  match c.await, c.answers with
  | .timer _, _ => some (c.take (p.follow .elapsed))
  | .fetch, answer :: rest => some (c.hear p answer rest)
  | _, _ => none

/-- One course leads to another. -/
def Reaches (p : Polling) : Course → Course → Prop :=
  Relation.ReflTransGen fun c c' => c.step p = some c'

end Course

/-- A source that begins its work. -/
def begin (p : Polling) (answers : List (Except SourceError Snapshot)) : Course :=
  Course.take { await := .nothing, answers } p.start

/-- What is to be said of a source at work, between any two turns. -/
structure Polls (p : Polling) (answers : List (Except SourceError Snapshot)) (c : Course) :
    Prop where
  /-- What it got is a first part of what it will get. -/
  got : c.got <+: answersHeard answers
  /-- After its opening it fetches, and does what the answer asks for, again and again. -/
  acts : c.acts = p.opening ++ c.got.flatMap (fun answer => .fetch :: p.round answer) ++
    if c.await = .fetch then [.fetch] else []
  /-- For each answer it delivers what that brings, in order, and nothing else. -/
  deliveries : c.acts.filterMap Act.delivery? =
    c.got.flatMap (Delivery.ofAnswer p.context.identity)
  /-- A failure for good is the end. -/
  final : ∀ error before after, c.acts = before ++ .deliver (.failure error) :: after →
    after = [.resolve false] ∧ c.step p = none
  /-- There is no fetch before the initial delay has passed. -/
  delayed : ∀ before after, c.acts = before ++ .fetch :: after →
    p.initialDelay.nanos ≤ spanOf before
  /-- With data that count as current the start succeeds before anything else happens. -/
  atOnce : p.isCurrent → c.outcome = some true ∧ c.acts.head? = some (.resolve true)
  succeeded : c.outcome = some true ↔ p.isCurrent ∨ ∃ answer ∈ c.got, isSuccess answer
  failed : c.outcome = some false ↔
    (∃ answer ∈ c.got, isFatal answer) ∧ ¬(p.isCurrent ∨ ∃ answer ∈ c.got, isSuccess answer)
  loaded : c.loaded = true ↔ c.outcome = some true

/-! ### What each turn keeps -/

/-- There is a reason for the start to succeed. -/
def Course.hasReason (p : Polling) (c : Course) : Bool :=
  p.isCurrent || c.got.any isSuccess

/-- Where a source is, told by the answers that it got. -/
structure Course.Sound (p : Polling) (answers : List (Except SourceError Snapshot)) (c : Course) :
    Prop where
  await : (∃ delay, c.await = .timer delay) ∨ c.await = .fetch ∨ c.await = .nothing
  stopped : c.await = .nothing ↔ c.got.any isFatal
  heard : answersHeard answers =
    c.got ++ if c.await = .nothing then [] else answersHeard c.answers
  acts : c.acts = p.opening ++ c.got.flatMap (fun answer => .fetch :: p.round answer) ++
    if c.await = .fetch then [.fetch] else []
  outcome : c.outcome =
    if c.hasReason p then some true else if c.await = .nothing then some false else none
  loaded : c.loaded = c.hasReason p

namespace Course

variable {p : Polling} {answers : List (Except SourceError Snapshot)} {c c' : Course}

/-- A source that begins has got no answer yet. -/
theorem sound_begin (p : Polling) (answers : List (Except SourceError Snapshot)) :
    Sound p answers (p.begin answers) := by
  by_cases hdelay : p.initialDelay = .zero
  · constructor <;>
      simp [begin, start, take, hdelay, opening, isCurrent, hasReason, Turn.acts, Await.acts]
  · constructor <;>
      cases hinitialized : p.context.initialized <;>
      simp [begin, start, take, hdelay, hinitialized, opening, isCurrent, hasReason, Turn.acts,
        Await.acts]

/-- What a source does when a fetch is answered. -/
theorem acts_follow (p : Polling) (answer : Except SourceError Snapshot) :
    (p.follow (.fetched answer)).acts = p.round answer := by
  cases answer with
  | ok snapshot => rfl
  | error error =>
    simp only [follow, onFetch, round, Delivery.ofAnswer]
    cases error.isRecoverable <;> rfl

/-- After an answer a source waits for the interval to pass, unless the answer ends its work. -/
theorem await_follow (p : Polling) (answer : Except SourceError Snapshot) :
    (p.follow (.fetched answer)).await =
      if isFatal answer then .nothing else .timer p.interval := by
  cases answer with
  | ok snapshot => rfl
  | error error =>
    by_cases h : error.isRecoverable <;> simp [follow, onFetch, isFatal, h, Turn.stop]

/-- A set of flags lets the start succeed, and a fatal answer lets it fail. -/
theorem outcome_follow (p : Polling) (answer : Except SourceError Snapshot) :
    (p.follow (.fetched answer)).outcome =
      if isSuccess answer then some true else if isFatal answer then some false else none := by
  cases answer with
  | ok snapshot => rfl
  | error error =>
    by_cases h : error.isRecoverable <;> simp [follow, onFetch, isFatal, isSuccess, h, Turn.stop]

theorem loaded_follow (p : Polling) (answer : Except SourceError Snapshot) :
    (p.follow (.fetched answer)).loaded = isSuccess answer := by
  cases answer with
  | ok snapshot => rfl
  | error error =>
    by_cases h : error.isRecoverable <;> simp [follow, onFetch, isSuccess, h, Turn.stop]

/-- A turn is due: a delay has passed, or a fetch is answered. -/
theorem step_cases (h : c.step p = some c') :
    (∃ delay, c.await = .timer delay ∧ c' = c.take (p.follow .elapsed)) ∨
      ∃ answer rest, c.await = .fetch ∧ c.answers = answer :: rest ∧ c' = c.hear p answer rest := by
  unfold step at h
  split at h
  · next _ delay hawait => exact .inl ⟨delay, hawait, (Option.some.inj h).symm⟩
  · next answer rest hawait hanswers =>
    exact .inr ⟨answer, rest, hawait, hanswers, (Option.some.inj h).symm⟩
  · cases h

theorem hasReason_hear (p : Polling) (c : Course) (answer : Except SourceError Snapshot)
    (rest : List (Except SourceError Snapshot)) :
    (c.hear p answer rest).hasReason p = (c.hasReason p || isSuccess answer) := by
  simp [hasReason, hear, Bool.or_assoc]

theorem await_hear (p : Polling) (c : Course) (answer : Except SourceError Snapshot)
    (rest : List (Except SourceError Snapshot)) : (c.hear p answer rest).await =
      if isFatal answer then .nothing else .timer p.interval :=
  await_follow p answer

theorem not_isSuccess_of_isFatal {answer : Except SourceError Snapshot} (h : isFatal answer) :
    isSuccess answer = false := by
  cases answer with
  | ok snapshot => cases h
  | error error => rfl

/-- When its time has passed, a source asks for the next answer. -/
theorem Sound.elapse (hc : Sound p answers c) {delay : Duration} (hawait : c.await = .timer delay) :
    Sound p answers (c.take (p.follow .elapsed)) where
  await := .inr (.inl rfl)
  stopped := by simpa [take, follow, onTimer, hawait] using hc.stopped
  heard := by simpa [take, follow, onTimer, hawait] using hc.heard
  acts := by simp [take, follow, onTimer, hc.acts, hawait, Turn.acts, Await.acts]
  outcome := by simp [take, follow, onTimer, hc.outcome, hawait, hasReason]
  loaded := by simp [take, follow, onTimer, hc.loaded, hasReason]

/-- An answer is followed by what a source does because of it. -/
theorem Sound.hear (hc : Sound p answers c) (hawait : c.await = .fetch)
    {answer : Except SourceError Snapshot} {rest : List (Except SourceError Snapshot)}
    (hanswers : c.answers = answer :: rest) : Sound p answers (c.hear p answer rest) where
  await := by
    rw [await_hear]
    split
    · exact .inr (.inr rfl)
    · exact .inl ⟨_, rfl⟩
  stopped := by
    -- It has waited for the answer, so nothing was fatal before.
    have hgot : c.got.any isFatal = false := by simpa [hawait] using hc.stopped
    rw [await_hear]
    simp [Course.hear, hgot, -List.any_eq_false]
  heard := by
    rw [hc.heard, await_hear, hanswers, hawait]
    by_cases hfatal : isFatal answer <;> simp [Course.hear, answersHeard, hfatal]
  acts := by
    rw [await_hear]
    by_cases hfatal : isFatal answer <;>
      simp [Course.hear, take, acts_follow, hc.acts, hawait, hfatal]
  outcome := by
    rw [hasReason_hear, await_hear]
    simp only [Course.hear, take, hc.outcome, outcome_follow, hawait]
    cases c.hasReason p with
    | true => rfl
    | false => by_cases hfatal : isFatal answer <;> simp [hfatal, not_isSuccess_of_isFatal]
  loaded := by
    rw [hasReason_hear, ← hc.loaded, ← loaded_follow p]
    rfl

theorem Sound.step (hc : Sound p answers c) (h : c.step p = some c') : Sound p answers c' := by
  rcases step_cases h with ⟨delay, hawait, rfl⟩ | ⟨answer, rest, hawait, hanswers, rfl⟩
  · exact hc.elapse hawait
  · exact hc.hear hawait hanswers

theorem Sound.of_reaches (hc : Sound p answers c) (h : Reaches p c c') : Sound p answers c' := by
  induction h with
  | refl => exact hc
  | tail _ hstep ih => exact ih.step hstep

/-! ### Courses go one way -/

/-- What was done stays done, and an outcome stays. -/
theorem step_mono (h : c.step p = some c') :
    c.acts <+: c'.acts ∧ ∀ b, c.outcome = some b → c'.outcome = some b := by
  rcases step_cases h with ⟨delay, -, rfl⟩ | ⟨answer, rest, -, -, rfl⟩ <;>
    exact ⟨List.prefix_append _ _, fun b hb => Option.or_eq_some_iff.2 (.inl hb)⟩

/-- What has been done stays done, and a decision is never taken back. -/
theorem Reaches.mono (h : Reaches p c c') :
    c.acts <+: c'.acts ∧ ∀ b, c.outcome = some b → c'.outcome = some b := by
  induction h with
  | refl => exact ⟨List.prefix_refl _, fun _ => id⟩
  | tail _ hstep ih =>
    obtain ⟨hacts, houtcome⟩ := step_mono hstep
    exact ⟨ih.1.trans hacts, fun b hb => houtcome b (ih.2 b hb)⟩

/-- A delay passes. -/
theorem exists_awake (p : Polling) (c : Course) :
    ∃ c', Reaches p c c' ∧ c'.answers = c.answers ∧ ∀ delay, c'.await ≠ .timer delay := by
  cases hawait : c.await with
  | timer delay =>
    exact ⟨c.take (p.follow .elapsed), .single (by simp [Course.step, hawait]), rfl,
      fun _ h => by cases h⟩
  | fetch | subscription | event | nothing =>
    exact ⟨c, .refl, rfl, fun delay h => by cases hawait.symm.trans h⟩

/-- A source comes to an end with its answers. -/
theorem exists_last (p : Polling) (c : Course) :
    ∃ last, Reaches p c last ∧ last.step p = none := by
  induction hanswers : c.answers generalizing c with
  | nil =>
    obtain ⟨c', hreaches, hc', hawake⟩ := exists_awake p c
    refine ⟨c', hreaches, ?_⟩
    cases hawait : c'.await with
    | timer delay => exact absurd hawait (hawake delay)
    | fetch | subscription | event | nothing => simp [Course.step, hawait, hc', hanswers]
  | cons answer rest ih =>
    obtain ⟨c', hreaches, hc', hawake⟩ := exists_awake p c
    cases hawait : c'.await with
    | timer delay => exact absurd hawait (hawake delay)
    | subscription | event | nothing => exact ⟨c', hreaches, by simp [Course.step, hawait]⟩
    | fetch =>
      have hstep : c'.step p = some (c'.hear p answer rest) := by
        simp [Course.step, hawait, hc', hanswers]
      obtain ⟨last, hlast, hnone⟩ := ih (c'.hear p answer rest) rfl
      exact ⟨last, (hreaches.tail hstep).trans hlast, hnone⟩

/-- A source stops when an answer is fatal, or when all are used up. -/
theorem Sound.got_last (hc : Sound p answers c) (hlast : c.step p = none) :
    c.got = answersHeard answers := by
  rw [hc.heard]
  rcases hc.await with ⟨delay, hawait⟩ | hawait | hawait
  · simp [Course.step, hawait] at hlast
  · cases hanswers : c.answers with
    | nil => simp [hawait, answersHeard]
    | cons answer rest => simp [Course.step, hawait, hanswers] at hlast
  · simp [hawait]

end Course

/-! ### What the acts tell -/

theorem mem_filterMap_delivery? {acts : List Act} {delivery : Delivery} :
    delivery ∈ acts.filterMap Act.delivery? ↔ .deliver delivery ∈ acts := by
  simp only [List.mem_filterMap]
  constructor
  · rintro ⟨act, hact, heq⟩
    cases act with
    | deliver => cases heq; exact hact
    | resolve | wait | fetch | subscribe => cases heq
  · exact fun h => ⟨_, h, rfl⟩

theorem filterMap_opening (p : Polling) : p.opening.filterMap Act.delivery? = [] := by
  unfold opening
  split <;> split <;> rfl

theorem filterMap_round (p : Polling) (answer : Except SourceError Snapshot) :
    (p.round answer).filterMap Act.delivery? = Delivery.ofAnswer p.context.identity answer := by
  cases answer with
  | ok snapshot => rfl
  | error error =>
    by_cases h : error.isRecoverable <;> simp [round, Delivery.ofAnswer, h, Act.delivery?]

/-- Deliveries come with the answers only. -/
theorem filterMap_acts (p : Polling) (got : List (Except SourceError Snapshot)) {tail : List Act}
    (htail : tail.filterMap Act.delivery? = []) :
    (p.opening ++ got.flatMap (fun answer => .fetch :: p.round answer) ++ tail).filterMap
      Act.delivery? = got.flatMap (Delivery.ofAnswer p.context.identity) := by
  have hfetch : Act.delivery? .fetch = none := rfl
  simp [filterMap_opening, List.filterMap_flatMap, hfetch, filterMap_round, htail]

/-- A failure is delivered because of a fatal answer. -/
theorem isFatal_of_failure {identity : Identity} {answer : Except SourceError Snapshot}
    {error : SourceError} (h : .failure error ∈ Delivery.ofAnswer identity answer) :
    isFatal answer := by
  cases answer with
  | ok snapshot => rcases List.mem_pair.1 h with h | h <;> cases h
  | error failure =>
    by_cases hrecoverable : failure.isRecoverable
    · rw [Delivery.ofAnswer, if_pos hrecoverable] at h
      cases List.mem_singleton.1 h
    · simp [isFatal, hrecoverable]

/-- While no answer is fatal no failure for good is delivered. -/
theorem failure_notMem (p : Polling) {got : List (Except SourceError Snapshot)} {tail : List Act}
    (hgot : ∀ answer ∈ got, ¬isFatal answer) (htail : tail.filterMap Act.delivery? = [])
    (error : SourceError) : .deliver (.failure error) ∉
      p.opening ++ got.flatMap (fun answer => .fetch :: p.round answer) ++ tail := by
  rw [← mem_filterMap_delivery?, filterMap_acts p got htail, List.mem_flatMap]
  rintro ⟨answer, hanswer, hfailure⟩
  exact hgot answer hanswer (isFatal_of_failure hfailure)

/-- Only the last answer that a source gets is fatal. -/
theorem answersHeard_eq {answers : List (Except SourceError Snapshot)}
    (h : (answersHeard answers).any isFatal) : ∃ before error,
      answersHeard answers = before ++ [.error error] ∧ error.isRecoverable = false ∧
        ∀ answer ∈ before, ¬isFatal answer := by
  induction answers with
  | nil => cases h
  | cons answer answers ih =>
    by_cases hfatal : isFatal answer
    · cases answer with
      | ok snapshot => cases hfatal
      | error error =>
        exact ⟨[], error, by simp [answersHeard, hfatal], by simpa [isFatal] using hfatal,
          List.forall_mem_nil _⟩
    · have hrest : (answersHeard answers).any isFatal := by
        simpa [answersHeard, hfatal] using h
      obtain ⟨before, error, heq, herror, hbefore⟩ := ih hrest
      refine ⟨answer :: before, error, by simp [answersHeard, hfatal, heq], herror, ?_⟩
      exact List.forall_mem_cons.2 ⟨hfatal, hbefore⟩

/-- The delay comes before the first fetch. -/
theorem spanOf_opening (p : Polling) : spanOf p.opening = p.initialDelay.nanos := by
  unfold opening
  by_cases hdelay : p.initialDelay = .zero
  · simp [isCurrent, hdelay, spanOf, Duration.zero]
  · rw [if_neg hdelay]
    split <;> simp [spanOf, Act.span]

theorem fetch_notMem_opening (p : Polling) : .fetch ∉ p.opening := by
  unfold opening
  split <;> split <;> simp

theorem spanOf_append (acts acts' : List Act) :
    spanOf (acts ++ acts') = spanOf acts + spanOf acts' := by
  induction acts with
  | nil => simp [spanOf]
  | cons act acts ih => rw [List.cons_append, spanOf, spanOf, ih, Nat.add_assoc]

namespace Course

variable {p : Polling} {answers : List (Except SourceError Snapshot)} {c : Course}

/-- The start has a reason to succeed if data were current or a set of flags came. -/
theorem hasReason_iff :
    c.hasReason p ↔ p.isCurrent ∨ ∃ answer ∈ c.got, isSuccess answer := by
  simp [hasReason]

/-- The start has succeeded just if there is a reason. -/
theorem Sound.succeeded (hc : Sound p answers c) : c.outcome = some true ↔ c.hasReason p := by
  rw [hc.outcome]
  cases c.hasReason p with
  | true => simp
  | false => by_cases hawait : c.await = .nothing <;> simp [hawait]

/-- It has failed just if a fatal answer came before any reason. -/
theorem Sound.failed (hc : Sound p answers c) :
    c.outcome = some false ↔ c.got.any isFatal ∧ ¬c.hasReason p := by
  rw [hc.outcome, ← hc.stopped]
  cases c.hasReason p with
  | true => simp
  | false => by_cases hawait : c.await = .nothing <;> simp [hawait]

/-- A failure is the last that is delivered, and nothing follows but the outcome of the start. -/
theorem Sound.final (hc : Sound p answers c) {error : SourceError} {before after : List Act}
    (h : c.acts = before ++ .deliver (.failure error) :: after) :
    after = [.resolve false] ∧ c.step p = none := by
  have hacts := hc.acts
  by_cases hawait : c.await = .nothing
  · have hheard : answersHeard answers = c.got := by simpa [hawait] using hc.heard
    obtain ⟨earlier, failure, hgot, hfatal, hearlier⟩ :=
      answersHeard_eq (hheard ▸ hc.stopped.1 hawait)
    rw [hheard] at hgot
    have hround : p.round (.error failure) = [.deliver (.failure failure), .resolve false] := by
      simp [round, Delivery.ofAnswer, hfatal]
    -- What is done before the failure is the work on the earlier answers, and one more fetch.
    have hsplit : (p.opening ++ earlier.flatMap (fun answer => .fetch :: p.round answer) ++
        [.fetch]) ++ .deliver (.failure failure) :: [.resolve false] =
        before ++ .deliver (.failure error) :: after := by
      rw [← h, hacts, hgot]
      simp [hround, hawait]
    have hnot : .deliver (.failure error) ∉
        p.opening ++ earlier.flatMap (fun answer => .fetch :: p.round answer) ++ [.fetch] :=
      failure_notMem p hearlier rfl error
    obtain ⟨-, -, hafter⟩ := (List.append_cons_inj_of_notMem hnot (by simp)).1 hsplit
    exact ⟨hafter.symm, by simp [Course.step, hawait]⟩
  · have hgot : ∀ answer ∈ c.got, ¬isFatal answer := by
      simpa using mt hc.stopped.2 hawait
    have htail : (if c.await = .fetch then [Act.fetch] else []).filterMap Act.delivery? = [] := by
      split <;> rfl
    have hmem : .deliver (.failure error) ∈ c.acts := by simp [h]
    rw [hacts] at hmem
    exact absurd hmem (failure_notMem p hgot htail error)

/-- The first fetch does not come before its time. -/
theorem Sound.delayed (hc : Sound p answers c) {before after : List Act}
    (h : c.acts = before ++ .fetch :: after) : p.initialDelay.nanos ≤ spanOf before := by
  rw [hc.acts, List.append_assoc] at h
  rcases List.append_eq_append_iff.1 h with ⟨rest, rfl, -⟩ | ⟨rest, hopening, hrest⟩
  · rw [spanOf_append, spanOf_opening]
    exact Nat.le_add_right _ _
  · cases rest with
    | nil => simp [← spanOf_opening, hopening]
    | cons act rest =>
      obtain ⟨rfl, -⟩ := List.cons.inj hrest
      exact absurd (by simp [hopening]) p.fetch_notMem_opening

theorem Sound.polls (hc : Sound p answers c) : p.Polls answers c where
  got := ⟨_, hc.heard.symm⟩
  acts := hc.acts
  deliveries := by
    rw [hc.acts]
    exact filterMap_acts p c.got (by split <;> rfl)
  final _ _ _ := hc.final
  delayed _ _ := hc.delayed
  atOnce hcurrent := by
    refine ⟨by simp [hc.outcome, hasReason, hcurrent], ?_⟩
    simp [hc.acts, opening, hcurrent]
  succeeded := hc.succeeded.trans hasReason_iff
  failed := by rw [hc.failed, List.any_eq_true, hasReason_iff]
  loaded := by rw [hc.loaded, hc.succeeded]

end Course

/-- **What a polling source does, whatever the answers are.** It gets all of them, or those up to
the first that is fatal, and then does nothing more. At every point of its work it has done what
`Polls` says and nothing else, and what it has decided stays. -/
theorem polls_of_begin (p : Polling) (answers : List (Except SourceError Snapshot)) :
    ∃ last, Course.Reaches p (p.begin answers) last ∧ last.step p = none ∧
      last.got = answersHeard answers ∧
      ∀ c, Course.Reaches p (p.begin answers) c → Course.Reaches p c last ∧ p.Polls answers c ∧
        ∀ c', Course.Reaches p c c' →
          c.acts <+: c'.acts ∧ ∀ b, c.outcome = some b → c'.outcome = some b := by
  obtain ⟨last, hreaches, hlast⟩ := Course.exists_last p (p.begin answers)
  have hsound := Course.sound_begin p answers
  refine ⟨last, hreaches, hlast, (hsound.of_reaches hreaches).got_last hlast, fun c hc => ?_⟩
  exact ⟨reaches_last hc hreaches hlast, (hsound.of_reaches hc).polls, fun _ hc' => hc'.mono⟩

end Polling

end LiveFlags
