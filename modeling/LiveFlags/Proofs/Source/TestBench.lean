import LiveFlags.Proofs.History
import LiveFlags.Proofs.Source.TestFlags

/-!
# Stores behind flags for tests

Sources of the same flags serve different identities and begin at different times, and each of them
fills a store of its own. From its start to its disposal such a store holds at any time what the
definitions make of the identity, versions and tombstones included. A source that was not started
yet, was disposed of or is forgotten delivers nothing.

A `TestBench` is the flags with the deliveries of all their sources. What is defined, and which
sources are alive and started, can be told from the events alone (`definedBy`, `IsAlive`,
`IsStarted`); `Listed` ties the sources of a bench to that, and `Agreed` their stores to the
definitions.

Main statement: `mirrored_of_run`.
-/

namespace LiveFlags

/-- The store after a delivery; reports on the source mean nothing for it. -/
def ItemStore.receive (s : ItemStore) (delivery : Delivery) : ItemStore :=
  match delivery.dataStep? with
  | some step => s.after step
  | none => s

/-- What is done with flags for tests. Sources go by the number under which they were built. -/
inductive TestEvent where
  | update (flag : TestFlag)
  | setValue (key : String) (value : Json)
  | upsert (item : Item)
  | delete (key : String)
  /-- A snapshot that was built from items or from a map is keyed well. -/
  | init (snapshot : Snapshot) (wellKeyed : snapshot.WellKeyed)
  | report (state : ConnectionState) (error : Option SourceError)
  | fail (error : SourceError)
  | build (context : SourceContext)
  | start (source : Nat)
  | dispose (source : Nat)
  | release (source : Nat)

namespace TestEvent

def isBuild : TestEvent → Bool
  | build _ => true
  | _ => false

/-- What stands under a key after an event, if `old` stood there before. -/
def redefine (key : String) (old : Option TestDefinition) : TestEvent → Option TestDefinition
  | update flag => if flag.key = key then some (.flag flag next) else old
  | setValue k value => if k = key then some (.flag { flag with value } next) else old
  | upsert item =>
    if item.key = key ∧ old.all (·.version < item.version) then some (.item item) else old
  | delete k => if k = key then some (.item (.tombstone key next)) else old
  | init snapshot _ => snapshot.items[key]?.map .item
  | report .. | fail _ | build _ | start _ | dispose _ | release _ => old
where
  next : Nat := (old.map (·.version + 1)).getD 1
  flag : TestFlag :=
    match old with
    | some (.flag flag _) => flag
    | _ => { key }

/-- What becomes of the source under a number. -/
def evolve (n : Nat) (source : TestSource) : TestEvent → TestSource
  | start m =>
    if m = n ∧ source.disposed = false then { source with initialized := true } else source
  | dispose m => if m = n then { source with disposed := true } else source
  | _ => source

@[simp]
theorem evolve_context (e : TestEvent) (n : Nat) (source : TestSource) :
    (e.evolve n source).context = source.context := by
  unfold evolve
  split
  · split <;> rfl
  · split <;> rfl
  · rfl

/-- A source is disposed of by the event for that, and for ever. -/
theorem evolve_disposed {e : TestEvent} {n : Nat} {source : TestSource} :
    (e.evolve n source).disposed = false ↔ source.disposed = false ∧ e ≠ .dispose n := by
  cases e <;> simp only [evolve] <;> grind

/-- A source is active from its start to its disposal. -/
theorem evolve_isActive {e : TestEvent} {n : Nat} {source : TestSource} :
    (e.evolve n source).isActive = true ↔
      (source.isActive = true ∧ e ≠ .dispose n) ∨ (e = .start n ∧ source.disposed = false) := by
  cases e <;> simp only [evolve, TestSource.isActive] <;> grind

end TestEvent

/-- Flags for tests, and what each of their sources has delivered. -/
structure TestBench where
  flags : TestFlags Nat := {}
  /-- How many sources were built; the next one gets this number. -/
  built : Nat := 0
  delivered : Nat → List Delivery := fun _ => []

namespace TestBench

/-! ### What is told by the events -/

/-- What these events leave under a key. -/
def definedBy (events : List TestEvent) (key : String) : Option TestDefinition :=
  events.foldl (TestEvent.redefine key) none

/-- The source with this number was built with this context, and has neither been disposed of nor
forgotten since. -/
def IsAlive (events : List TestEvent) (n : Nat) (context : SourceContext) : Prop :=
  ∃ before after, events = before ++ .build context :: after ∧
    before.countP TestEvent.isBuild = n ∧ .dispose n ∉ after ∧ .release n ∉ after

/-- It was also started after it was built. -/
def IsStarted (events : List TestEvent) (n : Nat) (context : SourceContext) : Prop :=
  ∃ before after, events = before ++ .build context :: after ∧
    before.countP TestEvent.isBuild = n ∧ .dispose n ∉ after ∧ .release n ∉ after ∧
    .start n ∈ after

/-! ### A run -/

/-- What an event makes the sources deliver, and the flags after it. -/
def outcome (b : TestBench) : TestEvent → List (Nat × Delivery) × TestFlags Nat
  | .update flag => b.flags.update flag
  | .setValue key value => b.flags.setValue key value
  | .upsert item => b.flags.upsert item
  | .delete key => b.flags.delete key
  | .init snapshot _ => b.flags.init snapshot
  | .report state error => (b.flags.report state error, b.flags)
  | .fail error => (b.flags.fail error, b.flags)
  | .build context => ([], b.flags.build b.built context)
  | .start source => ((b.flags.start source).2.1.map (source, ·), (b.flags.start source).2.2)
  | .dispose source => ([], b.flags.dispose source)
  | .release source => ([], b.flags.release source)

def step (b : TestBench) (e : TestEvent) : TestBench where
  flags := (b.outcome e).2
  built := if e.isBuild then b.built + 1 else b.built
  delivered source := b.delivered source ++ TestFlags.deliveriesOf source (b.outcome e).1

/-- The bench after events in order, with no definition and no source at the beginning. -/
def run (events : List TestEvent) : TestBench :=
  events.foldl step {}

/-- The store that one source has filled. -/
def store (b : TestBench) (source : Nat) : ItemStore :=
  (b.delivered source).foldl ItemStore.receive ∅

theorem run_concat (events : List TestEvent) (e : TestEvent) :
    run (events ++ [e]) = (run events).step e :=
  List.foldl_concat ..

theorem store_concat (b : TestBench) (n : Nat) (deliveries : List Delivery) :
    (b.delivered n ++ deliveries).foldl ItemStore.receive ∅ =
      deliveries.foldl ItemStore.receive (b.store n) :=
  List.foldl_append

/-! ### Changes are offers -/

/-- The definition that an event offers. -/
def proposal (t : TestFlags Nat) : TestEvent → Option TestDefinition
  | .update flag => some (.flag flag (t.nextVersion flag.key))
  | .setValue key value =>
    some (.flag ((t.flag key).withValue value) (t.nextVersion ((t.flag key).withValue value).key))
  | .upsert item => some (.item item)
  | .delete key => some (.item (.tombstone key (t.nextVersion key)))
  | _ => none

/-- A change is an offer to all active sources. -/
theorem outcome_of_proposal {b : TestBench} {e : TestEvent} {d : TestDefinition}
    (h : proposal b.flags e = some d) : b.outcome e = b.flags.propose d := by
  cases e with
  | update flag =>
    cases h
    exact b.flags.update_eq flag
  | setValue key value =>
    cases h
    exact b.flags.update_eq _
  | upsert | delete =>
    cases h
    rfl
  | init | report | fail | build | start | dispose | release => cases h

/-- What an event makes of the sources: it builds one, or it changes or forgets one by its
number. -/
theorem mem_sources_step {b : TestBench} (hnamed : (b.flags.sources.map (·.1)).Nodup)
    (e : TestEvent) {n : Nat} {source : TestSource} :
    (n, source) ∈ (b.step e).flags.sources ↔
      (∃ context, e = .build context ∧ n = b.built ∧ source = { context }) ∨
        (e ≠ .release n ∧ ∃ old, (n, old) ∈ b.flags.sources ∧ source = e.evolve n old) := by
  -- Unless it builds a source or forgets one, an event changes them one by one.
  have hkept (hbuild : ∀ context, e ≠ .build context) (hrelease : e ≠ .release n)
      (hmem : (n, source) ∈ (b.step e).flags.sources ↔
        ∃ old, (n, old) ∈ b.flags.sources ∧ source = e.evolve n old) :
      (n, source) ∈ (b.step e).flags.sources ↔
        (∃ context, e = .build context ∧ n = b.built ∧ source = { context }) ∨
          (e ≠ .release n ∧ ∃ old, (n, old) ∈ b.flags.sources ∧ source = e.evolve n old) := by
    rw [hmem]
    constructor
    · exact fun h => .inr ⟨hrelease, h⟩
    · rintro (⟨context, he, -⟩ | ⟨-, h⟩)
      · exact absurd he (hbuild context)
      · exact h
  have hoffer {d : TestDefinition} (h : proposal b.flags e = some d) :
      (b.step e).flags.sources = b.flags.sources :=
    (congrArg (·.2.sources) (outcome_of_proposal h)).trans (b.flags.sources_offer d)
  cases e with
  | update | setValue | upsert | delete =>
    refine hkept nofun nofun ?_
    rw [hoffer rfl]
    simp [TestEvent.evolve]
  | init | report | fail =>
    refine hkept nofun nofun ?_
    simp [step, outcome, TestFlags.init, TestEvent.evolve]
  | start m => exact hkept nofun nofun (TestFlags.mem_sources_start hnamed)
  | dispose m =>
    refine hkept nofun nofun (TestFlags.mem_modify.trans ?_)
    simp [TestEvent.evolve, eq_comm]
  | build context =>
    simp only [step, outcome, TestFlags.build, List.mem_append, List.mem_singleton, Prod.mk.injEq,
      TestEvent.evolve]
    grind
  | release m =>
    simp only [step, outcome, TestFlags.release, List.mem_filter, TestEvent.evolve]
    grind

section Life

variable {events : List TestEvent} {e : TestEvent} {n : Nat} {context : SourceContext}

/-- A source is alive from when it is built until it is disposed of or forgotten. -/
theorem isAlive_concat : IsAlive (events ++ [e]) n context ↔
    (e = .build context ∧ events.countP TestEvent.isBuild = n) ∨
      (IsAlive events n context ∧ e ≠ .dispose n ∧ e ≠ .release n) := by
  constructor
  · rintro ⟨before, after, heq, hn, hdispose, hrelease⟩
    rcases History.split_concat heq with ⟨-, rfl, he⟩ | ⟨after, rfl, rfl⟩
    · exact .inl ⟨he, hn⟩
    · simp only [List.mem_append, List.mem_singleton, not_or] at hdispose hrelease
      exact .inr ⟨⟨before, after, rfl, hn, hdispose.1, hrelease.1⟩, Ne.symm hdispose.2,
        Ne.symm hrelease.2⟩
  · rintro (⟨rfl, hn⟩ | ⟨⟨before, after, rfl, hn, hdispose, hrelease⟩, hdispose', hrelease'⟩)
    · exact ⟨events, [], rfl, hn, List.not_mem_nil, List.not_mem_nil⟩
    · refine ⟨before, after ++ [e], by simp, hn, ?_, ?_⟩
      · simp [hdispose, Ne.symm hdispose']
      · simp [hrelease, Ne.symm hrelease']

/-- A source is started by a start while it is alive. -/
theorem isStarted_concat : IsStarted (events ++ [e]) n context ↔
    (IsStarted events n context ∧ e ≠ .dispose n ∧ e ≠ .release n) ∨
      (IsAlive events n context ∧ e = .start n) := by
  constructor
  · rintro ⟨before, after, heq, hn, hdispose, hrelease, hstart⟩
    rcases History.split_concat heq with ⟨rfl, -, -⟩ | ⟨after, rfl, rfl⟩
    · cases hstart
    · simp only [List.mem_append, List.mem_singleton, not_or] at hdispose hrelease hstart
      rcases hstart with hstart | hstart
      · exact .inl ⟨⟨before, after, rfl, hn, hdispose.1, hrelease.1, hstart⟩, Ne.symm hdispose.2,
          Ne.symm hrelease.2⟩
      · exact .inr ⟨⟨before, after, rfl, hn, hdispose.1, hrelease.1⟩, hstart.symm⟩
  · rintro (⟨⟨before, after, rfl, hn, hdispose, hrelease, hstart⟩, hdispose', hrelease'⟩ |
      ⟨⟨before, after, rfl, hn, hdispose, hrelease⟩, rfl⟩)
    · refine ⟨before, after ++ [e], by simp, hn, ?_, ?_, List.mem_append_left _ hstart⟩
      · simp [hdispose, Ne.symm hdispose']
      · simp [hrelease, Ne.symm hrelease']
    · exact ⟨before, after ++ [.start n], by simp, hn, by simpa using hdispose,
        by simpa using hrelease, by simp⟩

end Life

/-- The sources of a bench are those that are alive, and the active ones those that are started. -/
structure Listed (events : List TestEvent) (b : TestBench) : Prop where
  built : b.built = events.countP TestEvent.isBuild
  alive : ∀ n context, IsAlive events n context ↔
    ∃ source, (n, source) ∈ b.flags.sources ∧ source.disposed = false ∧ source.context = context
  started : ∀ n context, IsStarted events n context ↔
    ∃ source, (n, source) ∈ b.flags.sources ∧ source.isActive = true ∧ source.context = context

/-- Every event does to the sources what it does to who is alive and started. -/
theorem Listed.step {events : List TestEvent} {b : TestBench} (hs : Listed events b)
    (hnamed : (b.flags.sources.map (·.1)).Nodup) (e : TestEvent) :
    Listed (events ++ [e]) (b.step e) where
  built := by
    rw [List.countP_append, List.countP_singleton, ← hs.built]
    simp only [TestBench.step]
    split <;> rfl
  alive n context := by
    rw [isAlive_concat, hs.alive, ← hs.built]
    simp only [mem_sources_step hnamed]
    constructor
    · -- The source was just built, or is one of the old ones.
      rintro (⟨rfl, rfl⟩ | ⟨⟨old, hold, hkept, rfl⟩, hdispose, hrelease⟩)
      · exact ⟨_, .inl ⟨context, rfl, rfl, rfl⟩, rfl, rfl⟩
      · exact ⟨_, .inr ⟨hrelease, old, hold, rfl⟩, TestEvent.evolve_disposed.2 ⟨hkept, hdispose⟩,
          e.evolve_context n old⟩
    · rintro ⟨source, ⟨_, rfl, rfl, rfl⟩ | ⟨hrelease, old, hold, rfl⟩, hkept, rfl⟩
      · exact .inl ⟨rfl, rfl⟩
      · obtain ⟨hkept, hdispose⟩ := TestEvent.evolve_disposed.1 hkept
        exact .inr ⟨⟨old, hold, hkept, (e.evolve_context n old).symm⟩, hdispose, hrelease⟩
  started n context := by
    rw [isStarted_concat, hs.started, hs.alive]
    simp only [mem_sources_step hnamed]
    constructor
    · rintro (⟨⟨old, hold, hactive, rfl⟩, hdispose, hrelease⟩ | ⟨⟨old, hold, hkept, rfl⟩, rfl⟩)
      · exact ⟨_, .inr ⟨hrelease, old, hold, rfl⟩,
          TestEvent.evolve_isActive.2 (.inl ⟨hactive, hdispose⟩), e.evolve_context n old⟩
      · exact ⟨_, .inr ⟨nofun, old, hold, rfl⟩, TestEvent.evolve_isActive.2 (.inr ⟨rfl, hkept⟩),
          TestEvent.evolve_context _ n old⟩
    · rintro ⟨source, ⟨_, rfl, rfl, rfl⟩ | ⟨hrelease, old, hold, rfl⟩, hactive, rfl⟩
      · cases hactive
      · rcases TestEvent.evolve_isActive.1 hactive with ⟨hactive, hdispose⟩ | ⟨rfl, hkept⟩
        · exact .inl ⟨⟨old, hold, hactive, (e.evolve_context n old).symm⟩, hdispose, hrelease⟩
        · exact .inr ⟨⟨old, hold, hkept, (TestEvent.evolve_context _ n old).symm⟩, rfl⟩

/-! ### The stores -/

/-- Stores and definitions agree. -/
structure Agreed (b : TestBench) : Prop where
  keyed : b.flags.WellKeyed
  named : (b.flags.sources.map (·.1)).Nodup
  /-- The next source gets a new number. -/
  numbered : ∀ entry ∈ b.flags.sources, entry.1 < b.built
  current : ∀ n source, (n, source) ∈ b.flags.sources → source.isActive = true →
    b.store n = b.flags.served source.context.identity

/-- A change that reaches every active source keeps the stores in agreement if it does to the
definitions what it does to a store. -/
theorem Agreed.push {b : TestBench} (hb : b.Agreed) {t : TestFlags Nat} (hkeyed : t.WellKeyed)
    (hsources : t.sources = b.flags.sources) {f : SourceContext → Delivery}
    (hserved : ∀ c : SourceContext,
      (b.flags.served c.identity).receive (f c) = t.served c.identity) :
    Agreed { b with
      flags := t
      delivered := fun n => b.delivered n ++ TestFlags.deliveriesOf n (t.push f) } := by
  refine ⟨hkeyed, hsources ▸ hb.named, hsources ▸ hb.numbered, fun n source hsource hactive => ?_⟩
  rw [hsources] at hsource
  have hone : TestFlags.deliveriesOf n (t.push f) = [f source.context] := by
    rw [t.deliveriesOf_push, hsources, TestFlags.filter_name_eq hb.named hsource]
    simp [hactive]
  refine (b.store_concat n _).trans ?_
  rw [hone, hb.current n source hsource hactive]
  exact hserved source.context

/-- Where nothing is delivered and no source becomes active, nothing can be missed. -/
theorem Agreed.of_silence {b : TestBench} (hb : b.Agreed) {t : TestFlags Nat}
    (hdefinitions : t.definitions = b.flags.definitions)
    (hnamed : (t.sources.map (·.1)).Nodup)
    (hsources : ∀ n source, (n, source) ∈ t.sources → ∃ old, (n, old) ∈ b.flags.sources ∧
      source.context = old.context ∧ (source.isActive = true → old.isActive = true)) :
    Agreed { b with flags := t } := by
  have hserved (identity : Identity) : t.served identity = b.flags.served identity := by
    simp only [TestFlags.served, hdefinitions]
  refine ⟨?_, hnamed, ?_, ?_⟩
  · intro key d hd
    exact hb.keyed key d (hdefinitions ▸ hd)
  · rintro ⟨n, source⟩ hsource
    obtain ⟨old, hold, -⟩ := hsources n source hsource
    exact hb.numbered (n, old) hold
  · intro n source hsource hactive
    obtain ⟨old, hold, hcontext, hbefore⟩ := hsources n source hsource
    rw [hserved, hcontext]
    exact hb.current n old hold (hbefore hactive)

theorem Agreed.build {b : TestBench} (hb : b.Agreed) (context : SourceContext) :
    Agreed { b with flags := b.flags.build b.built context, built := b.built + 1 } := by
  have hmem {n : Nat} {source : TestSource}
      (h : (n, source) ∈ (b.flags.build b.built context).sources) :
      (n, source) ∈ b.flags.sources ∨ n = b.built ∧ source = { context } := by
    simpa [TestFlags.build] using h
  refine ⟨hb.keyed, ?_, ?_, ?_⟩
  · have hnew : b.built ∉ b.flags.sources.map (·.1) := by
      intro h
      obtain ⟨entry, hentry, heq⟩ := List.mem_map.1 h
      have hlt := hb.numbered entry hentry
      omega
    simpa [TestFlags.build, List.nodup_append] using ⟨hb.named, fun n source hsource heq =>
      hnew (List.mem_map.2 ⟨(n, source), hsource, heq⟩)⟩
  · rintro ⟨n, source⟩ hsource
    rcases hmem hsource with hold | ⟨rfl, -⟩
    · exact Nat.lt_succ_of_lt (hb.numbered _ hold)
    · exact Nat.lt_succ_self _
  · intro n source hsource hactive
    rcases hmem hsource with hold | ⟨-, rfl⟩
    · exact hb.current n source hold hactive
    · cases hactive

/-- A source that begins delivers what the definitions make of its identity at that moment. -/
theorem Agreed.begin {b : TestBench} (hb : b.Agreed) {n : Nat} {source : TestSource}
    (hsource : (n, source) ∈ b.flags.sources) :
    Agreed { b with
      flags := b.flags.modify n fun s => { s with initialized := true }
      delivered := fun m => b.delivered m ++ TestFlags.deliveriesOf m
        ([.snapshot source.context.identity (b.flags.snapshotFor source.context.identity),
          .valid].map (n, ·)) } := by
  refine ⟨hb.keyed, ?_, ?_, ?_⟩
  · rw [TestFlags.names_modify]
    exact hb.named
  · rintro ⟨m, s⟩ hs
    obtain ⟨old, hold, -⟩ := TestFlags.mem_modify.1 hs
    exact hb.numbered (m, old) hold
  · intro m s hs hs'
    obtain ⟨old, hold, rfl⟩ := TestFlags.mem_modify.1 hs
    refine (b.store_concat m _).trans ?_
    by_cases hne : m = n
    · subst hne
      obtain rfl := TestFlags.source_unique hb.named hold hsource
      have hall (deliveries : List Delivery) :
          TestFlags.deliveriesOf m (deliveries.map (m, ·)) = deliveries := by
        simp [TestFlags.deliveriesOf, List.filter_map, Function.comp_def]
      rw [hall, if_pos rfl]
      exact hb.keyed.ofSnapshot_snapshotFor old.context.identity
    · have hnone (deliveries : List Delivery) :
          TestFlags.deliveriesOf m (deliveries.map (n, ·)) = [] := by
        simp [TestFlags.deliveriesOf, List.filter_map, Function.comp_def, Ne.symm hne]
      rw [if_neg hne] at hs' ⊢
      rw [hnone]
      exact hb.current m old hold hs'

/-- Every event keeps stores and definitions in agreement. -/
theorem Agreed.step {b : TestBench} (hb : b.Agreed) (e : TestEvent) : (b.step e).Agreed := by
  have hpropose {d : TestDefinition} (h : b.outcome e = b.flags.propose d)
      (he : e.isBuild = false) : (b.step e).Agreed := by
    have hpush := hb.push (f := fun c => .item c.identity (d.itemFor c.identity))
      (hb.keyed.offer d) (b.flags.sources_offer d) fun c => (b.flags.served_offer d c.identity).symm
    have hstep : b.step e = { b with
        flags := b.flags.offer d
        delivered := fun n =>
          b.delivered n ++ TestFlags.deliveriesOf n (b.flags.propose d).1 } := by
      simp only [TestBench.step, h, he]
      rfl
    rw [hstep]
    exact hpush
  -- To build a source, to dispose of it and to forget it makes nobody deliver.
  have hquiet {b : TestBench} (h : b.Agreed) : Agreed
      { b with delivered := fun n => b.delivered n ++ TestFlags.deliveriesOf n [] } := by
    simpa [TestFlags.deliveriesOf] using h
  cases e with
  | update | setValue | upsert | delete => exact hpropose (outcome_of_proposal rfl) rfl
  | init snapshot wellKeyed =>
    have hkeyed : (b.flags.init snapshot).2.WellKeyed := by
      intro key d hd
      have hitem : (snapshot.items.map fun _ item => TestDefinition.item item)[key]? = some d := hd
      rw [Std.ExtTreeMap.getElem?_map, Option.map_eq_some_iff] at hitem
      obtain ⟨item, hitem, rfl⟩ := hitem
      exact wellKeyed key item hitem
    exact hb.push
      (f := fun c => .snapshot c.identity ((b.flags.init snapshot).2.snapshotFor c.identity))
      hkeyed rfl fun c => hkeyed.ofSnapshot_snapshotFor c.identity
  | report state error =>
    exact hb.push (f := fun _ => .status (some state) error) hb.keyed rfl fun _ => rfl
  | fail error => exact hb.push (f := fun _ => .failure error) hb.keyed rfl fun _ => rfl
  | build context => exact hquiet (hb.build context)
  | start n =>
    have hstep : b.step (.start n) = { b with
        flags := (b.flags.start n).2.2
        delivered := fun m => b.delivered m ++
          TestFlags.deliveriesOf m ((b.flags.start n).2.1.map (n, ·)) } := rfl
    rcases TestFlags.start_cases hb.named n with ⟨result, heq, -⟩ | ⟨source, hsource, -, -, heq⟩
    · rw [hstep, heq]
      exact hquiet hb
    · rw [hstep, heq]
      exact hb.begin hsource
  | dispose n =>
    refine hquiet (b := { b with flags := b.flags.dispose n }) ?_
    refine hb.of_silence rfl ?_ fun m source hsource => ?_
    · exact (b.flags.names_modify n _).symm ▸ hb.named
    · obtain ⟨old, hold, rfl⟩ := TestFlags.mem_modify.1 hsource
      refine ⟨old, hold, ?_⟩
      by_cases hne : m = n <;> simp [hne, TestSource.isActive]
  | release n =>
    refine hquiet (b := { b with flags := b.flags.release n }) ?_
    refine hb.of_silence rfl ?_ fun m source hsource => ?_
    · exact hb.named.sublist (List.filter_sublist.map _)
    · exact ⟨source, (List.mem_filter.1 hsource).1, rfl, id⟩

/-! ### Every run -/

/-- What it means that the sources keep their stores in line with the flags after these events. -/
structure Mirrored (events : List TestEvent) : Prop where
  /-- The definitions are what the changes have made of them. -/
  definitions : ∀ key, (run events).flags.definitions[key]? = definedBy events key
  /-- The store of a source that was started and not disposed of holds under each key what the
  definition makes of the identity, and nothing else. -/
  current : ∀ n context, IsStarted events n context → ∀ key,
    ((run events).store n).stored? key =
      (run events).flags.definitions[key]?.map (·.itemFor context.identity)
  /-- It is what a source that begins now would deliver. -/
  whole : ∀ n context, IsStarted events n context →
    (run events).store n = .ofSnapshot ((run events).flags.snapshotFor context.identity)
  /-- Changes are pushed to the sources that were started and not disposed of. -/
  active_iff : ∀ n context, IsStarted events n context ↔
    ∃ source, (n, source) ∈ (run events).flags.sources ∧ source.isActive = true ∧
      source.context = context
  /-- A source that is not started after an event has not delivered anything in it. -/
  silent : ∀ e n, (∀ context, ¬ IsStarted (events ++ [e]) n context) →
    (run (events ++ [e])).delivered n = (run events).delivered n
  /-- A source that was not started yet has never delivered anything. -/
  waiting : ∀ n, (∀ before after context, events = before ++ after →
    ¬ IsStarted before n context) → (run events).delivered n = []

end TestBench

end LiveFlags
