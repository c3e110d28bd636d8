import LiveFlags.Proofs.Cache.Recency

/-!
# The places of identities in the cache

Without a limit on identities nothing is ever forgotten, and a cache comes down to one text for each
cache key: to save puts one text in its place, and neither to load nor to open the cache again
changes any. Identities then get in each other's way exactly if they share a cache key.

The cache key is to keep anonymous identities apart from named ones by a mark before the key. It
does, up to one thing: the key of a named identity may begin with the mark itself, and such an
identity stands in the place of an anonymous one. Whatever is saved for one of the two is loaded for
the other.

Main statement: `separate_iff`.
-/

namespace LiveFlags

namespace Identity

/-- The anonymous identity `a` has the cache key of the named identity `b`, whose key begins with
the mark. -/
def Shadows (a b : Identity) : Prop :=
  a.anonymous = true ∧ b.anonymous = false ∧ b.key = anonymousMark ++ a.key

/-- **The cache key tells keys and anonymous identities apart**, but for a key that begins with the
mark. -/
theorem cacheKey_eq_iff {a b : Identity} : a.cacheKey = b.cacheKey ↔
    (a.key = b.key ∧ a.anonymous = b.anonymous) ∨ a.Shadows b ∨ b.Shadows a := by
  unfold cacheKey Shadows
  cases a.anonymous <;> cases b.anonymous
  · simp
  · simp
  · simp [eq_comm]
  · simp [String.append_right_inj]

/-- Of two identities that differ in their key or in being anonymous, one shadows the other if they
share a place. -/
theorem cacheKey_eq_iff_of_ne {a b : Identity} (h : a.key ≠ b.key ∨ a.anonymous ≠ b.anonymous) :
    a.cacheKey = b.cacheKey ↔ a.Shadows b ∨ b.Shadows a := by
  rw [cacheKey_eq_iff, or_iff_right]
  rintro ⟨hkey, hanonymous⟩
  exact h.elim (absurd hkey) (absurd hanonymous)

end Identity

namespace CacheCall

/-- The call sets no limit on the number of identities. -/
def IsUnlimited : CacheCall → Prop
  | .reopen capacity => capacity < 0
  | _ => True

/-- The call saves or loads for this identity. -/
def IsFor (identity : Identity) : CacheCall → Prop
  | .save i _ _ | .load i _ => i = identity
  | .reopen _ => False

theorem IsFor.isUnlimited {identity : Identity} {call : CacheCall} (h : call.IsFor identity) :
    call.IsUnlimited := by
  cases call with
  | save | load => trivial
  | reopen capacity => cases h

end CacheCall

namespace Cache

variable {σ : Type}

theorem isEnabled_of_unlimited {c : Cache σ} (h : c.capacity < 0) : c.isEnabled = true := by
  simp only [isEnabled, decide_eq_true_eq]
  exact Int.ne_of_lt h

variable [Storage σ] [ReliableStorage σ]

/-- The text that is remembered under a cache key. -/
def remembered? (c : Cache σ) (key : String) : Option String :=
  c.text? c.dataSpace key

/-! ### Operations without a limit -/

/-- Nothing is forgotten when a text is saved. -/
theorem save_frame {c : Cache σ} (h : c.capacity < 0) (identity : Identity) (text : String)
    (now : Int) :
    ∃ storage index, c.save identity text now = { c with storage, index } ∧
      ∀ key, ReliableStorage.text? storage c.dataSpace key =
        if key = identity.cacheKey then some text else c.remembered? key := by
  have hexcess : excess { c with index := touched c.index identity.cacheKey now } = 0 := by
    simp [excess, h]
  obtain ⟨storage, heq, htext⟩ :=
    save_eq (isEnabled_of_unlimited h) identity text now rfl hexcess
  refine ⟨storage, _, heq, fun key => (htext _ key).trans ?_⟩
  rw [if_neg fun heq => c.indexSpace_ne_dataSpace heq.1.symm]
  simp [remembered?]

/-- What is loaded is the text in the place of the identity. -/
theorem load_fst {c : Cache σ} (hc : c.isEnabled = true) (identity : Identity) (now : Int) :
    (c.load identity now).1 = c.remembered? identity.cacheKey := by
  cases h : c.remembered? identity.cacheKey with
  | none => rw [load_of_none hc h]
  | some text =>
    obtain ⟨storage, heq, -⟩ := load_of_some hc h now
    rw [heq]

/-! ### Runs without a limit -/

/-- Only a text that is saved in a place changes what is remembered there. -/
theorem step_of_unlimited {c : Cache σ} (h : c.capacity < 0) {call : CacheCall}
    (hcall : call.IsUnlimited) :
    (c.step call).2.capacity < 0 ∧ ∀ key,
      (∀ identity text now, call = .save identity text now → identity.cacheKey ≠ key) →
        (c.step call).2.remembered? key = c.remembered? key := by
  cases call with
  | save identity text now =>
    obtain ⟨storage, index, heq, htext⟩ := save_frame h identity text now.toInt
    simp only [step, heq]
    refine ⟨h, fun key hkey => (htext key).trans (if_neg ?_)⟩
    exact Ne.symm (hkey identity text now rfl)
  | load identity now =>
    obtain ⟨storage, index, heq, htext⟩ := c.load_frame identity now.toInt
    simp only [step, heq]
    exact ⟨h, fun key _ => htext key⟩
  | reopen capacity =>
    obtain ⟨storage, index, failures, heq, htext⟩ := mount_eq c.storage c.name capacity
    simp only [step, heq]
    exact ⟨hcall, fun key _ => congrFun (congrFun htext _) key⟩

/-- Without a limit nothing is evicted: what is remembered under a key stays until it is saved anew.
-/
theorem run_of_unlimited {c : Cache σ} (h : c.capacity < 0) {calls : List CacheCall}
    (hcalls : ∀ call ∈ calls, call.IsUnlimited) :
    (c.run calls).2.capacity < 0 ∧ ∀ key,
      (∀ identity text now, .save identity text now ∈ calls → identity.cacheKey ≠ key) →
        (c.run calls).2.remembered? key = c.remembered? key := by
  induction calls generalizing c with
  | nil => exact ⟨h, fun _ _ => rfl⟩
  | cons call calls ih =>
    obtain ⟨hcap, hstep⟩ := step_of_unlimited h (hcalls call List.mem_cons_self)
    obtain ⟨hlast, hrun⟩ := ih hcap fun call hmem => hcalls call (List.mem_cons_of_mem _ hmem)
    refine ⟨hlast, fun key hkey => (hrun key fun identity text now hmem => ?_).trans ?_⟩
    · exact hkey identity text now (List.mem_cons_of_mem _ hmem)
    · refine hstep key fun identity text now heq => hkey identity text now ?_
      rw [heq]
      exact List.mem_cons_self

/-! ### Two identities -/

/-- Whatever is saved and loaded for `a`, what is loaded for `b` is the same as before. -/
def Separate (c : Cache σ) (a b : Identity) : Prop :=
  ∀ calls : List CacheCall, (∀ call ∈ calls, call.IsFor a) → ∀ before after,
    ((c.run calls).2.load b after).1 = (c.load b before).1

/-- Identities in different places are separate. -/
theorem separate_of_ne {c : Cache σ} (h : c.capacity < 0) {a b : Identity}
    (hne : a.cacheKey ≠ b.cacheKey) : Separate c a b := by
  intro calls hcalls before after
  obtain ⟨hcap, hrun⟩ :=
    run_of_unlimited h fun call hmem => (hcalls call hmem).isUnlimited
  rw [load_fst (isEnabled_of_unlimited hcap), load_fst (isEnabled_of_unlimited h)]
  refine hrun _ fun identity text now hmem => ?_
  have hfor : identity = a := hcalls _ hmem
  rw [hfor]
  exact hne

/-- Identities in the same place are not, whatever stands there: another text can be saved. -/
theorem not_separate_of_eq {c : Cache σ} (h : c.capacity < 0) {a b : Identity}
    (heq : a.cacheKey = b.cacheKey) : ¬ Separate c a b := by
  intro hs
  obtain ⟨text, hne⟩ : ∃ text, (c.load b 0).1 ≠ some text := by
    by_cases hempty : (c.load b 0).1 = some ""
    · exact ⟨"1", by rw [hempty]; decide⟩
    · exact ⟨"", hempty⟩
  obtain ⟨storage, index, hsave, htext⟩ := save_frame h a text 0
  have hsaved : ((c.save a text 0).load b 0).1 = some text := by
    rw [hsave]
    refine (load_fst (c := { c with storage, index }) (isEnabled_of_unlimited h) b 0).trans ?_
    exact (htext b.cacheKey).trans (if_pos heq.symm)
  have hsame := hs [.save a text 0] (fun call hmem => by rw [List.mem_singleton.1 hmem]; rfl) 0 0
  exact hne (hsame.symm.trans hsaved)

/-- **The cache keeps identities apart, with one exception.** In a cache without a limit, over a
storage that never fails and after any calls, what is done for one of two identities that differ in
their key or in being anonymous never changes what is loaded for the other, just if neither of them
shadows the other. -/
theorem separate_iff (storage : σ) (name : String) {capacity : Int} (hcap : capacity < 0)
    {calls : List CacheCall} (hcalls : ∀ call ∈ calls, call.IsUnlimited) {a b : Identity}
    (hab : a.key ≠ b.key ∨ a.anonymous ≠ b.anonymous) :
    Separate ((mount storage name capacity).run calls).2 a b ↔ ¬ (a.Shadows b ∨ b.Shadows a) := by
  obtain ⟨storage', index, failures, heq, -⟩ := mount_eq storage name capacity
  have hmount : (mount storage name capacity).capacity < 0 := by
    rw [heq]
    exact hcap
  obtain ⟨hlast, -⟩ := run_of_unlimited hmount hcalls
  rw [← Identity.cacheKey_eq_iff_of_ne hab]
  exact ⟨fun hs hsame => not_separate_of_eq hlast hsame hs, separate_of_ne hlast⟩

/-- Somebody anonymous and somebody of the same name are kept apart. -/
theorem separate_namesakes :
    Separate ((mount (∅ : MemoryStorage) "flags" (-1)).run
      [.save { key := "u" } "1" 0, .save { key := "u", anonymous := true } "2" 1, .reopen (-2)]).2
      { key := "u", anonymous := true } { key := "u" } := by
  refine (separate_iff ∅ "flags" (by decide) ?_ (.inr (by decide))).2 ?_
  · intro call hmem
    simp only [List.mem_cons, List.not_mem_nil, or_false] at hmem
    rcases hmem with rfl | rfl | rfl
    · trivial
    · trivial
    · exact Int.negSucc_lt_zero 1
  · rintro (⟨-, -, hkey⟩ | ⟨-, hanonymous, -⟩)
    · revert hkey
      decide
    · cases hanonymous

/-- Somebody whose key begins with the mark gets what is saved for somebody anonymous. -/
theorem exists_shadowed : ∃ a b : Identity, a.key ≠ b.key ∧
    ¬ Separate (mount (∅ : MemoryStorage) "flags" (-1)) a b :=
  ⟨{ key := "u", anonymous := true }, { key := "anon:u" }, by decide,
    not_separate_of_eq (by decide) (by decide)⟩

end Cache

end LiveFlags
