import LiveFlags.Proofs.FlagData.LastSave
import Mathlib.Data.List.Perm.Basic

/-!
# What observers hear of overlapping updates

A call finds its changes while it applies its update, but it tells them later, one by one, and calls
that applied theirs afterwards may come first. So the changes are told in some other order than the
one in which they were caused. None is lost on the way and none is told twice (`perm_of_run`), and
what was *caused* last for a flag describes the flag as it is now (`describes_of_run`). What was
*told* last does so if it is the same change. Two calls for one flag may tell their changes in the
wrong order, and then the observers are left with the older value.

A change is caused by a visible value that differs, or by a flag that goes away. A flag that comes
back with the value `null` is neither, so the last change may say that a flag is gone although it is
there again.

Main statement: `heard_of_atRest`.
-/

namespace LiveFlags

namespace Change

/-! ### The last change of a flag -/

/-- The last of the changes of a flag. -/
def last? (changes : List Change) (key : String) : Option Change :=
  (changes.filter (·.key = key)).getLast?

/-- The last change of a key is among the later ones, if these have any. -/
theorem last?_append (changes more : List Change) (key : String) :
    last? (changes ++ more) key = (last? more key).or (last? changes key) := by
  rw [last?, List.filter_append, List.getLast?_append]
  rfl

theorem mem_of_last? {changes : List Change} {key : String} {c : Change}
    (h : last? changes key = some c) : c ∈ changes ∧ c.key = key := by
  simpa using List.mem_of_getLast? h

theorem last?_eq_none_iff {changes : List Change} {key : String} :
    last? changes key = none ↔ ∀ c ∈ changes, c.key ≠ key := by
  simp [last?]

/-- The change carries the visible value and tells whether the flag is there. -/
def Current (c : Change) (item : Option Item) : Prop :=
  c.newValue.same (visible item) = true ∧ c.deleted = !isLive item

instance (c : Change) (item : Option Item) : Decidable (c.Current item) :=
  inferInstanceAs (Decidable (_ ∧ _))

/-- The change carries the visible value. If it says that the flag is gone, the flag may have come
back with the value `null`. -/
structure Describes (c : Change) (item : Option Item) : Prop where
  value : c.newValue.same (visible item) = true
  there : c.deleted = false → isLive item = true
  gone : c.deleted = true → visible item = .null

/-- A transition describes the item that it leads to. -/
theorem describes_transition (key : String) (old new : Option Item) :
    (transition key old new).Describes new where
  value := Json.same_refl _
  there h := by simpa [transition] using h
  gone h := visible_of_not_isLive (by simpa [transition] using h)

/-- A step that observers need not hear of leaves a description right. -/
theorem Describes.of_not_needed {c : Change} {old new : Option Item} (h : c.Describes old)
    (hneeded : ¬ Needed old new) : c.Describes new := by
  simp only [Needed, not_or, Bool.not_eq_false, not_and] at hneeded
  obtain ⟨hsame, hlive⟩ := hneeded
  refine ⟨Json.same_trans h.value hsame, fun hc => hlive (h.there hc), fun hc => ?_⟩
  rw [h.gone hc] at hsame
  cases hnew : visible new with
  | null => rfl
  | bool | int | float | str | arr | obj =>
    rw [hnew] at hsame
    cases hsame

/-- Of an exact report, the last change of a flag is the one that describes it. -/
theorem Reports.describes {old new : String → Option Item} {changes : List Change}
    (h : Reports old new changes) {key : String} {c : Change} (hlast : last? changes key = some c) :
    c.Describes (new key) := by
  obtain ⟨hmem, rfl⟩ := mem_of_last? hlast
  rw [((h.mem_iff c).1 hmem).2]
  exact describes_transition ..

/-- A key that is not reported needed no report. -/
theorem Reports.not_needed {old new : String → Option Item} {changes : List Change}
    (h : Reports old new changes) {key : String} (hlast : last? changes key = none) :
    ¬ Needed (old key) (new key) := by
  intro hneeded
  have hmem : transition key (old key) (new key) ∈ changes := (h.mem_iff _).2 ⟨hneeded, rfl⟩
  exact last?_eq_none_iff.1 hlast _ hmem rfl

end Change

namespace Mirror

/-- The mirror shows the visible value of one key. -/
def Shows (m : Mirror) (key : String) (item : Option Item) : Prop :=
  (m[key]?.getD Json.null).same (Change.visible item) = true

/-- The last change of a key decides about it. -/
theorem getElem?_foldl_follow (changes : List Change) (m : Mirror) (key : String) :
    (changes.foldl follow m)[key]? =
      match Change.last? changes key with
      | some c => if c.deleted then none else some c.newValue
      | none => m[key]? := by
  induction changes using List.reverseRecOn with
  | nil => rfl
  | append_singleton changes c ih =>
    rw [List.foldl_concat, getElem?_follow, Change.last?_append]
    by_cases hkey : c.key = key
    · simp [Change.last?, hkey]
    · have hnone : Change.last? [c] key = none := by simp [Change.last?, hkey]
      rw [if_neg hkey, hnone, Option.none_or]
      exact ih

end Mirror

/-- What a call has found and not told yet. -/
def UpdateStage.pending : UpdateStage → List Change
  | .called => []
  | .applied changes | .seen changes _ | .telling changes => changes

namespace FlagData

variable {σ : Type}

/-- An update that is applied finds exactly the changes that observers have to hear of. -/
theorem reports_applied? {d d' : FlagData σ} {step : DataStep} {changes : List Change}
    (h : d.applied? step = some (d', changes)) : Change.Reports d.get? d'.get? changes := by
  cases step with
  | switch identity => cases h
  | snapshot identity snapshot =>
    cases h
    exact d.store.reports_init snapshot
  | item identity item =>
    obtain ⟨⟨store, told⟩, hupsert, heq⟩ := Option.map_eq_some_iff.1 h
    cases heq
    exact ItemStore.reports_upsert hupsert

end FlagData

namespace Overlap

variable {σ : Type}

/-- What the calls have found and not told yet. -/
def pending (s : Overlap σ) : List Change :=
  s.calls.flatMap (·.stage.pending)

/-- When all calls are through, no change is left to be told. -/
theorem AtRest.pending {s : Overlap σ} (h : s.AtRest) : s.pending = [] := by
  refine List.flatMap_eq_nil_iff.2 fun u hu => ?_
  rw [h u hu]
  rfl

/-- The changes that an event causes, which are those of the update that a call applies. -/
def caused (s : Overlap σ) : UpdateEvent → List Change
  | .act n .apply =>
    match s.calls[n]? with
    | some u => ((s.data.applied? u.step).map (·.2)).getD []
    | none => []
  | _ => []

/-- The changes that an event tells. -/
def told (s : Overlap σ) : UpdateEvent → List Change
  | .act n .tell =>
    match s.calls[n]? with
    | some u => u.stage.pending.take 1
    | none => []
  | _ => []

variable [Storage σ]

/-- What the events of a run yield, in order. -/
def collect (yields : Overlap σ → UpdateEvent → List Change) (s : Overlap σ) :
    List UpdateEvent → List Change
  | [] => []
  | e :: es => yields s e ++ ((s.step e).map (collect yields · es)).getD []

theorem collect_concat (yields : Overlap σ → UpdateEvent → List Change) {s s' : Overlap σ}
    {es : List UpdateEvent} (h : s.run es = some s') (e : UpdateEvent) :
    collect yields s (es ++ [e]) = collect yields s es ++ yields s' e := by
  induction es generalizing s with
  | nil =>
    obtain rfl : s = s' := Option.some.inj h
    cases hstep : s.step e <;> simp [collect, hstep]
  | cons e' es ih =>
    rw [run_cons] at h
    obtain ⟨s₁, hstep, hrest⟩ := Option.bind_eq_some_iff.1 h
    simp [collect, hstep, ih hrest]

/-- The changes of a run in the order in which they were caused. -/
def causes (s : Overlap σ) (es : List UpdateEvent) : List Change :=
  collect caused s es

/-- The changes of a run in the order in which they were told. -/
def hears (s : Overlap σ) (es : List UpdateEvent) : List Change :=
  collect told s es

/-! ### One event -/

section Step

variable {s s' : Overlap σ} {e : UpdateEvent}

/-- What an action of a call does to its changes, to the flags and to the observers. -/
theorem yields_of_act {n : Nat} {action : UpdateAction} {u : Update} {data : FlagData σ}
    {stage : UpdateStage} (hu : s.calls[n]? = some u)
    (hact : s.data.act u.step u.stage action = some (data, stage)) :
    s.told (.act n action) ++ stage.pending = u.stage.pending ++ s.caused (.act n action) ∧
      data.notifier = Notifier.notify s.data.notifier (s.told (.act n action)) ∧
      Change.Reports s.data.get? data.get? (s.caused (.act n action)) := by
  have hsilent : Change.Reports s.data.get? s.data.get? [] :=
    Change.reports_nil fun key => Change.Alike.refl _
  -- Only applying causes changes, and only telling tells them.
  obtain ⟨step, ustage⟩ := u
  cases action with
  | apply =>
    obtain ⟨rfl, -⟩ := FlagData.act_apply hact
    simp only [caused, told, hu, FlagData.act] at hact ⊢
    cases happly : s.data.applied? step with
    | none =>
      rw [happly] at hact
      cases hact
      exact ⟨rfl, rfl, hsilent⟩
    | some applied =>
      obtain ⟨d, changes⟩ := applied
      rw [happly] at hact
      cases hact
      exact ⟨rfl, by rw [FlagData.applied?_eq_some happly]; rfl, FlagData.reports_applied? happly⟩
  | read =>
    obtain ⟨changes, rfl, rfl, rfl⟩ := FlagData.act_read hact
    exact ⟨(List.append_nil changes).symm, rfl, hsilent⟩
  | save now =>
    obtain ⟨changes, snapshot, rfl, rfl, rfl⟩ := FlagData.act_save hact
    exact ⟨(List.append_nil changes).symm, rfl, hsilent⟩
  | tell =>
    obtain ⟨change, changes, rfl, rfl, rfl⟩ := FlagData.act_tell hact
    have htold : s.told (.act n .tell) = [change] := by
      simp [told, hu, UpdateStage.pending]
    rw [htold]
    exact ⟨(List.append_nil (change :: changes)).symm, rfl, hsilent⟩

open scoped List in
/-- Whatever was pending or is caused by the event is either told by it or pending afterwards. -/
theorem perm_of_step (h : s.step e = some s') :
    s.told e ++ s'.pending ~ s.pending ++ s.caused e := by
  cases e with
  | call step =>
    obtain ⟨-, rfl⟩ := step_call h
    simp [told, caused, pending, UpdateStage.pending]
  | act n action =>
    obtain ⟨u, data, stage, hu, hact, rfl⟩ := step_act h
    obtain ⟨hyields, -⟩ := yields_of_act hu hact
    obtain ⟨hn, rfl⟩ := List.getElem?_eq_some_iff.1 hu
    -- The other calls keep what they have.
    let others : List Change := (s.calls.eraseIdx n).flatMap (·.stage.pending)
    have hbefore : s.pending ~ s.calls[n].stage.pending ++ others :=
      ((List.getElem_cons_eraseIdx_perm hn).flatMap_right _).symm
    have hafter : pending { data, calls := s.calls.set n { s.calls[n] with stage } } ~
        stage.pending ++ others :=
      (List.set_perm_cons_eraseIdx hn _).flatMap_right _
    calc s.told (.act n action) ++
          pending { data, calls := s.calls.set n { s.calls[n] with stage } }
      _ ~ s.told (.act n action) ++ (stage.pending ++ others) := hafter.append_left _
      _ = s.calls[n].stage.pending ++ (s.caused (.act n action) ++ others) := by
        rw [← List.append_assoc, hyields, List.append_assoc]
      _ ~ s.calls[n].stage.pending ++ (others ++ s.caused (.act n action)) :=
        List.perm_append_comm.append_left _
      _ = s.calls[n].stage.pending ++ others ++ s.caused (.act n action) :=
        (List.append_assoc ..).symm
      _ ~ s.pending ++ s.caused (.act n action) := hbefore.symm.append_right _

/-- The notifier hears of a step what it tells, in this order. -/
theorem notifier_of_step (h : s.step e = some s') :
    s'.data.notifier = Notifier.notify s.data.notifier (s.told e) := by
  cases e with
  | call step =>
    obtain ⟨-, rfl⟩ := step_call h
    rfl
  | act n action =>
    obtain ⟨u, data, stage, hu, hact, rfl⟩ := step_act h
    exact (yields_of_act hu hact).2.1

/-- An event causes exactly the changes that observers have to hear of. -/
theorem reports_of_step (h : s.step e = some s') :
    Change.Reports s.data.get? s'.data.get? (s.caused e) := by
  cases e with
  | call step =>
    obtain ⟨-, rfl⟩ := step_call h
    exact Change.reports_nil fun key => Change.Alike.refl _
  | act n action =>
    obtain ⟨u, data, stage, hu, hact, rfl⟩ := step_act h
    exact (yields_of_act hu hact).2.2

end Step

/-! ### A run -/

section Run

variable {s s' : Overlap σ} {es : List UpdateEvent}

open scoped List in
/-- Every change of a run was told or is still pending. -/
theorem perm_of_run (hs : s.pending = []) (h : s.run es = some s') :
    s.hears es ++ s'.pending ~ s.causes es := by
  refine run_induction (motive := fun es s' => s.hears es ++ s'.pending ~ s.causes es) ?_ ?_ h
  · rw [hs]
    exact List.Perm.refl _
  · intro es e s₁ s₂ hrun hm hstep
    rw [hears, causes, collect_concat _ hrun, collect_concat _ hrun, List.append_assoc]
    calc s.hears es ++ (s₁.told e ++ s₂.pending)
      _ ~ s.hears es ++ (s₁.pending ++ s₁.caused e) := (perm_of_step hstep).append_left _
      _ = s.hears es ++ s₁.pending ++ s₁.caused e := (List.append_assoc ..).symm
      _ ~ s.causes es ++ s₁.caused e := hm.append_right _

/-- Over a run it hears the changes in the order in which they are told. -/
theorem notifier_of_run (h : s.run es = some s') :
    s'.data.notifier = Notifier.notify s.data.notifier (s.hears es) := by
  refine run_induction (motive := fun es s' =>
    s'.data.notifier = Notifier.notify s.data.notifier (s.hears es)) rfl ?_ h
  intro es e s₁ s₂ hrun hm hstep
  rw [hears, collect_concat _ hrun, notifier_of_step hstep, hm]
  exact List.foldl_append.symm

/-- **What was caused last for a flag describes the flag.** -/
theorem describes_of_run (h : s.run es = some s') {key : String} {c : Change}
    (hlast : Change.last? (s.causes es) key = some c) : c.Describes (s'.data.get? key) := by
  refine run_induction (motive := fun es s' => ∀ c, Change.last? (s.causes es) key = some c →
    c.Describes (s'.data.get? key)) nofun ?_ h c hlast
  intro es e s₁ s₂ hrun hm hstep c hlast
  rw [causes, collect_concat _ hrun, Change.last?_append] at hlast
  have hreports := reports_of_step hstep
  cases hcaused : Change.last? (s₁.caused e) key with
  | some c' =>
    rw [hcaused] at hlast
    cases hlast
    exact hreports.describes hcaused
  | none =>
    rw [hcaused] at hlast
    exact (hm c hlast).of_not_needed (hreports.not_needed hcaused)

/-- A flag without changes looks as it did. -/
theorem same_of_run (h : s.run es = some s') {key : String}
    (hnone : Change.last? (s.causes es) key = none) :
    (Change.visible (s.data.get? key)).same (Change.visible (s'.data.get? key)) = true := by
  refine run_induction (motive := fun es s' => Change.last? (s.causes es) key = none →
    (Change.visible (s.data.get? key)).same (Change.visible (s'.data.get? key)) = true)
    (fun _ => Json.same_refl _) ?_ h hnone
  intro es e s₁ s₂ hrun hm hstep hnone
  rw [causes, collect_concat _ hrun, Change.last?_append, Option.or_eq_none_iff] at hnone
  have hneeded := (reports_of_step hstep).not_needed hnone.1
  simp only [Change.Needed, not_or, Bool.not_eq_false] at hneeded
  exact Json.same_trans (hm hnone.2) hneeded.1

end Run

/-! ### All calls have returned -/

/-- What observers have heard of a run, and what they know from it. -/
structure Heard (d : FlagData σ) (es : List UpdateEvent) (s : Overlap σ) : Prop where
  /-- They were told the changes in this order. -/
  notifier : s.data.notifier = Notifier.notify d.notifier ((around d).hears es)
  /-- Each change of the run was told once. -/
  perm : ((around d).hears es).Perm ((around d).causes es)
  /-- The change that was caused last describes the flag. -/
  describes : ∀ key c, Change.last? ((around d).causes es) key = some c →
    c.Describes (s.data.get? key)
  /-- A flag of which they have not heard looks as it did. -/
  silent : ∀ key, Change.last? ((around d).hears es) key = none →
    (Change.visible (d.get? key)).same (Change.visible (s.data.get? key)) = true
  /-- The change that was told last has the value of the flag exactly if it has the value of the
  change that was caused last. -/
  value_iff : ∀ key c last, Change.last? ((around d).hears es) key = some c →
    Change.last? ((around d).causes es) key = some last →
      (c.newValue.same (Change.visible (s.data.get? key)) = true ↔
        c.newValue.same last.newValue = true)
  /-- An observer who has followed all changes knows the value of every flag whose last change was
  told last. -/
  mirror : ∀ (m : Mirror) (key : String), m.Shows key (d.get? key) →
    Change.last? ((around d).hears es) key = Change.last? ((around d).causes es) key →
      Mirror.Shows (((around d).hears es).foldl Mirror.follow m) key (s.data.get? key)

/-- **Once all calls have returned, observers have heard of every change once, and what was caused
last for a flag describes it.** -/
theorem heard_of_atRest {d : FlagData σ} {es : List UpdateEvent} {s : Overlap σ}
    (h : (around d).run es = some s) (hend : s.AtRest) : Heard d es s := by
  have hperm : ((around d).hears es).Perm ((around d).causes es) := by
    have hall := perm_of_run rfl h
    rwa [hend.pending, List.append_nil] at hall
  have hnone (key : String) (hheard : Change.last? ((around d).hears es) key = none) :
      Change.last? ((around d).causes es) key = none :=
    Change.last?_eq_none_iff.2 fun c hc =>
      Change.last?_eq_none_iff.1 hheard c (hperm.mem_iff.2 hc)
  refine ⟨notifier_of_run h, hperm, fun key c => describes_of_run h,
    fun key hheard => same_of_run h (hnone key hheard), fun key c last _ hlast => ?_,
    fun m key hm hsame => ?_⟩
  · have hvalue := (describes_of_run h hlast).value
    exact ⟨fun hc => Json.same_trans hc (Json.same_symm hvalue),
      fun hc => Json.same_trans hc hvalue⟩
  · unfold Mirror.Shows
    rw [Mirror.getElem?_foldl_follow, hsame]
    cases hlast : Change.last? ((around d).causes es) key with
    | none => exact Json.same_trans hm (same_of_run h hlast)
    | some c =>
      have hc := describes_of_run h hlast
      cases hdeleted : c.deleted with
      | false => simpa [hdeleted] using hc.value
      | true => simp [hdeleted, hc.gone hdeleted, Json.same]

/-! ### Two calls for one flag -/

open FlagData (guest blank)

/-- An item of the flag `a`. -/
def flagA (version : Nat) (value : Json) : Item where
  key := "a"
  version
  value

/-- Two calls that apply their updates in the order of their versions. -/
def newerSecond : List UpdateEvent :=
  [.call (.item guest (flagA 1 (.bool false))), .call (.item guest (flagA 2 (.bool true))),
    .act 0 .apply, .act 1 .apply, .act 1 .read, .act 0 .read, .act 1 (.save 1), .act 0 (.save 2)]

/-- The older change is told first, and an observer knows the value. -/
theorem heard_newerSecond :
    ∃ s, (around blank).run (newerSecond ++ [.act 0 .tell, .act 1 .tell]) = some s ∧ s.AtRest ∧
      Heard blank (newerSecond ++ [.act 0 .tell, .act 1 .tell]) s := by
  have hfinal : ((around blank).run (newerSecond ++ [.act 0 .tell, .act 1 .tell])).map
      (fun s => s.calls.map (·.stage)) = some (List.replicate 2 (.telling [])) := rfl
  obtain ⟨s, h, hstages⟩ := Option.map_eq_some_iff.1 hfinal
  have hend : s.AtRest := atRest_of_stages hstages
  exact ⟨s, h, hend, heard_of_atRest h hend⟩

/-- The newer change is told first. -/
def newerFirst : List UpdateEvent :=
  newerSecond ++ [.act 1 .tell, .act 0 .tell]

/-- A call that is done before the next one begins. -/
def alone (n : Nat) (item : Item) : List UpdateEvent :=
  [.call (.item guest item), .act n .apply, .act n .read, .act n (.save n), .act n .tell]

/-- A flag that goes away and comes back with the value `null`. -/
def revived : List UpdateEvent :=
  alone 0 (flagA 1 (.bool true)) ++ alone 1 (Item.tombstone "a" 2) ++
    [.call (.item guest (flagA 3 .null)), .act 2 .apply, .act 2 .read, .act 2 (.save 2)]

/-- Observers are left with the older of two values, and a flag that they believe gone is there. -/
theorem exists_not_current :
    (∃ s c, (around blank).run newerFirst = some s ∧ s.AtRest ∧
      Change.last? ((around blank).hears newerFirst) "a" = some c ∧
        ¬ c.Current (s.data.get? "a")) ∧
    ∃ s c, (around blank).run revived = some s ∧ s.AtRest ∧
      Change.last? ((around blank).hears revived) "a" = some c ∧ ¬ c.Current (s.data.get? "a") := by
  constructor
  · have hfinal : ((around blank).run newerFirst).map
        (fun s => (s.data.get? "a", s.calls.map (·.stage))) =
          some (some (flagA 2 (.bool true)), List.replicate 2 (.telling [])) := rfl
    obtain ⟨s, h, hthere⟩ := Option.map_eq_some_iff.1 hfinal
    obtain ⟨hitem, hstages⟩ := Prod.mk.inj hthere
    refine ⟨s, _, h, atRest_of_stages hstages, rfl, ?_⟩
    rw [hitem]
    decide
  · have hfinal : ((around blank).run revived).map
        (fun s => (s.data.get? "a", s.calls.map (·.stage))) =
          some (some (flagA 3 .null), List.replicate 3 (.telling [])) := rfl
    obtain ⟨s, h, hthere⟩ := Option.map_eq_some_iff.1 hfinal
    obtain ⟨hitem, hstages⟩ := Prod.mk.inj hthere
    refine ⟨s, _, h, atRest_of_stages hstages, rfl, ?_⟩
    rw [hitem]
    decide

end Overlap

end LiveFlags
