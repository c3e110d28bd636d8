import LiveFlags.Source.Delivery
import LiveFlags.FlagData

/-!
# Steps of the flags

The flags of the current identity change in three ways: another identity becomes the current one,
a snapshot arrives, or an item arrives. A `DataStep` is one of these. Its effect depends on the
reading of the clock as well, since the cache remembers when an identity was last used.

A failure of the cache never stays where it happened: it is collected after each step and goes into
the status of the connection. `FlagData.take` is a whole step in this sense.
-/

namespace LiveFlags

/-- A change of the flags from outside. -/
inductive DataStep where
  | switch (identity : Identity)
  | snapshot (identity : Identity) (snapshot : Snapshot)
  | item (identity : Identity) (item : Item)

/-- What a delivery means for the flags; reports on the source mean nothing for them. -/
def Delivery.dataStep? : Delivery → Option DataStep
  | .snapshot identity s => some (.snapshot identity s)
  | .item identity i => some (.item identity i)
  | .status _ _ => none
  | .failure _ => none

namespace FlagData

variable {σ : Type}

/-- The flags without the reports of the cache. -/
def collected (d : FlagData σ) : FlagData σ :=
  { d with cache := d.cache.collect.2 }

variable [Storage σ]

/-- Takes a step at a reading of the clock. -/
def perform (d : FlagData σ) : DataStep → Int → FlagData σ
  | .switch identity, now => (d.switch identity now).2
  | .snapshot identity snapshot, now => d.init identity snapshot now
  | .item identity item, now => d.upsert identity item now

/-- Takes a step and hands over the reports of the cache. -/
def take (d : FlagData σ) (entry : DataStep × Int) : FlagData σ :=
  (d.perform entry.1 entry.2).collected

/-! ### The current identity -/

/-- A delivery does not change the identity, whomever it is for. -/
@[simp]
theorem init_identity (d : FlagData σ) (identity : Identity) (snapshot : Snapshot) (now : Int) :
    (d.init identity snapshot now).identity = d.identity := by
  unfold init
  split <;> rfl

omit [Storage σ] in
theorem applyItem_identity {d d' : FlagData σ} {item : Item} {changes : List Change}
    (h : d.applyItem item = some (d', changes)) : d'.identity = d.identity := by
  simp only [applyItem, Option.map_eq_some_iff] at h
  obtain ⟨_, -, h⟩ := h
  cases h
  rfl

@[simp]
theorem upsert_identity (d : FlagData σ) (identity : Identity) (item : Item) (now : Int) :
    (d.upsert identity item now).identity = d.identity := by
  unfold upsert
  split
  · split
    · next d' changes h =>
      have hd : d'.identity = d.identity := applyItem_identity h
      exact hd
    · rfl
  · rfl

/-- What a source delivers does not change the current identity. -/
theorem take_identity (d : FlagData σ) {delivery : Delivery} {step : DataStep}
    (h : delivery.dataStep? = some step) (now : Int) :
    (d.take (step, now)).identity = d.identity := by
  cases delivery <;> cases h
  · exact init_identity ..
  · exact upsert_identity ..

end FlagData

end LiveFlags
