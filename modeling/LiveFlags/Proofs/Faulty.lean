import LiveFlags.Proofs.Storage
import LiveFlags.Storage.Monitored

/-!
# Storages whose accesses fail

`Faulty σ` is a reliable storage of which any access may fail. A plan says which ones do: it knows
how many accesses went before and what is accessed, so every pattern of failures is the pattern of
some plan. An access that fails changes nothing, one that does not is that of the reliable storage,
and a log keeps all of them in their order.

Main statements: `get_eq` and `set_eq`.
-/

namespace LiveFlags

/-- An access to a storage, with the failure in which it ended. -/
structure LoggedAccess where
  record : AccessRecord
  fault : Option StorageError
deriving DecidableEq, Repr

/-- A storage whose accesses may fail. -/
structure Faulty (σ : Type) where
  storage : σ
  /-- The failure of an access, by the number of accesses before it. -/
  plan : Nat → AccessRecord → Option StorageError
  /-- The accesses made, oldest first. -/
  log : List LoggedAccess := []

namespace Faulty

variable {σ : Type}

/-- The failure of the next access. -/
def fault? (f : Faulty σ) (record : AccessRecord) : Option StorageError :=
  f.plan f.log.length record

/-- The storage with the next access in its log. -/
def logged (f : Faulty σ) (record : AccessRecord) : Faulty σ :=
  { f with log := f.log ++ [⟨record, f.fault? record⟩] }

/-- Makes an access, unless it is to fail. -/
def access {α : Type} (f : Faulty σ) (record : AccessRecord)
    (run : σ → Except StorageError α × σ) : Except StorageError α × Faulty σ :=
  match f.fault? record with
  | some error => (.error error, f.logged record)
  | none => ((run f.storage).1, { f.logged record with storage := (run f.storage).2 })

instance [Storage σ] : Storage (Faulty σ) where
  get f space key := f.access ⟨.get, space, key⟩ fun s => Storage.get s space key
  set f space key text :=
    f.access ⟨if text.isSome then .set else .remove, space, key⟩ fun s =>
      Storage.set s space key text

variable [Storage σ] [ReliableStorage σ]

/-- The text under a namespace and a key. -/
def text? (f : Faulty σ) (space key : String) : Option String :=
  ReliableStorage.text? f.storage space key

/-- Reading gives the text that is there, unless it fails. -/
theorem get_eq (f : Faulty σ) (space key : String) :
    ∃ storage, Storage.get f space key =
        ((f.fault? ⟨.get, space, key⟩).elim (.ok (f.text? space key)) .error,
          { f.logged ⟨.get, space, key⟩ with storage }) ∧
      ReliableStorage.text? storage = f.text? := by
  have hget : Storage.get f space key =
      f.access ⟨.get, space, key⟩ fun s => Storage.get s space key := rfl
  rw [hget, access]
  cases f.fault? ⟨.get, space, key⟩ with
  | some error => exact ⟨f.storage, rfl, rfl⟩
  | none =>
    refine ⟨(Storage.get f.storage space key).2, ?_, ReliableStorage.text?_get ..⟩
    rw [ReliableStorage.get_eq]
    rfl

/-- Writing puts the text in its place, unless it fails. -/
theorem set_eq (f : Faulty σ) {kind : AccessKind} (space key : String) {text : Option String}
    (hkind : (if text.isSome then .set else .remove) = kind) :
    ∃ storage, Storage.set f space key text =
        ((f.fault? ⟨kind, space, key⟩).elim (.ok ()) .error,
          { f.logged ⟨kind, space, key⟩ with storage }) ∧
      ∀ space' key', ReliableStorage.text? storage space' key' =
        if f.fault? ⟨kind, space, key⟩ = none ∧ space' = space ∧ key' = key then text
        else f.text? space' key' := by
  subst hkind
  have hset : Storage.set f space key text =
      f.access ⟨if text.isSome then .set else .remove, space, key⟩ fun s =>
        Storage.set s space key text := rfl
  rw [hset, access]
  cases f.fault? ⟨if text.isSome then .set else .remove, space, key⟩ with
  | some error => exact ⟨f.storage, rfl, fun space' key' => by simp [text?]⟩
  | none =>
    refine ⟨(Storage.set f.storage space key text).2, ?_, fun space' key' => ?_⟩
    · rw [ReliableStorage.set_eq]
      rfl
    · simp [ReliableStorage.text?_set, text?]

end Faulty

end LiveFlags
