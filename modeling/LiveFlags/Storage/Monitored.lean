import LiveFlags.Storage.Basic

/-!
# Storage under observation

`Monitored σ` passes accesses on to another storage, keeps a record of them, and lets those fail
for which a failure is set. A failure is set for one kind of access, in all namespaces or in one.
-/

namespace LiveFlags

/-- The kinds of access to a storage. -/
inductive AccessKind where
  | get
  | set
  | remove
deriving DecidableEq, Repr

def AccessKind.name : AccessKind → String
  | .get => "get"
  | .set => "set"
  | .remove => "remove"

/-- An access to a storage. -/
structure AccessRecord where
  kind : AccessKind
  space : String
  key : String
deriving DecidableEq, Repr

/-- The accesses that a failure is set for, by the name of their kind, followed by a colon and the
namespace if there is only one. -/
abbrev FailureScope := String

/-- A storage, the accesses to it and those that fail. -/
structure Monitored (σ : Type) where
  storage : σ
  failures : List (FailureScope × StorageError) := []
  /-- The accesses made, oldest first. -/
  accesses : List AccessRecord := []

namespace Monitored

variable {σ : Type}

/-- Sets the failure for a scope, or clears it. -/
def fail (m : Monitored σ) (scope : FailureScope) (error : Option StorageError) : Monitored σ :=
  let others := m.failures.filter (·.1 != scope)
  { m with failures := match error with
      | some error => (scope, error) :: others
      | none => others }

/-- The failure that is set for an access; one for its namespace goes before one for all. -/
def failure? (m : Monitored σ) (access : AccessRecord) : Option StorageError :=
  (m.failures.lookup (access.kind.name ++ ":" ++ access.space)).or
    (m.failures.lookup access.kind.name)

/-- Records an access and runs it unless a failure is set for it. -/
def access {α : Type} (m : Monitored σ) (record : AccessRecord)
    (run : σ → Except StorageError α × σ) : Except StorageError α × Monitored σ :=
  let recorded := { m with accesses := m.accesses ++ [record] }
  match m.failure? record with
  | some error => (.error error, recorded)
  | none =>
    let (result, storage) := run m.storage
    (result, { recorded with storage })

instance [Storage σ] : Storage (Monitored σ) where
  get m space key := m.access ⟨.get, space, key⟩ fun s => Storage.get s space key
  set m space key text :=
    m.access ⟨if text.isSome then .set else .remove, space, key⟩ fun s =>
      Storage.set s space key text

end Monitored

end LiveFlags
