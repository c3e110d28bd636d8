import LiveFlags.Error.Storage

/-!
# Storage

A storage keeps texts under a namespace and a key. `Storage σ` says how a state of type `σ` is read
and written; each access may fail and may change the state, failed or not.
-/

namespace LiveFlags

/-- Storages with a state of type `σ`. -/
class Storage (σ : Type) where
  /-- The text under a namespace and a key. -/
  get : σ → String → String → Except StorageError (Option String) × σ
  /-- Puts a text under a namespace and a key, or removes what is there. -/
  set : σ → String → String → Option String → Except StorageError Unit × σ

end LiveFlags
