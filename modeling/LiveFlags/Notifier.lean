import LiveFlags.Change
import LiveFlags.Dispatch.Basic

/-!
# Observers of flags

A `Notifier` dispatches changes of visible values. A listener hears of all flags or of one.
-/

namespace LiveFlags

/-- The dispatcher of changes. -/
abbrev Notifier := Dispatcher Change

namespace Notifier

/-- A listener restricted to the changes of one flag. -/
def onlyKey (key : String) (listener : Listener Change) : Listener Change :=
  { listener with
    hears := fun change => change.key == key && listener.hears change
    panics := fun change => change.key == key && listener.panics change }

/-- Registers a listener for the changes of one flag. -/
def registerForKey (n : Notifier) (key : String) (listener : Listener Change) : Nat × Notifier :=
  n.register (onlyKey key listener)

/-- Dispatches changes in order. -/
def notify (n : Notifier) (changes : List Change) : Notifier :=
  changes.foldl Dispatcher.dispatch n

end Notifier

end LiveFlags
