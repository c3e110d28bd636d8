import LiveFlags.Snapshot
import LiveFlags.Source.Context
import LiveFlags.Status

/-!
# What a source delivers

A data source speaks to the client in four ways: it delivers a whole snapshot, it delivers one item,
it reports a state or an error, and it reports that it has stopped for good.
-/

namespace LiveFlags

/-- What a source tells the client. -/
inductive Delivery where
  | snapshot (identity : Identity) (snapshot : Snapshot)
  | item (identity : Identity) (item : Item)
  | status (state : Option ConnectionState) (error : Option SourceError)
  /-- The source has stopped and must not be replaced by another one. -/
  | failure (error : SourceError)

namespace Delivery

/-- Data is there and current. -/
def valid : Delivery :=
  .status (some .valid) none

/-- The connection is lost for now. -/
def interrupted (error : SourceError) : Delivery :=
  .status (some .interrupted) (some error)

end Delivery

end LiveFlags
