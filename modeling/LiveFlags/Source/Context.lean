import LiveFlags.Identity

/-!
# What a data source is built for

A data source serves one identity under the conditions that hold when it is built. When these
change, it is replaced and not adapted.
-/

namespace LiveFlags

/-- What a data source is told when it is built. -/
structure SourceContext where
  identity : Identity
  inBackground : Bool := false
  /-- Whether the previous source was built in the background. -/
  previouslyInBackground : Bool := false
  /-- Whether an earlier source has already delivered data for the identity. -/
  initialized : Bool := false
deriving Inhabited

/-- Whether the application has just left the foreground with its data already loaded, so that a
further fetch can wait. -/
def SourceContext.justEnteredBackground (c : SourceContext) : Bool :=
  c.initialized && c.inBackground && !c.previouslyInBackground

end LiveFlags
