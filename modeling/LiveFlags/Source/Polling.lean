import LiveFlags.Options
import LiveFlags.Source.Turn

/-!
# Polling

A polling source fetches the whole set of flags again and again, with a fixed interval between an
answer and the next request. It goes on after a failure that may pass and stops for good after any
other. With an initial delay the first fetch waits; data from an earlier source counts as current
until then.
-/

namespace LiveFlags

/-- A source that fetches at intervals. -/
structure Polling where
  context : SourceContext
  interval : Duration
  initialDelay : Duration

namespace Polling

/-- The polling source for given conditions: in the background the longer interval holds, and right
after the foreground was left the first fetch waits for it. -/
def ofOptions (o : Options) (context : SourceContext) : Polling :=
  let interval := if context.inBackground then o.backgroundPollingInterval else o.pollingInterval
  { context, interval, initialDelay := if context.justEnteredBackground then interval else .zero }

/-- The first turn. -/
def start (p : Polling) : Turn :=
  if p.initialDelay = .zero then { await := .fetch }
  else
    { loaded := p.context.initialized
      outcome := if p.context.initialized then some true else none
      await := .timer p.initialDelay }

/-- The turn after a delay. -/
def onTimer : Turn :=
  { await := .fetch }

/-- The turn after an answer. -/
def onFetch (p : Polling) : Except SourceError Snapshot → Turn
  | .ok snapshot => .ofSnapshot p.context snapshot (.timer p.interval)
  | .error e =>
    if e.isRecoverable then { deliveries := [.interrupted e], await := .timer p.interval }
    else .stop e

end Polling

end LiveFlags
