import Cutover.Session.Controlling

/-!
# Polling

A loop waits for the interval, reads the status of the service and applies it, and waits again. It
ends when its latch is raised or the run is no longer in progress.

* `Poll.once`: the status is read and applied once;
* `Poll.round`: one round of the loop;
* `Poll.start`, `Poll.stop`, `Poll.wait`: the loop is started, stopped and waited for.
-/

namespace Cutover.Poll

/-- The span around a poll. -/
def span (count : Nat) (interval : Quantity) : Span where
  name := "migrateflow.poller.tick"
  attributes :=
    [(Attribute.pollCount, .whole count), (Attribute.pollInterval, interval.toValue)]

/-- The status is applied, and while it is, that is marked. -/
def applyMarked (report : Status) : Op Unit := do
  Op.modify fun s => { s with applying := true }
  Op.ensure (do let _ ← Control.apply report)
    (Work.update (Site.onSession fun s => { s with applying := false }))

/-- The status of the service, or none when it could not be read. That is reported, and the run goes
on. -/
def read (span : Nat) : Op (Option Status) :=
  Op.rescue (some <$> Call.readStatus) fun f => do
    Op.modify fun s => { s with failureCount := s.failureCount + 1 }
    Op.tag span Attribute.errorType (.text f.kind.toClass.name)
    Op.announce f.message .warning
    return none

/-- **The status is read and applied once.** -/
def once : Op Unit := do
  Op.modify fun s => { s with pollCount := s.pollCount + 1 }
  let s ← Op.session
  Op.traced (span s.pollCount s.interval) fun id => do
    match ← read id with
    | some report => applyMarked report
    | none => pure ()

/-- A poll whose fault is counted and reported, so that the loop goes on. -/
def onceOrReport : Op Unit :=
  tryCatch once fun
    | .cancelled => throw .cancelled
    | .fault _ => do
      Op.modify fun s => { s with failureCount := s.failureCount + 1 }
      Op.announce ProgressText.pollFailed .error

/-- A duration as microseconds, one at least; none when it never passes. -/
def durationOf (q : Quantity) : Option Int :=
  match microsecondsOf q with
  | .ok n => some (max 1 n)
  | .error _ => none

/-- The latch of the loop is raised. -/
def latchRaised : Op Bool := do return (← Op.session).latch.raised

/-- **One round of the loop**; tells whether there is another. -/
def round : Op Bool := do
  if ← latchRaised then return false
  let interval := (← Op.session).interval
  let _ ← Op.unwrap (← Op.perform (.watchLatch (durationOf interval)))
  let s ← Op.session
  if s.latch.raised || !s.state.isRunning then return false
  onceOrReport
  return true

/-- The loop is running. -/
def isRunning : Op Bool := do
  match (← Op.session).pollTask with
  | some t => return !(← Op.perform (.hasEnded t))
  | none => return false

/-- **The loop is started**, unless it is running. -/
def start : Op Unit := do
  if !(← isRunning) then
    Op.modify fun s => { s with latch := { generation := s.latch.generation + 1 } }
    let task ← Op.perform (.fork .pollLoop)
    Op.modify fun s => { s with pollTask := some task }

/-- The loop is asked to end before its next round. -/
def requestStop : Op Unit := Op.perform .raiseLatch

/-- Waits for a task and passes over its being cancelled. -/
def joinQuietly (task : Nat) : Op Unit := do
  match ← Op.perform (.join task) with
  | .back (.error (.fault f)) => Op.fail f
  | _ => pure ()

/-- **The loop is stopped** and waited for. A status that is being applied is not broken off. -/
def stop : Op Unit := do
  requestStop
  match (← Op.session).pollTask with
  | none => pure ()
  | some task => do
    if !(← Op.perform (.hasEnded task)) then
      if !(← Op.session).applying then Op.perform (.cancel task)
      joinQuietly task
    Op.modify fun s => { s with pollTask := none }

/-- Waits until the loop ends by itself. -/
def wait : Op Unit := do
  match (← Op.session).pollTask with
  | none => pure ()
  | some task =>
    match ← Op.unwrap (← Op.perform (.join task)) with
    | .ok _ => pure ()
    | .error e => throw e

end Cutover.Poll
