import Cutover.Session.Configuring
import Cutover.Session.Polling

/-!
# Conducting a session

What a user does with a session as a whole. A request is submitted to the service, and a run begins. Only
one run may be outstanding: a launch is refused while a run is in progress or another request waits for
its answer.

* `Launch.request`: a request is submitted, and the run begins;
* `Launch.order`: a request is assembled and submitted;
* `Conduct.begin`: the summary is read, and a stored run is taken up;
* `Conduct.cancel`, `Conduct.abandon`: polling stops; the run is forgotten as well;
* `Conduct.reconcileNow`: the resources are fetched on demand;
* `Conduct.close`: the session ends.
-/

namespace Cutover.Launch

/-- No run is in progress, and no other request waits for its answer. -/
def refuseSecond : Op Unit := do
  let s ← Op.session
  if s.launching || s.state.isRunning then
    let state ← Control.snapshot
    Op.failClient (.alreadyRunning state.phase)

/-- The span around a launch. -/
def span (r : Request) : Span where
  name := "migrateflow.launcher.launch"
  attributes :=
    [(Attribute.mode, Vocabulary.toValue r.mode), (Attribute.transfer, Vocabulary.toValue r.transfer),
      (Attribute.sharded, r.isSharded), (Attribute.shardCount, .whole r.shards.length)]

/-- The request is sent; a fault is reported and passed on. -/
def send (r : Request) (span : Nat) : Op Unit :=
  Op.rescue (Call.submit r).write fun f => do
    Op.tag span Attribute.errorType (.text f.kind.toClass.name)
    Op.announce f.message .error
    Op.failClient (.service f)

/-- The request is sent, and the run begins. -/
def submit (r : Request) : Op RunState :=
  Op.traced (span r) fun id => do
    send r id
    if !(← Op.session).isBare then Reconcile.forget
    let count : Int := r.shards.length
    let state ← Control.begin r.mode r.transfer (.whole count) (.whole (max 1 count))
    Poll.start
    return state

/-- **A request is submitted, and the run begins.** -/
def request (r : Request) : Op RunState := do
  refuseSecond
  Op.modify fun s => { s with launching := true }
  let state ← Op.ensure (submit r)
    (Work.update (Site.onSession fun s => { s with launching := false }))
  Op.announce ProgressText.started .success
  return state

/-- The request that the configuration gives for an order. -/
def assembled (o : Order) : Op Request := do
  let s ← Op.session
  Op.traced (assemblySpan s.summary o) fun _ => Op.ofExcept (assemble s.summary s.fragments o)

/-- **A request is assembled and submitted.** -/
def order (o : Order) : Op RunState := do
  refuseSecond
  request (← assembled o)

end Cutover.Launch

namespace Cutover.Conduct

/-- The summary is read. If it cannot be, that is reported, and everything stays offered. -/
def readSummary : Op Unit := do
  let summary ← Op.rescue (some <$> Call.readSummary) fun f => do
    Op.announce f.message .warning
    return none
  match summary with
  | some summary =>
    Op.modify fun s =>
      { s with summary := some summary, wizard := { s.wizard with engine := summary.databaseType } }
  | none => pure ()

/-- **The session begins**: the summary is read, and a stored run that is in progress is taken up and
polled again. -/
def begin : Op RunState := do
  readSummary
  match ← Keep.load (← Op.session).store with
  | some r =>
    if r.isRunning then
      let state ← Control.restore r
      Poll.start
      return state
    else Control.snapshot
  | none => Control.snapshot

/-- **Polling stops**, and what is stored stays. -/
def cancel : Op Unit := Poll.stop

/-- **The run is abandoned**: polling stops, and run, configuration and resources are forgotten. -/
def abandon : Op Unit := do
  Poll.stop
  Control.reset
  Configure.reset
  Reconcile.forget

/-- **The resources**, fetched unless they are kept. A fetch that fails is reported. -/
def reconcileNow : Op (List Resource) :=
  Op.rescue Control.reconcile fun f => do
    if f.kind = .resourceFetch then Op.alarm (.text f.message)
    Op.failClient (.service f)

/-- **The session ends.** -/
def close : Op Unit := do
  Poll.stop
  Control.close

end Cutover.Conduct
