import Cutover.RunState.Transition
import Cutover.Session.Storing

/-!
# Controlling the run

The state of the run changes only behind its gate: when a run begins or is restored, when a status
report is applied and when the run is forgotten. Every change is stored and published.

* `Control.begin`, `Control.restore`, `Control.reset`: a run begins, is taken up, is forgotten;
* `Control.apply`: a status report is applied;
* `Control.reconcile`: the resources are fetched outside of a transition;
* `Control.publish`: all readers get a snapshot.
-/

namespace Cutover

/-- What applying a report did. -/
structure Transition where
  previous : Phase
  state : RunState
  changed : Bool
  deriving DecidableEq, Repr

namespace Control

/-- A snapshot of the state, which is checked like every state. -/
def snapshot : Op RunState := do Op.ofExcept (← Op.session).state.check

/-- All readers get a snapshot. -/
def publish : Op Unit := do
  let s ← snapshot
  Op.perform (.publish (some s))

/-- The current state is stored. -/
def persist : Op Unit := do
  let s ← Op.session
  Keep.save s.store s.record

/-- **A run begins**, unless one is in progress. -/
def begin (mode : Mode) (transfer : Transfer) (shards instances : Value) : Op RunState :=
  Op.guarded .state do
    let s ← Op.session
    if s.state.isRunning then Op.failClient (.alreadyRunning s.state.phase)
    Op.modify fun s =>
      { s with
        state := .launched mode
        mode := some mode
        transfer := some transfer
        shardCount := shards
        instanceCount := instances
        lastFailure := none
        lastFetchFault := none }
    persist
    publish
    snapshot

/-- **A stored run is taken up.** The state is set first, then the mode, then the transfer, each as
far as it can be read. -/
def restore (r : Record) : Op RunState :=
  Op.guarded .state do
    let state ← Op.ofExcept r.toState
    Op.modify fun s => { s with state }
    let mode ← Op.ofExcept r.readMode
    Op.modify fun s => { s with mode }
    let transfer ← Op.ofExcept r.readTransfer
    Op.modify fun s =>
      { s with transfer, shardCount := r.shardCount, instanceCount := r.instanceCount }
    publish
    snapshot

/-- **The run is forgotten**, and nothing stays stored. -/
def reset : Op Unit :=
  Op.guarded .state do
    Op.modify fun s =>
      { s with state := {}, mode := none, transfer := none, shardCount := .whole 0, instanceCount := .whole 0 }
    Keep.clear (← Op.session).store
    publish

/-- The resources are fetched outside of a transition, with the gate of the state closed. -/
def reconcile : Op (List Resource) := do
  if (← Op.session).isBare then Op.fail (.broken "PhaseController has no resource reconciler")
  Op.guarded .state Reconcile.fetch

/-! ## The end of a run -/

/-- Calls one stop hook. -/
def runHook (phase : Phase) : StopHook → Op Unit
  | .polling => Op.perform .raiseLatch
  | .configuration => do
    if phase = .complete then Op.modify Session.forgetConfiguration
  | .user _ id fails => do
    Op.lift (Work.update fun site =>
      let stored := !(site.storage.table site.storage.current).isEmpty
      { site with hookCalls := site.hookCalls ++ [⟨id, phase, stored⟩] })
    if fails then Op.fail (.broken "hook")

/-- Calls the stop hooks in order; the first that fails ends it. -/
def runHooks (phase : Phase) : List StopHook → Op Unit
  | [] => pure ()
  | h :: rest => do
    runHook phase h
    runHooks phase rest

/-- The resources are fetched once in a run. A fetch that fails is reported and does not stop the
run. -/
def reconcileOnce : Op Unit := do
  let s ← Op.session
  if !s.isBare && !s.state.isReconciled then
    Op.rescue
      (do
        let _ ← Reconcile.fetch
        Op.modify fun s => { s with state := { s.state with reconciled := .bool true } })
      fun f => do
        if f.kind = .resourceFetch then
          Op.modify fun s => { s with lastFetchFault := some f }
          Op.alarm (.text f.message)
        else Op.failClient (.service f)

/-- The run is complete. -/
def complete : Op Unit := do
  Op.modify fun s => { s with state := { s.state with inProgress := .bool false } }
  runHooks .complete (← Op.session).hooks
  reconcileOnce
  Keep.clear (← Op.session).store
  Op.announce ProgressText.completed .success

/-- The run has failed. -/
def failRun (errorText : Value) : Op Unit := do
  Op.modify fun s =>
    { s with
      state := s.state.afterFailure s.mode errorText
      lastFailure := some ⟨errorText, s.state.phase⟩ }
  runHooks .failed (← Op.session).hooks
  Keep.clear (← Op.session).store
  Op.alarm errorText

/-! ## Status reports -/

/-- The span around applying a report. -/
def applySpan (s : Session) (report : Status) : Span where
  name := "migrateflow.controller.apply"
  attributes :=
    [(Attribute.phase, Vocabulary.toValue s.state.phase),
      (Attribute.signal, .text report.signal.name), (Attribute.progress, report.progress),
      (Attribute.mode, Record.wordOrEmpty s.mode),
      (Attribute.transfer, Record.wordOrEmpty s.transfer)]

/-- The state moves on, and provisioning is announced. -/
def advance (report : Status) : Op RunState.Advance := do
  let s ← Op.session
  let a ← Op.ofExcept (s.state.advance s.mode s.transfer report)
  Op.modify fun s => { s with state := a.state }
  if a.provisions then Op.announce ProgressText.provisioning
  return a

/-- The state has moved on: a complete run is closed, any other is stored. -/
def settle (a : RunState.Advance) : Op Unit := do
  if (← Op.session).state.phase = .complete then complete
  else
    if a.reconciles then reconcileOnce
    persist

/-- What a report does in an active phase; none when it changes something. -/
def applyActive (previous : Phase) (report : Status) : Op (Option Transition) := do
  if report.isFailure then
    failRun report.errorText
    return none
  else
    let before ← snapshot
    let a ← advance report
    if (← Op.session).state.sameAs before then return some ⟨previous, before, false⟩
    else
      settle a
      return none

/-- What a report does within its span; none when it changes something. -/
def applyTraced (previous : Phase) (report : Status) (span : Nat) : Op (Option Transition) := do
  if previous.isActive then
    let result ← applyActive previous report
    if result.isNone then
      Op.tag span Attribute.nextPhase (Vocabulary.toValue (← Op.session).state.phase)
    return result
  else return some ⟨previous, ← snapshot, false⟩

/-- **A status report is applied.** Outside of an active phase, and when it changes nothing, it is
ignored; otherwise the new state is stored and published. -/
def apply (report : Status) : Op Transition :=
  Op.guarded .state do
    let s ← Op.session
    let previous := s.state.phase
    match ← Op.traced (applySpan s report) (applyTraced previous report) with
    | some ignored => return ignored
    | none => do
      publish
      return ⟨previous, ← snapshot, true⟩

/-- All readers get the end. -/
def close : Op Unit := Op.perform (.publish none)

end Control

end Cutover
