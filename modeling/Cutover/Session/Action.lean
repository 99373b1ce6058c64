import Cutover.Session.Conducting

/-!
# Actions

Everything that can be asked of a session, as data, and what the operations of a session give.

* `Result`: the results of all operations;
* `Configuration`: the configuration as it was set so far;
* `Action`: what is asked;
* `Action.op`: the operation that does it.
-/

namespace Cutover

/-- The configuration as it was set so far: the fragments, the shards collected for the next
submission, and the engine they belong to. -/
structure Configuration where
  fragments : FragmentSet
  wizard : Wizard

/-- What an operation gives. -/
inductive Result where
  | nothing
  | truth (b : Bool)
  | value (v : Value)
  | state (s : RunState)
  /-- The state of the run, and how the last run failed. -/
  | standing (s : RunState) (failure : Option RunFailure)
  | transition (t : Transition)
  | resources (items : List Resource)
  /-- The resources that are kept, if there are any. -/
  | kept (items : Option (List Resource))
  | page (p : Page)
  /-- The modes and transfers that can be offered. -/
  | offers (modes : List Mode) (transfers : List Transfer)
  | summary (s : Option Summary)
  | status (s : Status)
  | shardMap (m : ShardMap)
  | shard (s : Shard)
  | shardIds (shards : List Shard)
  | configuration (c : Configuration)
  | notices (items : List Notice)
  | record (r : Option Record)

/-- What is asked of a session as a whole. -/
inductive WholeAction where
  | begin
  | launch (order : Order)
  | cancel
  | abandon
  | reconcileNow
  | page (number size : Value)
  | offers
  | summary
  | standing
  | close
  | kept
  | forget

/-- What is asked of the run. -/
inductive RunAction where
  | begin (mode : Mode) (transfer : Transfer) (shards instances : Value)
  | restore (record : Record)
  | apply (report : Status)
  | reset
  | reconcile
  | close

/-- What is asked of the poll loop. -/
inductive PollAction where
  | start
  | stop
  | requestStop
  | wait
  | once
  | submit (request : Request)

/-- What is asked of the configuration. -/
inductive ConfigureAction where
  | target (target : Target) (transfer : Transfer)
  | sourceProfile (name : Value)
  | targetProfile (name : Value)
  | metadata (path : MetadataPath)
  | streaming (tuning : StreamingTuning) (sharded : Bool)
  | staging (tuning : StagingTuning) (sharded : Bool)
  | compute (tuning : ComputeTuning) (sharded : Bool)
  | shardEntry (entry : Members)
  | shardText (text : String)
  | addShard (shard : Shard)
  | clearShards
  | finalize
  | engine (name : Value)
  | isSet (fragment : Fragment)
  | reset
  | snapshot

/-- What is asked of the notices. -/
inductive NoticeAction where
  | visible
  | dismiss (id : Value)

/-- What is asked of the store. -/
inductive StoreAction where
  | load
  | save (record : Record)
  | clear
  | get (name : Value)
  | set (name value : Value)

/-- What is asked of the service itself. -/
inductive ServiceAction where
  | status
  | resources
  | summary
  | write (call : Call)
  /-- The connection is opened and closed again. -/
  | visit

/-- **What is asked.** -/
inductive Action where
  | whole (a : WholeAction)
  | run (a : RunAction)
  | poll (a : PollAction)
  | configure (a : ConfigureAction)
  | notice (a : NoticeAction)
  | store (a : StoreAction)
  | service (a : ServiceAction)

/-- An operation that gives nothing. -/
def Op.quietly (op : Op Unit) : Op Result := do
  op
  return .nothing

/-- The operation of an action on the session as a whole. -/
def WholeAction.op : WholeAction → Op Result
  | begin => .state <$> Conduct.begin
  | launch order => .state <$> Launch.order order
  | cancel => Conduct.cancel.quietly
  | abandon => Conduct.abandon.quietly
  | reconcileNow => .resources <$> Conduct.reconcileNow
  | page number size => .page <$> Reconcile.page number size
  | offers => do
    let s ← Op.session
    return .offers s.offeredModes (← Op.ofExcept s.offeredTransfers)
  | summary => do return .summary (← Op.session).summary
  | standing => do return .standing (← Control.snapshot) (← Op.session).lastFailure
  | close => Conduct.close.quietly
  | kept => do return .kept (← Op.session).resources
  | forget => Reconcile.forget.quietly

/-- The operation of an action on the run. -/
def RunAction.op : RunAction → Op Result
  | begin mode transfer shards instances => .state <$> Control.begin mode transfer shards instances
  | restore record => .state <$> Control.restore record
  | apply report => .transition <$> Control.apply report
  | reset => Control.reset.quietly
  | reconcile => .resources <$> Control.reconcile
  | close => Control.close.quietly

/-- The operation of an action on the poll loop. -/
def PollAction.op : PollAction → Op Result
  | start => Poll.start.quietly
  | stop => Poll.stop.quietly
  | requestStop => Poll.requestStop.quietly
  | wait => Poll.wait.quietly
  | once => Poll.once.quietly
  | submit request => .state <$> Launch.request request

/-- The operation of an action on the configuration. -/
def ConfigureAction.op : ConfigureAction → Op Result
  | target t transfer => .truth <$> Configure.setTarget t transfer
  | sourceProfile name => .truth <$> Configure.setSourceProfile name
  | targetProfile name => .truth <$> Configure.setTargetProfile name
  | metadata path => .truth <$> Configure.setMetadata path
  | streaming t sharded => .truth <$> Configure.setStreaming t sharded
  | staging t sharded => .truth <$> Configure.setStaging t sharded
  | compute t sharded => .truth <$> Configure.setCompute t sharded
  | shardEntry entry => .shard <$> Configure.addEntry entry
  | shardText text => .shardIds <$> Configure.addText text
  | addShard shard => (Configure.addShard shard).quietly
  | clearShards => (Configure.modifyWizard Wizard.clear).quietly
  | finalize => .truth <$> Configure.finalizeShards
  | engine name => do
    Configure.modifyWizard fun w => { w with engine := name }
    return .value name
  | isSet fragment => do return .truth ((← Op.session).fragments.isSet fragment)
  | reset => Configure.reset.quietly
  | snapshot => do
    let s ← Op.session
    return .configuration ⟨s.fragments, s.wizard⟩

/-- The operation of an action on the notices. -/
def NoticeAction.op : NoticeAction → Op Result
  | visible => do
    let site ← Op.site
    let (board, notices) := site.session.board.visible site.now
    Op.modify fun s => { s with board }
    return .notices notices
  | dismiss id => do
    let (board, there) ← Op.ofExcept ((← Op.session).board.dismissValue id)
    Op.modify fun s => { s with board }
    return .truth there

/-- The operation of an action on the store that was opened last. -/
def StoreAction.op (a : StoreAction) : Op Result := do
  let store := (← Op.site).storage.current
  match a with
  | load => .record <$> Keep.load store
  | save record => (Keep.save store record).quietly
  | clear => (Keep.clear store).quietly
  | get name => .value <$> Keep.getField store name
  | set name value => (Keep.setField store name value).quietly

/-- The operation of an action on the service itself. -/
def ServiceAction.op : ServiceAction → Op Result
  | status => .status <$> Call.readStatus
  | resources => .shardMap <$> Call.readResources
  | summary => (.summary ∘ some) <$> Call.readSummary
  | write call => call.write.quietly
  | visit => return .truth true

/-- **The operation that does what is asked.** A session that only follows a run has no part for what
is asked of a whole one. -/
def Action.op : Action → Op Result
  | whole a => do
    if (← Op.session).isBare then Op.fail .missingPart
    a.op
  | run a => a.op
  | poll a => a.op
  | configure a => a.op
  | notice a => a.op
  | store a => a.op
  | service a => a.op

end Cutover
