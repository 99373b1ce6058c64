import Cutover.Session.Calling

/-!
# Configuring

Fragments are set one by one. Those that the service must know of for a sharded source are sent to it
first, and count as set only when it has taken them.

* `Configure.setTarget`, `Configure.setMetadata`, …: a fragment is set;
* `Configure.push`: a value is sent to the service;
* `Configure.finalizeShards`: the collected shards are checked and sent.
-/

namespace Cutover.Configure

/-- The fragments are changed. -/
def modify (f : FragmentSet → FragmentSet) : Op Unit :=
  Op.modify fun s => { s with fragments := f s.fragments }

/-- The target details are set, if they suit the transfer. -/
def setTarget (t : Target) (transfer : Transfer) : Op Bool := do
  if t.isComplete transfer then
    modify fun f => { f with target := some t }.flag .target
    return true
  else return false

/-- A name without blanks around it; only texts have them. -/
def trimmedName (name : Value) : Op String :=
  match name with
  | .text s => pure (trimmed s)
  | _ => Op.fail .missingPart

/-- The connection profile of the source is set, if its name is not blank. -/
def setSourceProfile (name : Value) : Op Bool := do
  let name ← trimmedName name
  if name = "" then return false
  else
    modify fun f => { f with sourceProfile := .text name }.flag .sourceProfile
    return true

/-- The connection profile of the target is set, if its name is not blank. -/
def setTargetProfile (name : Value) : Op Bool := do
  let name ← trimmedName name
  if name = "" then return false
  else
    modify fun f => { f with targetProfile := .text name }.flag .targetProfile
    return true

/-- The metadata path is set, if it names a bucket. -/
def setMetadata (p : MetadataPath) : Op Bool := do
  if p.bucket.isTruthy then
    modify fun f => { f with metadataPath := some p }.flag .metadataPath
    return true
  else return false

/-- **A value is sent to the service**; tells whether it was taken. A fault of the call is reported. -/
def push (c : Call) : Op Bool := do
  if (← Op.session).isBare then
    Op.fail (.broken (c.name ++ " requires a migration service client"))
  Op.rescue
    (do
      c.write
      return true)
    fun f => do
      Op.announce f.message .error
      return false

/-- A fragment is set, for a sharded source only once the service has taken it. -/
def setShared (sharded : Bool) (c : Call) (set : FragmentSet → FragmentSet) : Op Bool := do
  let taken ← if sharded then push c else pure true
  if taken then modify set
  return taken

/-- The streaming tuning is set. -/
def setStreaming (t : StreamingTuning) (sharded : Bool) : Op Bool :=
  setShared sharded (.setStreaming t) fun f => { f with streaming := some t }.flag .streaming

/-- The staging tuning is set. -/
def setStaging (t : StagingTuning) (sharded : Bool) : Op Bool :=
  setShared sharded (.setStaging t) fun f => { f with staging := some t }.flag .staging

/-- The compute tuning is set. -/
def setCompute (t : ComputeTuning) (sharded : Bool) : Op Bool :=
  setShared sharded (.setCompute t) fun f => { f with compute := some t }.flag .compute

/-- The span around sending shards. -/
def shardSpan (count : Nat) : Span where
  name := "migrateflow.fragments.finalize_shards"
  attributes := [(Attribute.shardCount, .whole count)]

/-- **The collected shards are checked and sent.** -/
def finalizeShards : Op Bool := do
  let shards := (← Op.session).wizard.shards
  Op.ofExcept (validateShards shards)
  let taken ← Op.traced (shardSpan shards.length) fun _ => push (.setShards shards)
  if taken then modify fun f => { f with shards }.flag .shards
  return taken

/-- Flags and shards are forgotten. -/
def reset : Op Unit := Op.modify Session.forgetConfiguration

/-! ## The collected shards -/

/-- The wizard is changed. -/
def modifyWizard (f : Wizard → Wizard) : Op Unit :=
  Op.modify fun s => { s with wizard := f s.wizard }

/-- A shard is collected. -/
def addShard (shard : Shard) : Op Unit := do
  let w ← Op.ofExcept ((← Op.session).wizard.add shard)
  modifyWizard fun _ => w

/-- The shard that an entry gives is collected. -/
def addEntry (entry : Members) : Op Shard := do
  let (w, shard) ← Op.ofExcept ((← Op.session).wizard.addEntry entry)
  modifyWizard fun _ => w
  return shard

/-- The shards that a text gives are collected. -/
def addText (text : String) : Op (List Shard) := do
  let (w, result) := (← Op.session).wizard.addText text
  modifyWizard fun _ => w
  Op.ofExcept result

end Cutover.Configure
