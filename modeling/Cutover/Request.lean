import Cutover.Fragment

/-!
# Requests

A request holds everything the service needs to start a run. Fragments that are not set are left to
their defaults.

* `Request.payload`: the body of the launch call.
-/

namespace Cutover

/-- What the service needs to start a run. -/
structure Request where
  target : Target
  mode : Mode
  transfer : Transfer
  streaming : Option StreamingTuning := none
  staging : Option StagingTuning := none
  compute : Option ComputeTuning := none
  metadataPath : Option MetadataPath := none
  sourceProfile : Value := .text ""
  targetProfile : Value := .text ""
  isSharded : Value := .bool false
  skipForeignKeys : Value := .bool false
  shards : List Shard := []
  deriving DecidableEq, Repr, Inhabited

namespace Request

/-- The body of the launch call. -/
def payload (r : Request) : Members :=
  let metadata := r.metadataPath.getD { bucket := .text "" }
  [("TargetDetails", .object
      [("TargetDB", r.target.database), ("SourceConnProfile", r.sourceProfile),
        ("TargetConnProfile", r.targetProfile), ("ReplicationSlot", r.target.replicationSlot),
        ("Publication", r.target.publication), ("GcsMetadataPath", .object metadata.payload)]),
    ("DatastreamConfig", .object (r.streaming.getD {}).payload),
    ("GcsConfig", .object (r.staging.getD {}).payload),
    ("DataflowConfig", .object (r.compute.getD {}).payload),
    ("MigrationMode", Vocabulary.toValue r.mode), ("MigrationType", Vocabulary.toValue r.transfer),
    ("IsSharded", r.isSharded), ("skipForeignKeys", r.skipForeignKeys)]

end Request

end Cutover
