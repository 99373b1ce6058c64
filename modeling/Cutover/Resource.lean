import Cutover.Text.Blank
import Cutover.Text.LowerCase
import Cutover.Vocabulary

/-!
# Generated resources

A run generates infrastructure, which the service lists by shard. Resources of a run without shards
stand under the empty shard id.

* `ResourceKind.ofLabel`: the kind of a label of the service, case and separators aside;
* `flattenResources`: all resources in one list, those of the empty shard id first.
-/

namespace Cutover

/-- The kinds of infrastructure. -/
inductive ResourceKind where
  | database
  | bucket
  | stream
  | pipeline
  | topic
  | subscription
  | dashboard
  | aggregateDashboard
  | other
  deriving DecidableEq, Repr, Inhabited

namespace ResourceKind

instance : Vocabulary ResourceKind where
  noun := "ResourceType"
  all := [database, bucket, stream, pipeline, topic, subscription, dashboard, aggregateDashboard, other]
  word
    | database => "database"
    | bucket => "bucket"
    | stream => "stream"
    | pipeline => "pipeline"
    | topic => "topic"
    | subscription => "subscription"
    | dashboard => "dashboard"
    | aggregateDashboard => "aggregate_dashboard"
    | other => "other"
  name
    | database => "DATABASE"
    | bucket => "BUCKET"
    | stream => "STREAM"
    | pipeline => "PIPELINE"
    | topic => "TOPIC"
    | subscription => "SUBSCRIPTION"
    | dashboard => "DASHBOARD"
    | aggregateDashboard => "AGGREGATE_DASHBOARD"
    | other => "OTHER"

/-- The labels of the service, in lower case and with spaces between words. -/
def labels : List (String × ResourceKind) :=
  [("database", database), ("bucket", bucket), ("gcs bucket", bucket), ("stream", stream),
    ("datastream", stream), ("pipeline", pipeline), ("dataflow", pipeline), ("topic", topic),
    ("pubsub topic", topic), ("subscription", subscription), ("pubsub subscription", subscription),
    ("dashboard", dashboard), ("monitoring dashboard", dashboard),
    ("aggregate dashboard", aggregateDashboard),
    ("aggregate monitoring dashboard", aggregateDashboard)]

/-- A hyphen or underscore read as a space. -/
def spaced (c : Char) : Char := if c = '-' ∨ c = '_' then ' ' else c

/-- The kind of a label. Labels that are not known are of the kind `other`. -/
def ofLabel (label : String) : ResourceKind :=
  let key := String.ofList ((lowered (trimmed label)).toList.map spaced)
  (labels.lookup key).getD other

end ResourceKind

/-- A piece of infrastructure that was generated for a run. -/
structure Resource where
  shard : String := ""
  kind : ResourceKind := .other
  name : String
  url : String := ""
  command : String := ""
  deriving DecidableEq, Repr, Inhabited

/-- The resource as an object. -/
def Resource.toMembers (r : Resource) : Members :=
  [("shard_id", .text r.shard), ("resource_type", Vocabulary.toValue r.kind), ("name", .text r.name),
    ("url", .text r.url), ("equivalent_command", .text r.command)]

/-- Resources by shard, each shard once. -/
abbrev ShardMap := List (String × List Resource)

/-- The shard id of a run without shards. -/
def implicitShard : String := ""

/-- The resources of one shard, stamped with its id. -/
def stamped (entry : String × List Resource) : List Resource :=
  entry.2.map fun r => { r with shard := entry.1 }

/-- **All resources in one list**: those of the empty shard id first, then the other shards in their
order, each resource stamped with the shard it was listed under. -/
def flattenResources (shards : ShardMap) : List Resource :=
  let (implicit, named) := shards.partition fun entry => entry.1 == implicitShard
  (implicit ++ named).flatMap stamped

end Cutover
