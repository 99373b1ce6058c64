import Cutover.Resource
import Cutover.Service.Reading
import Cutover.Summary

/-!
# Documents of the service

The service answers with documents of its own spelling. Each is read leniently and turned into what
the client works with.

* `ProgressDocument.toStatus`: a status report; unknown signals count as quiet;
* `ResourcesDocument.toShardMap`: the generated resources by shard, those of a run without shards
  first, entries without a name left out;
* `SummaryDocument.toSummary`: the summary of source and destination.
-/

namespace Cutover

/-! ## Progress -/

/-- The progress of a run as the service reports it. -/
structure ProgressDocument where
  progress : Int
  errorText : String
  signal : Int
  deriving DecidableEq, Repr

namespace ProgressDocument

/-- The document an answer holds. -/
def read : Value → Reading ProgressDocument :=
  Reading.record fun d =>
    mk <$> Reading.whole d ⟨"Progress", "progress"⟩
      <*> Reading.text d ⟨"ErrorMessage", "error_message"⟩
      <*> Reading.whole d ⟨"ProgressStatus", "progress_status"⟩

/-- The report the document gives. -/
def toStatus (d : ProgressDocument) : Status where
  progress := .whole d.progress
  signal := (Signal.ofCode? d.signal).getD .quiet
  errorText := .text d.errorText

/-- The fields by their plain names. -/
def toMembers (d : ProgressDocument) : Members :=
  [("progress", .whole d.progress), ("error_message", .text d.errorText),
    ("progress_status", .whole d.signal)]

end ProgressDocument

/-! ## Resources -/

/-- One entry of the resources of a shard. -/
structure ResourceDocument where
  label : String
  name : String
  url : String
  command : String
  deriving DecidableEq, Repr

namespace ResourceDocument

/-- The entry a value holds. -/
def read : Value → Reading ResourceDocument :=
  Reading.record fun d =>
    mk <$> Reading.text d ⟨"ResourceType", "resource_type"⟩
      <*> Reading.text d ⟨"ResourceName", "resource_name"⟩
      <*> Reading.text d ⟨"ResourceUrl", "resource_url"⟩
      <*> Reading.text d ⟨"GcloudCmd", "gcloud_cmd"⟩

/-- The resource the entry gives for a shard. -/
def toResource (d : ResourceDocument) (shard : String) : Resource where
  shard := shard
  kind := .ofLabel d.label
  name := d.name
  url := d.url
  command := d.command

/-- The fields by their plain names. -/
def toMembers (d : ResourceDocument) : Members :=
  [("resource_type", .text d.label), ("resource_name", .text d.name),
    ("resource_url", .text d.url), ("gcloud_cmd", .text d.command)]

end ResourceDocument

/-- Entries by shard, as the service lists them. -/
abbrev ShardEntries := List (String × List ResourceDocument)

/-- The generated resources as the service reports them: single fields for a run without shards, and
entries by shard. -/
structure ResourcesDocument where
  jobId : String
  databaseName : String
  databaseUrl : String
  bucketName : String
  bucketUrl : String
  streamName : String
  streamUrl : String
  pipelineName : String
  pipelineUrl : String
  pipelineCommand : String
  topicName : String
  topicUrl : String
  subscriptionName : String
  subscriptionUrl : String
  dashboardName : String
  dashboardUrl : String
  aggregateName : String
  aggregateUrl : String
  shards : Option ShardEntries
  deriving DecidableEq, Repr

namespace ResourcesDocument

/-- The entries by shard; null stands for none. -/
def readShards : Value → Reading (Option ShardEntries)
  | .null => .fits none
  | v => some <$> Reading.members (Reading.items ResourceDocument.read) v

/-- The document an answer holds. -/
def read : Value → Reading ResourcesDocument :=
  Reading.record fun d =>
    mk <$> Reading.text d ⟨"MigrationJobId", "migration_job_id"⟩
      <*> Reading.text d ⟨"DatabaseName", "database_name"⟩
      <*> Reading.text d ⟨"DatabaseUrl", "database_url"⟩
      <*> Reading.text d ⟨"BucketName", "bucket_name"⟩
      <*> Reading.text d ⟨"BucketUrl", "bucket_url"⟩
      <*> Reading.text d ⟨"DataStreamJobName", "stream_name"⟩
      <*> Reading.text d ⟨"DataStreamJobUrl", "stream_url"⟩
      <*> Reading.text d ⟨"DataflowJobName", "pipeline_name"⟩
      <*> Reading.text d ⟨"DataflowJobUrl", "pipeline_url"⟩
      <*> Reading.text d ⟨"DataflowGcloudCmd", "pipeline_command"⟩
      <*> Reading.text d ⟨"PubsubTopicName", "topic_name"⟩
      <*> Reading.text d ⟨"PubsubTopicUrl", "topic_url"⟩
      <*> Reading.text d ⟨"PubsubSubscriptionName", "subscription_name"⟩
      <*> Reading.text d ⟨"PubsubSubscriptionUrl", "subscription_url"⟩
      <*> Reading.text d ⟨"MonitoringDashboardName", "dashboard_name"⟩
      <*> Reading.text d ⟨"MonitoringDashboardUrl", "dashboard_url"⟩
      <*> Reading.text d ⟨"AggMonitoringDashboardName", "aggregate_dashboard_name"⟩
      <*> Reading.text d ⟨"AggMonitoringDashboardUrl", "aggregate_dashboard_url"⟩
      <*> Reading.field d ⟨"ShardToShardResourcesMap", "shard_resources"⟩ readShards none

/-- The resources of the single fields, named or not, in order. -/
def candidates (d : ResourcesDocument) : List Resource :=
  [{ kind := .database, name := d.databaseName, url := d.databaseUrl },
    { kind := .bucket, name := d.bucketName, url := d.bucketUrl },
    { kind := .stream, name := d.streamName, url := d.streamUrl },
    { kind := .pipeline, name := d.pipelineName, url := d.pipelineUrl, command := d.pipelineCommand },
    { kind := .topic, name := d.topicName, url := d.topicUrl },
    { kind := .subscription, name := d.subscriptionName, url := d.subscriptionUrl },
    { kind := .dashboard, name := d.dashboardName, url := d.dashboardUrl },
    { kind := .aggregateDashboard, name := d.aggregateName, url := d.aggregateUrl }]

/-- The named resources among some entries of a shard. -/
def namedEntries (shard : String) (entries : List ResourceDocument) : List Resource :=
  (entries.filter fun e => e.name ≠ "").map fun e => e.toResource shard

/-- A map with more resources for one shard: at the end of its list, which may be new. -/
def extend (shards : ShardMap) (shard : String) (resources : List Resource) : ShardMap :=
  put shards shard ((shards.lookup shard).getD [] ++ resources)

/-- **The resources by shard.** The single fields make the list of the empty shard id, which comes
first; what is listed under a shard follows in the order of the document. -/
def toShardMap (d : ResourcesDocument) : ShardMap :=
  let implicit := d.candidates.filter fun r => r.name ≠ ""
  (d.shards.getD []).foldl (fun shards (shard, entries) =>
    extend shards shard (namedEntries shard entries)) [(implicitShard, implicit)]

/-- The entries of a shard as values. -/
def shardsValue : Option ShardEntries → Value
  | none => .null
  | some shards => .object (shards.map fun (shard, entries) =>
      (shard, .list (entries.map fun e => .object e.toMembers)))

/-- The fields by their plain names. -/
def toMembers (d : ResourcesDocument) : Members :=
  [("migration_job_id", .text d.jobId), ("database_name", .text d.databaseName),
    ("database_url", .text d.databaseUrl), ("bucket_name", .text d.bucketName),
    ("bucket_url", .text d.bucketUrl), ("stream_name", .text d.streamName),
    ("stream_url", .text d.streamUrl), ("pipeline_name", .text d.pipelineName),
    ("pipeline_url", .text d.pipelineUrl), ("pipeline_command", .text d.pipelineCommand),
    ("topic_name", .text d.topicName), ("topic_url", .text d.topicUrl),
    ("subscription_name", .text d.subscriptionName),
    ("subscription_url", .text d.subscriptionUrl), ("dashboard_name", .text d.dashboardName),
    ("dashboard_url", .text d.dashboardUrl), ("aggregate_dashboard_name", .text d.aggregateName),
    ("aggregate_dashboard_url", .text d.aggregateUrl), ("shard_resources", shardsValue d.shards)]

end ResourcesDocument

/-! ## The summary -/

/-- The summary of source and destination as the service reports it. -/
structure SummaryDocument where
  databaseType : String
  connectionDetail : String
  connectionType : String
  sourceDatabase : String
  sourceTables : Int
  targetTables : Int
  sourceIndexes : Int
  targetIndexes : Int
  isSharded : Bool
  region : String
  server : String
  dialect : String
  nodes : Int
  processingUnits : Int
  deriving DecidableEq, Repr

namespace SummaryDocument

/-- The document an answer holds. -/
def read : Value → Reading SummaryDocument :=
  Reading.record fun d =>
    mk <$> Reading.text d ⟨"DatabaseType", "database_type"⟩
      <*> Reading.text d ⟨"ConnectionDetail", "connection_detail"⟩
      <*> Reading.text d ⟨"ConnectionType", "connection_type"⟩
      <*> Reading.text d ⟨"SourceDatabaseName", "source_database_name"⟩
      <*> Reading.whole d ⟨"SourceTableCount", "source_table_count"⟩
      <*> Reading.whole d ⟨"SpannerTableCount", "spanner_table_count"⟩
      <*> Reading.whole d ⟨"SourceIndexCount", "source_index_count"⟩
      <*> Reading.whole d ⟨"SpannerIndexCount", "spanner_index_count"⟩
      <*> Reading.flag d ⟨"IsSharded", "is_sharded"⟩
      <*> Reading.text d ⟨"Region", "region"⟩
      <*> Reading.text d ⟨"Instance", "instance"⟩
      <*> Reading.text d ⟨"Dialect", "dialect"⟩
      <*> Reading.whole d ⟨"NodeCount", "node_count"⟩
      <*> Reading.whole d ⟨"ProcessingUnits", "processing_units"⟩

/-- The summary the document gives. -/
def toSummary (d : SummaryDocument) : Summary where
  databaseType := .text d.databaseType
  connectionType := .text d.connectionType
  sourceDatabase := .text d.sourceDatabase
  sourceTables := .whole d.sourceTables
  targetTables := .whole d.targetTables
  sourceIndexes := .whole d.sourceIndexes
  targetIndexes := .whole d.targetIndexes
  isSharded := .bool d.isSharded
  region := .text d.region
  server := .text d.server
  dialect := .text d.dialect
  nodes := .whole d.nodes
  processingUnits := .whole d.processingUnits
  extra := .object [("connection_detail", .text d.connectionDetail)]

/-- The fields by their plain names. -/
def toMembers (d : SummaryDocument) : Members :=
  [("database_type", .text d.databaseType), ("connection_detail", .text d.connectionDetail),
    ("connection_type", .text d.connectionType), ("source_database_name", .text d.sourceDatabase),
    ("source_table_count", .whole d.sourceTables), ("spanner_table_count", .whole d.targetTables),
    ("source_index_count", .whole d.sourceIndexes), ("spanner_index_count", .whole d.targetIndexes),
    ("is_sharded", .bool d.isSharded), ("region", .text d.region), ("instance", .text d.server),
    ("dialect", .text d.dialect), ("node_count", .whole d.nodes),
    ("processing_units", .whole d.processingUnits)]

end SummaryDocument

end Cutover
