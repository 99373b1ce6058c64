import Cutover.Mode
import Cutover.Shard

/-!
# Fragments of a configuration

A migration is configured by fragments that are set one by one: target details, names of connection
profiles, tunings, the metadata path and, for a sharded source, the shard connections.

* `Fragment`: the fragments;
* `Target.isComplete`: the target details suit a transfer;
* `StreamingTuning`, `StagingTuning`, `ComputeTuning`, `MetadataPath`: the values of fragments, each
  with its `payload`;
* `FragmentSet`: the values, and the flags that say which are set.
-/

namespace Cutover

/-- A part of the configuration that is set on its own. -/
inductive Fragment where
  | target
  | sourceProfile
  | targetProfile
  | streaming
  | staging
  | compute
  | metadataPath
  | shards
  deriving DecidableEq, Repr

namespace Fragment

instance : Vocabulary Fragment where
  noun := "Fragment"
  all := [target, sourceProfile, targetProfile, streaming, staging, compute, metadataPath, shards]
  word
    | target => "target"
    | sourceProfile => "source_connection_profile"
    | targetProfile => "target_connection_profile"
    | streaming => "streaming_tuning"
    | staging => "staging_tuning"
    | compute => "compute_tuning"
    | metadataPath => "metadata_path"
    | shards => "shard_connections"
  name
    | target => "TARGET"
    | sourceProfile => "SOURCE_CONNECTION_PROFILE"
    | targetProfile => "TARGET_CONNECTION_PROFILE"
    | streaming => "STREAMING_TUNING"
    | staging => "STAGING_TUNING"
    | compute => "COMPUTE_TUNING"
    | metadataPath => "METADATA_PATH"
    | shards => "SHARD_CONNECTIONS"

/-- The word of a fragment. -/
def word (f : Fragment) : String := Vocabulary.word f

end Fragment

/-! ## Values -/

/-- Details of the target database. A run with low downtime may name a prepared streaming
configuration in place of a database. -/
structure Target where
  database : Value := .text ""
  replicationSlot : Value := .text ""
  publication : Value := .text ""
  streamingConfigPath : Value := .text ""
  deriving DecidableEq, Repr, Inhabited

namespace Target

/-- The details suffice for a transfer. -/
def isComplete (t : Target) (transfer : Transfer) : Bool :=
  t.database.isTruthy || (transfer = .lowDowntime && t.streamingConfigPath.isTruthy)

/-- The details as an object. -/
def toMembers (t : Target) : Members :=
  [("target_db", t.database), ("replication_slot", t.replicationSlot),
    ("publication", t.publication), ("streaming_config_path", t.streamingConfigPath)]

/-- The details a form gives. -/
def ofForm (form : Members) : Except Fault Target := do
  Form.only (Members.names (toMembers {})) form
  return {
    database := Form.textOr form "target_db"
    replicationSlot := Form.textOr form "replication_slot"
    publication := Form.textOr form "publication"
    streamingConfigPath := Form.textOr form "streaming_config_path" }

end Target

/-- A number that has to be one at least. -/
def asPositive (field : String) (v : Value) : Except Fault Quantity := do
  let q ← Form.asQuantity v
  if q.isBelow 1 then Fault.refuse (.notPositive field q) else return q

/-- How many streaming tasks may run at once. -/
structure StreamingTuning where
  backfillTasks : Quantity := .whole 50
  changeTasks : Quantity := .whole 5
  deriving DecidableEq, Repr, Inhabited

namespace StreamingTuning

/-- The names of the fields. -/
def fieldNames : List String := ["max_concurrent_backfill_tasks", "max_concurrent_cdc_tasks"]

/-- The tuning a form gives. -/
def ofForm (form : Members) : Except Fault StreamingTuning := do
  Form.only fieldNames form
  let backfill ← asPositive "max_concurrent_backfill_tasks"
    (form.getD "max_concurrent_backfill_tasks" (.whole 50))
  let change ← asPositive "max_concurrent_cdc_tasks"
    (form.getD "max_concurrent_cdc_tasks" (.whole 5))
  return ⟨backfill, change⟩

/-- The tuning as the service takes it. -/
def payload (t : StreamingTuning) : Members :=
  [("maxConcurrentBackfillTasks", .text t.backfillTasks.text),
    ("maxConcurrentCdcTasks", .text t.changeTasks.text)]

end StreamingTuning

/-- How long staged files are kept; forever, when no number of days is given. -/
structure StagingTuning where
  days : Option Quantity := none
  deriving DecidableEq, Repr, Inhabited

namespace StagingTuning

/-- The tuning a form gives. -/
def ofForm (form : Members) : Except Fault StagingTuning := do
  Form.only ["ttl_in_days"] form
  match form.getD "ttl_in_days" .null with
  | .null => return {}
  | v => return ⟨some (← asPositive "ttl_in_days" v)⟩

/-- The tuning as the service takes it. -/
def payload (t : StagingTuning) : Members :=
  [("ttlInDays", .text (t.days.getD (.whole 0)).text), ("ttlInDaysSet", .bool t.days.isSome)]

end StagingTuning

/-- Settings of the workers that move data. What is empty is left to the service. -/
structure ComputeTuning where
  projectId : Value := .text ""
  location : Value := .text ""
  network : Value := .text ""
  subnetwork : Value := .text ""
  hostProjectId : Value := .text ""
  maxWorkers : Value := .text ""
  numWorkers : Value := .text ""
  serviceAccountEmail : Value := .text ""
  jobName : Value := .text ""
  machineType : Value := .text ""
  additionalUserLabels : Value := .text ""
  kmsKeyName : Value := .text ""
  gcsTemplatePath : Value := .text ""
  customJarPath : Value := .text ""
  customClassName : Value := .text ""
  customParameter : Value := .text ""
  deriving DecidableEq, Repr, Inhabited

namespace ComputeTuning

/-- The names of the fields. -/
def fieldNames : List String :=
  ["project_id", "location", "network", "subnetwork", "host_project_id", "max_workers",
    "num_workers", "service_account_email", "job_name", "machine_type", "additional_user_labels",
    "kms_key_name", "gcs_template_path", "custom_jar_path", "custom_class_name", "custom_parameter"]

/-- The tuning a form gives. -/
def ofForm (form : Members) : Except Fault ComputeTuning := do
  Form.only fieldNames form
  return {
    projectId := Form.textOr form "project_id"
    location := Form.textOr form "location"
    network := Form.textOr form "network"
    subnetwork := Form.textOr form "subnetwork"
    hostProjectId := Form.textOr form "host_project_id"
    maxWorkers := Form.textOr form "max_workers"
    numWorkers := Form.textOr form "num_workers"
    serviceAccountEmail := Form.textOr form "service_account_email"
    jobName := Form.textOr form "job_name"
    machineType := Form.textOr form "machine_type"
    additionalUserLabels := Form.textOr form "additional_user_labels"
    kmsKeyName := Form.textOr form "kms_key_name"
    gcsTemplatePath := Form.textOr form "gcs_template_path"
    customJarPath := Form.textOr form "custom_jar_path"
    customClassName := Form.textOr form "custom_class_name"
    customParameter := Form.textOr form "custom_parameter" }

/-- The tuning as the service takes it. -/
def payload (t : ComputeTuning) : Members :=
  [("projectId", t.projectId), ("location", t.location), ("network", t.network),
    ("subnetwork", t.subnetwork), ("hostProjectId", t.hostProjectId),
    ("maxWorkers", t.maxWorkers), ("numWorkers", t.numWorkers),
    ("serviceAccountEmail", t.serviceAccountEmail), ("jobName", t.jobName),
    ("machineType", t.machineType), ("additionalUserLabels", t.additionalUserLabels),
    ("kmsKeyName", t.kmsKeyName), ("gcsTemplatePath", t.gcsTemplatePath),
    ("customJarPath", t.customJarPath), ("customClassName", t.customClassName),
    ("customParameter", t.customParameter)]

end ComputeTuning

/-- Where the service writes metadata of the run. -/
structure MetadataPath where
  bucket : Value
  root : Value := .text ""
  deriving DecidableEq, Repr, Inhabited

namespace MetadataPath

/-- The path a form gives. -/
def ofForm (form : Members) : Except Fault MetadataPath := do
  Form.only ["bucket_name", "root_path"] form
  return { bucket := ← Form.required form "bucket_name", root := Form.textOr form "root_path" }

/-- The path as the service takes it. -/
def payload (p : MetadataPath) : Members :=
  [("GcsBucketName", p.bucket), ("GcsBucketRootPath", p.root)]

end MetadataPath

/-- The fragments whose payload can be asked for on its own. -/
inductive TuningKind where
  | streaming
  | staging
  | compute
  | metadata
  | shard

/-- The payload of one fragment given by a form. -/
def TuningKind.payload (kind : TuningKind) (form : Members) : Except Fault Members :=
  match kind with
  | streaming => StreamingTuning.payload <$> StreamingTuning.ofForm form
  | staging => StagingTuning.payload <$> StagingTuning.ofForm form
  | compute => ComputeTuning.payload <$> ComputeTuning.ofForm form
  | metadata => MetadataPath.payload <$> MetadataPath.ofForm form
  | shard => Shard.payload <$> Shard.ofForm form

/-! ## All fragments together -/

/-- The values of all fragments and which of them are set. -/
structure FragmentSet where
  flags : List Fragment := []
  target : Option Target := none
  sourceProfile : Value := .text ""
  targetProfile : Value := .text ""
  streaming : Option StreamingTuning := none
  staging : Option StagingTuning := none
  compute : Option ComputeTuning := none
  metadataPath : Option MetadataPath := none
  shards : List Shard := []
  deriving DecidableEq, Repr, Inhabited

namespace FragmentSet

/-- The fragment is set. -/
def isSet (s : FragmentSet) (f : Fragment) : Bool := s.flags.contains f

/-- The set with one more fragment flagged. -/
def flag (s : FragmentSet) (f : Fragment) : FragmentSet :=
  if s.isSet f then s else { s with flags := s.flags ++ [f] }

@[simp] theorem isSet_flag_self (s : FragmentSet) (f : Fragment) : (s.flag f).isSet f = true := by
  unfold flag
  split
  · assumption
  · simp [isSet]

theorem isSet_flag_of_ne (s : FragmentSet) {f g : Fragment} (h : g ≠ f) :
    (s.flag f).isSet g = s.isSet g := by
  unfold flag
  split
  · rfl
  · simp [isSet, h]

/-- The words of the fragments that are set, in alphabetical order. -/
def flagWords (s : FragmentSet) : List String :=
  (s.flags.map Fragment.word).mergeSort fun a b => decide (a ≤ b)

end FragmentSet

end Cutover
