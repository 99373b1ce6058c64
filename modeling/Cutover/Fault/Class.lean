import Cutover.Vocabulary

/-!
# Classes of faults

Every fault that the client itself reports belongs to a class. The class says how severe the fault
is, whether it can be mended, under which code it is reported and what to do about it.

* `Severity`, `Recovery`: how bad a fault is; whether trying again may help;
* `FaultClass`: the classes, each below a wider one up to `FaultClass.general`;
* `FaultClass.classification`: what is known of a class.
-/

namespace Cutover

/-- How bad a fault is. -/
inductive Severity where
  | critical
  | error
  | warning
  | info
  deriving DecidableEq, Repr

namespace Severity

instance : Vocabulary Severity where
  noun := "ErrorSeverity"
  all := [critical, error, warning, info]
  word
    | critical => "critical"
    | error => "error"
    | warning => "warning"
    | info => "info"
  name
    | critical => "CRITICAL"
    | error => "ERROR"
    | warning => "WARNING"
    | info => "INFO"

/-- The level a log keeps such faults at. -/
def logLevel : Severity → Int
  | critical => 50
  | error => 40
  | warning => 30
  | info => 20

end Severity

/-- Whether a fault can be mended. -/
inductive Recovery where
  /-- The user can mend the input and try again. -/
  | recoverable
  /-- The same call may succeed the next time. -/
  | transient
  /-- The run is over. -/
  | fatal
  deriving DecidableEq, Repr

namespace Recovery

instance : Vocabulary Recovery where
  noun := "ErrorRecoverability"
  all := [recoverable, transient, fatal]
  word
    | recoverable => "recoverable"
    | transient => "transient"
    | fatal => "fatal"
  name
    | recoverable => "RECOVERABLE"
    | transient => "TRANSIENT"
    | fatal => "FATAL"

/-- Trying again may help. -/
def shouldRetry (r : Recovery) : Bool := r = transient

end Recovery

/-- A class of faults. -/
inductive FaultClass where
  | general
  | configuration
  | incomplete
  | noShards
  | badShards
  | unsupported
  | alreadyRunning
  | badTransition
  | service
  | rejected
  | unavailable
  | malformed
  | resourceFetch
  | runFailed
  deriving DecidableEq, Repr, Inhabited

/-- What is known of a class of faults. -/
structure Classification where
  severity : Severity
  recovery : Recovery
  code : String
  category : String
  advice : String
  deriving DecidableEq, Repr

namespace FaultClass

/-- The next wider class. -/
def parent? : FaultClass → Option FaultClass
  | general => none
  | configuration | alreadyRunning | badTransition | service | runFailed => some general
  | incomplete | noShards | badShards | unsupported => some configuration
  | rejected | unavailable | malformed | resourceFetch => some service

/-- The wider classes, the nearest first. -/
def ancestors (c : FaultClass) : List FaultClass :=
  match c.parent? with
  | none => []
  | some p =>
    match p.parent? with
    | none => [p]
    | some q => [p, q]

/-- The class is one of faults of calls to the service. -/
def isOfCall (c : FaultClass) : Bool := c = service || c.ancestors.contains service

/-- The name a class is reported under. -/
def name : FaultClass → String
  | general => "MigrationClientError"
  | configuration => "ConfigurationError"
  | incomplete => "IncompleteConfigurationError"
  | noShards => "ShardConfigIncompleteError"
  | badShards => "InvalidShardConfigurationError"
  | unsupported => "UnsupportedMigrationOptionError"
  | alreadyRunning => "AlreadyInProgressError"
  | badTransition => "InvalidPhaseTransitionError"
  | service => "ServiceError"
  | rejected => "MigrationRejectedError"
  | unavailable => "ServiceUnavailableError"
  | malformed => "MalformedResponseError"
  | resourceFetch => "ResourceFetchError"
  | runFailed => "MigrationFailedError"

/-- What is known of a class. -/
def classification : FaultClass → Classification
  | general => ⟨.error, .fatal, "MIGRATION_CLIENT_ERROR", "general",
      "Review the client logs and retry the operation"⟩
  | configuration => ⟨.error, .recoverable, "CONFIGURATION_ERROR", "configuration",
      "Correct the migration configuration and try again"⟩
  | incomplete => ⟨.error, .recoverable, "INCOMPLETE_CONFIGURATION", "configuration",
      "Set the missing configuration before starting the migration"⟩
  | noShards => ⟨.error, .recoverable, "SHARD_CONFIG_INCOMPLETE", "configuration",
      "Add and finalize at least one shard connection"⟩
  | badShards => ⟨.error, .recoverable, "INVALID_SHARD_CONFIGURATION", "configuration",
      "Fix the shard connection details"⟩
  | unsupported => ⟨.error, .recoverable, "UNSUPPORTED_MIGRATION_OPTION", "configuration",
      "Pick a migration mode and type offered for this source"⟩
  | alreadyRunning => ⟨.warning, .recoverable, "MIGRATION_ALREADY_IN_PROGRESS", "state",
      "Wait for the current migration to finish or abandon it"⟩
  | badTransition => ⟨.critical, .fatal, "INVALID_PHASE_TRANSITION", "state",
      "Abandon the migration and start a new one"⟩
  | service => ⟨.error, .recoverable, "SERVICE_ERROR", "service",
      "Check the migration service logs"⟩
  | rejected => ⟨.error, .recoverable, "MIGRATION_REJECTED", "service",
      "Resolve the reported problem and launch again"⟩
  | unavailable => ⟨.warning, .transient, "SERVICE_UNAVAILABLE", "connectivity",
      "Check connectivity to the migration service"⟩
  | malformed => ⟨.warning, .transient, "MALFORMED_RESPONSE", "protocol",
      "Check that client and service versions match"⟩
  | resourceFetch => ⟨.error, .recoverable, "RESOURCE_FETCH_FAILED", "service",
      "Retry fetching the generated resources"⟩
  | runFailed => ⟨.critical, .fatal, "MIGRATION_FAILED", "migration",
      "Inspect the reported error, fix the cause and start a new migration"⟩

end FaultClass

end Cutover
