import Cutover.Vocabulary

/-!
# Phases of a run

A run starts by migrating the schema or the data and ends complete or failed. In between a run with
low downtime provisions resources for streaming, and foreign keys are applied after the data.

* `Phase.isTerminal`, `Phase.isActive`: the run is over; the service is working on it;
* `Phase.mayBecome`: the changes of phase that are allowed.
-/

namespace Cutover

/-- A phase of a run. -/
inductive Phase where
  | idle
  | schemaMigrating
  | dataMigrating
  | provisioning
  | foreignKeys
  | complete
  | failed
  deriving DecidableEq, Repr, Inhabited

namespace Phase

instance : Vocabulary Phase where
  noun := "MigrationPhase"
  all := [idle, schemaMigrating, dataMigrating, provisioning, foreignKeys, complete, failed]
  word
    | idle => "idle"
    | schemaMigrating => "schema_migrating"
    | dataMigrating => "data_migrating"
    | provisioning => "provisioning_resources"
    | foreignKeys => "foreign_key_updating"
    | complete => "complete"
    | failed => "failed"
  name
    | idle => "IDLE"
    | schemaMigrating => "SCHEMA_MIGRATING"
    | dataMigrating => "DATA_MIGRATING"
    | provisioning => "PROVISIONING_RESOURCES"
    | foreignKeys => "FOREIGN_KEY_UPDATING"
    | complete => "COMPLETE"
    | failed => "FAILED"

/-- The word of a phase. -/
def word (p : Phase) : String := Vocabulary.word p

/-- The phase ends a run. -/
def isTerminal : Phase → Bool
  | complete | failed => true
  | _ => false

/-- The service is working on the run. -/
def isActive : Phase → Bool
  | idle | complete | failed => false
  | _ => true

/-- The phases that may follow, failure aside. -/
def next : Phase → List Phase
  | idle => [schemaMigrating, dataMigrating]
  | schemaMigrating => [dataMigrating, provisioning, foreignKeys, complete]
  | provisioning => [dataMigrating, foreignKeys, complete]
  | dataMigrating => [foreignKeys, complete]
  | foreignKeys => [complete]
  | complete | failed => []

/-- The run may go from one phase to another. Failure is open to every active phase. -/
def mayBecome (current target : Phase) : Bool :=
  if target = failed then current.isActive else (next current).contains target

theorem mayBecome_of_isTerminal {p : Phase} (h : p.isTerminal) (q : Phase) :
    p.mayBecome q = false := by
  cases p <;> simp_all [isTerminal, mayBecome, isActive, next]

/-- The phases before the foreign keys are applied. -/
def beforeForeignKeys : Phase → Bool
  | schemaMigrating | provisioning | dataMigrating => true
  | _ => false

end Phase

end Cutover
