import Cutover.Vocabulary

/-!
# What a run migrates and how

* `Mode`: the schema, the data or both;
* `Transfer`: whether data moves in one bulk copy or is streamed for low downtime.
-/

namespace Cutover

/-- What a run migrates. -/
inductive Mode where
  | schemaOnly
  | dataOnly
  | schemaAndData
  deriving DecidableEq, Repr, Inhabited

namespace Mode

instance : Vocabulary Mode where
  noun := "MigrationMode"
  all := [schemaOnly, dataOnly, schemaAndData]
  word
    | schemaOnly => "Schema"
    | dataOnly => "Data"
    | schemaAndData => "Schema And Data"
  name
    | schemaOnly => "SCHEMA_ONLY"
    | dataOnly => "DATA_ONLY"
    | schemaAndData => "SCHEMA_AND_DATA"

/-- The word of a mode. -/
def word (m : Mode) : String := Vocabulary.word m

/-- The mode includes the data. -/
def migratesData : Mode → Bool
  | schemaOnly => false
  | _ => true

/-- The mode includes the schema. -/
def migratesSchema : Mode → Bool
  | dataOnly => false
  | _ => true

end Mode

/-- How data moves. -/
inductive Transfer where
  | bulk
  | lowDowntime
  deriving DecidableEq, Repr, Inhabited

namespace Transfer

instance : Vocabulary Transfer where
  noun := "MigrationType"
  all := [bulk, lowDowntime]
  word
    | bulk => "bulk"
    | lowDowntime => "lowdt"
  name
    | bulk => "BULK"
    | lowDowntime => "LOW_DOWNTIME"

/-- The word of a transfer. -/
def word (t : Transfer) : String := Vocabulary.word t

end Transfer

end Cutover
