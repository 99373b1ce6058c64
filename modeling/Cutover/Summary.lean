import Cutover.Form
import Cutover.Mode
import Cutover.Text.LowerCase

/-!
# The summary of source and destination

What is known of source and destination decides what can be offered.

* `Summary.supportsStreaming`: the data of the source can be streamed;
* `Summary.offeredModes`, `Summary.offeredTransfers`: what can be offered for the source.
-/

namespace Cutover

/-- What is known of source and destination. The service reports texts, whole numbers and a truth
value; a caller may give other values. -/
structure Summary where
  databaseType : Value := .text ""
  connectionType : Value := .text ""
  sourceDatabase : Value := .text ""
  sourceTables : Value := .whole 0
  targetTables : Value := .whole 0
  sourceIndexes : Value := .whole 0
  targetIndexes : Value := .whole 0
  isSharded : Value := .bool false
  region : Value := .text ""
  server : Value := .text ""
  dialect : Value := .text ""
  nodes : Value := .whole 0
  processingUnits : Value := .whole 0
  extra : Value := .object []
  deriving DecidableEq, Repr, Inhabited

namespace Summary

/-- The engines whose data can be streamed. -/
def streamingEngines : List String := ["mysql", "oracle", "postgres", "postgresql"]

/-- The connection type of a session file, which carries a schema only. -/
def sessionFile : String := "sessionFile"

/-- The source is a session file. -/
def isSessionFile (s : Summary) : Bool := s.connectionType = .text sessionFile

/-- The data of the source can be streamed. That can be told of an engine with a name only. -/
def supportsStreaming (s : Summary) : Except Fault Bool :=
  match s.databaseType with
  | .text name => .ok (streamingEngines.contains (lowered name))
  | _ => .error .missingPart

/-- The modes that can be offered: a session file cannot move data. -/
def offeredModes (s : Summary) : List Mode :=
  if s.isSessionFile then [.schemaOnly] else [.schemaOnly, .dataOnly, .schemaAndData]

/-- The transfers that can be offered. -/
def offeredTransfers (s : Summary) : Except Fault (List Transfer) := do
  if (← s.supportsStreaming) && !s.isSessionFile then return [.bulk, .lowDowntime] else return [.bulk]

/-- The values by name. -/
def fields (s : Summary) : Members :=
  [("database_type", s.databaseType), ("connection_type", s.connectionType),
    ("source_database_name", s.sourceDatabase), ("source_table_count", s.sourceTables),
    ("target_table_count", s.targetTables), ("source_index_count", s.sourceIndexes),
    ("target_index_count", s.targetIndexes), ("is_sharded", s.isSharded), ("region", s.region),
    ("instance", s.server), ("dialect", s.dialect), ("node_count", s.nodes),
    ("processing_units", s.processingUnits), ("extra", s.extra)]

/-- The summary a form gives. -/
def ofForm (form : Members) : Except Fault Summary := do
  let usual : Summary := {}
  Form.only usual.fields.names form
  return {
    databaseType := form.getD "database_type" usual.databaseType
    connectionType := form.getD "connection_type" usual.connectionType
    sourceDatabase := form.getD "source_database_name" usual.sourceDatabase
    sourceTables := form.getD "source_table_count" usual.sourceTables
    targetTables := form.getD "target_table_count" usual.targetTables
    sourceIndexes := form.getD "source_index_count" usual.sourceIndexes
    targetIndexes := form.getD "target_index_count" usual.targetIndexes
    isSharded := form.getD "is_sharded" usual.isSharded
    region := form.getD "region" usual.region
    server := form.getD "instance" usual.server
    dialect := form.getD "dialect" usual.dialect
    nodes := form.getD "node_count" usual.nodes
    processingUnits := form.getD "processing_units" usual.processingUnits
    extra := form.getD "extra" usual.extra }

/-- The summary as an object, with what follows from it. -/
def toMembers (s : Summary) : Except Fault Members := do
  return s.fields ++
    [("supports_streaming", .bool (← s.supportsStreaming)),
      ("modes", .list (s.offeredModes.map Vocabulary.toValue)),
      ("types", .list ((← s.offeredTransfers).map Vocabulary.toValue))]

end Summary

end Cutover
