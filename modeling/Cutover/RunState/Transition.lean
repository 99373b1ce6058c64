import Cutover.Mode
import Cutover.RunState

/-!
# Transitions

A status report moves the run on. What it does depends on the phase, on what the run migrates and on
how data moves. Reports that would move the run back, repeat what is known or do not concern the mode
change nothing.

* `RunState.launched`: the state a run starts in;
* `RunState.advance`: the state after a report that is no failure;
* `RunState.afterFailure`: the state after a reported failure.
-/

namespace Cutover

/-! ## Texts -/

namespace ProgressText

def schemaInProgress : String := "Schema migration in progress..."
def schemaCompleted : String := "Schema migration completed successfully!"
def schemaCancelled : String := "Schema migration cancelled!"
def dataInProgress : String := "Data migration in progress..."
def dataCompleted : String := "Data migration completed successfully!"
def dataCancelled : String := "Data migration cancelled!"
def foreignKeysInProgress : String := "Foreign key update in progress..."
def foreignKeysCompleted : String := "Foreign key update completed successfully!"
def foreignKeysCancelled : String := "Foreign key update cancelled!"
def provisioning : String := "Provisioning resources for the low-downtime migration..."
def completed : String := "Migration completed successfully!"
def started : String := "Migration started successfully"
def pollFailed : String := "Migration progress could not be updated, retrying"

end ProgressText

/-- The mode includes the schema; an unknown mode counts as if it did. -/
def includesSchema : Option Mode → Bool
  | some m => m.migratesSchema
  | none => true

/-- The mode includes the data; an unknown mode counts as if it did. -/
def includesData : Option Mode → Bool
  | some m => m.migratesData
  | none => true

namespace RunState

/-- The state a run starts in. -/
def launched (mode : Mode) : RunState :=
  if mode = .dataOnly then
    { phase := .dataMigrating
      inProgress := .bool true
      dataMessage := .text ProgressText.dataInProgress }
  else
    { phase := .schemaMigrating
      inProgress := .bool true
      schemaMessage := .text ProgressText.schemaInProgress }

/-- The state in another phase, if the run may go there. -/
def moveTo (s : RunState) (target : Phase) : Except Fault RunState :=
  if s.phase.mayBecome target then .ok { s with phase := target }
  else .error (.client (.badTransition s.phase target))

/-- The state while data is migrated. -/
def startData (s : RunState) : Except Fault RunState := do
  return { ← s.moveTo .dataMigrating with dataMessage := .text ProgressText.dataInProgress }

/-- The schema is done, if the mode includes it. -/
def finishSchema (s : RunState) (mode : Option Mode) : RunState :=
  if includesSchema mode then
    { s with schemaProgress := .whole 100, schemaMessage := .text ProgressText.schemaCompleted }
  else s

/-- The data is done. -/
def finishData (s : RunState) : RunState :=
  { s with dataProgress := .whole 100, dataMessage := .text ProgressText.dataCompleted }

/-- A text in place of what was there, if a condition holds. -/
def textIf (condition : Bool) (text : String) (before : Value) : Value :=
  if condition then .text text else before

/-- Everything is done that the mode includes. -/
def finishAll (s : RunState) (mode : Option Mode) : RunState :=
  { s with
    schemaProgress := .whole 100
    dataProgress := .whole 100
    foreignKeyProgress := .whole 100
    schemaMessage := textIf (includesSchema mode) ProgressText.schemaCompleted s.schemaMessage
    dataMessage := textIf (includesData mode) ProgressText.dataCompleted s.dataMessage
    foreignKeyMessage :=
      textIf (s.phase = .foreignKeys) ProgressText.foreignKeysCompleted s.foreignKeyMessage }

/-- The greater of two quantities, the first unless the second is more. -/
def raised (before now : Quantity) : Quantity := if before.isLess now then now else before

/-- The progress of the schema, if it is more than before. -/
def raiseSchema (s : RunState) (q : Quantity) : RunState :=
  { s with schemaProgress := raised s.schemaProgress q }

/-- The progress of the data, if it is more than before. -/
def raiseData (s : RunState) (q : Quantity) : RunState :=
  { s with dataProgress := raised s.dataProgress q }

/-- The progress of the foreign keys, if it is more than before. -/
def raiseForeignKeys (s : RunState) (q : Quantity) : RunState :=
  { s with foreignKeyProgress := raised s.foreignKeyProgress q }

/-- What a report did: the new state, whether resources are being provisioned now, and whether they
are to be fetched before the state is stored. -/
structure Advance where
  state : RunState
  provisions : Bool := false
  reconciles : Bool := false
  deriving DecidableEq, Repr

/-- The schema is reported complete. -/
def onSchemaComplete (s : RunState) (mode : Option Mode) (transfer : Option Transfer) :
    Except Fault Advance :=
  if s.phase ≠ .schemaMigrating then .ok ⟨s, false, false⟩
  else if mode = some .schemaOnly then do
    return ⟨← ((s.finishSchema mode).finishAll mode).moveTo .complete, false, false⟩
  else if transfer = some .lowDowntime then do
    return ⟨← (s.finishSchema mode).moveTo .provisioning, true, false⟩
  else do
    return ⟨← (s.finishSchema mode).startData, false, false⟩

/-- Data is reported being written. -/
def onDataProgress (s : RunState) (mode : Option Mode) (progress : Quantity) :
    Except Fault Advance := do
  let s ← if s.phase = .schemaMigrating ∨ s.phase = .provisioning then
      (s.finishSchema mode).startData
    else pure s
  return ⟨if s.phase = .dataMigrating then s.raiseData progress else s, false, false⟩

/-- The data is reported complete. -/
def onDataComplete (s : RunState) (mode : Option Mode) : Except Fault Advance :=
  if s.phase.beforeForeignKeys then do
    return ⟨← (s.finishSchema mode).finishData.moveTo .complete, false, false⟩
  else .ok ⟨s, false, false⟩

/-- Foreign keys are reported being applied. -/
def onForeignKeyProgress (s : RunState) (mode : Option Mode) (progress : Quantity) :
    Except Fault Advance :=
  if s.phase.beforeForeignKeys then do
    let s ← (s.finishSchema mode).finishData.moveTo .foreignKeys
    let s := { s with foreignKeyMessage := .text ProgressText.foreignKeysInProgress }
    return ⟨s.raiseForeignKeys progress, false, !s.isReconciled⟩
  else if s.phase = .foreignKeys then .ok ⟨s.raiseForeignKeys progress, false, false⟩
  else .ok ⟨s, false, false⟩

/-- The state after a report whose progress is held within 0 and 100. A run of the schema alone passes
over all that concerns data and foreign keys. -/
def advanceTo (s : RunState) (mode : Option Mode) (transfer : Option Transfer) (signal : Signal)
    (progress : Quantity) : Except Fault Advance :=
  match signal with
  | .schemaInProgress =>
    .ok ⟨if s.phase = .schemaMigrating then s.raiseSchema progress else s, false, false⟩
  | .schemaComplete => s.onSchemaComplete mode transfer
  | .quiet => .ok ⟨s, false, false⟩
  | signal =>
    if mode = some .schemaOnly then .ok ⟨s, false, false⟩
    else
      match signal with
      | .dataInProgress => s.onDataProgress mode progress
      | .dataComplete => s.onDataComplete mode
      | .foreignKeysInProgress => s.onForeignKeyProgress mode progress
      | .foreignKeysComplete => do return ⟨← (s.finishAll mode).moveTo .complete, false, false⟩
      | _ => .ok ⟨s, false, false⟩

/-- **The state after a report that is no failure.** Its progress has to be a number, whatever it
reports. -/
def advance (s : RunState) (mode : Option Mode) (transfer : Option Transfer) (report : Status) :
    Except Fault Advance :=
  match report.clamped? with
  | some progress => s.advanceTo mode transfer report.signal progress
  | none => .error .illTyped

/-- **The state after a reported failure.** What was not completed is cancelled. -/
def afterFailure (s : RunState) (mode : Option Mode) (errorText : Value) : RunState :=
  { s with
    schemaMessage :=
      textIf (includesSchema mode && s.schemaProgress.isBelow 100) ProgressText.schemaCancelled
        s.schemaMessage
    dataMessage :=
      textIf (includesData mode && s.dataProgress.isBelow 100) ProgressText.dataCancelled
        s.dataMessage
    foreignKeyMessage :=
      textIf (s.phase = .foreignKeys) ProgressText.foreignKeysCancelled s.foreignKeyMessage
    phase := .failed
    inProgress := .bool false
    errorText := errorText }

end RunState

end Cutover
