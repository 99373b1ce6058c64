import Cutover.Record

/-!
# Stored records as forms

A record may be given as a form, whose values are taken as they are.

* `Record.ofForm`: the record given by a form;
* `Record.contextOfForm`: what a record holds beside the state, given by a form.
-/

namespace Cutover.Record

/-- The record given by a form. -/
def ofForm (form : Members) : Except Fault Record := do
  Form.only fieldNames form
  let usual : Record := {}
  return {
    mode := form.getD "migration_mode" usual.mode
    transfer := form.getD "migration_type" usual.transfer
    phase := form.getD "current_phase" usual.phase
    inProgress := form.getD "is_in_progress" usual.inProgress
    schemaStarted := form.getD "has_schema_migration_started" usual.schemaStarted
    dataStarted := form.getD "has_data_migration_started" usual.dataStarted
    dataCompleted := form.getD "has_data_migration_completed" usual.dataCompleted
    foreignKeysStarted := form.getD "has_foreign_key_update_started" usual.foreignKeysStarted
    schemaProgress := form.getD "schema_progress" usual.schemaProgress
    dataProgress := form.getD "data_progress" usual.dataProgress
    foreignKeyProgress := form.getD "foreign_key_progress" usual.foreignKeyProgress
    schemaMessage := form.getD "schema_progress_message" usual.schemaMessage
    dataMessage := form.getD "data_progress_message" usual.dataMessage
    foreignKeyMessage := form.getD "foreign_key_progress_message" usual.foreignKeyMessage
    errorText := form.getD "error_message" usual.errorText
    reconciled := form.getD "resources_reconciled" usual.reconciled
    targetSet := form.getD "is_target_detail_set" usual.targetSet
    shardCount := form.getD "number_of_shards" usual.shardCount
    instanceCount := form.getD "number_of_instances" usual.instanceCount }

/-- What a record holds beside the state, given by a form and a mode and transfer. -/
def contextOfForm (form : Members) (mode : Option Mode) (transfer : Option Transfer) :
    Except Fault Context := do
  Form.only ["is_target_detail_set", "number_of_shards", "number_of_instances"] form
  let usual : Context := {}
  return {
    mode, transfer
    targetSet := form.getD "is_target_detail_set" usual.targetSet
    shardCount := form.getD "number_of_shards" usual.shardCount
    instanceCount := form.getD "number_of_instances" usual.instanceCount }

end Cutover.Record
