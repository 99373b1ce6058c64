import Cutover.Mode
import Cutover.RunState

/-!
# The stored record of a run

Everything needed to take up a run after a restart is a flat record of plain fields, each stored as
text under a name of its own.

* `Record.ofState`, `Record.toState`: the record of a state and the state of a record;
* `encodeValue`, `decodeField`: one field to text and back;
* `Record.encode`, `Record.decode`: the whole record to text and back.
-/

namespace Cutover

/-- The stored record of a run. What the client stores are words, texts, truth values and whole
numbers; a caller may give other values. -/
structure Record where
  mode : Value := .text ""
  transfer : Value := .text ""
  phase : Value := Vocabulary.toValue Phase.idle
  inProgress : Value := .bool false
  schemaStarted : Value := .bool false
  dataStarted : Value := .bool false
  dataCompleted : Value := .bool false
  foreignKeysStarted : Value := .bool false
  schemaProgress : Value := .whole 0
  dataProgress : Value := .whole 0
  foreignKeyProgress : Value := .whole 0
  schemaMessage : Value := .text ""
  dataMessage : Value := .text ""
  foreignKeyMessage : Value := .text ""
  errorText : Value := .text ""
  reconciled : Value := .bool false
  targetSet : Value := .bool false
  shardCount : Value := .whole 0
  instanceCount : Value := .whole 0
  deriving DecidableEq, Repr, Inhabited

/-- A stored record as text: the fields by name. -/
abbrev Table := List (String × String)

/-! ## Values as text -/

/-- A value as stored text. -/
def encodeValue : Value → String
  | .bool b => if b then "true" else "false"
  | v => v.asText

/-- A truth value read back from what was stored. -/
def decodeFlag (name : String) : Value → Except Fault Value
  | .text "true" => .ok (.bool true)
  | .text "false" => .ok (.bool false)
  | raw => Fault.refuse (.badFlag name raw)

/-- A whole number read back from what was stored: the number of a text, or a number without its
fraction. -/
def decodeWhole : Value → Except Fault Value
  | .text raw =>
    match readWhole raw with
    | .ok n => .ok (.whole n)
    | .error .malformed => Fault.refuse (.badWhole raw)
    | .error (.tooLong digits) => Fault.refuse (.tooLongWhole digits)
  | .whole n => .ok (.whole n)
  | .bool b => .ok (.whole (if b then 1 else 0))
  | .real .nan => Fault.refuse .notANumber
  | .real x =>
    match x.truncate? with
    | some n => .ok (.whole n)
    | none => .error .outOfRange
  | _ => .error .illTyped

namespace Record

/-! ## States and records -/

/-- What a record holds beside the state. -/
structure Context where
  mode : Option Mode := none
  transfer : Option Transfer := none
  targetSet : Value := .bool false
  shardCount : Value := .whole 0
  instanceCount : Value := .whole 0
  deriving DecidableEq, Repr, Inhabited

/-- The word of a member that may be missing. -/
def wordOrEmpty {α : Type} [Vocabulary α] (a : Option α) : Value :=
  match a with
  | some a => Vocabulary.toValue a
  | none => .text ""

/-- The quantity is more than zero. -/
def isPositive (q : Quantity) : Bool := (Quantity.whole 0).isLess q

/-- **The record of a state.** -/
def ofState (s : RunState) (c : Context) : Record where
  mode := wordOrEmpty c.mode
  transfer := wordOrEmpty c.transfer
  phase := Vocabulary.toValue s.phase
  inProgress := s.inProgress
  schemaStarted := .bool (s.phase ≠ .idle && c.mode ≠ some .dataOnly)
  dataStarted :=
    .bool (s.phase = .dataMigrating || s.phase = .foreignKeys || isPositive s.dataProgress)
  dataCompleted := .bool (s.dataProgress.same (.whole 100))
  foreignKeysStarted := .bool (s.phase = .foreignKeys || isPositive s.foreignKeyProgress)
  schemaProgress := s.schemaProgress.toValue
  dataProgress := s.dataProgress.toValue
  foreignKeyProgress := s.foreignKeyProgress.toValue
  schemaMessage := s.schemaMessage
  dataMessage := s.dataMessage
  foreignKeyMessage := s.foreignKeyMessage
  errorText := s.errorText
  reconciled := s.reconciled
  targetSet := c.targetSet
  shardCount := c.shardCount
  instanceCount := c.instanceCount

/-- **The state of a record**, if its phase is one and the state is sound. -/
def toState (r : Record) : Except Fault RunState := do
  let phase ← Vocabulary.read r.phase
  let s : RunState := {
    phase
    errorText := r.errorText
    inProgress := r.inProgress
    schemaMessage := r.schemaMessage
    dataMessage := r.dataMessage
    foreignKeyMessage := r.foreignKeyMessage
    reconciled := r.reconciled }
  s.withProgress r.schemaProgress r.dataProgress r.foreignKeyProgress

/-- The member of a vocabulary that a word stands for; an empty word stands for none. -/
def readWord? {α : Type} [Vocabulary α] (w : Value) : Except Fault (Option α) :=
  if w.isTruthy then some <$> Vocabulary.read w else .ok none

/-- The mode of a record, if it has one. -/
def readMode (r : Record) : Except Fault (Option Mode) := readWord? r.mode

/-- The transfer of a record, if it has one. -/
def readTransfer (r : Record) : Except Fault (Option Transfer) := readWord? r.transfer

/-- The run of a record is in progress. -/
def isRunning (r : Record) : Bool := r.inProgress.isTruthy

/-! ## Fields -/

/-- The fields of a record as values, in order. -/
def toMembers (r : Record) : Members :=
  [("migration_mode", r.mode), ("migration_type", r.transfer), ("current_phase", r.phase),
    ("is_in_progress", r.inProgress), ("has_schema_migration_started", r.schemaStarted),
    ("has_data_migration_started", r.dataStarted),
    ("has_data_migration_completed", r.dataCompleted),
    ("has_foreign_key_update_started", r.foreignKeysStarted),
    ("schema_progress", r.schemaProgress), ("data_progress", r.dataProgress),
    ("foreign_key_progress", r.foreignKeyProgress),
    ("schema_progress_message", r.schemaMessage), ("data_progress_message", r.dataMessage),
    ("foreign_key_progress_message", r.foreignKeyMessage), ("error_message", r.errorText),
    ("resources_reconciled", r.reconciled), ("is_target_detail_set", r.targetSet),
    ("number_of_shards", r.shardCount), ("number_of_instances", r.instanceCount)]

/-- The fields where nothing is stored. -/
def defaults : Members := toMembers {}

/-- The names of the fields. -/
def fieldNames : List String := defaults.names

/-- What is stored under a name read back as a value of the type of that field. -/
def decodeField (name : String) (raw : Value) : Except Fault Value :=
  match defaults.get? name with
  | none => .error (.unknownName (.text name))
  | some (.bool _) => decodeFlag name raw
  | some (.whole _) => decodeWhole raw
  | some _ => .ok raw

/-- What is stored under the name that a value is. -/
def decodeNamed (name raw : Value) : Except Fault Value :=
  match name with
  | .text name => decodeField name raw
  | v => if v.isKey then .error (.unknownName v) else .error .illTyped

/-- The fields of two records are equal. -/
def sameAs (r t : Record) : Bool :=
  (r.toMembers.zip t.toMembers).all fun (a, b) => a.2.same b.2

/-! ## The whole record as text -/

/-- The record as text, every field of it. -/
def encode (r : Record) : Table := r.toMembers.map fun (name, value) => (name, encodeValue value)

/-- A field read back from what is stored, or its default. -/
def fieldIn (stored : Members) (name : String) (decode : Value → Except Fault Value)
    (default : Value) : Except Fault Value :=
  match stored.get? name with
  | some raw => decode raw
  | none => .ok default

/-- A field of a truth value. -/
def flagIn (stored : Members) (name : String) : Except Fault Value :=
  fieldIn stored name (decodeFlag name) (.bool false)

/-- A field of a whole number. -/
def wholeIn (stored : Members) (name : String) : Except Fault Value :=
  fieldIn stored name decodeWhole (.whole 0)

/-- **The record that is stored under names.** Unknown names are passed over, and missing fields take
their defaults. -/
def ofStored (stored : Members) : Except Fault Record := do
  let inProgress ← flagIn stored "is_in_progress"
  let schemaStarted ← flagIn stored "has_schema_migration_started"
  let dataStarted ← flagIn stored "has_data_migration_started"
  let dataCompleted ← flagIn stored "has_data_migration_completed"
  let foreignKeysStarted ← flagIn stored "has_foreign_key_update_started"
  let schemaProgress ← wholeIn stored "schema_progress"
  let dataProgress ← wholeIn stored "data_progress"
  let foreignKeyProgress ← wholeIn stored "foreign_key_progress"
  let reconciled ← flagIn stored "resources_reconciled"
  let targetSet ← flagIn stored "is_target_detail_set"
  let shardCount ← wholeIn stored "number_of_shards"
  let instanceCount ← wholeIn stored "number_of_instances"
  return {
    mode := Form.textOr stored "migration_mode"
    transfer := Form.textOr stored "migration_type"
    phase := Form.textOr stored "current_phase" Phase.idle.word
    inProgress, schemaStarted, dataStarted, dataCompleted, foreignKeysStarted
    schemaProgress, dataProgress, foreignKeyProgress
    schemaMessage := Form.textOr stored "schema_progress_message"
    dataMessage := Form.textOr stored "data_progress_message"
    foreignKeyMessage := Form.textOr stored "foreign_key_progress_message"
    errorText := Form.textOr stored "error_message"
    reconciled, targetSet, shardCount, instanceCount }

/-- The texts of a table as values. -/
def storedIn (t : Table) : Members := t.map fun (name, raw) => (name, .text raw)

/-- **The record of a table.** -/
def decode (t : Table) : Except Fault Record := ofStored (storedIn t)

end Record

end Cutover
