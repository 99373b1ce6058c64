import Cutover.Form

/-!
# The state of a run

* `RunState`: phase, progress and messages of the current run;
* `RunState.check`: the state itself, if it is sound;
* `RunState.withProgress`: a state with the progress that some values give, if it is sound;
* `RunState.ofForm`: the state a form gives;
* `RunState.sameAs`: two states are equal.
-/

namespace Cutover

/-- Phase, progress and messages of the current run. The run itself uses whole numbers, texts and
truth values; a caller may give other values. -/
structure RunState where
  phase : Phase := .idle
  schemaProgress : Quantity := .whole 0
  dataProgress : Quantity := .whole 0
  foreignKeyProgress : Quantity := .whole 0
  errorText : Value := .text ""
  inProgress : Value := .bool false
  schemaMessage : Value := .text ""
  dataMessage : Value := .text ""
  foreignKeyMessage : Value := .text ""
  reconciled : Value := .bool false
  deriving DecidableEq, Repr, Inhabited

/-- The quantity is a percentage. -/
def Quantity.isPercentage (q : Quantity) : Bool := !q.isBelow 0 && q.isAtMost 100

namespace RunState

/-- The service is working on the run. -/
def isRunning (s : RunState) : Bool := s.inProgress.isTruthy

/-- The resources of the run were fetched. -/
def isReconciled (s : RunState) : Bool := s.reconciled.isTruthy

/-- A percentage, or its refusal. -/
def percentage (field : String) (v : Value) : Except Fault Quantity := do
  let q ← Form.asQuantity v
  if q.isPercentage then return q else Fault.refuse (.notAPercentage field q)

/-- An error text stands only on a failed and stopped run. -/
def errorFits (s : RunState) : Bool :=
  !s.errorText.isTruthy || (s.phase = .failed && !s.isRunning)

/-- **A state with the progress that some values give**, if it is sound. The progress values are
checked in order, the error text last. -/
def withProgress (s : RunState) (schema data foreignKeys : Value) : Except Fault RunState := do
  let schemaProgress ← percentage "schema_progress" schema
  let dataProgress ← percentage "data_progress" data
  let foreignKeyProgress ← percentage "foreign_key_progress" foreignKeys
  if s.errorFits then return { s with schemaProgress, dataProgress, foreignKeyProgress }
  else Fault.refuse .strayErrorText

/-- **The state itself, if it is sound.** -/
def check (s : RunState) : Except Fault RunState :=
  s.withProgress s.schemaProgress.toValue s.dataProgress.toValue s.foreignKeyProgress.toValue

/-- The progress values are percentages, and an error text stands only on a failed and stopped
run. -/
structure Sound (s : RunState) : Prop where
  schema : s.schemaProgress.isPercentage
  data : s.dataProgress.isPercentage
  foreignKeys : s.foreignKeyProgress.isPercentage
  error : s.errorFits

theorem percentage_toValue {q : Quantity} (h : q.isPercentage) (field : String) :
    percentage field q.toValue = .ok q := by
  simp [percentage, Form.asQuantity, bind, Except.bind, h, pure, Except.pure]

theorem Sound.check_eq {s : RunState} (h : s.Sound) : s.check = .ok s := by
  obtain ⟨h1, h2, h3, h4⟩ := h
  simp [check, withProgress, percentage_toValue, *, bind, Except.bind, pure, Except.pure]

theorem sound_default : Sound {} := ⟨by decide, by decide, by decide, by decide⟩

/-! ## Values by name -/

/-- The state as an object. -/
def toMembers (s : RunState) : Members :=
  [("current_phase", Vocabulary.toValue s.phase), ("schema_progress", s.schemaProgress.toValue),
    ("data_progress", s.dataProgress.toValue),
    ("foreign_key_progress", s.foreignKeyProgress.toValue), ("error_message", s.errorText),
    ("is_in_progress", s.inProgress), ("schema_progress_message", s.schemaMessage),
    ("data_progress_message", s.dataMessage),
    ("foreign_key_progress_message", s.foreignKeyMessage), ("resources_reconciled", s.reconciled)]

/-- The names of the fields. -/
def fieldNames : List String := Members.names (toMembers {})

/-- **The state a form gives**: its phase is read first, then unknown names are refused, then the
values are checked. -/
def ofForm (form : Members) : Except Fault RunState := do
  let phase ← Vocabulary.read (Form.textOr form "current_phase" "idle")
  Form.only fieldNames form
  let number (name : String) : Value := form.getD name (.whole 0)
  let flag (name : String) : Value := form.getD name (.bool false)
  let s : RunState := {
    phase
    errorText := Form.textOr form "error_message"
    inProgress := flag "is_in_progress"
    schemaMessage := Form.textOr form "schema_progress_message"
    dataMessage := Form.textOr form "data_progress_message"
    foreignKeyMessage := Form.textOr form "foreign_key_progress_message"
    reconciled := flag "resources_reconciled" }
  s.withProgress (number "schema_progress") (number "data_progress") (number "foreign_key_progress")

/-- **Two states are equal**: every field is, the numbers and truth values as numbers. -/
def sameAs (s t : RunState) : Bool :=
  s.phase = t.phase && s.schemaProgress.same t.schemaProgress &&
    s.dataProgress.same t.dataProgress && s.foreignKeyProgress.same t.foreignKeyProgress &&
    s.errorText.alike t.errorText && s.inProgress.alike t.inProgress &&
    s.schemaMessage.alike t.schemaMessage && s.dataMessage.alike t.dataMessage &&
    s.foreignKeyMessage.alike t.foreignKeyMessage && s.reconciled.alike t.reconciled

end RunState

end Cutover
