import Cutover.Vocabulary

/-!
# Status reports of the service

The service reports what it is doing as a `Signal`, how far it is as a percentage, and what went
wrong as a text that is empty while nothing has.

* `Signal.ofCode?`: the signal of a number;
* `Status.isFailure`, `Status.clamped?`: a reported failure; the progress held within 0 and 100.
-/

namespace Cutover

/-- What the service is doing. -/
inductive Signal where
  | quiet
  | schemaComplete
  | schemaInProgress
  | dataComplete
  | dataInProgress
  | foreignKeysInProgress
  | foreignKeysComplete
  deriving DecidableEq, Repr, Inhabited

namespace Signal

/-- The number of a signal. -/
def code : Signal → Int
  | quiet => 0
  | schemaComplete => 1
  | schemaInProgress => 2
  | dataComplete => 3
  | dataInProgress => 4
  | foreignKeysInProgress => 5
  | foreignKeysComplete => 6

/-- The name of a signal in capitals. -/
def name : Signal → String
  | quiet => "DEFAULT"
  | schemaComplete => "SCHEMA_COMPLETE"
  | schemaInProgress => "SCHEMA_CREATION_IN_PROGRESS"
  | dataComplete => "DATA_COMPLETE"
  | dataInProgress => "DATA_WRITE_IN_PROGRESS"
  | foreignKeysInProgress => "FOREIGN_KEY_IN_PROGRESS"
  | foreignKeysComplete => "FOREIGN_KEY_COMPLETE"

/-- The signals in order. -/
def all : List Signal :=
  [quiet, schemaComplete, schemaInProgress, dataComplete, dataInProgress, foreignKeysInProgress,
    foreignKeysComplete]

/-- The signal of a number. -/
def ofCode? (n : Int) : Option Signal := all.find? fun s => s.code = n

@[simp] theorem ofCode?_code (s : Signal) : ofCode? s.code = some s := by cases s <;> rfl

/-- The signal a loosely typed value stands for: a number that equals the number of a signal. -/
def find? (v : Value) : Option Signal :=
  v.quantity?.bind fun q => all.find? fun s => q.same (.whole s.code)

end Signal

/-- One status report. What the service sends is a whole number and a text; a caller may give other
values. -/
structure Status where
  progress : Value := .whole 0
  signal : Signal := .quiet
  errorText : Value := .text ""
  deriving DecidableEq, Repr, Inhabited

/-- A quantity held within 0 and 100. What is no number counts as 100. -/
def Quantity.clamped (q : Quantity) : Quantity :=
  let upper := if q.isBelow 100 then q else .whole 100
  if (Quantity.whole 0).isLess upper then upper else .whole 0

@[simp] theorem Quantity.clamped_whole (n : Int) :
    (whole n).clamped = whole (max 0 (min 100 n)) := by
  by_cases h : n < 100 <;> by_cases g : 0 < n <;> simp [clamped, h, g] <;> omega

namespace Status

/-- The service reports a failure. -/
def isFailure (s : Status) : Bool := s.errorText.isTruthy

/-- The progress held within 0 and 100, if it is a number. -/
def clamped? (s : Status) : Option Quantity := s.progress.quantity?.map Quantity.clamped

end Status

end Cutover
