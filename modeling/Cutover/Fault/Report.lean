import Cutover.Fault

/-!
# Reports of faults

A fault of a class is reported with its message, its advice and what else is known of it.

* `FaultReport.toMembers`: a report as an object;
* `ClientFault.report`: the report of a fault;
* `RunFailure.report`: the report of a failed run, whose message has to be a text.
-/

namespace Cutover

/-- The report of a fault. -/
structure FaultReport where
  kind : FaultClass
  message : String
  /-- The advice of the fault itself, if it has one. -/
  advice : Value := .null
  /-- What else is known of the fault, by name. -/
  details : Members := []
  /-- What did not fit in a document, if that is the cause. -/
  issues : List Issue := []

/-- A number that may be missing. -/
def wholeOrNull : Option Int → Value
  | some n => .whole n
  | none => .null

/-- The classification as an object. -/
def Classification.toMembers (c : Classification) : Members :=
  [("severity", Vocabulary.toValue c.severity), ("recoverability", Vocabulary.toValue c.recovery),
    ("error_code", .text c.code), ("category", .text c.category), ("suggested_action", .text c.advice)]

namespace FaultReport

/-- What to do about the fault: its own advice, or else that of its class. -/
def usedAdvice (r : FaultReport) : Value :=
  if r.advice.isTruthy then r.advice else .text r.kind.classification.advice

/-- **The report as an object.** Only faults of calls add what else is known of them. -/
def toMembers (r : FaultReport) : Members :=
  let c := r.kind.classification
  [("message", .text r.message), ("error_code", .text c.code), ("suggested_action", r.usedAdvice),
    ("classification", .object c.toMembers)] ++
    if r.kind.isOfCall then r.details else []

end FaultReport

/-- The details of a fault of a call. -/
def ServiceFault.details (f : ServiceFault) : Members :=
  [("operation", .text f.operation), ("status_code", wholeOrNull f.status)]

namespace ClientFault

/-- The details of a fault. -/
def details : ClientFault → Members
  | incomplete missing => [("missing", .list (missing.map .text))]
  | noShards => []
  | badShards f => [("shard_id", f.shard)]
  | unsupported option offered =>
    [("option", .text option), ("offered", .list (offered.map .text))]
  | alreadyRunning phase => [("current_phase", Vocabulary.toValue phase)]
  | badTransition current target =>
    [("current_phase", Vocabulary.toValue current), ("target_phase", Vocabulary.toValue target)]
  | service f => f.details

/-- What did not fit in a document, if that is the cause. -/
def issues : ClientFault → List Issue
  | service f => f.issues
  | _ => []

/-- **The report of a fault.** -/
def report (f : ClientFault) : FaultReport where
  kind := f.toClass
  message := f.message
  details := f.details
  issues := f.issues

end ClientFault

/-- **The report of a failed run**, if what the service reported is a text. -/
def RunFailure.report (f : RunFailure) : Except Fault FaultReport :=
  match f.message with
  | .text message =>
    .ok { kind := .runFailed, message, details := [("phase", Vocabulary.toValue f.phase)] }
  | _ => .error .illTyped

end Cutover
