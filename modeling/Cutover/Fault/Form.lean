import Cutover.Fault.Report
import Cutover.Form

/-!
# Faults as forms

A fault of a class may be given by values in order and by name.

* `FaultReport.ofForm`: the report of the fault of a class that some values give.
-/

namespace Cutover

/-- What a class of faults is given: values in order or by name, and values by name only. The names
that have to be given are told. -/
structure Signature where
  ordered : List String
  named : List String := []
  required : List String
  deriving Repr

namespace Signature

/-- The values by name: those in order come first; none may be given twice, be unknown or lack. -/
def bind (s : Signature) (values : List Value) (form : Members) : Except Fault Members := do
  let given : Members := s.ordered.zip values
  if s.ordered.length < values.length then throw .illTyped
  Form.only (s.ordered ++ s.named) form
  if form.any fun m => given.has m.1 then throw .illTyped
  let all : Members := given ++ form
  if s.required.all all.has then return all else throw .illTyped

end Signature

namespace FaultClass

/-- What a class of faults is given. -/
def signature : FaultClass → Signature
  | general | configuration => ⟨["message"], ["suggested_action"], ["message"]⟩
  | incomplete => ⟨["missing"], [], ["missing"]⟩
  | noShards => ⟨["message"], [], []⟩
  | badShards => ⟨["message"], ["shard_id"], ["message"]⟩
  | unsupported => ⟨["option", "offered"], [], ["option", "offered"]⟩
  | alreadyRunning => ⟨["current_phase"], [], ["current_phase"]⟩
  | badTransition => ⟨["current_phase", "target_phase"], [], ["current_phase", "target_phase"]⟩
  | service | rejected | unavailable | malformed | resourceFetch =>
    ⟨["message"], ["operation", "status_code"], ["message", "operation"]⟩
  | runFailed => ⟨["message"], ["phase"], ["message", "phase"]⟩

end FaultClass

namespace FaultReport

/-- The message of a form. -/
def messageOf (form : Members) (default : String := "") : Except Fault String :=
  Form.asText (Form.textOr form "message" default)

/-- The phase under a name of a form. -/
def phaseOf (form : Members) (name : String) : Except Fault Phase :=
  Vocabulary.read (form.getD name .null)

/-- The report of a fault of a call. -/
def ofCall (kind : FaultClass) (form : Members) : Except Fault FaultReport := do
  return {
    kind
    message := ← messageOf form
    details := [("operation", form.getD "operation" .null),
      ("status_code", form.getD "status_code" .null)] }

/-- **The report of the fault of a class that some values give**, in order and by name. -/
def ofForm (kind : FaultClass) (values : List Value) (form : Members) : Except Fault FaultReport := do
  let form ← kind.signature.bind values form
  match kind with
  | .general | .configuration =>
    return { kind, message := ← messageOf form, advice := form.getD "suggested_action" .null }
  | .incomplete =>
    let missing ← Form.asTexts (form.getD "missing" .null)
    return {
      kind
      message := ClientFault.incompleteMessage missing
      details := [("missing", .list (missing.map .text))] }
  | .noShards => return { kind, message := ← messageOf form ClientFault.noShardsMessage }
  | .badShards =>
    return {
      kind
      message := ← messageOf form
      details := [("shard_id", form.getD "shard_id" .null)] }
  | .unsupported =>
    let option := form.getD "option" .null
    let offered ← Form.asTexts (form.getD "offered" .null)
    return {
      kind
      message := ClientFault.unsupportedMessage option.asText offered
      details := [("option", option), ("offered", .list (offered.map .text))] }
  | .alreadyRunning => return (ClientFault.alreadyRunning (← phaseOf form "current_phase")).report
  | .badTransition =>
    return (ClientFault.badTransition (← phaseOf form "current_phase")
      (← phaseOf form "target_phase")).report
  | .service | .rejected | .unavailable | .malformed | .resourceFetch => ofCall kind form
  | .runFailed =>
    return {
      kind
      message := ← messageOf form
      details := [("phase", Vocabulary.toValue (← phaseOf form "phase"))] }

end FaultReport

end Cutover
