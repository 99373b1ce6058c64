import Cutover.Address.Fault
import Cutover.Fault.Class
import Cutover.Phase
import Cutover.Status
import Cutover.Value.Reader

/-!
# Faults

Everything that can go wrong, as causes. The wording of each cause is in one place.

* `ClientFault`: the faults the client reports by class, with `ClientFault.message`;
* `RunFailure`: the end of a run that the service reported as failed;
* `Refusal`: values that are refused, with `Refusal.message`;
* `Issue`: what does not fit in a document that was to be decoded, and where;
* `Fault`: all of them, and the few that have other origins.
-/

namespace Cutover

/-- A step on the way to a place in a document. -/
inductive Step where
  | member (name : String)
  | item (index : Nat)
  deriving DecidableEq, Repr

/-- Why a part of a document does not fit. -/
inductive IssueKind where
  | wholeExpected
  | wholeUnreadable
  | wholeTooLarge
  | wholeFromFraction
  | notFinite
  | textExpected
  | flagExpected
  | flagUnreadable
  | listExpected
  | mapExpected
  | recordExpected
  | realUnreadable
  deriving DecidableEq, Repr

/-- The code of a kind of issue. -/
def IssueKind.code : IssueKind → String
  | wholeExpected => "int_type"
  | wholeUnreadable => "int_parsing"
  | wholeTooLarge => "int_parsing_size"
  | wholeFromFraction => "int_from_float"
  | notFinite => "finite_number"
  | textExpected => "string_type"
  | flagExpected => "bool_type"
  | flagUnreadable => "bool_parsing"
  | listExpected => "list_type"
  | mapExpected => "dict_type"
  | recordExpected => "model_type"
  | realUnreadable => "float_parsing"

/-- A part of a document that does not fit, and where it stands. -/
structure Issue where
  place : List Step
  kind : IssueKind
  deriving DecidableEq, Repr

/-- One step in words. -/
def Step.text : Step → String
  | member name => name
  | item index => index.repr

/-- An issue in words. -/
def Issue.text (i : Issue) : String :=
  ".".intercalate (i.place.map Step.text) ++ ": " ++ i.kind.code

/-- Issues in words. -/
def issuesText (issues : List Issue) : String := "; ".intercalate (issues.map Issue.text)

/-- The classes of faults of a call to the service. -/
inductive CallFault where
  | service
  | rejected
  | unavailable
  | malformed
  | resourceFetch
  deriving DecidableEq, Repr

/-- The class of a fault of a call. -/
def CallFault.toClass : CallFault → FaultClass
  | service => .service
  | rejected => .rejected
  | unavailable => .unavailable
  | malformed => .malformed
  | resourceFetch => .resourceFetch

/-- A fault of a call to the service: what was attempted, how it was answered, and what did not fit
in an answer that could not be decoded. -/
structure ServiceFault where
  kind : CallFault
  message : String
  operation : String
  status : Option Int := none
  issues : List Issue := []
  deriving DecidableEq, Repr

/-- The end of a run that the service reported as failed, with what it reported. -/
structure RunFailure where
  message : Value
  phase : Phase
  deriving DecidableEq, Repr

/-- Why shard connections cannot be used. -/
inductive ShardFault where
  /-- A text holds no list of entries. -/
  | unreadable
  /-- A shard has no id. -/
  | missingId
  /-- Two shards have the same id. -/
  | repeatedId (id : Value)
  deriving DecidableEq, Repr

/-- The fault in words. -/
def ShardFault.message : ShardFault → String
  | unreadable => "Unable to parse JSON"
  | missingId => "Shard id is required for every shard"
  | repeatedId id => "Duplicate shard id: " ++ id.asText

/-- The id at fault; null when none is known. -/
def ShardFault.shard : ShardFault → Value
  | repeatedId id => id
  | _ => .null

/-- A fault that the client reports by class. -/
inductive ClientFault where
  | incomplete (missing : List String)
  | noShards
  | badShards (fault : ShardFault)
  | unsupported (option : String) (offered : List String)
  | alreadyRunning (phase : Phase)
  | badTransition (current target : Phase)
  | service (fault : ServiceFault)
  deriving DecidableEq, Repr

namespace ClientFault

/-- The class of a fault. -/
def toClass : ClientFault → FaultClass
  | incomplete .. => .incomplete
  | noShards => .noShards
  | badShards .. => .badShards
  | unsupported .. => .unsupported
  | alreadyRunning .. => .alreadyRunning
  | badTransition .. => .badTransition
  | service f => f.kind.toClass

/-- The wording where no shard was submitted. -/
def noShardsMessage : String := "No shard connections have been finalized"

/-- The wording where fragments are lacking. -/
def incompleteMessage (missing : List String) : String :=
  "Configuration incomplete, missing: " ++ ", ".intercalate missing

/-- The wording where an option is not offered. -/
def unsupportedMessage (option : String) (offered : List String) : String :=
  option ++ " is not supported for this source (offered: " ++ ", ".intercalate offered ++ ")"

/-- The wording where a run is in progress. -/
def alreadyRunningMessage (phase : Phase) : String :=
  "A migration is already in progress (phase: " ++ phase.word ++ ")"

/-- The wording where the run may not go from one phase to another. -/
def badTransitionMessage (current target : Phase) : String :=
  "Invalid phase transition: " ++ current.word ++ " -> " ++ target.word

/-- The fault in words. -/
def message : ClientFault → String
  | incomplete missing => incompleteMessage missing
  | noShards => noShardsMessage
  | badShards f => f.message
  | unsupported option offered => unsupportedMessage option offered
  | alreadyRunning phase => alreadyRunningMessage phase
  | badTransition current target => badTransitionMessage current target
  | service f => f.message

end ClientFault

/-- A value that is refused. -/
inductive Refusal where
  /-- The value is no word of a vocabulary. -/
  | notAWord (value : Value) (noun : String)
  /-- A percentage outside 0 and 100. -/
  | notAPercentage (field : String) (value : Quantity)
  /-- An error text on a run that has not failed and stopped. -/
  | strayErrorText
  /-- A number that has to be positive. -/
  | notPositive (field : String) (value : Quantity)
  /-- A number that has to be one at least. -/
  | belowOne (field : String) (value : Quantity)
  /-- The text of a whole number is not one. -/
  | badWhole (text : String)
  /-- The text of a whole number has too many digits. -/
  | tooLongWhole (digits : Nat)
  /-- The text of a truth value is not one. -/
  | badFlag (field : String) (raw : Value)
  /-- What is no number is taken for a whole one. -/
  | notANumber
  /-- A body holds a number that is not finite, which no document may hold. -/
  | notFinite

namespace Refusal

/-- A cut of quoted text: messages show at most 200 characters of an unreadable number. -/
def excerpt (text : String) : String := String.ofList ((quoted text).toList.take 200)

/-- The refusal in words. -/
def message : Refusal → String
  | notAWord value noun => value.shown ++ " is not a valid " ++ noun
  | notAPercentage field value => field ++ " must be between 0 and 100, got " ++ value.text
  | strayErrorText => "error_message is only allowed on a failed, stopped migration"
  | notPositive field value => field ++ " must be positive, got " ++ value.text
  | belowOne field value => field ++ " must be at least 1, got " ++ value.text
  | badWhole text => "invalid literal for int() with base 10: " ++ excerpt text
  | tooLongWhole digits => tooLongMessage digits
  | badFlag field raw => field ++ " must be 'true' or 'false', got " ++ raw.shown
  | notANumber => "cannot convert float NaN to integer"
  | notFinite => "Out of range float values are not JSON compliant"

end Refusal

/-- Everything that can go wrong. -/
inductive Fault where
  /-- A fault that the client reports by class. -/
  | client (fault : ClientFault)
  /-- A value is refused. -/
  | refused (refusal : Refusal)
  /-- A value has the wrong type, or a name is unknown or missing. -/
  | illTyped
  /-- A number is out of the range that can be handled. -/
  | outOfRange
  /-- A division by zero, of whole numbers or of others. -/
  | divisionByZero (whole : Bool)
  /-- A name that stands for nothing: no field of the record, no task, no listener. -/
  | unknownName (name : Value)
  /-- A document that does not fit. -/
  | undecodable (issues : List Issue)
  /-- A text that is no document. -/
  | unreadable (fault : DocumentFault) (document : String)
  /-- The storage fails. -/
  | storage (message : String)
  /-- Something outside breaks. -/
  | broken (message : String)
  /-- The connection refuses what it is given, by a fault with a name of its own. -/
  | connection (name message : String)
  /-- The address of the service cannot be used. -/
  | badAddress (fault : AddressFault)
  /-- What is asked of is no part of the session, or the value has no such part. -/
  | missingPart
  /-- There is no step of this name. -/
  | unknownStep (name : String)

namespace Fault

/-- A fault of a call to the service. -/
def service (f : ServiceFault) : Fault := client (.service f)

/-- A refused value. -/
def refuse {α : Type} (r : Refusal) : Except Fault α := .error (refused r)

end Fault

/-- The member of a vocabulary a loosely typed value stands for. -/
def Vocabulary.read {α : Type} [Vocabulary α] (v : Value) : Except Fault α :=
  match find? v with
  | some a => .ok a
  | none => Fault.refuse (.notAWord v (noun α))

/-- The signal a loosely typed value stands for. -/
def Signal.read (v : Value) : Except Fault Signal :=
  match find? v with
  | some s => .ok s
  | none => Fault.refuse (.notAWord v "ProgressStatus")

end Cutover
