import Cutover.Request
import Cutover.Summary
import Cutover.Trace

/-!
# Assembling a request

A request is assembled of the fragments that are set. Which ones are required depends on the
transfer and on whether the source is sharded.

* `requiredFragments`: the fragments a request needs;
* `missingFragments`: those of them that are lacking;
* `assemble`: the request, or the first thing that stands against it.
-/

namespace Cutover

/-- The fragments a request needs, in order. -/
def requiredFragments (transfer : Transfer) (isSharded : Bool) : List Fragment :=
  .target ::
    if transfer = .lowDowntime then
      [.streaming, .staging] ++ if isSharded then [] else [.sourceProfile, .targetProfile]
    else []

/-- The target details of a set suit the transfer. -/
def FragmentSet.targetUsable (s : FragmentSet) (transfer : Transfer) : Bool :=
  match s.target with
  | some t => t.isComplete transfer
  | none => false

/-- The fragments that are lacking, in order. Target details that do not suit the transfer come
first. -/
def missingFragments (s : FragmentSet) (transfer : Transfer) (isSharded : Bool) : List Fragment :=
  (if s.isSet .target && !s.targetUsable transfer then [Fragment.target] else []) ++
    (requiredFragments transfer isSharded).filter fun f => !s.isSet f

/-- The option is among those offered. -/
def requireOffered {α : Type} [Vocabulary α] [DecidableEq α] (option : α) (offered : List α) :
    Except Fault Unit :=
  if offered.contains option then .ok ()
  else .error (.client (.unsupported (Vocabulary.word option) (offered.map Vocabulary.word)))

/-- The source offers the mode and the transfer. Without a summary everything is offered. -/
def checkOffered (summary : Option Summary) (mode : Mode) (transfer : Transfer) :
    Except Fault Unit :=
  match summary with
  | none => .ok ()
  | some s => do
    requireOffered mode s.offeredModes
    requireOffered transfer (← s.offeredTransfers)

/-- What a request is assembled for. -/
structure Order where
  mode : Mode
  transfer : Transfer
  isSharded : Option Value := none
  skipForeignKeys : Value := .bool false
  deriving DecidableEq, Repr, Inhabited

/-- Whether the request is sharded: as ordered, else as the summary says. -/
def Order.sharded (o : Order) (summary : Option Summary) : Value :=
  match o.isSharded, summary with
  | some v, _ => v
  | none, some s => s.isSharded
  | none, none => .bool false

/-- A value, if its fragment is set. -/
def FragmentSet.ifSet {α : Type} (s : FragmentSet) (f : Fragment) (value : Option α) : Option α :=
  if s.isSet f then value else none

/-- The request that the fragments give for some target details. -/
def FragmentSet.request (s : FragmentSet) (o : Order) (isSharded : Value) (target : Target) :
    Request where
  target := target
  mode := o.mode
  transfer := o.transfer
  streaming := s.ifSet .streaming s.streaming
  staging := s.ifSet .staging s.staging
  compute := s.ifSet .compute s.compute
  metadataPath := s.ifSet .metadataPath s.metadataPath
  sourceProfile := if s.isSet .sourceProfile then s.sourceProfile else .text ""
  targetProfile := if s.isSet .targetProfile then s.targetProfile else .text ""
  isSharded := isSharded
  skipForeignKeys := o.skipForeignKeys
  shards := if isSharded.isTruthy then s.shards else []

/-- **The request for an order**, or the first thing that stands against it: a mode or transfer that
is not offered, fragments that are lacking, shards that cannot be submitted. -/
def assemble (summary : Option Summary) (s : FragmentSet) (o : Order) : Except Fault Request := do
  let isSharded := o.sharded summary
  checkOffered summary o.mode o.transfer
  let missing := missingFragments s o.transfer isSharded.isTruthy
  if !missing.isEmpty then .error (.client (.incomplete (missing.map Fragment.word)))
  if isSharded.isTruthy then validateShards s.shards
  return s.request o isSharded (s.target.getD {})

section
variable {summary : Option Summary} {s : FragmentSet} {o : Order}

theorem assemble_of_unoffered {f : Fault} (h : checkOffered summary o.mode o.transfer = .error f) (s : FragmentSet) :
    assemble summary s o = .error f := by
  unfold assemble
  simp only [h, bind, Except.bind]

theorem assemble_of_missing (hoffered : checkOffered summary o.mode o.transfer = .ok ()) {missing : List Fragment}
    (h : missingFragments s o.transfer (o.sharded summary).isTruthy = missing) (hsome : missing ≠ []) :
    assemble summary s o = .error (.client (.incomplete (missing.map Fragment.word))) := by
  unfold assemble
  simp only [hoffered, h, bind, Except.bind]
  cases missing with
  | nil => exact absurd rfl hsome
  | cons f rest => rfl

/-- What is assembled for options that are offered from all that is needed hangs on the shards alone. -/
theorem assemble_of_accepted (hoffered : checkOffered summary o.mode o.transfer = .ok ())
    (h : missingFragments s o.transfer (o.sharded summary).isTruthy = []) :
    assemble summary s o = (if (o.sharded summary).isTruthy then validateShards s.shards else .ok ()).map
      fun _ => s.request o (o.sharded summary) (s.target.getD {}) := by
  unfold assemble
  simp only [hoffered, h, bind, Except.bind]
  cases (o.sharded summary).isTruthy with
  | false => rfl
  | true => cases validateShards s.shards <;> rfl

end

/-- The span around assembling a request. -/
def assemblySpan (summary : Option Summary) (o : Order) : Span where
  name := "migrateflow.assembler.assemble"
  attributes := [(Attribute.mode, Vocabulary.toValue o.mode),
    (Attribute.transfer, Vocabulary.toValue o.transfer),
    (Attribute.sharded, o.sharded summary)]

namespace Request

/-- The fragments a request leaves to their defaults, by the names of its fields. -/
def unset (r : Request) : List String :=
  (if r.compute.isNone then ["compute"] else []) ++
    (if r.metadataPath.isNone then ["metadata_path"] else []) ++
    (if r.staging.isNone then ["staging"] else []) ++
    (if r.streaming.isNone then ["streaming"] else [])

end Request

end Cutover
